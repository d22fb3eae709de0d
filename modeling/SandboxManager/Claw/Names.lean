import Mathlib.Data.List.DropRight
import SandboxManager.Claw.Environment

/-! The names of variables and what a policy says of them.

A name is compared in one form, trimmed and in capitals (`upperName`); bringing it there
twice changes nothing, so it does not matter which stage does it. The tests of a policy
are then conditions on that form, and the lists of a parsed policy hold the same forms of
what the template lists. -/
namespace SandboxManager.Claw
open Library

/-- The form in which names are compared. -/
def upperName (key : Bytes) : Bytes := toUpperAscii (trimEnvKey key)

/-! ### Trimming and capitals -/

theorem toupper_toupper (c : UInt8) : toupper (toupper c) = toupper c := by
  by_cases h : 97 ≤ c ∧ c ≤ 122
  · have h' : ¬ (97 ≤ c - 32 ∧ c - 32 ≤ 122) := by
      simp only [UInt8.le_iff_toNat_le, UInt8.toNat_sub, UInt8.reduceToNat] at h ⊢
      omega
    simp only [toupper, if_pos h, if_neg h']
  · simp only [toupper, if_neg h]

/-- No letter is a blank, in capitals or not. -/
theorem isspace_toupper (c : UInt8) : isspace (toupper c) = isspace c := by
  by_cases h : 97 ≤ c ∧ c ≤ 122
  · have hupper : toupper c = c - 32 := if_pos h
    have hlower : isspace c = false := by
      simp only [isspace, UInt8.le_iff_toNat_le, ← UInt8.toNat_inj, UInt8.reduceToNat,
        Bool.or_eq_false_iff, beq_eq_false_iff_ne, ne_eq, Bool.and_eq_false_iff,
        decide_eq_false_iff_not] at h ⊢
      omega
    rw [hupper, hlower]
    simp only [isspace, UInt8.le_iff_toNat_le, ← UInt8.toNat_inj, UInt8.toNat_sub,
      UInt8.reduceToNat, Bool.or_eq_false_iff, beq_eq_false_iff_ne, ne_eq, Bool.and_eq_false_iff,
      decide_eq_false_iff_not] at h ⊢
    omega
  · rw [toupper, if_neg h]

theorem dropWhile_isspace_toUpperAscii (value : Bytes) :
    (toUpperAscii value).dropWhile isspace = toUpperAscii (value.dropWhile isspace) := by
  induction value with
  | nil => rfl
  | cons c rest ih =>
    show ((toupper c) :: toUpperAscii rest).dropWhile isspace = _
    rw [List.dropWhile_cons, List.dropWhile_cons, isspace_toupper]
    by_cases h : isspace c = true
    · rw [if_pos h, if_pos h, ih]
    · rw [if_neg h, if_neg h]
      rfl

theorem trimEnvKey_toUpperAscii (value : Bytes) :
    trimEnvKey (toUpperAscii value) = toUpperAscii (trimEnvKey value) := by
  have hreverse : ∀ l : Bytes, (toUpperAscii l).reverse = toUpperAscii l.reverse := fun l =>
    (List.map_reverse).symm
  rw [trimEnvKey, dropWhile_isspace_toUpperAscii, hreverse, dropWhile_isspace_toUpperAscii,
    hreverse]
  rfl

theorem toUpperAscii_toUpperAscii (value : Bytes) :
    toUpperAscii (toUpperAscii value) = toUpperAscii value := by
  simp [toUpperAscii, toupper_toupper]

/-- What begins with no blank still begins with none when its end is cut. -/
theorem dropWhile_of_prefix {α : Type} {p : α → Bool} {l l' : List α} (h : l' <+: l)
    (hl : l.dropWhile p = l) : l'.dropWhile p = l' := by
  obtain ⟨rest, rfl⟩ := h
  cases l' with
  | nil => rfl
  | cons a l' =>
    by_cases ha : p a = true
    · have hlength := congrArg List.length hl
      rw [List.cons_append, List.dropWhile_cons, if_pos ha] at hlength
      have hle := (List.dropWhile_sublist p (l := l' ++ rest)).length_le
      rw [List.length_cons] at hlength
      omega
    · rw [List.dropWhile_cons, if_neg ha]

theorem trimEnvKey_trimEnvKey (key : Bytes) : trimEnvKey (trimEnvKey key) = trimEnvKey key := by
  have hfront : (trimEnvKey key).dropWhile isspace = trimEnvKey key := by
    refine dropWhile_of_prefix ?_ (List.dropWhile_idempotent isspace key)
    rw [trimEnvKey, ← List.reverse_suffix, List.reverse_reverse]
    exact List.dropWhile_suffix isspace
  have hback : (trimEnvKey key).reverse.dropWhile isspace = (trimEnvKey key).reverse := by
    rw [trimEnvKey, List.reverse_reverse]
    exact List.dropWhile_idempotent isspace _
  rw [trimEnvKey, hfront, hback, List.reverse_reverse]

@[simp] theorem upperName_trimEnvKey (key : Bytes) : upperName (trimEnvKey key) = upperName key := by
  rw [upperName, trimEnvKey_trimEnvKey, upperName]

@[simp] theorem upperName_toUpperAscii (key : Bytes) :
    upperName (toUpperAscii key) = upperName key := by
  rw [upperName, trimEnvKey_toUpperAscii, toUpperAscii_toUpperAscii, upperName]

@[simp] theorem upperName_upperName (key : Bytes) : upperName (upperName key) = upperName key := by
  show upperName (toUpperAscii (trimEnvKey key)) = upperName key
  rw [upperName_toUpperAscii, upperName_trimEnvKey]

/-- A trimmed name in capitals is in the form already. -/
theorem toUpperAscii_trimmed {key : Bytes} (h : trimEnvKey key = key) :
    toUpperAscii key = upperName key := by
  rw [upperName, h]

theorem toUpperAscii_eq_nil {value : Bytes} : toUpperAscii value = [] ↔ value = [] :=
  List.map_eq_nil_iff

theorem mem_of_mem_trimEnvKey {key : Bytes} {c : UInt8} (h : c ∈ trimEnvKey key) : c ∈ key := by
  rw [trimEnvKey, List.mem_reverse] at h
  have h' := (List.dropWhile_sublist isspace).subset h
  rw [List.mem_reverse] at h'
  exact (List.dropWhile_sublist isspace).subset h'

/-! ### What a policy says -/

theorem containsEnvKey_iff {keys : List Bytes} {upperKey : Bytes} :
    containsEnvKey keys upperKey = true ↔ upperKey ∈ keys := by
  simp [containsEnvKey]

theorem hasEnvPrefix_iff {prefixes : List Bytes} {upperKey : Bytes} :
    hasEnvPrefix prefixes upperKey = true ↔ ∃ p ∈ prefixes, p <+: upperKey := by
  simp only [hasEnvPrefix, List.any_eq_true, beq_iff_eq, List.prefix_iff_eq_take]
  exact exists_congr fun p => and_congr_right fun _ => eq_comm

/-- The keys and prefixes that block a name. -/
def Blocks (keys prefixes : List Bytes) (name : Bytes) : Prop :=
  upperName name ∈ keys ∨ ∃ p ∈ prefixes, p <+: upperName name

namespace EnvPolicy
variable {policy : EnvPolicy} {key : Bytes}

theorem isDangerousHostEnvVarName_iff :
    policy.isDangerousHostEnvVarName key = true ↔ upperName key ≠ [] ∧
      Blocks policy.blockedEverywhereKeys policy.blockedPrefixes key := by
  show (if upperName key = [] then false
    else if containsEnvKey policy.blockedEverywhereKeys (upperName key) = true then true
    else hasEnvPrefix policy.blockedPrefixes (upperName key)) = true ↔ _
  rw [Blocks, ← containsEnvKey_iff, ← hasEnvPrefix_iff]
  split <;> simp_all

theorem isDangerousHostEnvOverrideVarName_iff :
    policy.isDangerousHostEnvOverrideVarName key = true ↔ upperName key ≠ [] ∧
      Blocks policy.blockedOverrideOnlyKeys policy.blockedOverridePrefixes key := by
  show (if upperName key = [] then false
    else if containsEnvKey policy.blockedOverrideOnlyKeys (upperName key) = true then true
    else hasEnvPrefix policy.blockedOverridePrefixes (upperName key)) = true ↔ _
  rw [Blocks, ← containsEnvKey_iff, ← hasEnvPrefix_iff]
  split <;> simp_all

/-- The name is tested again, in the form it has been brought to. -/
theorem isDangerousHostEnvVarName_upperName :
    policy.isDangerousHostEnvVarName (upperName key) = policy.isDangerousHostEnvVarName key := by
  rw [Bool.eq_iff_iff, isDangerousHostEnvVarName_iff, isDangerousHostEnvVarName_iff, Blocks,
    upperName_upperName, Blocks]

theorem isDangerousHostEnvOverrideVarName_upperName :
    policy.isDangerousHostEnvOverrideVarName (upperName key) =
      policy.isDangerousHostEnvOverrideVarName key := by
  rw [Bool.eq_iff_iff, isDangerousHostEnvOverrideVarName_iff,
    isDangerousHostEnvOverrideVarName_iff, Blocks, upperName_upperName, Blocks]

theorem isDangerousHostInheritedEnvVarName_iff :
    policy.isDangerousHostInheritedEnvVarName key = true ↔ upperName key ≠ [] ∧
      (Blocks policy.blockedEverywhereKeys policy.blockedPrefixes key ∨
        upperName key ∉ policy.allowedInheritedOverrideOnlyKeys ∧
          upperName key ∈ policy.blockedOverrideOnlyKeys) := by
  show (if upperName key = [] then false
    else if policy.isDangerousHostEnvVarName (upperName key) = true then true
    else if containsEnvKey policy.allowedInheritedOverrideOnlyKeys (upperName key) = true then false
    else containsEnvKey policy.blockedOverrideOnlyKeys (upperName key)) = true ↔ _
  rw [isDangerousHostEnvVarName_upperName]
  have hdanger : policy.isDangerousHostEnvVarName key = true ↔ upperName key ≠ [] ∧
      Blocks policy.blockedEverywhereKeys policy.blockedPrefixes key :=
    isDangerousHostEnvVarName_iff
  by_cases hnil : upperName key = []
  · simp [hnil]
  · by_cases hblocks : Blocks policy.blockedEverywhereKeys policy.blockedPrefixes key
    · simp [hnil, hblocks, hdanger]
    · simp [hnil, hblocks, hdanger, ← containsEnvKey_iff]

end EnvPolicy

/-! ### A parsed policy -/

/-- The template lists a name, in whatever spelling, under a field of its section. -/
def TemplateLists (root : Json) (fieldName name : Bytes) : Prop :=
  ∃ envPolicy items valuestring, root.getObjectItem (bytes "env-policy") = some envPolicy ∧
    envPolicy.getObjectItem fieldName = some (.array items) ∧
    Json.string valuestring ∈ items ∧ upperName (cStr valuestring) = name

theorem mem_parseEnvPolicyItems {fieldName name : Bytes} {items : List Json} {i : Nat}
    {values values' : List Bytes}
    (h : parseEnvPolicyItems fieldName i items values = .ok values') :
    name ∈ values' ↔ name ∈ values ∨ name ≠ [] ∧
      ∃ valuestring, Json.string valuestring ∈ items ∧ upperName (cStr valuestring) = name := by
  induction items generalizing i values with
  | nil =>
    cases h
    simp
  | cons item items ih =>
    cases item with
    | string valuestring =>
      rw [ih h]
      have hhead : name ∈ (if upperName (cStr valuestring) = [] then values
            else values ++ [upperName (cStr valuestring)]) ↔
          name ∈ values ∨ name ≠ [] ∧ upperName (cStr valuestring) = name := by
        by_cases hnil : upperName (cStr valuestring) = []
        · rw [if_pos hnil]
          grind
        · rw [if_neg hnil]
          grind
      show name ∈ (if upperName (cStr valuestring) = [] then values
            else values ++ [upperName (cStr valuestring)]) ∨ _ ↔ _
      rw [hhead]
      simp only [List.mem_cons, Json.string.injEq]
      grind
    | _ => cases h

theorem mem_parseEnvPolicyStringArray {envPolicy : Json} {fieldName name : Bytes}
    {values : List Bytes} (h : parseEnvPolicyStringArray envPolicy fieldName = .ok values) :
    name ∈ values ↔ name ≠ [] ∧ ∃ items valuestring,
      envPolicy.getObjectItem fieldName = some (.array items) ∧
      Json.string valuestring ∈ items ∧ upperName (cStr valuestring) = name := by
  unfold parseEnvPolicyStringArray at h
  cases hitem : envPolicy.getObjectItem fieldName with
  | none =>
    rw [hitem] at h
    cases h
    simp
  | some item =>
    rw [hitem] at h
    cases item with
    | array items =>
      rw [mem_parseEnvPolicyItems h]
      simp
    | _ => cases h

/-- The lists of a policy are those of the template. -/
structure Parsed (root : Json) (policy : EnvPolicy) : Prop where
  everywhere : ∀ name, name ∈ policy.blockedEverywhereKeys ↔
    name ≠ [] ∧ TemplateLists root (bytes "blocked-everywhere-keys") name
  overrideOnly : ∀ name, name ∈ policy.blockedOverrideOnlyKeys ↔
    name ≠ [] ∧ TemplateLists root (bytes "blocked-override-only-keys") name
  allowed : ∀ name, name ∈ policy.allowedInheritedOverrideOnlyKeys ↔
    name ≠ [] ∧ TemplateLists root (bytes "allowed-inherited-override-only-keys") name
  prefixes : ∀ name, name ∈ policy.blockedPrefixes ↔
    name ≠ [] ∧ TemplateLists root (bytes "blocked-prefixes") name
  overridePrefixes : ∀ name, name ∈ policy.blockedOverridePrefixes ↔
    name ≠ [] ∧ TemplateLists root (bytes "blocked-override-prefixes") name

theorem parsed_parseEnvPolicyJson {root : Json} {policy : EnvPolicy}
    (h : parseEnvPolicyJson root {} = .ok policy) : Parsed root policy := by
  unfold parseEnvPolicyJson at h
  split at h
  · cases h
  · cases hsection : root.getObjectItem (bytes "env-policy") with
    | none =>
      rw [hsection] at h
      cases h
      constructor <;> simp [TemplateLists, hsection]
    | some envPolicy =>
      have hlisted : ∀ fieldName values,
          parseEnvPolicyStringArray envPolicy fieldName = .ok values →
          ∀ name, name ∈ values ↔ name ≠ [] ∧ TemplateLists root fieldName name := by
        intro fieldName values hvalues name
        rw [mem_parseEnvPolicyStringArray hvalues]
        simp only [TemplateLists, hsection, Option.some.injEq, exists_and_left, exists_eq_left']
      rw [hsection] at h
      dsimp only at h
      split at h
      · cases h
      · simp only [bind, Except.bind] at h
        split at h
        · cases h
        next everywhere heverywhere =>
        split at h
        · cases h
        next overrideOnly hoverrideOnly =>
        split at h
        · cases h
        next allowed hallowed =>
        split at h
        · cases h
        next prefixes hprefixes =>
        split at h
        · cases h
        next overridePrefixes hoverridePrefixes =>
        cases h
        exact
          { everywhere := hlisted _ _ heverywhere
            overrideOnly := hlisted _ _ hoverrideOnly
            allowed := hlisted _ _ hallowed
            prefixes := hlisted _ _ hprefixes
            overridePrefixes := hlisted _ _ hoverridePrefixes }

end SandboxManager.Claw
