import SandboxManager.Policy.UserOutcomes
import SandboxManager.Share.ComposedPaths

/-! Where the paths lie that a user may grant.

`FilterValidPolicy` lets a policy through when its path is, one slash at the end apart, an allowed
directory or a plain path below one. Granting and revoking only touch the table and the kernel's
rules at such paths (`userGrant_confined`). -/
namespace SandboxManager.Policy
open Library Trie Share

/-- A plain path strictly below a directory. -/
def StrictlyBelow (directory path : Bytes) : Prop :=
  ∃ names, names ≠ [] ∧ (∀ w ∈ names, PlainName w) ∧ path = directory ++ absolute slash names

structure UserPath (path : Bytes) : Prop where
  plain : PlainPath path
  noNul : 0 ∉ path
  noTrailingSlash : path.getLast? ≠ some slash
  allowed : ∃ directory ∈ ALLOWED_PREFIXES, path = directory ∨ StrictlyBelow directory path

/-- Nothing else in the table or among the rules is changed. -/
structure TouchesUserPaths (t : UgcTable) (rules : List MacRule) (o : UgcState) : Prop where
  rows : ∀ row : UgcRow, ¬ UserPath row.key.path → (row ∈ o.table ↔ row ∈ t)
  rules : ∀ rule : MacRule, ¬ UserPath rule.path → (rule ∈ o.rules ↔ rule ∈ rules)

/-! ### The filter -/

section
variable {path : Bytes}

/-- A path that normalizing leaves alone is plain. -/
theorem plainPath_of_normalizePath (hroot : path ≠ [slash]) (hne : path ≠ [])
    (h : normalizePath path = path) : PlainPath path := by
  have hseg : ∀ w ∈ (segments slash path).foldl normalStep [], IsSegment slash w :=
    fun w => isSegment_of_mem_normal
  have hkeeps : (absolute slash ((segments slash path).foldl normalStep [])).rdropWhile (· = slash) =
      absolute slash ((segments slash path).foldl normalStep []) := by
    rw [List.rdropWhile_eq_self_iff]
    intro hl hlast
    exact getLast?_absolute_ne slash hseg
      ((List.getLast?_eq_some_getLast hl).trans (congrArg some (of_decide_eq_true hlast)))
  -- what is left is the names written back, or the first byte of them
  have hstripped : ∀ rest, (rest = [] ∨ rest = [slash]) →
      lexicallyNormal path = absolute slash ((segments slash path).foldl normalStep []) ++ rest →
      path = absolute slash ((segments slash path).foldl normalStep []) := by
    intro rest hrest hnormal
    have hdrop : (lexicallyNormal path).rdropWhile (· = slash) =
        absolute slash ((segments slash path).foldl normalStep []) := by
      rw [hnormal]
      rcases hrest with rfl | rfl
      · rw [List.append_nil, hkeeps]
      · rw [List.rdropWhile_concat_pos _ _ _ (by simp), hkeeps]
    rw [normalizePath, hdrop] at h
    split at h
    case isFalse => exact h.symm
    case isTrue hnil =>
      rw [hnormal, hnil] at h
      rcases hrest with rfl | rfl
      · exact absurd h.symm hne
      · exact absurd h.symm hroot
  apply plainPath_of_eq_normal hne
  rcases lexicallyNormal_cases path with hcase | hcase | hcase
  · rw [normalizePath, hcase] at h
    exact absurd h.symm hroot
  · exact hstripped [slash] (Or.inr rfl) hcase
  · exact hstripped [] (Or.inl rfl) (hcase.trans (List.append_nil _).symm)

theorem validateGenericPath_plain (hroot : path ≠ [slash])
    (h : validateGenericPath path = .OPERATE_SUCCESSFULLY) : PlainPath path ∧ 0 ∉ path := by
  unfold validateGenericPath at h
  split at h
  · exact absurd h (by decide)
  case isFalse hnul =>
    split at h
    · exact absurd h (by decide)
    case isFalse hnormal =>
      split at h
      · exact absurd h (by decide)
      case isFalse hlength =>
        have hne : path ≠ [] := fun h0 => hlength (Or.inl h0)
        exact ⟨plainPath_of_normalizePath hroot hne (not_not.mp hnormal), hnul⟩

/-- What stands below an allowed directory in a plain path are plain names. -/
theorem strictlyBelow_of_prefixed {directory : Bytes} (h : PlainPath path)
    (hpfx : directory ++ [slash] <+: path) : StrictlyBelow directory path := by
  obtain ⟨rest, rfl⟩ := hpfx
  have hsplit : directory ++ [slash] ++ rest = directory ++ slash :: rest := by simp
  rw [hsplit] at h ⊢
  refine ⟨components (slash :: rest), components_ne_nil rfl, fun w hw => h.plain w ?_, ?_⟩
  · rw [components_append (Or.inr rfl)]
    exact List.mem_append_right _ hw
  · rw [components, absolute_pieces slash rfl]

theorem userPath_of_filterResult {policy : PolicyInfo}
    (h : filterResult policy = .OPERATE_SUCCESSFULLY) : UserPath (adjustPath policy.path) := by
  simp only [filterResult] at h
  split at h
  · exact absurd h (by decide)
  case isFalse hallowed =>
    rw [Bool.not_eq_true, Bool.not_eq_false', isAllowedPath, List.any_eq_true] at hallowed
    obtain ⟨directory, hdirectory, hcovers⟩ := hallowed
    rw [Bool.or_eq_true, decide_eq_true_eq, List.isPrefixOf_iff_prefix] at hcovers
    have hroot : adjustPath policy.path ≠ [slash] := by
      intro hroot
      rw [hroot] at hcovers
      have hlong : ∀ d ∈ ALLOWED_PREFIXES, [slash] ≠ d ∧ ¬ d ++ [slash] <+: [slash] := by decide
      exact hcovers.elim (hlong directory hdirectory).1 (hlong directory hdirectory).2
    split at h
    case isTrue hinvalid => exact absurd h hinvalid
    case isFalse hvalid =>
      have hplain := validateGenericPath_plain hroot (not_not.mp hvalid)
      exact ⟨hplain.1, hplain.2, hplain.1.getLast?_ne, directory, hdirectory,
        hcovers.imp_right (strictlyBelow_of_prefixed hplain.1)⟩

theorem userPath_of_mem_valid {policies : List PolicyInfo} {policy : PolicyInfo}
    (h : policy ∈ (filterValidPolicy policies).2) : UserPath policy.path := by
  obtain ⟨origin, horigin, rfl⟩ := List.mem_map.mp h
  exact userPath_of_filterResult (of_decide_eq_true (List.mem_filter.mp horigin).2)

/-- Order, mode and type survive, and a policy that does not has a result other than success. -/
theorem filterValidPolicy_survivors (policies : List PolicyInfo) :
    (filterValidPolicy policies).2 =
      ((policies.zip (filterValidPolicy policies).1).filter fun entry =>
        entry.2 = .OPERATE_SUCCESSFULLY).map fun entry =>
          { entry.1 with path := adjustPath entry.1.path } := by
  simp only [filterValidPolicy]
  induction policies with
  | nil => rfl
  | cons policy rest ih =>
    rw [List.map_cons, List.zip_cons_cons, List.filter_cons, List.filter_cons]
    by_cases hok : filterResult policy = .OPERATE_SUCCESSFULLY
    · simpa [hok] using ih
    · simpa [hok] using ih

end

/-! ### Granting and revoking -/

section
variable {t : UgcTable} {rules : List MacRule} {o o' : UgcState} {env : UgcEnv} {tokenId : UInt32}
  {policies : List PolicyInfo}

theorem TouchesUserPaths.refl (s : UgcState) : TouchesUserPaths s.table s.rules s :=
  ⟨fun _ _ => Iff.rfl, fun _ _ => Iff.rfl⟩

theorem TouchesUserPaths.trans (h : TouchesUserPaths t rules o)
    (h' : TouchesUserPaths o.table o.rules o') : TouchesUserPaths t rules o' :=
  ⟨fun row hrow => (h'.rows row hrow).trans (h.rows row hrow),
    fun rule hrule => (h'.rules rule hrule).trans (h.rules rule hrule)⟩

/-- The kernel says yes to nothing but what it was asked for. -/
theorem path_of_mem_accepted {results : List Bool} {rule : MacRule}
    (h : rule ∈ accepted tokenId policies results) : ∃ p ∈ policies, rule.path = p.path := by
  obtain ⟨item, hitem, rfl⟩ := List.mem_map.mp h
  exact ⟨item.1, (List.of_mem_zip (List.mem_filter.mp hitem).1).1, rfl⟩

theorem not_mem_accepted {results : List Bool} {rule : MacRule}
    (hvalid : ∀ p ∈ policies, UserPath p.path) (hrule : ¬ UserPath rule.path) :
    rule ∉ accepted tokenId policies results := by
  intro h
  obtain ⟨p, hp, hpath⟩ := path_of_mem_accepted h
  exact hrule (hpath ▸ hvalid p hp)

theorem grantPermissionByUser_touches (env : UgcEnv) (t : UgcTable) (rules : List MacRule)
    (tokenId : UInt32) (policies : List PolicyInfo) :
    TouchesUserPaths t rules (grantPermissionByUser env t rules tokenId policies) := by
  have hvalid : ∀ p ∈ validPolicies policies, UserPath p.path := fun p hp => userPath_of_mem_valid hp
  by_cases hnone : validPolicies policies = []
  · rw [grantPermissionByUser_none hnone]
    exact ⟨fun _ _ => Iff.rfl, fun _ _ => Iff.rfl⟩
  cases hadd : env.addOk with
  | false =>
    rw [grantPermissionByUser_refused hnone hadd]
    exact ⟨fun _ _ => Iff.rfl, fun _ _ => Iff.rfl⟩
  | true =>
    rw [grantPermissionByUser_added hnone hadd]
    refine ⟨fun row hrow => ?_, fun rule hrule => ?_⟩
    · have hother : ∀ v ∈ (validPolicies policies).map (grantRow tokenId), v.key ≠ row.key := by
        intro v hv hkey
        obtain ⟨p, hp, rfl⟩ := List.mem_map.mp hv
        exact hrow (hkey ▸ hvalid p hp)
      rw [mem_grantRows]
      exact ⟨fun h => h.elim (fun hmem => absurd rfl (hother row hmem)) And.left,
        fun h => Or.inr ⟨h, hother⟩⟩
    · rw [List.mem_append]
      exact or_iff_left (not_mem_accepted hvalid hrule)

theorem ugcDeny_of_ne {k : UgcKey} {row : UgcRow} (hrow : row.key ≠ k) :
    row ∈ ugcDeny t k ↔ row ∈ t := by
  constructor
  · intro h
    obtain ⟨origin, horigin, heq⟩ := KeyedTable.mem_modify.mp h
    by_cases hkey : origin.key = k
    · rw [if_pos (decide_eq_true hkey)] at heq
      exact absurd (heq ▸ hkey : row.key = k) hrow
    · rw [if_neg (by simpa using hkey)] at heq
      exact heq ▸ horigin
  · intro h
    exact KeyedTable.mem_modify.mpr ⟨row, h, (if_neg (by simpa using hrow)).symm⟩

theorem unSetPolicy_other {answers : MacAnswers} {rule : MacRule}
    (hvalid : ∀ p ∈ policies, UserPath p.path) (hrule : ¬ UserPath rule.path) :
    rule ∈ (unSetPolicy env answers tokenId policies rules).1 ↔ rule ∈ rules := by
  simp only [unSetPolicy]
  split
  · exact Iff.rfl
  · split
    · exact Iff.rfl
    · have hno : rule ∉ accepted tokenId (policies.filter isNormalMode)
          (macRequest env.fd answers (policies.filter isNormalMode)).1 :=
        not_mem_accepted (fun p hp => hvalid p (List.mem_filter.mp hp).1) hrule
      rw [List.mem_filter, decide_eq_true_eq]
      exact and_iff_left hno

theorem revokePolicy_touches (i : Nat) {policy : PolicyInfo} (hpolicy : UserPath policy.path)
    (s : UgcState) : TouchesUserPaths s.table s.rules (revokePolicy env tokenId i policy s) := by
  have hvalid : ∀ p ∈ [policy], UserPath p.path := fun p hp => List.mem_singleton.mp hp ▸ hpolicy
  cases hmodify : env.modifyOk i with
  | false =>
    rw [revokePolicy_failed hmodify]
    exact ⟨fun _ _ => Iff.rfl, fun _ _ => Iff.rfl⟩
  | true =>
    rw [revokePolicy_modified hmodify]
    refine ⟨fun row hrow => ugcDeny_of_ne fun hkey => hrow ?_,
      fun rule hrule => unSetPolicy_other hvalid hrule⟩
    rw [hkey]
    exact hpolicy

theorem revokeLoop_touches (i : Nat) (hvalid : ∀ p ∈ policies, UserPath p.path) (s : UgcState) :
    TouchesUserPaths s.table s.rules (revokeLoop env tokenId i policies s) := by
  induction policies generalizing i s with
  | nil => exact TouchesUserPaths.refl s
  | cons policy rest ih =>
    exact (revokePolicy_touches i (hvalid policy (List.mem_cons_self ..)) s).trans
      (ih (i + 1) (fun p hp => hvalid p (List.mem_cons_of_mem policy hp)) _)

/-- **User-granted paths are confined**: what the filter lets through, and what granting and
revoking touch. -/
theorem userGrant_confined (policies : List PolicyInfo) :
    (∀ policy ∈ (filterValidPolicy policies).2, UserPath policy.path) ∧
      ((filterValidPolicy policies).1.length = policies.length ∧
        (filterValidPolicy policies).2 =
          ((policies.zip (filterValidPolicy policies).1).filter fun entry =>
            entry.2 = .OPERATE_SUCCESSFULLY).map fun entry =>
              { entry.1 with path := adjustPath entry.1.path }) ∧
      ∀ (env : UgcEnv) (t : UgcTable) (rules : List MacRule) (tokenId : UInt32),
        TouchesUserPaths t rules (grantPermissionByUser env t rules tokenId policies) ∧
          TouchesUserPaths t rules (revokePermissionByUser env t rules tokenId policies) :=
  ⟨fun _ h => userPath_of_mem_valid h,
    ⟨List.length_map .., filterValidPolicy_survivors policies⟩,
    fun env t rules tokenId => ⟨grantPermissionByUser_touches env t rules tokenId policies,
      revokeLoop_touches 0 (fun _ h => userPath_of_mem_valid h) { table := t, rules }⟩⟩

example : filterResult { path := bytes "/storage/Users/currentUser/Music/../Images", mode := 1 } =
    .INVALID_PATH := by decide +kernel

end

end SandboxManager.Policy
