import SandboxManager.Claw.TemplateFields

/-! Which templates load.

Every section is described by what it asks of the root and what it says, and the steps of the
loader are put together from these. Since the conditional rules must be an array, the permissions
that could stand in a conditional object never come from a template that loads. -/
namespace SandboxManager.Claw
open Library MountPhase

/-! ### The environment policy -/

/-- A key as it is compared: without blanks around it, in capitals. -/
def envKeyOf (text : Bytes) : Bytes := toUpperAscii (trimEnvKey text)

/-- Keys in capitals, without the blank ones. -/
def envKeysAt (envPolicy : Json) (fieldName : Bytes) : List Bytes :=
  ((stringsAt envPolicy fieldName).map envKeyOf).filter (· ≠ [])

/-- Each of them names a list of texts, and may be left out. -/
def envPolicyKeys : List Bytes :=
  [bytes "blocked-everywhere-keys", bytes "blocked-override-only-keys",
    bytes "allowed-inherited-override-only-keys", bytes "blocked-prefixes",
    bytes "blocked-override-prefixes"]

/-- Every list that is there is a list of texts; blank ones are allowed and dropped. -/
structure LegalEnvPolicy (envPolicy : Json) : Prop where
  object : envPolicy.isObject = true
  keys : ∀ key ∈ envPolicyKeys, TextsAt (fun _ => True) envPolicy key

def envPolicyOf (envPolicy : Json) : EnvPolicy where
  blockedEverywhereKeys := envKeysAt envPolicy (bytes "blocked-everywhere-keys")
  blockedOverrideOnlyKeys := envKeysAt envPolicy (bytes "blocked-override-only-keys")
  allowedInheritedOverrideOnlyKeys :=
    envKeysAt envPolicy (bytes "allowed-inherited-override-only-keys")
  blockedPrefixes := envKeysAt envPolicy (bytes "blocked-prefixes")
  blockedOverridePrefixes := envKeysAt envPolicy (bytes "blocked-override-prefixes")

section
variable {root envPolicy : Json}

/-- The keys gathered so far stay in front of those that are still to come. -/
theorem parseEnvPolicyItems_checks (fieldName : Bytes) (i : Nat) (items : List Json)
    (values : List Bytes) :
    Checks (parseEnvPolicyItems fieldName i items values) (∀ item ∈ items, (textOfItem item).isSome)
      (values ++ ((items.filterMap textOfItem).map envKeyOf).filter (· ≠ [])) := by
  induction items generalizing i values with
  | nil => exact (Checks.ok values).iff (by simp) |>.means (by simp)
  | cons item items ih =>
    rw [List.forall_mem_cons, List.filterMap_cons]
    cases item with
    | string valuestring =>
      have htext : textOfItem (.string valuestring) = some (cStr valuestring) := rfl
      rw [parseEnvPolicyItems, htext]
      refine ((ih (i + 1) _).iff (by simp)).means fun _ => ?_
      by_cases hblank : envKeyOf (cStr valuestring) = []
      · simp [envKeyOf] at hblank ⊢
        simp [hblank]
      · simp [envKeyOf] at hblank ⊢
        simp [hblank]
    | _ => exact Checks.error _ (by simp [textOfItem, Json.stringOf]) _

theorem parseEnvPolicyStringArray_checks (envPolicy : Json) (fieldName : Bytes) :
    Checks (parseEnvPolicyStringArray envPolicy fieldName) (TextsAt (fun _ => True) envPolicy fieldName)
      (envKeysAt envPolicy fieldName) := by
  unfold parseEnvPolicyStringArray TextsAt envKeysAt stringsAt
  cases envPolicy.getObjectItem fieldName with
  | none => exact (Checks.ok []).iff (by simp)
  | some node =>
    cases node with
    | array items =>
      refine (parseEnvPolicyItems_checks fieldName 0 items []).iff ?_
      simp [textOfItem, Option.isSome_iff_exists]
    | _ => exact Checks.error _ (by simp) _

theorem envPolicyField_eq (fieldName : Bytes) :
    envPolicyField fieldName = memberField (bytes "env-policy") fieldName := by
  rw [envPolicyField, memberField]
  rfl

/-- The item that is blamed is one of the list, by its own index. -/
theorem parseEnvPolicyItems_blames {fieldName : Bytes} {items : List Json}
    (h : Located root (envPolicyField fieldName) (.array items)) (i : Nat) {left : List Json}
    (hleft : items.drop i = left) (values : List Bytes) :
    Blames (Mistyped root) (parseEnvPolicyItems fieldName i left values) := by
  induction left generalizing i values with
  | nil => exact Blames.ok values
  | cons item left ih =>
    have hitem : items[i]? = some item := by
      rw [← List.head?_drop, hleft, List.head?_cons]
    have hnext : items.drop (i + 1) = left := by
      rw [← List.drop_drop, hleft, List.drop_succ_cons, List.drop_zero]
    cases item with
    | string valuestring =>
      rw [parseEnvPolicyItems]
      exact ih (i + 1) hnext _
    | _ =>
      exact Blames.error (mistyped .string (h.item hitem) fun hfits => by
        obtain ⟨_, hfits⟩ := hfits
        cases hfits)

theorem parseEnvPolicyStringArray_blames (h : Located root (bytes "env-policy") envPolicy)
    (fieldName : Bytes) : Blames (Mistyped root) (parseEnvPolicyStringArray envPolicy fieldName) := by
  unfold parseEnvPolicyStringArray
  cases hnode : envPolicy.getObjectItem fieldName with
  | none => exact Blames.ok []
  | some node =>
    have hlocated : Located root (envPolicyField fieldName) node := by
      rw [envPolicyField_eq]
      exact h.member hnode
    cases node with
    | array items => exact parseEnvPolicyItems_blames hlocated 0 rfl []
    | _ => exact Blames.error (mistyped .array hlocated fun hfits => by
        obtain ⟨_, hfits⟩ := hfits
        cases hfits)

/-- What a section says in place of what was there. -/
def EnvPolicy.over (section_ : Option Json) (envPolicy : EnvPolicy) : EnvPolicy :=
  (section_.map envPolicyOf).getD envPolicy

/-- A section that is missing leaves the policy as it was. -/
theorem parseEnvPolicyStep_checks (hroot : root.isObject = true) (config : TemplateConfig) :
    Checks (parseEnvPolicyStep root config)
      (∀ envPolicy, root.getObjectItem (bytes "env-policy") = some envPolicy → LegalEnvPolicy envPolicy)
      { config with
        envPolicy := EnvPolicy.over (root.getObjectItem (bytes "env-policy")) config.envPolicy } := by
  unfold parseEnvPolicyStep parseEnvPolicyJson EnvPolicy.over
  rw [hroot, Bool.not_true, if_neg Bool.false_ne_true]
  cases root.getObjectItem (bytes "env-policy") with
  | none => exact (Checks.ok config).iff (by simp)
  | some envPolicy =>
    refine Checks.iff (Checks.map _ (Checks.guard _ fun _ =>
      (parseEnvPolicyStringArray_checks envPolicy _).bind fun _ =>
        (parseEnvPolicyStringArray_checks envPolicy _).bind fun _ =>
          (parseEnvPolicyStringArray_checks envPolicy _).bind fun _ =>
            (parseEnvPolicyStringArray_checks envPolicy _).bind fun _ =>
              (parseEnvPolicyStringArray_checks envPolicy _).map fun _ => _)) ?_
    simp only [Option.some.injEq, forall_eq']
    refine ⟨fun h => ⟨by simpa using h.1, by simpa [envPolicyKeys] using h.2⟩,
      fun h => ⟨by simpa using h.object, by simpa [envPolicyKeys] using h.keys⟩⟩

/-- What is blamed is the section or one of its lists. -/
theorem parseEnvPolicyStep_blames (hroot : root.isObject = true) (config : TemplateConfig) :
    Blames (Mistyped root) (parseEnvPolicyStep root config) := by
  unfold parseEnvPolicyStep parseEnvPolicyJson
  rw [hroot, Bool.not_true, if_neg Bool.false_ne_true]
  refine Blames.bind ?_ fun envPolicy _ => Blames.ok _
  cases hnode : root.getObjectItem (bytes "env-policy") with
  | none => exact Blames.ok config.envPolicy
  | some envPolicy =>
    dsimp only
    split
    · exact Blames.error (mistyped .object (.top hnode) (by simp_all [Kind.Fits]))
    · exact (parseEnvPolicyStringArray_blames (.top hnode) _).bind fun _ _ =>
        (parseEnvPolicyStringArray_blames (.top hnode) _).bind fun _ _ =>
          (parseEnvPolicyStringArray_blames (.top hnode) _).bind fun _ _ =>
            (parseEnvPolicyStringArray_blames (.top hnode) _).bind fun _ _ =>
              (parseEnvPolicyStringArray_blames (.top hnode) _).bind fun _ _ => Blames.ok _

end

/-! ### The other strict sections -/

section
variable {root : Json}

/-- Unlike the lists of mounts, rules have to be right, each of them. -/
def LegalConditional (root : Json) : Prop :=
  ∀ section_, root.getObjectItem (bytes "conditional") = some section_ →
    ∃ items, section_ = .array items ∧ ∀ item ∈ items, LegalRule item

/-- The rules of the section, or those that were there. -/
def rulesOver (root : Json) (rules : List TemplateRule) : List TemplateRule :=
  match root.getObjectItem (bytes "conditional") with
  | some (.array items) => items.map templateRuleOf
  | _ => rules

/-- The section replaces the rules that were there. -/
theorem parseConditionalJson_checks (hroot : root.isObject = true) (config : TemplateConfig) :
    Checks (parseConditionalJson root config) (LegalConditional root)
      { config with conditionalRules := rulesOver root config.conditionalRules } := by
  unfold parseConditionalJson LegalConditional rulesOver
  rw [if_neg (by simp [hroot])]
  cases root.getObjectItem (bytes "conditional") with
  | none => exact (Checks.ok config).iff (by simp)
  | some node =>
    cases node with
    | array items =>
      refine ((parseConditionalItems_checks 0 items).map fun rules =>
        { config with conditionalRules := rules }).iff ?_
      simp
    | _ => exact Checks.error _ (by simp) _

theorem not_fits_array {node : Json} (h : ∀ items, node ≠ .array items) : ¬ Kind.array.Fits node :=
  fun hfits => by
    obtain ⟨items, hfits⟩ := hfits
    exact h items hfits

theorem parseConditionalJson_blames (hroot : root.isObject = true) (config : TemplateConfig) :
    Blames (Mistyped root) (parseConditionalJson root config) := by
  unfold parseConditionalJson
  rw [if_neg (by simp [hroot])]
  cases hnode : root.getObjectItem (bytes "conditional") with
  | none => exact Blames.ok config
  | some node =>
    cases node with
    | array items => exact (parseConditionalItems_blames (.top hnode) 0 rfl).bind fun _ _ => Blames.ok _
    | _ => exact Blames.error (mistyped .array (.top hnode) (not_fits_array nofun))

/-- The types of the section, or those that were there. -/
def selinuxTypesOver (root : Json) (types : List Bytes) : List Bytes :=
  match root.getObjectItem (bytes "exec-selinux-types") with
  | some (.array items) => items.filterMap textOfItem
  | _ => types

theorem selinuxType_eq_some {item : Json} {text : Bytes} :
    selinuxType item = some text ↔ textOfItem item = some text ∧ text ≠ [] := by
  rw [selinuxType, Option.filter_eq_some_iff]
  simp

/-- Every type has to be a text with something in it. -/
theorem parseExecSelinuxTypesJson_checks (hroot : root.isObject = true) (config : TemplateConfig) :
    Checks (parseExecSelinuxTypesJson root config)
      (TextsAt (· ≠ []) root (bytes "exec-selinux-types"))
      { config with execSelinuxTypes := selinuxTypesOver root config.execSelinuxTypes } := by
  unfold parseExecSelinuxTypesJson TextsAt selinuxTypesOver
  rw [if_neg (by simp [hroot])]
  cases root.getObjectItem (bytes "exec-selinux-types") with
  | none => exact (Checks.ok config).iff (by simp)
  | some node =>
    cases node with
    | array items =>
      refine (((parseItems_checks _ _ selinuxType 0 items).means fun h => ?_).map fun parsed =>
        { config with execSelinuxTypes := parsed }).iff ?_
      · refine List.filterMap_congr fun item hitem => ?_
        obtain ⟨text, htext⟩ := Option.isSome_iff_exists.mp (h item hitem)
        rw [htext, (selinuxType_eq_some.mp htext).1]
      · simp [Option.isSome_iff_exists, selinuxType_eq_some, textOfItem]
    | _ => exact Checks.error _ (by simp) _

theorem parseExecSelinuxTypesJson_blames (hroot : root.isObject = true) (config : TemplateConfig) :
    Blames (Mistyped root) (parseExecSelinuxTypesJson root config) := by
  have hkind : ∀ item, selinuxType item = none → ¬ Kind.nonEmptyString.Fits item := by
    intro item hnone hfits
    obtain ⟨text, htext⟩ := hfits
    rw [selinuxType_eq_some.mpr htext] at hnone
    cases hnone
  unfold parseExecSelinuxTypesJson
  rw [if_neg (by simp [hroot])]
  cases hnode : root.getObjectItem (bytes "exec-selinux-types") with
  | none => exact Blames.ok config
  | some node =>
    cases node with
    | array items => exact (parseItems_blames hkind (.top hnode) 0 rfl).bind fun _ _ => Blames.ok _
    | _ => exact Blames.error (mistyped .array (.top hnode) (not_fits_array nofun))

def LegalSeccomp (root : Json) : Prop :=
  ∀ seccomp, root.getObjectItem (bytes "seccomp") = some seccomp →
    seccomp.isObject = true ∧ TextsAt (fun _ => True) seccomp (bytes "allow-list")

def allowListOver (root : Json) (allowList : List Bytes) : List Bytes :=
  match (root.getObjectItem (bytes "seccomp")).bind (·.getObjectItem (bytes "allow-list")) with
  | some (.array items) => items.filterMap textOfItem
  | _ => allowList

/-- The list may be missing, or empty; the section may not be anything but an object. -/
theorem parseSeccompJson_checks (hroot : root.isObject = true) (config : TemplateConfig) :
    Checks (parseSeccompJson root config) (LegalSeccomp root)
      { config with seccompAllowList := allowListOver root config.seccompAllowList } := by
  unfold parseSeccompJson LegalSeccomp allowListOver
  rw [if_neg (by simp [hroot])]
  cases root.getObjectItem (bytes "seccomp") with
  | none => exact (Checks.ok config).iff (by simp)
  | some seccomp =>
    rw [Option.bind_some]
    simp only [Option.some.injEq, forall_eq']
    rw [← Bool.not_eq_false]
    refine Checks.guard _ fun _ => ?_
    unfold TextsAt
    cases seccomp.getObjectItem (bytes "allow-list") with
    | none => exact (Checks.ok config).iff (by simp)
    | some node =>
      cases node with
      | array items =>
        refine ((parseItems_checks _ _ textOfItem 0 items).map fun allowed =>
          { config with seccompAllowList := allowed }).iff ?_
        simp [textOfItem, Option.isSome_iff_exists]
      | _ => exact Checks.error _ (by simp) _

theorem parseSeccompJson_blames (hroot : root.isObject = true) (config : TemplateConfig) :
    Blames (Mistyped root) (parseSeccompJson root config) := by
  unfold parseSeccompJson
  rw [if_neg (by simp [hroot])]
  cases hnode : root.getObjectItem (bytes "seccomp") with
  | none => exact Blames.ok config
  | some seccomp =>
    dsimp only
    split
    · exact Blames.error (mistyped .object (.top hnode) (by simp_all [Kind.Fits]))
    · cases hlist : seccomp.getObjectItem (bytes "allow-list") with
      | none => exact Blames.ok config
      | some allowList =>
        have hlocated : Located root (bytes "seccomp.allow-list") allowList :=
          (Located.top hnode).member hlist
        exact (parseTemplateStringArray_blames hlocated).bind fun _ _ => Blames.ok _

end

/-! ### Templates -/

/-- What is asked of the strict sections; the lenient ones drop what they cannot use. -/
structure LegalTemplate (root : Json) : Prop where
  seccomp : LegalSeccomp root
  envPolicy : ∀ envPolicy, root.getObjectItem (bytes "env-policy") = some envPolicy →
    LegalEnvPolicy envPolicy
  conditional : LegalConditional root
  execSelinuxTypes : TextsAt (· ≠ []) root (bytes "exec-selinux-types")

/-- Permissions are those of the section of that name. -/
def templateOf (valueint : Bytes → Int32) (root : Json) : TemplateConfig where
  execSelinuxTypes := stringsAt root (bytes "exec-selinux-types")
  systemMounts := parseMountEntries root (bytes "system-mounts")
  symLinks := parseSymLinkEntries root
  appMounts := parseMountEntries root (bytes "app-mounts")
  seccompAllowList :=
    ((root.getObjectItem (bytes "seccomp")).map (stringsAt · (bytes "allow-list"))).getD []
  envPolicy := ((root.getObjectItem (bytes "env-policy")).map envPolicyOf).getD {}
  permissions := parsePermissionSectionJson valueint (root.getObjectItem (bytes "permission"))
    KeyedTable.empty
  conditionalRules :=
    ((Json.itemsOf (root.getObjectItem (bytes "conditional"))).getD []).map templateRuleOf

/-- No conditional object, no permissions from there. -/
theorem parsePermissionJson_of_legal {root : Json} (hroot : root.isObject = true) (h : LegalConditional root)
    (valueint : Bytes → Int32) (permissions : EnvMap PermissionConfig) :
    parsePermissionJson valueint root permissions =
      parsePermissionSectionJson valueint (root.getObjectItem (bytes "permission")) permissions := by
  unfold parsePermissionJson
  rw [hroot, Bool.not_true, if_neg Bool.false_ne_true]
  cases hnode : root.getObjectItem (bytes "conditional") with
  | none => rfl
  | some node =>
    obtain ⟨items, rfl, -⟩ := h node hnode
    rfl

theorem rulesOver_nil (root : Json) : rulesOver root [] =
    ((Json.itemsOf (root.getObjectItem (bytes "conditional"))).getD []).map templateRuleOf := by
  unfold rulesOver
  cases root.getObjectItem (bytes "conditional") with
  | none => rfl
  | some node => cases node <;> rfl

theorem selinuxTypesOver_nil (root : Json) :
    selinuxTypesOver root [] = stringsAt root (bytes "exec-selinux-types") := by
  unfold selinuxTypesOver stringsAt
  cases root.getObjectItem (bytes "exec-selinux-types") with
  | none => rfl
  | some node => cases node <;> rfl

theorem allowListOver_nil (root : Json) : allowListOver root [] =
    ((root.getObjectItem (bytes "seccomp")).map (stringsAt · (bytes "allow-list"))).getD [] := by
  unfold allowListOver
  cases root.getObjectItem (bytes "seccomp") with
  | none => rfl
  | some seccomp =>
    rw [Option.bind_some, Option.map_some, Option.getD_some, stringsAt]
    cases seccomp.getObjectItem (bytes "allow-list") with
    | none => rfl
    | some node => cases node <;> rfl

/-- The sections are read one after the other, and none asks anything of another. -/
theorem parseTemplate_checks (valueint : Bytes → Int32) {root : Json} (hroot : root.isObject = true) :
    Checks (parseTemplate valueint root {}) (LegalTemplate root) (templateOf valueint root) := by
  -- the four lenient steps come first and do not fail
  have h : Checks (parseTemplate valueint root {}) _ _ :=
    (Checks.ok _).bind fun _ => (Checks.ok _).bind fun _ => (Checks.ok _).bind fun _ =>
      (Checks.ok _).bind fun _ => (parseSeccompJson_checks hroot _).bind fun _ =>
        (parseEnvPolicyStep_checks hroot _).bind fun _ =>
          (parseConditionalJson_checks hroot _).bind fun _ =>
            (parseExecSelinuxTypesJson_checks hroot _).bind fun _ => Checks.ok _
  refine (h.means fun hlegal => ?_).iff ?_
  · obtain ⟨-, -, -, -, -, -, hconditional, -⟩ := hlegal
    simp only [parsePermissionJson_of_legal hroot hconditional, rulesOver_nil, selinuxTypesOver_nil,
      allowListOver_nil]
    rfl
  · simp only [true_and, and_true]
    exact ⟨fun h => ⟨h.1, h.2.1, h.2.2.1, h.2.2.2⟩,
      fun h => ⟨h.seccomp, h.envPolicy, h.conditional, h.execSelinuxTypes⟩⟩

/-- Each step blames a field of its own section only. -/
theorem parseTemplate_blames (valueint : Bytes → Int32) {root : Json} (hroot : root.isObject = true)
    (config : TemplateConfig) : Blames (Mistyped root) (parseTemplate valueint root config) := by
  refine Blames.foldlM (fun step hstep config => ?_) config
  simp only [templateSteps, List.mem_cons, List.not_mem_nil, or_false] at hstep
  rcases hstep with rfl | rfl | rfl | rfl | rfl | rfl | rfl | rfl
  · exact Blames.ok _
  · exact Blames.ok _
  · exact Blames.ok _
  · exact Blames.ok _
  · exact parseSeccompJson_blames hroot config
  · exact parseEnvPolicyStep_blames hroot config
  · exact parseConditionalJson_blames hroot config
  · exact parseExecSelinuxTypesJson_blames hroot config

/-- **A template loads exactly where its strict sections are legal**, and is then what stands in
it; a file that does not open gives the default one. -/
theorem loadJsonConfig_eq_ok_iff (cJSON_Parse : Bytes → Option Json) (valueint : Bytes → Int32)
    (currentUserId : Bytes) (content : Option Bytes) (config : TemplateConfig) :
    loadJsonConfig cJSON_Parse valueint currentUserId content = .ok config ↔
      (content = none ∧ defaultTemplate currentUserId = config) ∨
      ∃ text root, content = some text ∧ cJSON_Parse (cStr text) = some root ∧
        root.isObject = true ∧ LegalTemplate root ∧ templateOf valueint root = config := by
  unfold loadJsonConfig
  cases content with
  | none => simp
  | some text =>
    simp only [reduceCtorEq, false_and, false_or, Option.some.injEq, exists_eq_left',
      exists_and_left]
    cases htree : cJSON_Parse (cStr text) with
    | none => simp
    | some root =>
      simp only [Option.some.injEq, exists_eq_left']
      cases root with
      | object members =>
        have hobject : (Json.object members).isObject = true := rfl
        rw [← (parseTemplate_checks valueint hobject).eq_ok_iff]
        cases hread : parseTemplate valueint (.object members) {} <;> simp [hobject, hread]
      | _ => simp [Json.isObject]

/-- What is at fault when a template does not load. -/
def TemplateFault (cJSON_Parse : Bytes → Option Json) (content : Option Bytes) :
    TemplateFailure → Prop
  | .text => ∃ text, content = some text ∧
      ∀ root, cJSON_Parse (cStr text) = some root → root.isObject = false
  | .field error => ∃ text root, content = some text ∧ cJSON_Parse (cStr text) = some root ∧
      root.isObject = true ∧ Mistyped root error

/-- **The line that is printed is right**: a template whose text is an object fails to load for a
field that is there, at the place that the line names, and is not what the line says it must be. -/
theorem loadJsonConfig_blames (cJSON_Parse : Bytes → Option Json) (valueint : Bytes → Int32)
    (currentUserId : Bytes) (content : Option Bytes) :
    Blames (TemplateFault cJSON_Parse content)
      (loadJsonConfig cJSON_Parse valueint currentUserId content) := by
  unfold loadJsonConfig
  cases content with
  | none => exact Blames.ok _
  | some text =>
    dsimp only
    cases htree : cJSON_Parse (cStr text) with
    | none =>
      refine Blames.error ⟨text, rfl, fun root hroot => ?_⟩
      rw [htree] at hroot
      cases hroot
    | some root =>
      have hnot : root.isObject = false → TemplateFault cJSON_Parse (some text) .text := by
        refine fun hobject => ⟨text, rfl, fun root' hroot' => ?_⟩
        rw [htree, Option.some.injEq] at hroot'
        exact hroot' ▸ hobject
      cases root with
      | object members =>
        have hobject : (Json.object members).isObject = true := rfl
        have hblames := parseTemplate_blames valueint hobject {}
        dsimp only
        cases hread : parseTemplate valueint (.object members) {} with
        | ok config => exact Blames.ok config
        | error error =>
          exact Blames.error ⟨text, _, rfl, htree, hobject, hblames.fault error hread⟩
      | _ => exact Blames.error (hnot rfl)

end SandboxManager.Claw
