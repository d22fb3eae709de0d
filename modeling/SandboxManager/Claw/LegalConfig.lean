import SandboxManager.Claw.ConfigParser
import SandboxManager.Claw.LegalPolicy

/-! What a configuration that is accepted says.

Which trees are configurations is written down field by field (`ConfigStep.Legal`), and what they
say beside it (`configOf`), which reads the tree and asks nothing of it. The parser accepts exactly
the ones, and answers the other (`parseConfig_eq_ok_iff`). Of the namespaces nothing is lost and
nothing is added but the one of the mounts, which every sandbox has (`nsFlagsAt_has`). -/
namespace SandboxManager.Claw
open Library MountPhase

section
variable (X : ConfigSources) (root : Json)

/-! ### What stands in a field -/

def NumberAt (key : Bytes) (d : Rat) : Prop :=
  ∃ literal, root.getObjectItem key = some (.number literal) ∧ X.valuedouble literal = some d

def NumberBetween (key : Bytes) (least most : Rat) : Prop :=
  ∃ d, NumberAt X root key d ∧ least ≤ d ∧ d ≤ most

def numberAt (key : Bytes) : Rat :=
  match root.getObjectItem key with
  | some (.number literal) => (X.valuedouble literal).getD 0
  | _ => 0

def textAt (key : Bytes) : Bytes := (Json.stringOf (root.getObjectItem key)).getD []

def TextWithin (key : Bytes) (maxLen : Nat) : Prop :=
  (Json.stringOf (root.getObjectItem key)).isSome ∧ (textAt root key).length ≤ maxLen

def OptionalTextWithin (key : Bytes) (maxLen : Nat) : Prop :=
  root.getObjectItem key = none ∨ TextWithin root key maxLen

/-- What stands there, and what was there before where nothing does. -/
def textOver (key out : Bytes) : Bytes :=
  if root.getObjectItem key = none then out else textAt root key

def typeAt : Bytes := textOver root (bytes "type") (bytes "cli")

/-- Short enough, and of a depth that can be parsed. -/
def Measured (maxLen : Nat) (text : Bytes) : Prop :=
  text.length ≤ maxLen ∧ JsonDepth.checkJsonDepth text = .SUCCESS

/-- The object that a field holds, as it stands or in a text. -/
def objectAt (key : Bytes) : Option Json :=
  match root.getObjectItem key with
  | some (.object members) => some (.object members)
  | some (.string valuestring) => if cStr valuestring = [] then none else X.cJSON_Parse (cStr valuestring)
  | _ => none

/-- Nothing, an object, no text, or the text of an object. An object is measured as it is
printed. -/
def HoldsObject (key : Bytes) (maxLen : Nat) : Prop :=
  match root.getObjectItem key with
  | none => True
  | some (.object members) => Measured maxLen ((X.cJSON_PrintUnformatted (.object members)).getD [])
  | some (.string valuestring) => cStr valuestring = [] ∨
      Measured maxLen (cStr valuestring) ∧
        ∃ members, X.cJSON_Parse (cStr valuestring) = some (.object members)
  | some _ => False

/-! ### The fields -/

/-- A variable of `env`: a text under a name. -/
def LegalVariable (item : Bytes × Json) : Prop :=
  cStr item.1 ≠ [] ∧ equalsSign ∉ cStr item.1 ∧ ∃ text, item.2 = .string text

def envOver (items : List (Bytes × Json)) (out : EnvMap Bytes) : EnvMap Bytes :=
  items.foldl (fun out item => out.assign (cStr item.1) ((Json.stringOf (some item.2)).getD [])) out

/-- An absolute path that does not go up, and one of the two modes. -/
structure LegalMount (item : Json) : Prop where
  object : item.isObject = true
  absolute : (textAt item (bytes "source")).head? = some slash
  inside : ¬ bytes "/../" <:+: textAt item (bytes "source") ∧ ¬ bytes "/.." <:+ textAt item (bytes "source")
  mode : textAt item (bytes "mode") = bytes "ro" ∨ textAt item (bytes "mode") = bytes "rw"

def LegalMounts (policy : Json) : Prop :=
  ∀ item, policy.getObjectItem (bytes "mounts") = some item →
    ∃ mounts, item = .array mounts ∧ mounts.length ≤ MAX_POLICY_MOUNTS_COUNT ∧
      ∀ mount ∈ mounts, LegalMount mount

def mountsOf (policy : Json) : List PolicyMount :=
  ((Json.itemsOf (policy.getObjectItem (bytes "mounts"))).getD []).map fun item =>
    { source := textAt item (bytes "source"), readOnly := textAt item (bytes "mode") == bytes "ro" }

/-- The names of the namespaces that are asked for. -/
def nsNames : List Bytes :=
  ((Json.itemsOf (root.getObjectItem (bytes "nsFlags"))).getD []).filterMap
    fun item => Json.stringOf (some item)

def LegalNsFlags : Prop :=
  ∀ item, root.getObjectItem (bytes "nsFlags") = some item →
    ∃ items, item = .array items ∧ items.length ≤ MAX_NS_FLAGS_COUNT ∧
      ∀ i ∈ items, ∃ name, Json.stringOf (some i) = some name ∧ (nsFlag name).isSome

def nsFlagsAt : UInt32 :=
  ((nsNames root).filterMap nsFlag).foldl (· ||| ·) DEFAULT_NS_FLAGS

/-- What each field asks for. -/
def ConfigStep.Legal : ConfigStep → Prop
  | callerTokenId => NumberBetween X root (bytes "callerTokenId") 0 DOUBLE_SAFE_MAX
  | callerPid => NumberBetween X root (bytes "callerPid") INT32_MIN INT32_MAX
  | uid => NumberBetween X root (bytes "uid") 0 UINT32_MAX_VALUE
  | gid => NumberBetween X root (bytes "gid") 0 UINT32_MAX_VALUE
  | challenge => OptionalTextWithin root (bytes "challenge") MAX_CHALLENGE_LENGTH
  | appIdentifier => TextWithin root (bytes "appIdentifier") MAX_APP_IDENTIFIER_LENGTH ∧
      (textAt root (bytes "appIdentifier") = [] ∨
        (AppIdentifier.parseU64Strict (textAt root (bytes "appIdentifier"))).isSome)
  | bundleName => TextWithin root (bytes "bundleName") MAX_BUNDLE_NAME_LENGTH
  | type =>
    (typeAt root = bytes "cli" ∧ TextWithin root (bytes "cliName") MAX_CLI_NAME_LENGTH ∧
        TextWithin root (bytes "subCliName") MAX_SUB_CLI_NAME_LENGTH) ∨
      (typeAt root = bytes "shell" ∧ X.shellSandbox = true ∧ X.isPcMode = true)
  | name => OptionalTextWithin root (bytes "name") MAX_NAME_LENGTH ∧
      ∀ c ∈ textAt root (bytes "name"), isxdigit c = true
  | workdir => OptionalTextWithin root (bytes "workdir") MAX_WORKDIR_LENGTH
  | subjectId => OptionalTextWithin root (bytes "subjectId") MAX_SUBJECT_ID_LENGTH
  | env => HoldsObject X root (bytes "env") MAX_ENV_LENGTH ∧
      ∀ object, objectAt X root (bytes "env") = some object → ∀ item ∈ membersOf object, LegalVariable item
  | policy => HoldsObject X root (bytes "policy") MAX_POLICY_JSON_LENGTH ∧
      ∀ policy, objectAt X root (bytes "policy") = some policy →
        LegalMounts policy ∧ (X.shellSandbox = true → LegalRuleGroups .STARTUP policy)
  | nsFlags => LegalNsFlags root

def LegalConfig : Prop := ∀ step : ConfigStep, step.Legal X root

/-- What the tree says. -/
def configOf : SandboxConfig where
  callerTokenId := UInt64.ofInt (truncated (numberAt X root (bytes "callerTokenId")))
  callerPid := Int32.ofInt (truncated (numberAt X root (bytes "callerPid")))
  uid := UInt32.ofInt (truncated (numberAt X root (bytes "uid")))
  gid := UInt32.ofInt (truncated (numberAt X root (bytes "gid")))
  challenge := textAt root (bytes "challenge")
  appIdentifier := textAt root (bytes "appIdentifier")
  appIdentifierU64 :=
    UInt64.ofNat ((AppIdentifier.parseU64Strict (textAt root (bytes "appIdentifier"))).getD 0)
  subjectId := textAt root (bytes "subjectId")
  bundleName := textAt root (bytes "bundleName")
  name := textAt root (bytes "name")
  workdir := textAt root (bytes "workdir")
  env := envOver (((objectAt X root (bytes "env")).map membersOf).getD []) KeyedTable.empty
  mounts := ((objectAt X root (bytes "policy")).map mountsOf).getD []
  addOperationControlRuleGroups :=
    if X.shellSandbox then ((objectAt X root (bytes "policy")).map ruleGroupsOf).getD [] else []
  nsFlags := nsFlagsAt root
  type := typeAt root
  cliName := if typeAt root = bytes "cli" then textAt root (bytes "cliName") else []
  subCliName := if typeAt root = bytes "cli" then textAt root (bytes "subCliName") else []

end

section
variable {X : ConfigSources} {root : Json}

/-! ### Texts and numbers -/

theorem numberField_checks (key : Bytes) (least most : Rat) :
    Checks (numberField X root key least most) (NumberBetween X root key least most)
      (numberAt X root key) := by
  unfold numberField NumberBetween NumberAt numberAt
  cases root.getObjectItem key with
  | none => exact Checks.error _ (by simp) _
  | some item =>
    cases item with
    | number literal =>
      dsimp only
      cases hd : X.valuedouble literal with
      | none => exact Checks.error _ (by simp [hd]) _
      | some d =>
        dsimp only
        split
        case isTrue hbounds => exact (Checks.ok d).iff (by simp [hd, hbounds])
        case isFalse hbounds => exact Checks.error _ (by simpa [hd] using hbounds) _
    | _ => exact Checks.error _ (by simp) _

theorem parseStringFieldWithMaxLen_checks (key : Bytes) (maxLen : Nat) :
    Checks (parseStringFieldWithMaxLen root key maxLen) (TextWithin root key maxLen)
      (textAt root key) := by
  unfold parseStringFieldWithMaxLen TextWithin textAt
  cases Json.stringOf (root.getObjectItem key) with
  | none => exact Checks.error _ (by simp) _
  | some val => exact (Checks.guard _ fun _ => Checks.ok val).iff (by simp)

theorem parseOptionalStringFieldWithMaxLen_checks (key out : Bytes) (maxLen : Nat) :
    Checks (parseOptionalStringFieldWithMaxLen root key out maxLen)
      (OptionalTextWithin root key maxLen) (textOver root key out) := by
  unfold OptionalTextWithin textOver
  cases hitem : root.getObjectItem key with
  | none =>
    rw [parseOptionalStringFieldWithMaxLen, hitem]
    exact (Checks.ok out).iff (by simp)
  | some item =>
    have hsame : parseOptionalStringFieldWithMaxLen root key out maxLen =
        parseStringFieldWithMaxLen root key maxLen := by
      rw [parseOptionalStringFieldWithMaxLen, parseStringFieldWithMaxLen, hitem]
    rw [hsame, if_neg (Option.some_ne_none item)]
    exact (parseStringFieldWithMaxLen_checks key maxLen).iff (by simp)

theorem parseTypeField_checks :
    Checks (parseTypeField root) (OptionalTextWithin root (bytes "type") MAX_TYPE_LENGTH)
      (typeAt root) := by
  unfold parseTypeField OptionalTextWithin typeAt textOver
  cases hitem : root.getObjectItem (bytes "type") with
  | none => exact (Checks.ok _).iff (by simp)
  | some item =>
    rw [if_neg (Option.some_ne_none item)]
    exact (parseStringFieldWithMaxLen_checks _ _).iff (by simp)

theorem parseNameField_checks (out : Bytes) :
    Checks (parseNameField root out)
      (OptionalTextWithin root (bytes "name") MAX_NAME_LENGTH ∧
        ∀ c ∈ textAt root (bytes "name"), isxdigit c = true)
      (textOver root (bytes "name") out) := by
  unfold parseNameField OptionalTextWithin textOver TextWithin textAt
  cases root.getObjectItem (bytes "name") with
  | none => exact (Checks.ok out).iff (by simp [Json.stringOf])
  | some item =>
    rw [if_neg (Option.some_ne_none item)]
    dsimp only
    cases Json.stringOf (some item) with
    | none => exact Checks.error _ (by simp) _
    | some nameVal =>
      refine Checks.iff (Checks.guard _ fun _ => Checks.guard _ fun _ => Checks.ok nameVal) ?_
      simp

theorem parseAppIdentifier_checks :
    Checks (parseAppIdentifier root) (ConfigStep.Legal X root .appIdentifier)
      (textAt root (bytes "appIdentifier"),
        UInt64.ofNat ((AppIdentifier.parseU64Strict (textAt root (bytes "appIdentifier"))).getD 0)) := by
  unfold parseAppIdentifier ConfigStep.Legal
  refine (parseStringFieldWithMaxLen_checks _ _).bind fun _ => ?_
  generalize textAt root (bytes "appIdentifier") = text
  by_cases htext : text = []
  · rw [if_pos htext, htext]
    exact (Checks.ok _).iff (by simp)
  · rw [if_neg htext]
    cases AppIdentifier.parseU64Strict text with
    | none => exact Checks.error _ (by simp [htext]) _
    | some value => exact (Checks.ok _).iff (by simp)

/-- A type that is one of the two words is a text, and not too long. -/
theorem optionalText_of_typeAt {word : Bytes} (hword : word = bytes "cli" ∨ word = bytes "shell")
    (h : typeAt root = word) : OptionalTextWithin root (bytes "type") MAX_TYPE_LENGTH := by
  unfold typeAt textOver at h
  by_cases hitem : root.getObjectItem (bytes "type") = none
  · exact .inl hitem
  · rw [if_neg hitem, textAt] at h
    have hlength : word ≠ [] ∧ word.length ≤ MAX_TYPE_LENGTH := by
      rcases hword with rfl | rfl <;> decide
    refine .inr ⟨?_, ?_⟩
    · rw [Option.isSome_iff_ne_none]
      intro hnone
      exact hlength.1 (by rw [← h, hnone]; rfl)
    · rw [textAt, h]
      exact hlength.2

theorem parseTypeAndNames_checks :
    Checks (parseTypeAndNames X root) (ConfigStep.Legal X root .type)
      (typeAt root, if typeAt root = bytes "cli" then textAt root (bytes "cliName") else [],
        if typeAt root = bytes "cli" then textAt root (bytes "subCliName") else []) := by
  have hfield : ConfigStep.Legal X root .type →
      OptionalTextWithin root (bytes "type") MAX_TYPE_LENGTH := by
    rintro (h | h)
    · exact optionalText_of_typeAt (.inl rfl) h.1
    · exact optionalText_of_typeAt (.inr rfl) h.1
  refine Checks.iff (parseTypeField_checks.bind fun _ => ?_) (and_iff_right_of_imp hfield)
  have hwords : bytes "cli" ≠ bytes "shell" := by decide
  unfold ConfigStep.Legal
  generalize typeAt root = type
  by_cases hcli : type = bytes "cli"
  · rw [if_pos hcli, if_pos hcli, if_pos hcli]
    refine Checks.iff ((parseStringFieldWithMaxLen_checks _ _).bind fun _ =>
      (parseStringFieldWithMaxLen_checks _ _).map fun _ => _) ?_
    simp [hcli, hwords]
  · rw [if_neg hcli, if_neg hcli, if_neg hcli]
    by_cases hshell : type = bytes "shell"
    · rw [if_pos hshell]
      unfold checkShellTypeAllowed
      cases hbuilt : X.shellSandbox && X.isPcMode with
      | true =>
        rw [Bool.and_eq_true] at hbuilt
        exact (Checks.ok _).iff (by simp [hshell, hbuilt])
      | false =>
        rw [Bool.and_eq_false_iff] at hbuilt
        refine Checks.error _ (fun h => ?_) _
        obtain ⟨-, hshellSandbox, hpcMode⟩ := h.resolve_left fun h => hcli h.1
        simp [hshellSandbox, hpcMode] at hbuilt
    · rw [if_neg hshell]
      exact Checks.error _ (by simp [hcli, hshell]) _

/-! ### Objects -/

theorem validateJsonConstraints_checks (jsonStr : Bytes) (maxLen : Nat) :
    Checks (validateJsonConstraints jsonStr maxLen) (Measured maxLen jsonStr) () := by
  unfold validateJsonConstraints Measured
  refine Checks.iff (Checks.guard _ fun _ => Checks.guard _ fun _ => Checks.ok ()) ?_
  simp

theorem getOptionalObjectField_checks (key : Bytes) (maxLen : Nat) :
    Checks (getOptionalObjectField X root key maxLen) (HoldsObject X root key maxLen)
      (objectAt X root key) := by
  unfold getOptionalObjectField objectAt HoldsObject
  cases root.getObjectItem key with
  | none => exact Checks.ok none
  | some item =>
    cases item with
    | object members => exact (validateJsonConstraints_checks _ maxLen).map fun _ => _
    | string valuestring =>
      dsimp only
      by_cases htext : cStr valuestring = []
      · rw [if_pos htext, if_pos htext]
        exact (Checks.ok none).iff (by simp [htext])
      · rw [if_neg htext, if_neg htext, or_iff_right htext]
        refine (validateJsonConstraints_checks _ maxLen).bind fun _ => ?_
        cases X.cJSON_Parse (cStr valuestring) with
        | none => exact Checks.error _ (by simp) _
        | some object =>
          cases object with
          | object members => exact (Checks.ok _).iff (by simp)
          | _ => exact Checks.error _ (by simp) _
    | _ => exact Checks.error _ not_false _

theorem parseEnvItems_checks (items : List (Bytes × Json)) (out : EnvMap Bytes) :
    Checks (parseEnvItems items out) (∀ item ∈ items, LegalVariable item) (envOver items out) := by
  induction items generalizing out with
  | nil => exact (Checks.ok out).iff (by simp)
  | cons item items ih =>
    obtain ⟨string, value⟩ := item
    rw [List.forall_mem_cons]
    cases value with
    | string valuestring =>
      rw [parseEnvItems]
      refine Checks.iff (Checks.guard _ fun _ => ih _) (and_congr_left fun _ => ?_)
      simp [LegalVariable]
    | _ => exact Checks.error _ (by simp [LegalVariable]) _

theorem parseEnvField_checks (out : EnvMap Bytes) :
    Checks (parseEnvField X root out) (ConfigStep.Legal X root .env)
      (envOver (((objectAt X root (bytes "env")).map membersOf).getD []) out) := by
  unfold parseEnvField ConfigStep.Legal
  refine (getOptionalObjectField_checks _ _).bind fun _ => ?_
  cases objectAt X root (bytes "env") with
  | none => exact (Checks.ok out).iff (by simp)
  | some object => exact (parseEnvItems_checks _ out).iff (by simp)

/-! ### Policies -/

theorem parsePolicyMountSource_checks (item : Json) :
    Checks (parsePolicyMountSource item)
      ((textAt item (bytes "source")).head? = some slash ∧
        ¬ bytes "/../" <:+: textAt item (bytes "source") ∧ ¬ bytes "/.." <:+ textAt item (bytes "source"))
      (textAt item (bytes "source")) := by
  unfold parsePolicyMountSource textAt
  cases Json.stringOf (item.getObjectItem (bytes "source")) with
  | none => exact Checks.error _ (by simp) _
  | some path =>
    refine Checks.iff (Checks.guard _ fun _ => Checks.guard _ fun _ => Checks.ok path) ?_
    simp

theorem parsePolicyMountMode_checks (item : Json) :
    Checks (parsePolicyMountMode item)
      (textAt item (bytes "mode") = bytes "ro" ∨ textAt item (bytes "mode") = bytes "rw")
      (textAt item (bytes "mode") == bytes "ro") := by
  unfold parsePolicyMountMode textAt
  cases Json.stringOf (item.getObjectItem (bytes "mode")) with
  | none => exact Checks.error _ (by decide) _
  | some mode =>
    dsimp only [Option.getD_some]
    by_cases hro : mode = bytes "ro"
    · rw [if_pos hro, hro, beq_self_eq_true]
      exact (Checks.ok true).iff (by simp)
    · rw [if_neg hro, beq_eq_false_iff_ne.mpr hro]
      by_cases hrw : mode = bytes "rw"
      · rw [if_pos hrw]
        exact (Checks.ok false).iff (by simp [hrw])
      · rw [if_neg hrw]
        exact Checks.error _ (by simp [hro, hrw]) _

theorem legalMount_iff {item : Json} :
    LegalMount item ↔ item.isObject = true ∧
      ((textAt item (bytes "source")).head? = some slash ∧
        ¬ bytes "/../" <:+: textAt item (bytes "source") ∧
        ¬ bytes "/.." <:+ textAt item (bytes "source")) ∧
      (textAt item (bytes "mode") = bytes "ro" ∨ textAt item (bytes "mode") = bytes "rw") :=
  ⟨fun h => ⟨h.object, ⟨h.absolute, h.inside⟩, h.mode⟩, fun h => ⟨h.1, h.2.1.1, h.2.1.2, h.2.2⟩⟩

theorem parsePolicyMountItem_checks (item : Json) :
    Checks (parsePolicyMountItem item) (LegalMount item)
      { source := textAt item (bytes "source"), readOnly := textAt item (bytes "mode") == bytes "ro" } := by
  unfold parsePolicyMountItem
  rw [legalMount_iff]
  refine Checks.iff (Checks.guard _ fun _ => (parsePolicyMountSource_checks item).bind fun _ =>
    (parsePolicyMountMode_checks item).map fun _ => _) ?_
  simp

theorem parsePolicyMounts_checks (policy : Json) :
    Checks (parsePolicyMounts policy) (LegalMounts policy) (mountsOf policy) := by
  unfold parsePolicyMounts LegalMounts mountsOf
  cases policy.getObjectItem (bytes "mounts") with
  | none => exact (Checks.ok []).iff (by simp)
  | some item =>
    cases item with
    | array mounts =>
      refine Checks.iff (Checks.guard _ fun _ => Checks.mapM fun mount _ =>
        parsePolicyMountItem_checks mount) ?_
      simp
    | _ => exact Checks.error _ (by simp) _

theorem parseStartupRuleGroups_checks (policy : Json) :
    Checks (parseStartupRuleGroups X policy)
      (X.shellSandbox = true → LegalRuleGroups .STARTUP policy)
      (if X.shellSandbox then ruleGroupsOf policy else []) := by
  unfold parseStartupRuleGroups
  cases X.shellSandbox with
  | false => exact (Checks.ok []).iff (by simp)
  | true =>
    have h := parseOperationControlRuleGroups_checks .STARTUP policy
    constructor
    intro value
    cases hread : parseOperationControlRuleGroups .STARTUP policy with
    | error why =>
      have hnot := h.eq_ok_iff (ruleGroupsOf policy)
      simp only [hread, reduceCtorEq, and_true, false_iff] at hnot
      simp [hnot]
    | ok groups =>
      obtain ⟨hl, rfl⟩ := (h.eq_ok_iff groups).mp hread
      simp [hl]

theorem parsePolicyField_checks :
    Checks (parsePolicyField X root) (ConfigStep.Legal X root .policy)
      (((objectAt X root (bytes "policy")).map mountsOf).getD [],
        if X.shellSandbox then ((objectAt X root (bytes "policy")).map ruleGroupsOf).getD []
        else []) := by
  unfold parsePolicyField ConfigStep.Legal
  refine (getOptionalObjectField_checks _ _).bind fun _ => ?_
  cases objectAt X root (bytes "policy") with
  | none => exact ((Checks.ok _).iff (by simp)).means (by simp)
  | some policy =>
    refine (((parsePolicyMounts_checks policy).bind fun _ =>
      (parseStartupRuleGroups_checks policy).map fun _ => _).iff ?_)
    simp

/-! ### Namespaces -/

theorem convertNsFlags_checks (names : List Bytes) :
    Checks (convertNsFlags names) (∀ name ∈ names, (nsFlag name).isSome)
      ((names.filterMap nsFlag).foldl (· ||| ·) DEFAULT_NS_FLAGS) := by
  unfold convertNsFlags
  rw [List.foldl_filterMap]
  refine Checks.foldlM (fun name _ parsed => ?_) DEFAULT_NS_FLAGS
  cases nsFlag name with
  | none => exact Checks.error _ (by simp) _
  | some bit => exact (Checks.ok _).iff (by simp)

def nsFlagWords : List (Bytes × UInt32) :=
  [(bytes "mnt", CLONE_NEWNS), (bytes "net", CLONE_NEWNET), (bytes "uts", CLONE_NEWUTS),
    (bytes "ipc", CLONE_NEWIPC), (bytes "pid", CLONE_NEWPID), (bytes "user", CLONE_NEWUSER)]

theorem mem_nsFlagWords {name : Bytes} {bit : UInt32} (h : nsFlag name = some bit) :
    (name, bit) ∈ nsFlagWords := by
  unfold nsFlag at h
  split_ifs at h
  all_goals
    subst_vars
    cases h
    simp [nsFlagWords]

/-- The name of a namespace is never too long. -/
theorem length_of_nsFlag {name : Bytes} (h : (nsFlag name).isSome) :
    name.length ≤ MAX_NS_FLAG_STRING_LENGTH := by
  obtain ⟨bit, hflag⟩ := Option.isSome_iff_exists.mp h
  exact (by decide : ∀ p ∈ nsFlagWords, p.1.length ≤ MAX_NS_FLAG_STRING_LENGTH) _
    (mem_nsFlagWords hflag)

theorem or_has {a b c : UInt32} : (a ||| b) &&& c ≠ 0 ↔ a &&& c ≠ 0 ∨ b &&& c ≠ 0 := by
  have hdistrib : (a ||| b) &&& c = (a &&& c) ||| (b &&& c) :=
    UInt32.toBitVec_inj.mp BitVec.and_or_distrib_right
  rw [hdistrib, Ne, UInt32.or_eq_zero_iff, not_and_or]

theorem foldl_or_has {bits : List UInt32} {a c : UInt32} :
    bits.foldl (· ||| ·) a &&& c ≠ 0 ↔ a &&& c ≠ 0 ∨ ∃ b ∈ bits, b &&& c ≠ 0 := by
  induction bits generalizing a with
  | nil => simp
  | cons b bits ih => rw [List.foldl_cons, ih, or_has, List.exists_mem_cons_iff, or_assoc]

/-- Each name stands for a flag of its own. -/
theorem nsFlag_has {name name' : Bytes} {bit bit' : UInt32} (h : nsFlag name = some bit)
    (h' : nsFlag name' = some bit') : bit' &&& bit ≠ 0 ↔ name' = name := by
  have hwords : ∀ p ∈ nsFlagWords, ∀ q ∈ nsFlagWords, (q.2 &&& p.2 ≠ 0 ↔ q.1 = p.1) := by decide
  exact hwords _ (mem_nsFlagWords h) _ (mem_nsFlagWords h')

/-- A namespace is among the flags exactly where it is asked for, and the one of the mounts always
is. -/
theorem nsFlagsAt_has {name : Bytes} {bit : UInt32} (h : nsFlag name = some bit) :
    nsFlagsAt root &&& bit ≠ 0 ↔ name = bytes "mnt" ∨ name ∈ nsNames root := by
  have hmnt : DEFAULT_NS_FLAGS &&& bit ≠ 0 ↔ name = bytes "mnt" :=
    (nsFlag_has h (show nsFlag (bytes "mnt") = some DEFAULT_NS_FLAGS from rfl)).trans eq_comm
  rw [nsFlagsAt, foldl_or_has, hmnt]
  refine or_congr_right ⟨?_, fun hname => ?_⟩
  · rintro ⟨bit', hbit', hhas⟩
    obtain ⟨name', hname', hflag⟩ := List.mem_filterMap.mp hbit'
    rwa [← (nsFlag_has h hflag).mp hhas]
  · exact ⟨bit, List.mem_filterMap.mpr ⟨name, hname, h⟩, (nsFlag_has h h).mpr rfl⟩

theorem parseNsFlagsField_checks :
    Checks (parseNsFlagsField root) (LegalNsFlags root) (nsFlagsAt root) := by
  unfold parseNsFlagsField LegalNsFlags nsFlagsAt nsNames
  cases root.getObjectItem (bytes "nsFlags") with
  | none => exact (Checks.ok _).iff (by simp)
  | some item =>
    cases item with
    | array items =>
      have hitems : Checks (items.mapM parseNsFlagItem)
          (∀ i ∈ items, ∃ name, Json.stringOf (some i) = some name ∧
            name.length ≤ MAX_NS_FLAG_STRING_LENGTH)
          (items.filterMap fun item => Json.stringOf (some item)) := by
        refine Checks.filterMapM (fun i _ value => ?_) fun i _ h => ?_
        · unfold parseNsFlagItem
          cases Json.stringOf (some i) with
          | none => simp
          | some name =>
            dsimp only
            split
            case isTrue h => simp [Nat.not_le.mpr h]
            case isFalse h => simp [Nat.not_lt.mp h]
        · obtain ⟨name, hname, -⟩ := h
          rw [hname]
          rfl
      refine Checks.iff (Checks.guard _ fun _ => hitems.bind fun _ => convertNsFlags_checks _) ?_
      simp only [not_lt, List.mem_filterMap, forall_exists_index, and_imp, Option.some.injEq,
        forall_eq', Json.array.injEq, exists_eq_left']
      refine and_congr_right fun _ => ⟨fun h i hi => ?_, fun h => ⟨fun i hi => ?_, ?_⟩⟩
      · obtain ⟨name, hname, -⟩ := h.1 i hi
        exact ⟨name, hname, h.2 name i hi hname⟩
      · obtain ⟨name, hname, hflag⟩ := h i hi
        exact ⟨name, hname, length_of_nsFlag hflag⟩
      · intro name i hi hname
        obtain ⟨name', hname', hflag⟩ := h i hi
        rwa [Option.some.inj (hname.symm.trans hname')]
    | _ => exact Checks.error _ (by simp) _

/-! ### The whole configuration -/

/-- What a step makes of the configuration. -/
def ConfigStep.read (X : ConfigSources) (root : Json) (config : SandboxConfig) :
    ConfigStep → SandboxConfig
  | callerTokenId => { config with callerTokenId := (configOf X root).callerTokenId }
  | callerPid => { config with callerPid := (configOf X root).callerPid }
  | uid => { config with uid := (configOf X root).uid }
  | gid => { config with gid := (configOf X root).gid }
  | challenge => { config with challenge := textOver root (bytes "challenge") config.challenge }
  | appIdentifier =>
    { config with
      appIdentifier := (configOf X root).appIdentifier
      appIdentifierU64 := (configOf X root).appIdentifierU64 }
  | bundleName => { config with bundleName := (configOf X root).bundleName }
  | type =>
    { config with
      type := (configOf X root).type
      cliName := (configOf X root).cliName
      subCliName := (configOf X root).subCliName }
  | name => { config with name := textOver root (bytes "name") config.name }
  | workdir => { config with workdir := textOver root (bytes "workdir") config.workdir }
  | subjectId => { config with subjectId := textOver root (bytes "subjectId") config.subjectId }
  | env =>
    { config with env := envOver (((objectAt X root (bytes "env")).map membersOf).getD []) config.env }
  | policy =>
    { config with
      mounts := (configOf X root).mounts
      addOperationControlRuleGroups := (configOf X root).addOperationControlRuleGroups }
  | nsFlags => { config with nsFlags := (configOf X root).nsFlags }

theorem ConfigStep.parse_checks (step : ConfigStep) (config : SandboxConfig) :
    Checks (step.parse X root config) (step.Legal X root) (step.read X root config) := by
  cases step with
  | callerTokenId =>
    exact ((numberField_checks _ _ _).map fun d => UInt64.ofInt (truncated d)).map
      fun callerTokenId => { config with callerTokenId }
  | callerPid =>
    exact ((numberField_checks _ _ _).map fun d => Int32.ofInt (truncated d)).map
      fun callerPid => { config with callerPid }
  | uid =>
    exact ((numberField_checks _ _ _).map fun d => UInt32.ofInt (truncated d)).map
      fun uid => { config with uid }
  | gid =>
    exact ((numberField_checks _ _ _).map fun d => UInt32.ofInt (truncated d)).map
      fun gid => { config with gid }
  | challenge =>
    exact (parseOptionalStringFieldWithMaxLen_checks _ _ _).map
      fun challenge => { config with challenge }
  | appIdentifier =>
    exact parseAppIdentifier_checks.map fun parsed =>
      { config with appIdentifier := parsed.1, appIdentifierU64 := parsed.2 }
  | bundleName =>
    exact (parseStringFieldWithMaxLen_checks _ _).map fun bundleName => { config with bundleName }
  | type =>
    exact parseTypeAndNames_checks.map fun parsed =>
      { config with type := parsed.1, cliName := parsed.2.1, subCliName := parsed.2.2 }
  | name => exact (parseNameField_checks _).map fun name => { config with name }
  | workdir =>
    exact (parseOptionalStringFieldWithMaxLen_checks _ _ _).map
      fun workdir => { config with workdir }
  | subjectId =>
    exact (parseOptionalStringFieldWithMaxLen_checks _ _ _).map
      fun subjectId => { config with subjectId }
  | env => exact (parseEnvField_checks _).map fun env => { config with env }
  | policy =>
    exact parsePolicyField_checks.map fun parsed =>
      { config with mounts := parsed.1, addOperationControlRuleGroups := parsed.2 }
  | nsFlags => exact parseNsFlagsField_checks.map fun nsFlags => { config with nsFlags }

theorem mem_parseSteps (step : ConfigStep) : step ∈ parseSteps := by
  cases step <;> decide

theorem textOver_nil (key : Bytes) : textOver root key [] = textAt root key := by
  unfold textOver textAt
  split
  case isTrue h => rw [h]; rfl
  case isFalse => rfl

/-- The steps, one after another, make the configuration. -/
theorem foldl_read : parseSteps.foldl (fun config step => step.read X root config) {} =
    configOf X root := by
  simp only [parseSteps, List.foldl_cons, List.foldl_nil, ConfigStep.read, textOver_nil]
  rfl

theorem parseSteps_checks (X : ConfigSources) (root : Json) :
    Checks (parseSteps.foldlM (fun config step => step.parse X root config) {}) (LegalConfig X root)
      (configOf X root) := by
  have hsteps : Checks (parseSteps.foldlM (fun config step => step.parse X root config) {})
      (∀ step ∈ parseSteps, step.Legal X root)
      (parseSteps.foldl (fun config step => step.read X root config) {}) :=
    Checks.foldlM (fun step _ config => ConfigStep.parse_checks step config) ({} : SandboxConfig)
  rw [foldl_read] at hsteps
  exact hsteps.iff ⟨fun h step => h step (mem_parseSteps step), fun h step _ => h step⟩

end

/-- **A configuration is accepted exactly where it is legal, and read as it is written.** -/
theorem parseConfig_eq_ok_iff (X : ConfigSources) (jsonStr : Bytes) (config : SandboxConfig) :
    parseConfig X jsonStr = .ok config ↔ JsonDepth.checkJsonDepth jsonStr = .SUCCESS ∧
      ∃ root, X.cJSON_Parse (cStr jsonStr) = some root ∧ LegalConfig X root ∧
        configOf X root = config := by
  unfold parseConfig
  by_cases hdepth : JsonDepth.checkJsonDepth jsonStr = .SUCCESS
  · rw [if_neg (not_not.mpr hdepth), and_iff_right hdepth]
    cases X.cJSON_Parse (cStr jsonStr) with
    | none => simp
    | some root => simpa using (parseSteps_checks X root).eq_ok_iff config
  · rw [if_pos hdepth]
    simp [hdepth]

end SandboxManager.Claw
