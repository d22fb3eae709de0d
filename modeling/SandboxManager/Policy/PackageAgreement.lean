import SandboxManager.Policy.PackageEvents
import SandboxManager.Policy.PreserveRuns

/-! Whether a service that is started by an event does what a running one does.

Both do what the extras ask for (`asked`) unless they refuse, and each has refusals of its own. A
running service wants a user and a token to be there; a service that is started by the event takes
their defaults for them, no user and token zero, but wants an application index to be there, a
user above zero, and a bundle name that does not begin with a NUL. -/
namespace SandboxManager.Policy
open Library

/-! ### Extras as texts -/

theorem lookup_extra (key key' : Bytes) (value : Option Bytes) :
    (extra key' value).lookup key = if key = key' then value else none := by
  cases value with
  | none => rw [ite_self]; rfl
  | some value =>
    show [(key', value)].lookup key = _
    rw [List.lookup_singleton]
    exact if_congr beq_iff_eq rfl rfl

/-- The extras that are looked up by their keys. -/
theorem lookup_want (extras : PackageExtras) :
    extras.want.lookup (bytes "appIndex") = extras.appIndex.map (fun n => toDecimal n.toInt) ∧
      extras.want.lookup (bytes "appIdentifier") = extras.appIdentifier ∧
      extras.want.lookup SUPPORT_PRESERVE = extras.supportPreserve := by
  have hindex : bytes "appIndex" ≠ bytes "accessTokenId" ∧ bytes "appIndex" ≠ bytes "appIdentifier" ∧
      bytes "appIndex" ≠ bytes "bundleName" ∧ bytes "appIndex" ≠ SUPPORT_PRESERVE ∧
      bytes "appIndex" ≠ bytes "userId" := by decide +kernel
  have hidentifier : bytes "appIdentifier" ≠ bytes "accessTokenId" ∧
      bytes "appIdentifier" ≠ bytes "bundleName" ∧ bytes "appIdentifier" ≠ SUPPORT_PRESERVE ∧
      bytes "appIdentifier" ≠ bytes "userId" := by decide +kernel
  have hpreserve : SUPPORT_PRESERVE ≠ bytes "accessTokenId" ∧
      SUPPORT_PRESERVE ≠ bytes "bundleName" ∧ SUPPORT_PRESERVE ≠ bytes "userId" := by decide +kernel
  simp only [PackageExtras.want, List.lookup_append, lookup_extra, hindex, hidentifier, hpreserve,
    hindex.2.1.symm, hindex.2.2.2.1.symm, hidentifier.2.2.1.symm, if_true, if_false,
    Option.or_none, Option.none_or, and_self]

theorem getDemandReasonInt32_toDecimal (n : Int32) :
    getDemandReasonInt32 (toDecimal n.toInt) = some n := by
  have hlow := n.le_toInt
  have hhigh := n.toInt_lt
  have hrange : (LONG_MIN ≤ n.toInt && n.toInt ≤ LONG_MAX) = true := by
    rw [Bool.and_eq_true, decide_eq_true_eq, decide_eq_true_eq, LONG_MIN, LONG_MAX]
    omega
  rw [getDemandReasonInt32, getDemandReasonValue, if_neg (toDecimal_ne_nil _), cStr_toDecimal,
    leadingInteger_toDecimal]
  simp only [hrange, Bool.not_true, Bool.false_eq_true, if_false, ne_eq, not_true, Int32.ofInt_toInt]

/-- The cast through the unsigned type is the cast. -/
theorem ofInt_toInt_eq (n : Int32) : UInt32.ofInt n.toInt = n.toUInt32 := by
  apply UInt32.toNat.inj
  have hlt := n.toUInt32.toNat_lt
  have hbits : n.toInt = n.toBitVec.toInt := rfl
  have hmod : n.toInt % 2 ^ 32 = n.toUInt32.toNat := by
    rw [hbits, BitVec.toInt_eq_toNat_bmod]
    exact Int.bmod_emod.trans (Int.emod_eq_of_lt (Int.natCast_nonneg _) (by exact_mod_cast hlt))
  rw [UInt32.ofInt, hmod, Int.toNat_natCast, UInt32.toNat_ofNat_of_lt' hlt]

theorem toUInt32_eq_zero {n : Int32} : n.toUInt32 = 0 ↔ n = 0 :=
  ⟨fun h => congrArg UInt32.toInt32 h, fun h => congrArg Int32.toUInt32 h⟩

theorem getDemandReasonUInt32_toDecimal (n : Int32) :
    getDemandReasonUInt32 (toDecimal n.toInt) = some n.toUInt32 := by
  have hlow := n.le_toInt
  have hhigh := n.toInt_lt
  have hrange : decide (n.toInt.natAbs ≤ ULONG_MAX) = true := by
    rw [decide_eq_true_eq, ULONG_MAX]
    omega
  rw [getDemandReasonUInt32, getDemandReasonValue, if_neg (toDecimal_ne_nil _), cStr_toDecimal,
    leadingInteger_toDecimal]
  simp only [hrange, Bool.not_true, Bool.false_eq_true, if_false, ne_eq, not_true, ofInt_toInt_eq]

/-! ### The reason -/

/-- An extra that is read, and one that is not. -/
theorem foldlM_extra (info : DemandReasonInfo) (key : Bytes) (value : Option Bytes) :
    (extra key value).foldlM readExtra info =
      value.elim (some info) fun value => readExtra info (key, value) := by
  cases value with
  | none => rfl
  | some value =>
    show [(key, value)].foldlM readExtra info = _
    rw [List.foldlM_cons]
    cases h : readExtra info (key, value) with
    | none => rw [Option.elim_some, h]; rfl
    | some info => rw [Option.elim_some, h]; rfl

theorem readExtra_unread (info : DemandReasonInfo) {key : Bytes} (value : Bytes)
    (hbundle : cStr key ≠ bytes "bundleName") (huser : cStr key ≠ bytes "userId")
    (htoken : cStr key ≠ bytes "accessTokenId") : readExtra info (key, value) = some info := by
  simp only [readExtra, hbundle, huser, htoken, if_false]
  rfl

theorem readExtra_bundleName (info : DemandReasonInfo) (value : Bytes) :
    readExtra info (bytes "bundleName", value) =
      if cStr value = [] then none else some { info with bundleName := cStr value } := by
  have hkey : cStr (bytes "bundleName") = bytes "bundleName" := by decide +kernel
  have huser : bytes "bundleName" ≠ bytes "userId" := by decide +kernel
  have htoken : bytes "bundleName" ≠ bytes "accessTokenId" := by decide +kernel
  simp only [readExtra, hkey, huser, htoken, if_true, if_false]
  split <;> rfl

theorem readExtra_userId (info : DemandReasonInfo) (n : Int32) :
    readExtra info (bytes "userId", toDecimal n.toInt) =
      if n ≤ 0 then none else some { info with userId := n } := by
  have hkey : cStr (bytes "userId") = bytes "userId" := by decide +kernel
  have hbundle : bytes "userId" ≠ bytes "bundleName" := by decide +kernel
  have htoken : bytes "userId" ≠ bytes "accessTokenId" := by decide +kernel
  simp only [readExtra, hkey, hbundle, htoken, if_true, if_false, cStr_toDecimal,
    getDemandReasonInt32_toDecimal]
  rfl

theorem readExtra_accessTokenId (info : DemandReasonInfo) (n : Int32) :
    readExtra info (bytes "accessTokenId", toDecimal n.toInt) =
      if n = 0 then none else some { info with tokenId := n.toUInt32 } := by
  have hkey : cStr (bytes "accessTokenId") = bytes "accessTokenId" := by decide +kernel
  have hbundle : bytes "accessTokenId" ≠ bytes "bundleName" := by decide +kernel
  have huser : bytes "accessTokenId" ≠ bytes "userId" := by decide +kernel
  simp only [readExtra, hkey, hbundle, huser, if_true, if_false, cStr_toDecimal,
    getDemandReasonUInt32_toDecimal]
  show (if n.toUInt32 = 0 then none else some { info with tokenId := n.toUInt32 }) = _
  exact if_congr toUInt32_eq_zero rfl rfl

/-! What each extra that is read does to what was known before. -/

theorem read_accessTokenId (token : Option Int32) :
    ((token.map fun n => toDecimal n.toInt).elim (some {}) fun value =>
      readExtra {} (bytes "accessTokenId", value)) =
    if token = some 0 then none else some ⟨[], -1, (token.getD 0).toUInt32⟩ := by
  cases token with
  | none => rfl
  | some n =>
    rw [Option.map_some, Option.elim_some, readExtra_accessTokenId]
    exact if_congr Option.some_inj.symm rfl rfl

theorem read_bundleName (bundleName : Option Bytes) (userId : Int32) (tokenId : UInt32) :
    (bundleName.elim (some ⟨[], userId, tokenId⟩) fun value =>
      readExtra ⟨[], userId, tokenId⟩ (bytes "bundleName", value)) =
    if bundleName ≠ none ∧ cStr (bundleName.getD []) = [] then none
    else some ⟨cStr (bundleName.getD []), userId, tokenId⟩ := by
  cases bundleName with
  | none => rfl
  | some value =>
    rw [Option.elim_some, readExtra_bundleName]
    exact if_congr (and_iff_right (Option.some_ne_none value)).symm rfl rfl

theorem read_userId (user : Option Int32) (bundleName : Bytes) (tokenId : UInt32) :
    ((user.map fun n => toDecimal n.toInt).elim (some ⟨bundleName, -1, tokenId⟩) fun value =>
      readExtra ⟨bundleName, -1, tokenId⟩ (bytes "userId", value)) =
    if user.any (· ≤ 0) then none else some ⟨bundleName, user.getD (-1), tokenId⟩ := by
  cases user with
  | none => rfl
  | some n =>
    rw [Option.map_some, Option.elim_some, readExtra_userId]
    exact if_congr decide_eq_true_iff.symm rfl rfl

/-- What is refused of a bundle, a user and a token when the service is started by the event. -/
def RefusedReason (extras : PackageExtras) : Prop :=
  cStr (extras.bundleName.getD []) = [] ∨ extras.accessTokenId = some 0 ∨
    extras.userId.any (· ≤ 0)

theorem getDemandReasonInfo_want (extras : PackageExtras) :
    (RefusedReason extras → getDemandReasonInfo extras.want = none) ∧
      (¬ RefusedReason extras → getDemandReasonInfo extras.want =
        some ⟨cStr (extras.bundleName.getD []), extras.userId.getD (-1),
          (extras.accessTokenId.getD 0).toUInt32⟩) := by
  have hidentifier : ∀ info value, readExtra info (bytes "appIdentifier", value) = some info :=
    fun info value => readExtra_unread info value (by decide +kernel) (by decide +kernel)
      (by decide +kernel)
  have hindex : ∀ info value, readExtra info (bytes "appIndex", value) = some info :=
    fun info value => readExtra_unread info value (by decide +kernel) (by decide +kernel)
      (by decide +kernel)
  have hpreserve : ∀ info value, readExtra info (SUPPORT_PRESERVE, value) = some info :=
    fun info value => readExtra_unread info value (by decide +kernel) (by decide +kernel)
      (by decide +kernel)
  have hunread : ∀ (value : Option Bytes) (info : DemandReasonInfo),
      value.elim (some info) (fun _ => some info) = some info := by
    intro value info
    cases value <;> rfl
  simp only [getDemandReasonInfo, PackageExtras.want, List.foldlM_append, foldlM_extra, hidentifier,
    hindex, hpreserve, hunread, read_accessTokenId]
  by_cases htoken : extras.accessTokenId = some 0
  · refine ⟨fun _ => ?_, fun h => absurd (Or.inr (Or.inl htoken)) h⟩
    rw [if_pos htoken]
    rfl
  by_cases hname : extras.bundleName ≠ none ∧ cStr (extras.bundleName.getD []) = []
  · refine ⟨fun _ => ?_, fun h => absurd (Or.inl hname.2) h⟩
    simp only [htoken, if_false, Option.bind_eq_bind, Option.bind_some, read_bundleName]
    rw [if_pos hname]
    rfl
  by_cases huser : extras.userId.any (· ≤ 0) = true
  · refine ⟨fun _ => ?_, fun h => absurd (Or.inr (Or.inr huser)) h⟩
    simp only [htoken, if_false, Option.bind_eq_bind, Option.bind_some, read_bundleName, hname,
      read_userId, huser]
    rfl
  simp only [htoken, if_false, Option.bind_eq_bind, Option.bind_some, read_bundleName, hname,
    read_userId, huser]
  constructor
  · rintro (hempty | h | h)
    · exact if_pos hempty
    · exact absurd h htoken
    · exact absurd h huser
  · intro h
    exact if_neg fun hempty => h (Or.inl hempty)

/-! ### What is asked for -/

/-- What an event comes to. -/
inductive PackageEffect where
  | nothing
  | remove (tokenId : UInt32)
  | save (bundleName : Bytes) (userId : Int32) (appIdentifier : Bytes) (tokenId : UInt32)
  | restore (appIdentifier : Bytes) (userId : Int32) (tokenId : UInt32)

def PackageEffect.on (env : PreserveEnv) (s : PreserveState) : PackageEffect → PreserveState
  | .nothing => s
  | .remove tokenId => (removeBundlePolicy env tokenId s).2
  | .save bundleName userId appIdentifier tokenId =>
    (saveBundlePersistentPolicies env bundleName userId appIdentifier tokenId s).2
  | .restore appIdentifier userId tokenId => restoreAndDelete env appIdentifier userId tokenId s

/-- The record of the policies is to be kept. -/
def Keeps (extras : PackageExtras) : Prop :=
  extras.appIndex = some 0 ∧ extras.supportPreserve = some (bytes "true")

/-- The event asks for something: an installation names its application, and so does the removal
of the main package when it keeps the policies, which it has to say whether it does. -/
def Asks (event : CommonEvent) (extras : PackageExtras) : Prop :=
  if event = .COMMON_EVENT_PACKAGE_ADDED then extras.appIdentifier.getD [] ≠ []
  else (extras.appIndex = some 0 → extras.supportPreserve.getD [] ≠ []) ∧
    (Keeps extras → extras.appIdentifier.getD [] ≠ [])

instance (extras : PackageExtras) : Decidable (Keeps extras) := inferInstanceAs (Decidable (_ ∧ _))

instance (event : CommonEvent) (extras : PackageExtras) : Decidable (Asks event extras) := by
  unfold Asks
  infer_instance

/-- What is asked for, of a bundle, a user and a token. -/
def asked (event : CommonEvent) (extras : PackageExtras) (info : DemandReasonInfo) : PackageEffect :=
  if ¬ Asks event extras then .nothing
  else if event = .COMMON_EVENT_PACKAGE_ADDED then
    .restore (extras.appIdentifier.getD []) info.userId info.tokenId
  else if Keeps extras then
    .save info.bundleName info.userId (extras.appIdentifier.getD []) info.tokenId
  else .remove info.tokenId

section
variable {env : PreserveEnv} {event : CommonEvent} {extras : PackageExtras} {s : PreserveState}
  {info : DemandReasonInfo}

/-- Without an identifier nothing is restored and nothing is saved. -/
theorem restoreAndDelete_nil (userId : Int32) (tokenId : UInt32) :
    restoreAndDelete env [] userId tokenId s = s := rfl

theorem saveBundlePersistentPolicies_nil (bundleName : Bytes) (userId : Int32) (tokenId : UInt32) :
    (saveBundlePersistentPolicies env bundleName userId [] tokenId s).2 = s := rfl

theorem asked_added (info : DemandReasonInfo) :
    (asked .COMMON_EVENT_PACKAGE_ADDED extras info).on env s =
      restoreAndDelete env (extras.appIdentifier.getD []) info.userId info.tokenId s := by
  by_cases hnone : extras.appIdentifier.getD [] = []
  · have hasks : ¬ Asks .COMMON_EVENT_PACKAGE_ADDED extras := fun h => h hnone
    rw [asked, if_pos hasks, hnone, restoreAndDelete_nil]
    rfl
  · have hasks : Asks .COMMON_EVENT_PACKAGE_ADDED extras := hnone
    rw [asked, if_neg (not_not.mpr hasks), if_pos rfl]
    rfl

/-- A removal, as the running service goes about it. -/
theorem asked_removed (hevent : event ≠ .COMMON_EVENT_PACKAGE_ADDED) (info : DemandReasonInfo) :
    (asked event extras info).on env s =
      if extras.appIndex = some 0 then
        if extras.supportPreserve.getD [] = [] then s
        else if extras.supportPreserve.getD [] = bytes "true" then
          (saveBundlePersistentPolicies env info.bundleName info.userId
            (extras.appIdentifier.getD []) info.tokenId s).2
        else (removeBundlePolicy env info.tokenId s).2
      else (removeBundlePolicy env info.tokenId s).2 := by
  by_cases hindex : extras.appIndex = some 0
  case neg =>
    have hkeeps : ¬ Keeps extras := fun h => hindex h.1
    have hasks : Asks event extras := by
      rw [Asks, if_neg hevent]
      exact ⟨fun h => absurd h hindex, fun h => absurd h hkeeps⟩
    rw [asked, if_neg (not_not.mpr hasks), if_neg hevent, if_neg hkeeps, if_neg hindex]
    rfl
  rw [if_pos hindex]
  by_cases hempty : extras.supportPreserve.getD [] = []
  · have hasks : ¬ Asks event extras := by
      rw [Asks, if_neg hevent]
      exact fun h => h.1 hindex hempty
    rw [asked, if_pos hasks, if_pos hempty]
    rfl
  rw [if_neg hempty]
  have hkeeps_iff : Keeps extras ↔ extras.supportPreserve.getD [] = bytes "true" := by
    rw [Keeps, and_iff_right hindex]
    cases extras.supportPreserve with
    | none => exact iff_of_false (Option.some_ne_none _).symm (by decide +kernel)
    | some value => exact Option.some_inj
  by_cases hkeeps : Keeps extras
  · rw [if_pos (hkeeps_iff.mp hkeeps)]
    by_cases hnone : extras.appIdentifier.getD [] = []
    · have hasks : ¬ Asks event extras := by
        rw [Asks, if_neg hevent]
        exact fun h => h.2 hkeeps hnone
      rw [asked, if_pos hasks, hnone, saveBundlePersistentPolicies_nil]
      rfl
    · have hasks : Asks event extras := by
        rw [Asks, if_neg hevent]
        exact ⟨fun _ => hempty, fun _ => hnone⟩
      rw [asked, if_neg (not_not.mpr hasks), if_neg hevent, if_pos hkeeps]
      rfl
  · have hasks : Asks event extras := by
      rw [Asks, if_neg hevent]
      exact ⟨fun _ => hempty, fun h => absurd h hkeeps⟩
    rw [asked, if_neg (not_not.mpr hasks), if_neg hevent, if_neg hkeeps,
      if_neg fun h => hkeeps (hkeeps_iff.mpr h)]
    rfl

/-! ### The two handlers -/

/-- What a service that is started by the event refuses besides. -/
def MissesIndex (event : CommonEvent) (extras : PackageExtras) : Prop :=
  event ≠ .COMMON_EVENT_PACKAGE_ADDED ∧ extras.appIndex = none

/-- What the running service refuses. -/
def RefusedWant (extras : PackageExtras) : Prop :=
  extras.bundleName.getD [] = [] ∨ extras.accessTokenId.getD 0 = 0 ∨ extras.userId.getD (-1) = -1

/-- The bundle, the user and the token, as either handler reads them. -/
def reasonInfo (extras : PackageExtras) : DemandReasonInfo :=
  ⟨cStr (extras.bundleName.getD []), extras.userId.getD (-1),
    (extras.accessTokenId.getD 0).toUInt32⟩

def wantInfo (extras : PackageExtras) : DemandReasonInfo :=
  ⟨extras.bundleName.getD [], extras.userId.getD (-1), (extras.accessTokenId.getD 0).toUInt32⟩

theorem getDemandText_eq (key : Bytes) {want : List (Bytes × Bytes)} {value : Option Bytes}
    (h : want.lookup key = value) :
    getDemandText key want = if value.getD [] = [] then none else some (value.getD []) := by
  rw [getDemandText, h]
  cases value <;> rfl

theorem packageAddEventAction_snd {want : List (Bytes × Bytes)} {appIdentifier : Bytes}
    (hinfo : getDemandReasonInfo want = some info)
    (hidentifier : getDemandAppIdentifier want = some appIdentifier) :
    (packageAddEventAction env want s).2 =
      restoreAndDelete env appIdentifier info.userId info.tokenId s := by
  rw [packageAddEventAction, hinfo, hidentifier, restoreAndDelete]
  dsimp only
  split <;> rfl

theorem packageRemoveEventAction_snd (hinfo : getDemandReasonInfo extras.want = some info)
    {appIndex : Int32} (hindex : extras.appIndex = some appIndex) :
    (packageRemoveEventAction env extras.want s).2 =
      if extras.appIndex = some 0 then
        if extras.supportPreserve.getD [] = [] then s
        else if extras.supportPreserve.getD [] = bytes "true" then
          (saveBundlePersistentPolicies env info.bundleName info.userId
            (extras.appIdentifier.getD []) info.tokenId s).2
        else (removeBundlePolicy env info.tokenId s).2
      else (removeBundlePolicy env info.tokenId s).2 := by
  have happIndex : getDemandReasonAppIndex extras.want = some appIndex := by
    rw [getDemandReasonAppIndex, (lookup_want extras).1, hindex]
    exact getDemandReasonInt32_toDecimal appIndex
  have hidentifier : getDemandAppIdentifier extras.want = _ :=
    getDemandText_eq _ (lookup_want extras).2.1
  have hpreserve : getDemandPreserveConfig extras.want = _ :=
    getDemandText_eq _ (lookup_want extras).2.2
  simp only [packageRemoveEventAction, hinfo, happIndex, hpreserve, hidentifier, hindex,
    Option.some_inj]
  by_cases hmain : appIndex = 0
  case neg => rw [if_neg hmain, if_neg hmain]
  rw [if_pos hmain, if_pos hmain]
  by_cases hempty : extras.supportPreserve.getD [] = []
  · simp only [hempty, if_true]
  simp only [hempty, if_false]
  by_cases htrue : extras.supportPreserve.getD [] = bytes "true"
  case neg => rw [if_neg htrue, if_neg htrue]
  rw [if_pos htrue, if_pos htrue]
  by_cases hnone : extras.appIdentifier.getD [] = []
  · simp only [hnone, if_true, saveBundlePersistentPolicies_nil]
  · simp only [hnone, if_false]

theorem packageRemoveEventAction_refused
    (h : getDemandReasonInfo extras.want = none ∨ extras.appIndex = none) :
    (packageRemoveEventAction env extras.want s).2 = s := by
  rcases h with h | h
  · simp only [packageRemoveEventAction, h]
  · have hindex : getDemandReasonAppIndex extras.want = none := by
      rw [getDemandReasonAppIndex, (lookup_want extras).1, h]
      rfl
    rw [packageRemoveEventAction, hindex]
    cases getDemandReasonInfo extras.want <;> rfl

theorem startByEventAction_refused (h : RefusedReason extras ∨ MissesIndex event extras) :
    (startByEventAction env event extras.want s).2 = s := by
  rcases h with h | ⟨hevent, hindex⟩
  · have hinfo := (getDemandReasonInfo_want extras).1 h
    cases event with
    | COMMON_EVENT_PACKAGE_ADDED => simp only [startByEventAction, packageAddEventAction, hinfo]
    | _ => exact packageRemoveEventAction_refused (Or.inl hinfo)
  · cases event with
    | COMMON_EVENT_PACKAGE_ADDED => exact absurd rfl hevent
    | _ => exact packageRemoveEventAction_refused (Or.inr hindex)

theorem startByEventAction_asked (h : ¬ (RefusedReason extras ∨ MissesIndex event extras)) :
    (startByEventAction env event extras.want s).2 =
      (asked event extras (reasonInfo extras)).on env s := by
  rw [not_or] at h
  have hinfo : getDemandReasonInfo extras.want = some (reasonInfo extras) :=
    (getDemandReasonInfo_want extras).2 h.1
  have hremoved : event ≠ .COMMON_EVENT_PACKAGE_ADDED →
      (packageRemoveEventAction env extras.want s).2 =
        (asked event extras (reasonInfo extras)).on env s := by
    intro hevent
    obtain ⟨appIndex, hindex⟩ :=
      Option.ne_none_iff_exists'.mp fun hindex => h.2 ⟨hevent, hindex⟩
    rw [packageRemoveEventAction_snd hinfo hindex, asked_removed hevent]
  cases event with
  | COMMON_EVENT_PACKAGE_ADDED =>
    have hidentifier : getDemandAppIdentifier extras.want = _ :=
      getDemandText_eq _ (lookup_want extras).2.1
    rw [asked_added]
    by_cases hnone : extras.appIdentifier.getD [] = []
    · rw [if_pos hnone] at hidentifier
      rw [hnone, restoreAndDelete_nil]
      simp only [startByEventAction, packageAddEventAction, hinfo, hidentifier]
    · rw [if_neg hnone] at hidentifier
      exact packageAddEventAction_snd hinfo hidentifier
  | _ => exact hremoved nofun

theorem onReceiveEventGetParam_eq (extras : PackageExtras) :
    (RefusedWant extras → onReceiveEventGetParam extras = none) ∧
      (¬ RefusedWant extras → onReceiveEventGetParam extras = some (wantInfo extras)) := by
  unfold onReceiveEventGetParam RefusedWant
  simp only [toUInt32_eq_zero]
  by_cases hname : extras.bundleName.getD [] = []
  · exact ⟨fun _ => if_pos hname, fun h => absurd (Or.inl hname) h⟩
  by_cases htoken : extras.accessTokenId.getD 0 = 0
  · rw [if_neg hname, if_pos htoken]
    exact ⟨fun _ => rfl, fun h => absurd (Or.inr (Or.inl htoken)) h⟩
  by_cases huser : extras.userId.getD (-1) = -1
  · rw [if_neg hname, if_neg htoken, if_pos huser]
    exact ⟨fun _ => rfl, fun h => absurd (Or.inr (Or.inr huser)) h⟩
  rw [if_neg hname, if_neg htoken, if_neg huser]
  exact ⟨fun h => absurd h (by tauto), fun _ => rfl⟩

theorem onReceiveEvent_refused (h : RefusedWant extras) : onReceiveEvent env event extras s = s := by
  have hinfo := (onReceiveEventGetParam_eq extras).1 h
  cases event <;> simp only [onReceiveEvent, onReceiveEventAdd, onReceiveEventRemove, hinfo]

theorem onReceiveEvent_asked (h : ¬ RefusedWant extras) :
    onReceiveEvent env event extras s = (asked event extras (wantInfo extras)).on env s := by
  have hinfo := (onReceiveEventGetParam_eq extras).2 h
  have hindex : extras.appIndex.getD (-1) = 0 ↔ extras.appIndex = some 0 := by
    cases extras.appIndex with
    | none => exact iff_of_false (by decide) (Option.some_ne_none _).symm
    | some n => exact Option.some_inj.symm
  have hremoved : event ≠ .COMMON_EVENT_PACKAGE_ADDED →
      onReceiveEventRemove env extras s = (asked event extras (wantInfo extras)).on env s := by
    intro hevent
    simp only [onReceiveEventRemove, hinfo, asked_removed hevent, hindex]
  cases event with
  | COMMON_EVENT_PACKAGE_ADDED =>
    rw [asked_added]
    simp only [onReceiveEvent, onReceiveEventAdd, hinfo]
  | _ => exact hremoved nofun

/-! ### Telling effects apart -/

/-- One record, and no rows. -/
def oneRecord (record : BundleRecord) : PreserveState :=
  ⟨.empty, ⟨[record], List.nodup_singleton _⟩⟩

theorem sole_oneRecord (record : BundleRecord) :
    Sole record.appIdentifier record.userId record (oneRecord record) := by
  intro r
  show r ∈ [record] ∧ _ ↔ _
  rw [List.mem_singleton]
  refine and_iff_left_of_imp fun hr => ?_
  rw [hr, BundleRecord.isOf, decide_eq_true rfl, decide_eq_true rfl]
  rfl

theorem restore_changes {appIdentifier : Bytes} (h : appIdentifier ≠ []) (userId : Int32)
    (tokenId : UInt32) : ∃ env s, restoreAndDelete env appIdentifier userId tokenId s ≠ s := by
  have hsole := sole_oneRecord ⟨[], userId, appIdentifier, 0, 0⟩
  have hfree : ∀ row ∈ (oneRecord ⟨[], userId, appIdentifier, 0, 0⟩).policies,
      row.tokenId ≠ tokenId := fun row hrow => absurd hrow List.not_mem_nil
  have hdeleted := (restoreAndDelete_restored (willingDatabase_allOk 0) h hsole hfree).deleted
  obtain ⟨hmem, hof⟩ := (hsole _).mpr rfl
  refine ⟨willingDatabase 0, oneRecord ⟨[], userId, appIdentifier, 0, 0⟩, fun heq => ?_⟩
  dsimp only at hdeleted
  rw [heq] at hdeleted
  exact Bool.noConfusion ((hdeleted _ hmem).symm.trans hof)

theorem mem_save {appIdentifier : Bytes} (h : appIdentifier ≠ []) (bundleName : Bytes)
    (userId : Int32) (tokenId : UInt32) {record : BundleRecord}
    (hmem : record ∈ (saveBundlePersistentPolicies (willingDatabase 0) bundleName userId
      appIdentifier tokenId ⟨.empty, .empty⟩).2.bundles) : record.bundleName = bundleName := by
  rw [saveBundlePersistentPolicies, if_neg h,
    deleteBundlePersistentPolicies_ok (willingDatabase_allOk 0) h] at hmem
  obtain hold | ⟨rfl, -⟩ := KeyedTable.mem_insertIgnore.mp hmem
  · exact absurd hold List.not_mem_nil
  · rfl

theorem exists_mem_save {appIdentifier : Bytes} (h : appIdentifier ≠ []) (bundleName : Bytes)
    (userId : Int32) (tokenId : UInt32) :
    ∃ record, record ∈ (saveBundlePersistentPolicies (willingDatabase 0) bundleName userId
      appIdentifier tokenId ⟨.empty, .empty⟩).2.bundles :=
  ⟨_, (((saveBundlePersistentPolicies_ok (willingDatabase_allOk 0) h bundleName tokenId).2
    _).mpr rfl).1⟩

theorem remove_changes (tokenId : UInt32) : ∃ env s, (removeBundlePolicy env tokenId s).2 ≠ s := by
  refine ⟨willingDatabase 0, oneRow ⟨tokenId, [], 0, 0, 0, 0⟩, fun heq => ?_⟩
  have hrows : ([⟨tokenId, [], 0, 0, 0, 0⟩] : List Row).filter (fun row => !row.isOf tokenId) =
      [⟨tokenId, [], 0, 0, 0, 0⟩] := congrArg (fun s => s.policies.rows) heq
  have hmem := List.mem_filter.mp (hrows ▸ List.mem_singleton_self _)
  rw [Row.isOf, decide_eq_true rfl] at hmem
  cases hmem.2

/-- What is asked for does something to some tables. -/
theorem asked_changes (h : Asks event extras) (info : DemandReasonInfo) :
    ∃ env s, (asked event extras info).on env s ≠ s := by
  rw [asked, if_neg (not_not.mpr h)]
  by_cases hevent : event = .COMMON_EVENT_PACKAGE_ADDED
  · rw [Asks, if_pos hevent] at h
    rw [if_pos hevent]
    exact restore_changes h _ _
  rw [Asks, if_neg hevent] at h
  rw [if_neg hevent]
  by_cases hkeeps : Keeps extras
  · rw [if_pos hkeeps]
    obtain ⟨record, hmem⟩ := exists_mem_save (h.2 hkeeps) info.bundleName info.userId info.tokenId
    refine ⟨willingDatabase 0, ⟨.empty, .empty⟩, fun heq => ?_⟩
    rw [show (saveBundlePersistentPolicies _ _ _ _ _ _).2 = _ from heq] at hmem
    exact List.not_mem_nil hmem
  · rw [if_neg hkeeps]
    exact remove_changes info.tokenId

/-! ### Agreement -/

/-- A removal takes nothing from token zero, and an installation gives nothing to it. -/
def SparesZero (event : CommonEvent) (s s' : PreserveState) : Prop :=
  if event = .COMMON_EVENT_PACKAGE_ADDED then ∀ row ∈ s'.policies, row.tokenId = 0 → row ∈ s.policies
  else ∀ row ∈ s.policies, row.tokenId = 0 → row ∈ s'.policies

/-- The two handlers leave the same tables, whatever these are and the database answers. -/
def HandledAlike (event : CommonEvent) (extras : PackageExtras) : Prop :=
  ∀ env s, (startByEventAction env event extras.want s).2 = onReceiveEvent env event extras s ∧
    SparesZero event s (startByEventAction env event extras.want s).2 ∧
    SparesZero event s (onReceiveEvent env event extras s)

/-- One extra is enough for both to refuse. -/
def BothRefuse (event : CommonEvent) (extras : PackageExtras) : Prop :=
  extras.bundleName.getD [] = [] ∨ extras.accessTokenId = some 0 ∨ extras.userId = some (-1) ∨
    ¬ Asks event extras

/-- What only a service that is started by the event refuses. -/
def ReasonFault (event : CommonEvent) (extras : PackageExtras) : Prop :=
  cStr (extras.bundleName.getD []) = [] ∨ extras.userId.any (· ≤ 0) ∨ MissesIndex event extras

/-- What only a running service refuses. -/
def WantFault (extras : PackageExtras) : Prop :=
  extras.accessTokenId = none ∨ extras.userId = none

/-- Both refuse, on one account or each on its own, or neither has a reason to; and a bundle name
that goes into a record has no NUL. -/
def Alike (event : CommonEvent) (extras : PackageExtras) : Prop :=
  BothRefuse event extras ∨ (ReasonFault event extras ∧ WantFault extras) ∨
    (¬ ReasonFault event extras ∧ ¬ WantFault extras ∧
      (event ≠ .COMMON_EVENT_PACKAGE_ADDED → Keeps extras →
        cStr (extras.bundleName.getD []) = extras.bundleName.getD []))

theorem refusedReason_iff (h : ¬ BothRefuse event extras) :
    RefusedReason extras ∨ MissesIndex event extras ↔ ReasonFault event extras := by
  have htoken : extras.accessTokenId ≠ some 0 := fun ht => h (Or.inr (Or.inl ht))
  rw [RefusedReason, ReasonFault]
  tauto

theorem refusedWant_iff (h : ¬ BothRefuse event extras) :
    RefusedWant extras ↔ WantFault extras := by
  rw [BothRefuse, not_or, not_or, not_or] at h
  have htoken : extras.accessTokenId.getD 0 = 0 ↔ extras.accessTokenId = none := by
    cases ht : extras.accessTokenId with
    | none => exact iff_of_true rfl rfl
    | some n =>
      refine iff_of_false (fun hn => h.2.1 ?_) (Option.some_ne_none n)
      exact ht.trans (congrArg some hn)
  have huser : extras.userId.getD (-1) = -1 ↔ extras.userId = none := by
    cases hu : extras.userId with
    | none => exact iff_of_true rfl rfl
    | some n =>
      refine iff_of_false (fun hn => h.2.2.1 ?_) (Option.some_ne_none n)
      exact hu.trans (congrArg some hn)
  rw [RefusedWant, WantFault, htoken, huser]
  exact or_iff_right h.1

/-- A reason for both is a reason for each, or there is nothing to do. -/
theorem BothRefuse.idle (h : BothRefuse event extras) (env : PreserveEnv) (s : PreserveState) :
    (startByEventAction env event extras.want s).2 = s ∧ onReceiveEvent env event extras s = s := by
  by_cases hasks : Asks event extras
  · have hboth : RefusedReason extras ∧ RefusedWant extras := by
      rcases h with h | h | h | h
      · exact ⟨Or.inl (by rw [h]; rfl), Or.inl h⟩
      · exact ⟨Or.inr (Or.inl h), Or.inr (Or.inl (by rw [h]; rfl))⟩
      · exact ⟨Or.inr (Or.inr (by rw [h]; rfl)), Or.inr (Or.inr (by rw [h]; rfl))⟩
      · exact absurd hasks h
    exact ⟨startByEventAction_refused (Or.inl hboth.1), onReceiveEvent_refused hboth.2⟩
  · have hnothing : ∀ info, (asked event extras info).on env s = s := by
      intro info
      rw [asked, if_pos hasks]
      rfl
    constructor
    · by_cases hrefused : RefusedReason extras ∨ MissesIndex event extras
      · exact startByEventAction_refused hrefused
      · rw [startByEventAction_asked hrefused, hnothing]
    · by_cases hrefused : RefusedWant extras
      · exact onReceiveEvent_refused hrefused
      · rw [onReceiveEvent_asked hrefused, hnothing]

theorem sparesZero_refl (s : PreserveState) : SparesZero event s s := by
  unfold SparesZero
  split <;> exact fun _ hrow _ => hrow

/-- A record that is looked for leaves the rows as they are. -/
theorem policies_findBundleRecord (appIdentifier : Bytes) (userId : Int32) :
    (findBundleRecord env appIdentifier userId s).2.2.policies = s.policies := by
  have hduplicates : ∀ first records,
      (handleDuplicateBundleRecords env appIdentifier userId first records s).2.policies =
        s.policies := by
    intro first records
    refine List.foldlRecOn (motive := fun t : PreserveState => t.policies = s.policies) _ _ rfl
      fun t ht record _ => ?_
    split
    · exact ht
    · exact ht
  unfold findBundleRecord
  split
  · rfl
  · rfl
  · rfl
  · exact hduplicates _ _

theorem mem_handOver {originalTokenId newTokenId : UInt32} {row : Row}
    (h : row ∈ (handOver env originalTokenId newTokenId s).2.policies) :
    row ∈ s.policies ∨ row.tokenId = newTokenId := by
  unfold handOver at h
  split at h
  · exact Or.inl h
  · split at h
    · exact Or.inl h
    · split at h
      · exact Or.inl h
      · split at h
        case h_1 => exact Or.inl h
        case h_2 hupdate =>
          obtain ⟨row', hrow', rfl⟩ := (KeyedTable.mem_update? hupdate).mp h
          split
          · exact Or.inr rfl
          · exact Or.inl hrow'

theorem policies_deleteBundlePersistentPolicies (appIdentifier : Bytes) (userId : Int32) :
    (deleteBundlePersistentPolicies env appIdentifier userId s).2.policies = s.policies := by
  unfold deleteBundlePersistentPolicies
  split
  · rfl
  · split <;> rfl

theorem policies_saveBundlePersistentPolicies (bundleName appIdentifier : Bytes) (userId : Int32)
    (tokenId : UInt32) :
    (saveBundlePersistentPolicies env bundleName userId appIdentifier tokenId s).2.policies =
      s.policies := by
  unfold saveBundlePersistentPolicies
  split
  · rfl
  · dsimp only
    split <;> exact policies_deleteBundlePersistentPolicies appIdentifier userId

/-- A row after an installation was there before or is of the new token. -/
theorem mem_restoreAndDelete {appIdentifier : Bytes} {userId : Int32} {newTokenId : UInt32}
    {row : Row} (h : row ∈ (restoreAndDelete env appIdentifier userId newTokenId s).policies) :
    row ∈ s.policies ∨ row.tokenId = newTokenId := by
  have hrestore : row ∈
      (restoreBundlePersistentPolicies env appIdentifier userId newTokenId s).2.policies := by
    unfold restoreAndDelete at h
    dsimp only at h
    split at h
    · exact h
    · rwa [policies_deleteBundlePersistentPolicies] at h
  have hfind : (findBundleRecord env appIdentifier userId s).2.2.policies = s.policies :=
    policies_findBundleRecord appIdentifier userId
  unfold restoreBundlePersistentPolicies at hrestore
  split at hrestore
  · exact Or.inl hrestore
  · split at hrestore
    case h_1 heq =>
      rw [heq] at hfind
      exact Or.inl (hfind ▸ hrestore)
    case h_2 heq =>
      rw [heq] at hfind
      exact (mem_handOver hrestore).imp_left fun hmem => hfind ▸ hmem
    case h_3 heq =>
      rw [heq] at hfind
      exact Or.inl (hfind ▸ hrestore)

/-- What is done for a token spares token zero. -/
theorem asked_sparesZero (htoken : info.tokenId ≠ 0) :
    SparesZero event s ((asked event extras info).on env s) := by
  by_cases hasks : Asks event extras
  case neg =>
    rw [asked, if_pos hasks]
    exact sparesZero_refl s
  rw [asked, if_neg (not_not.mpr hasks)]
  by_cases hevent : event = .COMMON_EVENT_PACKAGE_ADDED
  · rw [if_pos hevent, SparesZero, if_pos hevent]
    intro row hrow hzero
    exact (mem_restoreAndDelete hrow).resolve_right fun hnew => htoken (hnew.symm.trans hzero)
  rw [if_neg hevent, SparesZero, if_neg hevent]
  intro row hrow hzero
  by_cases hkeeps : Keeps extras
  · rw [if_pos hkeeps]
    show row ∈ (saveBundlePersistentPolicies _ _ _ _ _ _).2.policies
    rwa [policies_saveBundlePersistentPolicies]
  · rw [if_neg hkeeps]
    show row ∈ (removeBundlePolicy env info.tokenId s).2.policies
    unfold removeBundlePolicy
    split
    · refine KeyedTable.mem_delete.mpr ⟨hrow, decide_eq_false fun hof => ?_⟩
      exact htoken (hof.symm.trans hzero)
    · exact hrow

/-- Handlers that act on the same bundle name act alike. -/
theorem asked_reasonInfo
    (h : event ≠ .COMMON_EVENT_PACKAGE_ADDED → Keeps extras →
      cStr (extras.bundleName.getD []) = extras.bundleName.getD []) :
    asked event extras (reasonInfo extras) = asked event extras (wantInfo extras) := by
  unfold asked
  by_cases hevent : event = .COMMON_EVENT_PACKAGE_ADDED
  · rw [if_pos hevent, if_pos hevent]
    rfl
  · by_cases hkeeps : Keeps extras
    · have hinfo : reasonInfo extras = wantInfo extras := by
        rw [reasonInfo, wantInfo, h hevent hkeeps]
      rw [hinfo]
    · rw [if_neg hevent, if_neg hevent, if_neg hkeeps, if_neg hkeeps]
      rfl

theorem handledAlike_of_alike (h : Alike event extras) : HandledAlike event extras := by
  intro env s
  by_cases hboth : BothRefuse event extras
  · obtain ⟨hstart, hreceive⟩ := hboth.idle env s
    rw [hstart, hreceive]
    exact ⟨rfl, sparesZero_refl s, sparesZero_refl s⟩
  rcases h with h | ⟨hreason, hwant⟩ | ⟨hreason, hwant, hname⟩
  · exact absurd h hboth
  · rw [startByEventAction_refused ((refusedReason_iff hboth).mpr hreason),
      onReceiveEvent_refused ((refusedWant_iff hboth).mpr hwant)]
    exact ⟨rfl, sparesZero_refl s, sparesZero_refl s⟩
  · have hrefused : ¬ RefusedWant extras := fun hr => hwant ((refusedWant_iff hboth).mp hr)
    have htoken : (wantInfo extras).tokenId ≠ 0 := by
      intro hzero
      exact hrefused (Or.inr (Or.inl (toUInt32_eq_zero.mp hzero)))
    rw [startByEventAction_asked fun hr => hreason ((refusedReason_iff hboth).mp hr),
      onReceiveEvent_asked hrefused, asked_reasonInfo hname]
    exact ⟨rfl, asked_sparesZero htoken, asked_sparesZero htoken⟩

theorem alike_of_handledAlike (h : HandledAlike event extras) : Alike event extras := by
  by_cases hboth : BothRefuse event extras
  · exact Or.inl hboth
  have hasks : Asks event extras := by
    by_contra hnot
    exact hboth (Or.inr (Or.inr (Or.inr hnot)))
  by_cases hreason : ReasonFault event extras <;> by_cases hwant : WantFault extras
  · exact Or.inr (Or.inl ⟨hreason, hwant⟩)
  · obtain ⟨env, s, hchanges⟩ := asked_changes hasks (wantInfo extras)
    have hsame := (h env s).1
    rw [startByEventAction_refused ((refusedReason_iff hboth).mpr hreason),
      onReceiveEvent_asked fun hr => hwant ((refusedWant_iff hboth).mp hr)] at hsame
    exact absurd hsame.symm hchanges
  · obtain ⟨env, s, hchanges⟩ := asked_changes hasks (reasonInfo extras)
    have hsame := (h env s).1
    rw [onReceiveEvent_refused ((refusedWant_iff hboth).mpr hwant),
      startByEventAction_asked fun hr => hreason ((refusedReason_iff hboth).mp hr)] at hsame
    exact absurd hsame hchanges
  · refine Or.inr (Or.inr ⟨hreason, hwant, fun hevent hkeeps => ?_⟩)
    have hident : extras.appIdentifier.getD [] ≠ [] := by
      rw [Asks, if_neg hevent] at hasks
      exact hasks.2 hkeeps
    have hsave : ∀ info, asked event extras info =
        .save info.bundleName info.userId (extras.appIdentifier.getD []) info.tokenId := by
      intro info
      rw [asked, if_neg (not_not.mpr hasks), if_neg hevent, if_pos hkeeps]
    have hsame := (h (willingDatabase 0) ⟨.empty, .empty⟩).1
    rw [startByEventAction_asked fun hr => hreason ((refusedReason_iff hboth).mp hr),
      onReceiveEvent_asked fun hr => hwant ((refusedWant_iff hboth).mp hr), hsave, hsave] at hsame
    obtain ⟨record, hmem⟩ := exists_mem_save hident (reasonInfo extras).bundleName
      (reasonInfo extras).userId (reasonInfo extras).tokenId
    have hmem' := hmem
    rw [show (saveBundlePersistentPolicies _ _ _ _ _ _).2 = _ from hsame] at hmem'
    exact (mem_save hident _ _ _ hmem).symm.trans (mem_save hident _ _ _ hmem')

end

/-- **A started service does what a running one does exactly when the extras give it no choice**:
one of them makes both refuse, or each has a reason of its own to, or neither has and a bundle name
that is recorded has no NUL. Otherwise a missing token, user or application index, or a user that
is not above zero, is refused by one and taken by the other. -/
theorem handledAlike_iff (event : CommonEvent) (extras : PackageExtras) :
    HandledAlike event extras ↔ Alike event extras :=
  ⟨alike_of_handledAlike, handledAlike_of_alike⟩

/-- A package was removed for a user, and the event has no token. -/
def tokenless : PackageExtras where
  bundleName := some (bytes "mail")
  userId := some 100
  accessTokenId := none
  appIndex := some 1
  appIdentifier := none
  supportPreserve := none

/-- The service that is started by it removes the policies of token zero. -/
theorem tokenless_not_alike :
    ¬ HandledAlike .COMMON_EVENT_PACKAGE_REMOVED tokenless ∧
      ¬ SparesZero .COMMON_EVENT_PACKAGE_REMOVED (oneRow ⟨0, bytes "/a", 1, 1, 0, 0⟩)
        (startByEventAction (willingDatabase 0) .COMMON_EVENT_PACKAGE_REMOVED tokenless.want
          (oneRow ⟨0, bytes "/a", 1, 1, 0, 0⟩)).2 := by
  have hrows : (startByEventAction (willingDatabase 0) .COMMON_EVENT_PACKAGE_REMOVED tokenless.want
      (oneRow ⟨0, bytes "/a", 1, 1, 0, 0⟩)).2.policies.rows = [] := by decide +kernel
  have htaken : ¬ SparesZero .COMMON_EVENT_PACKAGE_REMOVED (oneRow ⟨0, bytes "/a", 1, 1, 0, 0⟩)
      (startByEventAction (willingDatabase 0) .COMMON_EVENT_PACKAGE_REMOVED tokenless.want
        (oneRow ⟨0, bytes "/a", 1, 1, 0, 0⟩)).2 := by
    intro h
    rw [SparesZero, if_neg CommonEvent.noConfusion] at h
    have hmem := h _ (List.mem_singleton_self _) rfl
    rw [KeyedTable.mem_iff, hrows] at hmem
    exact List.not_mem_nil hmem
  exact ⟨fun h => htaken (h _ _).2.1, htaken⟩

end SandboxManager.Policy
