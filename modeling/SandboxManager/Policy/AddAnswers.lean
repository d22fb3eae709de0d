import SandboxManager.Policy.MatchAnswers

/-! What `AddPolicy` reports beside what it persists.

A request is split twice: the valid media policies go to the media library, the valid ordinary ones
to the kernel and from there to the database, and the answers are written back to the places the
policies came from. The library grants before the kernel and the database are asked, and a grant is
not taken back. So the two agree exactly if whatever was granted is followed by an ordinary part
that succeeds (`addPolicy_answered_iff`). -/
namespace SandboxManager.Policy
open Library

section
variable (env : Env) (helper : MediaHelper) (caller : UInt32) (t : Table) (tokenId flag : UInt32)
  (policies : List PolicyInfo)

/-- The kernel's answer to the policy at a place. -/
def kernelAnswer (i : Nat) : Option SandboxRetType :=
  (querySandboxPolicy env.mac tokenId (policies.filter isPassIndex)).toOption.bind fun answers =>
    answers[rank isPassIndex policies i]?

/-- The policy at a place is valid, and the kernel or the grant map allows it. -/
def MayPersist (i : Nat) (p : PolicyInfo) : Prop :=
  isValid p = true ∧ (kernelAnswer env tokenId policies i = some .OPERATE_SUCCESSFULLY ∨
    kernelAnswer env tokenId policies i = some .FORBIDDEN_TO_BE_PERSISTED_BY_FLAG ∧
      isVerifyPermissionPass env tokenId p = true)

/-- What the media library has a policy told. -/
def photoResult (p : PolicyInfo) : SandboxRetType :=
  if helper.mayGrant tokenId (helper.uriOf p.path) (mediaMode p) then .OPERATE_SUCCESSFULLY
  else .FORBIDDEN_TO_BE_PERSISTED

/-- What a policy is told that is not persisted in the table. -/
def ownResult (p : PolicyInfo) : SandboxRetType :=
  if !isValid p then checkPolicyValidity p .NORMAL_POLICY
  else if isMedia p then photoResult helper tokenId p
  else .FORBIDDEN_TO_BE_PERSISTED

/-- The rows of the valid ordinary policies with a successful result. -/
def reportedRows (results : List SandboxRetType) : List Row :=
  (((policies.zip results).filter fun q =>
    isPassIndex q.1 && decide (q.2 = .OPERATE_SUCCESSFULLY)).map Prod.fst).map (policyRow tokenId flag)

/-- The results of a request, and the table after it. -/
structure AddReport (results : List SandboxRetType) (t' : Table) : Prop where
  length : results.length = policies.length
  ordinary : ∀ (i : Nat) (p : PolicyInfo), policies[i]? = some p → isNormal p = true →
    (results[i]? = some .OPERATE_SUCCESSFULLY ↔ MayPersist env tokenId policies i p)
  others : ∀ (i : Nat) (p : PolicyInfo), policies[i]? = some p →
    ¬ (isNormal p = true ∧ MayPersist env tokenId policies i p) →
      results[i]? = some (ownResult helper tokenId p)
  table : t' = rdbAdd t (reportedRows tokenId flag policies results)
    (if flag = 1 then .REPLACE else .IGNORE)

/-- What the library granted: it is asked at most once. -/
def mediaGrants : List (Bytes × PhotoPermissionType) :=
  (addMediaPolicy helper caller tokenId (policies.filter isMediaIndex)).2

/-- A request that succeeds is reported as it was persisted, one that fails changes nothing. -/
structure AddAnswered (outcome : Table × ErrCode × List SandboxRetType) : Prop where
  success : outcome.2.1 = .SANDBOX_MANAGER_OK →
    AddReport env helper t tokenId flag policies outcome.2.2 outcome.1
  failure : outcome.2.1 ≠ .SANDBOX_MANAGER_OK →
    outcome.1 = t ∧ mediaGrants helper caller tokenId policies = []

/-- The files of some policies that the library lets the token have. -/
def grantable (medias : List PolicyInfo) : List PolicyInfo :=
  medias.filter fun p => helper.mayGrant tokenId (helper.uriOf p.path) (mediaMode p)

/-- The permissions to ask for. -/
def photoGrants (medias : List PolicyInfo) : List (Bytes × PhotoPermissionType) :=
  medias.map fun p => (helper.uriOf p.path, photoType p)

/-- The library answers and grants something. -/
structure MediaGranted (medias : List PolicyInfo) : Prop where
  init : helper.initOk = true
  uris : helper.urisOk (medias.map PolicyInfo.path) = true
  check : helper.checkOk tokenId (medias.map fun p => (helper.uriOf p.path, mediaMode p)) = true
  some : grantable helper tokenId medias ≠ []
  grant : helper.grantOk caller tokenId
    (photoGrants helper (grantable helper tokenId medias)) = true

/-- The kernel answers, and the database stores what is to be stored. -/
def OrdinaryAdded (ordinary : List PolicyInfo) : Prop :=
  ordinary = [] ∨ ∃ answers, querySandboxPolicy env.mac tokenId ordinary = .ok answers ∧
    (env.addOk = true ∨ (ordinary.zip answers).filter (isPersistable env tokenId) = [])

end

/-! ### The media part -/

section
variable {env : Env} {helper : MediaHelper} {caller : UInt32} {t : Table} {tokenId flag : UInt32}

/-- The modes the validation lets through for a media file have names. -/
theorem namedMode_of_valid {p : PolicyInfo} (hp : isMediaIndex p = true) : NamedMode p := by
  obtain ⟨hv, hmedia⟩ := Bool.and_eq_true_iff.mp hp
  have hrange : ¬ (p.mode < READ_MODE ∨ p.mode > READ_MODE + WRITE_MODE) := by
    intro hout
    have hcheck := of_decide_eq_true hv
    simp only [checkPolicyValidity] at hcheck
    split at hcheck
    case isTrue => cases hcheck
    case isFalse =>
      rw [if_pos ⟨hmedia, hout⟩] at hcheck
      cases hcheck
  have hmode : p.mode = 1 ∨ p.mode = 2 ∨ p.mode = 3 := by
    rw [not_or, UInt64.not_lt, gt_iff_lt, UInt64.not_lt, UInt64.le_iff_toNat_le,
      UInt64.le_iff_toNat_le] at hrange
    have h1 : UInt64.toNat READ_MODE = 1 := rfl
    have h3 : UInt64.toNat (READ_MODE + WRITE_MODE) = 3 := rfl
    simp only [← UInt64.toNat_inj, UInt64.toNat_ofNat]
    omega
  rw [NamedMode, mediaMode]
  rcases hmode with h | h | h
  · rw [h]; rfl
  · rw [h]; rfl
  · rw [h]; rfl

/-- The library's part of a request, file by file. -/
theorem addMediaPolicy_eq {medias : List PolicyInfo} (hnamed : ∀ p ∈ medias, NamedMode p) :
    addMediaPolicy helper caller tokenId medias =
      if !helper.initOk || !helper.urisOk (medias.map PolicyInfo.path) ||
          !helper.checkOk tokenId (medias.map fun p => (helper.uriOf p.path, mediaMode p))
      then (.error .SANDBOX_MANAGER_MEDIA_CALL_ERR, [])
      else if grantable helper tokenId medias = [] then
        (.ok (medias.map (photoResult helper tokenId)), [])
      else if helper.grantOk caller tokenId (photoGrants helper (grantable helper tokenId medias)) then
        (.ok (medias.map (photoResult helper tokenId)),
          photoGrants helper (grantable helper tokenId medias))
      else (.error .SANDBOX_MANAGER_MEDIA_CALL_ERR, []) := by
  have htype : ∀ p ∈ grantable helper tokenId medias,
      photoPermissionType (mediaMode p) = some (photoType p) :=
    fun p hp => photoType_of_named (hnamed p (List.mem_filter.mp hp).1)
  have hfiles : ((medias.map PolicyInfo.path).map helper.uriOf).zip (medias.map mediaMode) =
      medias.map fun p => (helper.uriOf p.path, mediaMode p) := by
    rw [List.map_map, List.zip_map']
    rfl
  have hneed : ((medias.map fun p => (helper.uriOf p.path, mediaMode p)).filter fun file =>
      helper.mayGrant tokenId file.1 file.2) =
      (grantable helper tokenId medias).map fun p => (helper.uriOf p.path, mediaMode p) := by
    rw [List.filter_map]
    rfl
  have hmodes : ((grantable helper tokenId medias).map fun p =>
      (helper.uriOf p.path, mediaMode p)).map Prod.snd =
      (grantable helper tokenId medias).map mediaMode := by
    rw [List.map_map]
    rfl
  have hzip : (((grantable helper tokenId medias).map fun p =>
      (helper.uriOf p.path, mediaMode p)).map Prod.fst).zip
        ((grantable helper tokenId medias).map photoType) =
      photoGrants helper (grantable helper tokenId medias) := by
    rw [List.map_map, List.zip_map']
    rfl
  have hresults : ((medias.map fun p => (helper.uriOf p.path, mediaMode p)).map fun file =>
      if helper.mayGrant tokenId file.1 file.2 then SandboxRetType.OPERATE_SUCCESSFULLY
      else .FORBIDDEN_TO_BE_PERSISTED) = medias.map (photoResult helper tokenId) := by
    rw [List.map_map]
    rfl
  unfold addMediaPolicy
  simp only [hfiles, hneed, hmodes, operateMode_eq_map htype, hzip, hresults, List.map_eq_nil_iff]
  by_cases hcall : (!helper.initOk || !helper.urisOk (medias.map PolicyInfo.path)) = true
  · rw [if_pos hcall, if_pos (by rw [hcall, Bool.true_or])]
  · rw [if_neg hcall, Bool.eq_false_iff.mpr hcall, Bool.false_or]

theorem addMediaPolicy_ok {medias : List PolicyInfo} (hnamed : ∀ p ∈ medias, NamedMode p)
    {results : List SandboxRetType} (h : (addMediaPolicy helper caller tokenId medias).1 = .ok results) :
    results = medias.map (photoResult helper tokenId) := by
  rw [addMediaPolicy_eq hnamed] at h
  split at h
  case isTrue => cases h
  case isFalse =>
    split at h
    case isTrue => exact (Except.ok.inj h).symm
    case isFalse =>
      split at h
      case isTrue => exact (Except.ok.inj h).symm
      case isFalse => cases h

theorem addMediaPolicy_error {medias : List PolicyInfo} (hnamed : ∀ p ∈ medias, NamedMode p)
    {e : ErrCode} (h : (addMediaPolicy helper caller tokenId medias).1 = .error e) :
    e ≠ .SANDBOX_MANAGER_OK ∧ (addMediaPolicy helper caller tokenId medias).2 = [] := by
  rw [addMediaPolicy_eq hnamed] at h ⊢
  split at h
  case isTrue hcall =>
    cases h
    exact ⟨by decide, by rw [if_pos hcall]⟩
  case isFalse hcall =>
    split at h
    case isTrue => cases h
    case isFalse hsome =>
      split at h
      case isTrue => cases h
      case isFalse hgrant =>
        cases h
        exact ⟨by decide, by rw [if_neg hcall, if_neg hsome, if_neg hgrant]⟩

theorem namedMode_medias {policies : List PolicyInfo} :
    ∀ p ∈ policies.filter isMediaIndex, NamedMode p :=
  fun _ hp => namedMode_of_valid (List.mem_filter.mp hp).2

theorem mediaGrants_ne_nil_iff (policies : List PolicyInfo) :
    mediaGrants helper caller tokenId policies ≠ [] ↔
      MediaGranted helper caller tokenId (policies.filter isMediaIndex) := by
  rw [mediaGrants, addMediaPolicy_eq namedMode_medias]
  split
  case isTrue hcall =>
    refine iff_of_false (fun h => h rfl) fun h => ?_
    rw [h.init, h.uris, h.check] at hcall
    cases hcall
  case isFalse hcall =>
    rw [Bool.not_eq_true, Bool.or_eq_false_iff, Bool.or_eq_false_iff] at hcall
    obtain ⟨⟨hinit, huris⟩, hcheck⟩ := hcall
    split
    case isTrue hnone => exact iff_of_false (fun h => h rfl) fun h => h.some hnone
    case isFalse hsome =>
      split
      case isTrue hgrant =>
        refine iff_of_true (fun h => hsome (List.map_eq_nil_iff.mp h)) ?_
        exact ⟨by simpa using hinit, by simpa using huris, by simpa using hcheck, hsome, hgrant⟩
      case isFalse hgrant => exact iff_of_false (fun h => h rfl) fun h => hgrant h.grant

/-- The results after the media part. -/
def mediaPartResult (helper : MediaHelper) (tokenId : UInt32) (p : PolicyInfo) : SandboxRetType :=
  if isMediaIndex p then photoResult helper tokenId p else checkPolicyValidity p .NORMAL_POLICY

theorem addMediaPart_ok {policies : List PolicyInfo} {results : List SandboxRetType}
    (h : addMediaPart (env.withHelper helper caller) tokenId policies
      (policies.map fun p => checkPolicyValidity p .NORMAL_POLICY) = .ok results) :
    results = policies.map (mediaPartResult helper tokenId) := by
  unfold addMediaPart at h
  split at h
  case isTrue hnone =>
    rw [← Except.ok.inj h]
    apply List.map_congr_left
    intro p hp
    rw [mediaPartResult, if_neg (List.filter_eq_nil_iff.mp hnone p hp)]
  case isFalse =>
    split at h
    case h_1 => cases h
    case h_2 mediaResults hmedia =>
      rw [← Except.ok.inj h, addMediaPolicy_ok namedMode_medias hmedia, scatter_map]
      rfl

theorem addMediaPart_error {policies : List PolicyInfo} {results : List SandboxRetType} {e : ErrCode}
    (h : addMediaPart (env.withHelper helper caller) tokenId policies results = .error e) :
    e ≠ .SANDBOX_MANAGER_OK ∧ mediaGrants helper caller tokenId policies = [] := by
  unfold addMediaPart at h
  split at h
  case isTrue => cases h
  case isFalse =>
    split at h
    case h_1 e' hmedia =>
      cases h
      exact addMediaPolicy_error namedMode_medias hmedia
    case h_2 => cases h

/-! ### The ordinary part -/

/-- The result of an ordinary policy, by the kernel's answer. -/
def ordinaryResult (env : Env) (tokenId : UInt32) (queried : PolicyInfo × SandboxRetType) :
    SandboxRetType :=
  if isPersistable env tokenId queried then .OPERATE_SUCCESSFULLY else .FORBIDDEN_TO_BE_PERSISTED

/-- What an ordinary part that succeeds leaves. -/
structure OrdinaryPart (env : Env) (t : Table) (tokenId flag : UInt32) (ordinary : List PolicyInfo)
    (answers : List SandboxRetType) (t' : Table) : Prop where
  length : answers.length = ordinary.length
  answered : ordinary = [] ∨ querySandboxPolicy env.mac tokenId ordinary = .ok answers
  table : t' = rdbAdd t
    ((((ordinary.zip answers).filter (isPersistable env tokenId)).map Prod.fst).map
      (policyRow tokenId flag)) (if flag = 1 then .REPLACE else .IGNORE)
  added : OrdinaryAdded env tokenId ordinary

theorem querySandboxPolicy_ne_ok {mac : MacAdapter} {ordinary : List PolicyInfo} {e : ErrCode}
    (h : querySandboxPolicy mac tokenId ordinary = .error e) : e ≠ .SANDBOX_MANAGER_OK := by
  have hbatches : ∀ n ps, queryBatches mac tokenId n ps = .error e → e ≠ .SANDBOX_MANAGER_OK := by
    intro n
    induction n with
    | zero =>
      intro ps h
      cases ps with
      | nil => cases h
      | cons p ps => cases h
    | succ n ih =>
      intro ps h
      cases ps with
      | nil => cases h
      | cons p ps =>
        simp only [queryBatches] at h
        split at h
        case h_1 =>
          cases h
          decide
        case h_2 =>
          split at h
          case h_1 hrest =>
            cases h
            exact ih _ hrest
          case h_2 => cases h
  unfold querySandboxPolicy at h
  split at h
  case isTrue =>
    cases h
    decide
  case isFalse => exact hbatches _ _ h

theorem addNormalPolicy_ok (hmac : env.mac.isMacSupport = true) {t' : Table}
    {ordinary : List PolicyInfo} {results : List SandboxRetType}
    (h : addNormalPolicy env t tokenId ordinary flag = (t', .ok results)) :
    ∃ answers, OrdinaryPart env t tokenId flag ordinary answers t' ∧
      results = (ordinary.zip answers).map (ordinaryResult env tokenId) := by
  unfold addNormalPolicy at h
  rw [hmac] at h
  simp only [Bool.not_true, Bool.false_eq_true, if_false] at h
  split at h
  case h_1 => cases h
  case h_2 answers hquery =>
    split at h
    case h_1 => cases h
    case h_2 t'' hadd =>
      obtain ⟨rfl, hres⟩ := Prod.mk.inj h
      refine ⟨answers, ?_, (Except.ok.inj hres).symm⟩
      unfold addToDatabaseIfNotDuplicate at hadd
      split at hadd
      case isTrue hnone =>
        refine ⟨length_querySandboxPolicy hquery, Or.inr hquery, ?_, ?_⟩
        · rw [hnone]
          exact (Option.some.inj hadd).symm
        · exact Or.inr ⟨answers, hquery, Or.inr (List.map_eq_nil_iff.mp hnone)⟩
      case isFalse =>
        split at hadd
        case isTrue hok =>
          exact ⟨length_querySandboxPolicy hquery, Or.inr hquery, (Option.some.inj hadd).symm,
            Or.inr ⟨answers, hquery, Or.inl hok⟩⟩
        case isFalse => cases hadd

theorem addNormalPolicy_error (hmac : env.mac.isMacSupport = true) {t' : Table}
    {ordinary : List PolicyInfo} (hsome : ordinary ≠ []) {e : ErrCode}
    (h : addNormalPolicy env t tokenId ordinary flag = (t', .error e)) :
    e ≠ .SANDBOX_MANAGER_OK ∧ t' = t ∧ ¬ OrdinaryAdded env tokenId ordinary := by
  unfold addNormalPolicy at h
  rw [hmac] at h
  simp only [Bool.not_true, Bool.false_eq_true, if_false] at h
  split at h
  case h_1 e' hquery =>
    cases h
    refine ⟨querySandboxPolicy_ne_ok hquery, rfl, ?_⟩
    intro hadded
    obtain ⟨answers, hanswers, -⟩ := hadded.resolve_left hsome
    rw [hquery] at hanswers
    cases hanswers
  case h_2 answers hquery =>
    split at h
    case h_2 => cases h
    case h_1 hadd =>
      cases h
      refine ⟨by decide, rfl, ?_⟩
      intro hadded
      obtain ⟨answers', hanswers, hstored⟩ := hadded.resolve_left hsome
      rw [hquery] at hanswers
      cases hanswers
      unfold addToDatabaseIfNotDuplicate at hadd
      split at hadd
      case isTrue => cases hadd
      case isFalse hrows =>
        split at hadd
        case isTrue => cases hadd
        case isFalse hok => exact hstored.elim hok fun hnone => hrows (List.map_eq_nil_iff.mpr hnone)

/-- How a request ends. -/
theorem addPolicy_cases (env : Env) (helper : MediaHelper) (caller : UInt32) (t : Table)
    (tokenId flag : UInt32) (policies : List PolicyInfo) (hmac : env.mac.isMacSupport = true) :
    (∃ answers t', OrdinaryPart env t tokenId flag (policies.filter isPassIndex) answers t' ∧
      addPolicy (env.withHelper helper caller) t tokenId policies flag =
        (t', .SANDBOX_MANAGER_OK, scatter isPassIndex policies
          (policies.map (mediaPartResult helper tokenId))
          (((policies.filter isPassIndex).zip answers).map (ordinaryResult env tokenId)))) ∨
    ∃ e, e ≠ .SANDBOX_MANAGER_OK ∧
      addPolicy (env.withHelper helper caller) t tokenId policies flag = (t, e, []) ∧
      (mediaGrants helper caller tokenId policies = [] ∨
        ¬ OrdinaryAdded env tokenId (policies.filter isPassIndex)) := by
  unfold addPolicy
  split
  case h_1 e hmedia =>
    obtain ⟨he, hgrants⟩ := addMediaPart_error hmedia
    exact Or.inr ⟨e, he, rfl, Or.inl hgrants⟩
  case h_2 results hmedia =>
    rw [addMediaPart_ok hmedia]
    split
    case isTrue hnone =>
      refine Or.inl ⟨[], t, ?_, by rw [scatter_of_none hnone]⟩
      rw [hnone]
      exact ⟨rfl, Or.inl rfl, rfl, Or.inl rfl⟩
    case isFalse hsome =>
      split
      case h_1 t' e hnormal =>
        obtain ⟨he, rfl, hnot⟩ := @addNormalPolicy_error env t tokenId flag hmac _ _ hsome _ hnormal
        exact Or.inr ⟨e, he, rfl, Or.inr hnot⟩
      case h_2 t' queryResults hnormal =>
        obtain ⟨answers, part, rfl⟩ := @addNormalPolicy_ok env t tokenId flag hmac _ _ _ hnormal
        exact Or.inl ⟨answers, t', part, rfl⟩

/-! ### The report -/

theorem isPersistable_iff {p : PolicyInfo} {answer : SandboxRetType} :
    isPersistable env tokenId (p, answer) = true ↔ answer = .OPERATE_SUCCESSFULLY ∨
      answer = .FORBIDDEN_TO_BE_PERSISTED_BY_FLAG ∧ isVerifyPermissionPass env tokenId p = true := by
  cases answer <;> simp [isPersistable]

theorem ordinaryResult_eq_ok_iff {q : PolicyInfo × SandboxRetType} :
    ordinaryResult env tokenId q = .OPERATE_SUCCESSFULLY ↔ isPersistable env tokenId q = true := by
  rw [ordinaryResult]
  split
  case isTrue h => exact iff_of_true rfl h
  case isFalse h => exact iff_of_false (by decide) h

section
variable {policies : List PolicyInfo} {answers : List SandboxRetType} {t' : Table} {i : Nat}
  {p : PolicyInfo}

/-- The results of a request that succeeds. -/
abbrev addResults (env : Env) (helper : MediaHelper) (tokenId : UInt32) (policies : List PolicyInfo)
    (answers : List SandboxRetType) : List SandboxRetType :=
  scatter isPassIndex policies (policies.map (mediaPartResult helper tokenId))
    (((policies.filter isPassIndex).zip answers).map (ordinaryResult env tokenId))

theorem length_ordinaryResults (hlen : answers.length = (policies.filter isPassIndex).length) :
    (((policies.filter isPassIndex).zip answers).map (ordinaryResult env tokenId)).length =
      (policies.filter isPassIndex).length := by
  rw [List.length_map, List.length_zip, hlen, Nat.min_self]

/-- A valid ordinary policy gets the result of the kernel's answer to it. -/
theorem getElem?_addResults_pass
    (part : OrdinaryPart env t tokenId flag (policies.filter isPassIndex) answers t')
    (hp : policies[i]? = some p) (hpass : isPassIndex p = true) :
    ∃ answer, kernelAnswer env tokenId policies i = some answer ∧
      (addResults env helper tokenId policies answers)[i]? =
        some (ordinaryResult env tokenId (p, answer)) := by
  have hown := getElem?_filter_rank hp hpass
  have hlt : rank isPassIndex policies i < answers.length := by
    rw [part.length]
    exact (List.getElem?_eq_some_iff.mp hown).1
  have hanswer := List.getElem?_eq_getElem hlt
  have hzip : ((policies.filter isPassIndex).zip answers)[rank isPassIndex policies i]? =
      some (p, answers[rank isPassIndex policies i]) := List.getElem?_zip_eq_some.mpr ⟨hown, hanswer⟩
  have hquery := part.answered.resolve_left
    (List.ne_nil_of_mem (List.mem_filter.mpr ⟨List.mem_of_getElem? hp, hpass⟩))
  refine ⟨answers[rank isPassIndex policies i], ?_, ?_⟩
  · rw [kernelAnswer, hquery]
    exact hanswer
  · rw [addResults, getElem?_scatter hp hpass (List.length_map _) (length_ordinaryResults part.length),
      List.getElem?_map, hzip, Option.map_some]

theorem getElem?_addResults_other (hp : policies[i]? = some p) (hpass : isPassIndex p = false) :
    (addResults env helper tokenId policies answers)[i]? = some (mediaPartResult helper tokenId p) := by
  rw [addResults, getElem?_scatter_of_not hp hpass, List.getElem?_map, hp, Option.map_some]

theorem mayPersist_iff {answer : SandboxRetType} (hpass : isPassIndex p = true)
    (hanswer : kernelAnswer env tokenId policies i = some answer) :
    MayPersist env tokenId policies i p ↔ isPersistable env tokenId (p, answer) = true := by
  have hvalid : isValid p = true := (Bool.and_eq_true_iff.mp hpass).1
  rw [MayPersist, hanswer, Option.some.injEq, Option.some.injEq, isPersistable_iff]
  exact and_iff_right hvalid

theorem mediaPartResult_invalid (hvalid : isValid p = false) :
    mediaPartResult helper tokenId p = checkPolicyValidity p .NORMAL_POLICY := by
  rw [mediaPartResult, isMediaIndex, hvalid, Bool.false_and]
  rfl

/-- What is not answered by the kernel has its own result already. -/
theorem mediaPartResult_eq (hpass : isPassIndex p = false) :
    mediaPartResult helper tokenId p = ownResult helper tokenId p := by
  cases hvalid : isValid p with
  | false =>
    rw [mediaPartResult_invalid hvalid, ownResult, hvalid]
    rfl
  | true =>
    have hmedia : isMediaPolicy p.path = true := by simpa [isPassIndex, hvalid] using hpass
    rw [mediaPartResult, isMediaIndex, ownResult, isMedia, hvalid, hmedia]
    rfl

theorem ownResult_pass (hpass : isPassIndex p = true) :
    ownResult helper tokenId p = .FORBIDDEN_TO_BE_PERSISTED := by
  obtain ⟨hvalid, hmedia⟩ := Bool.and_eq_true_iff.mp hpass
  rw [Bool.not_eq_true'] at hmedia
  rw [ownResult, isMedia, hvalid, hmedia]
  rfl

theorem addReport_of_part
    (part : OrdinaryPart env t tokenId flag (policies.filter isPassIndex) answers t') :
    AddReport env helper t tokenId flag policies (addResults env helper tokenId policies answers)
      t' where
  length := by rw [addResults, length_scatter, List.length_map]
  ordinary i p hp hnormal := by
    cases hvalid : isValid p with
    | true =>
      have hpass : isPassIndex p = true := Bool.and_eq_true_iff.mpr ⟨hvalid, hnormal⟩
      obtain ⟨answer, hanswer, hresult⟩ := getElem?_addResults_pass part hp hpass
      rw [hresult, Option.some.injEq, ordinaryResult_eq_ok_iff, mayPersist_iff hpass hanswer]
    | false =>
      have hpass : isPassIndex p = false := by rw [isPassIndex, hvalid, Bool.false_and]
      rw [getElem?_addResults_other hp hpass, mediaPartResult_invalid hvalid, Option.some.injEq]
      refine iff_of_false (of_decide_eq_false hvalid) fun h => ?_
      rw [MayPersist, hvalid] at h
      cases h.1
  others i p hp hnot := by
    cases hpass : isPassIndex p with
    | true =>
      obtain ⟨answer, hanswer, hresult⟩ := getElem?_addResults_pass part hp hpass
      have hrefused : ¬ isPersistable env tokenId (p, answer) = true := fun h =>
        hnot ⟨(Bool.and_eq_true_iff.mp hpass).2, (mayPersist_iff hpass hanswer).mpr h⟩
      rw [hresult, ownResult_pass hpass, ordinaryResult, if_neg hrefused]
    | false => rw [getElem?_addResults_other hp hpass, mediaPartResult_eq hpass]
  table := by
    have hgood : (fun q : PolicyInfo × SandboxRetType =>
        decide (ordinaryResult env tokenId q = .OPERATE_SUCCESSFULLY)) = isPersistable env tokenId := by
      funext q
      rw [Bool.eq_iff_iff, decide_eq_true_eq, ordinaryResult_eq_ok_iff]
    have hlen := @length_ordinaryResults env tokenId policies answers part.length
    have hfirst : (policies.map (mediaPartResult helper tokenId)).length = policies.length :=
      List.length_map _
    have hrows := filter_zip_scatter (g := fun r => decide (r = .OPERATE_SUCCESSFULLY)) hfirst hlen
    rw [part.table, reportedRows, addResults, hrows, zip_map_zip, List.filter_map, ← hgood]
    simp only [List.map_map]
    rfl

end

end

/-- **`AddPolicy` reports what it persisted, and a failure leaves the table and the media library
alone, exactly if a request for which something is granted has its ordinary part succeed.** -/
theorem addPolicy_answered_iff (env : Env) (helper : MediaHelper) (caller : UInt32) (t : Table)
    (tokenId flag : UInt32) (policies : List PolicyInfo) (hmac : env.mac.isMacSupport = true) :
    AddAnswered env helper caller t tokenId flag policies
        (addPolicy (env.withHelper helper caller) t tokenId policies flag) ↔
      (MediaGranted helper caller tokenId (policies.filter isMediaIndex) →
        OrdinaryAdded env tokenId (policies.filter isPassIndex)) := by
  rcases addPolicy_cases env helper caller t tokenId flag policies hmac with
    ⟨answers, t', part, heq⟩ | ⟨e, he, heq, hpart⟩
  · rw [heq]
    refine iff_of_true ⟨fun _ => addReport_of_part part, fun h => absurd rfl h⟩ fun _ => part.added
  · rw [heq]
    apply Iff.intro
    · intro answered hgranted
      exact absurd (answered.failure he).2 ((mediaGrants_ne_nil_iff policies).mpr hgranted)
    · intro hadded
      refine ⟨fun h => absurd h he, fun _ => ⟨rfl, ?_⟩⟩
      by_contra hgranted
      exact hpart.elim hgranted fun hnot => hnot (hadded ((mediaGrants_ne_nil_iff policies).mp hgranted))

theorem addPolicy_answered_photo :
    AddAnswered grantingEnv openLibrary 1 .empty 7 0 [photo READ_MODE, document]
        (addPolicy (grantingEnv.withHelper openLibrary 1) .empty 7 [photo READ_MODE, document] 0) ↔
      (MediaGranted openLibrary 1 7 ([photo READ_MODE, document].filter isMediaIndex) →
        OrdinaryAdded grantingEnv 7 ([photo READ_MODE, document].filter isPassIndex)) :=
  addPolicy_answered_iff grantingEnv openLibrary 1 .empty 7 0 _ rfl

/-- The photo is granted before the database refuses the document. -/
theorem addPolicy_not_answered :
    ¬ ∀ (env : Env) (helper : MediaHelper) (caller : UInt32) (t : Table) (tokenId flag : UInt32)
      (policies : List PolicyInfo), env.mac.isMacSupport = true →
        AddAnswered env helper caller t tokenId flag policies
          (addPolicy (env.withHelper helper caller) t tokenId policies flag) := by
  intro h
  have hgrants := ((h { grantingEnv with addOk := false } openLibrary 1 .empty 7 0
    [photo READ_MODE, document] rfl).failure (by decide +kernel)).2
  revert hgrants
  decide +kernel

end SandboxManager.Policy
