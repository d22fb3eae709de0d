import SandboxManager.Policy.Media

/-! Whether `MatchPolicy` answers each policy on its own.

Ordinary policies are answered one by one, an invalid one with its own code. The media policies of
a request are converted together, and one whose mode the media library has no name for makes the
whole request fail. So a request is answered policy by policy exactly if it has none of those
(`matchPolicy_independent_iff`). -/
namespace SandboxManager.Policy
open Library Trie

/-- Every call of the media library succeeds. -/
structure MediaHelper.Succeeds (helper : MediaHelper) : Prop where
  init : helper.initOk = true
  uris : ∀ paths, helper.urisOk paths = true
  permission : ∀ tokenId files, helper.permissionOk tokenId files = true

section
variable (env : Env) (helper : MediaHelper) (caller : UInt32) (t : Table) (tokenId : UInt32)

/-- What the media library says of a policy whose mode it has a name for. -/
def mediaAnswer (p : PolicyInfo) : Bool :=
  (photoPermissionType (mediaMode p)).any fun type =>
    helper.permitted tokenId (helper.uriOf p.path) type

def normalAnswer (p : PolicyInfo) : SandboxRetType :=
  if isEmpty (matchTrie env t tokenId) then .POLICY_HAS_NOT_BEEN_PERSISTED
  else processPolicyMatch (matchTrieNew env t tokenId) p

def matchAnswer (p : PolicyInfo) : SandboxRetType :=
  if isMedia p then
    if mediaAnswer helper tokenId p then .OPERATE_SUCCESSFULLY else .POLICY_HAS_NOT_BEEN_PERSISTED
  else normalAnswer env t tokenId p

/-- Each policy of the request gets what it gets alone. -/
structure Independent (policies : List PolicyInfo) : Prop where
  ret : (matchPolicy (env.withHelper helper caller) t tokenId policies).1 = .SANDBOX_MANAGER_OK
  length : (matchPolicy (env.withHelper helper caller) t tokenId policies).2.length = policies.length
  own : ∀ (i : Nat) (p : PolicyInfo), policies[i]? = some p → ∃ result,
    matchPolicy (env.withHelper helper caller) t tokenId [p] = (.SANDBOX_MANAGER_OK, [result]) ∧
      (matchPolicy (env.withHelper helper caller) t tokenId policies).2[i]? = some result

end

section
variable {env : Env} {helper : MediaHelper} {caller : UInt32} {t : Table} {tokenId : UInt32}

theorem getMediaPermission_eq (hhelper : helper.Succeeds) {policies : List PolicyInfo}
    (hnamed : ∀ p ∈ policies, NamedMode p) :
    getMediaPermission helper tokenId policies = .ok (policies.map (mediaAnswer helper tokenId)) := by
  have htype : ∀ p ∈ policies, photoPermissionType (mediaMode p) = some (photoType p) :=
    fun p hp => photoType_of_named (hnamed p hp)
  have hzip : ((policies.map PolicyInfo.path).map helper.uriOf).zip (policies.map photoType) =
      policies.map fun p => (helper.uriOf p.path, photoType p) := by
    rw [List.map_map, List.zip_map']
    rfl
  unfold getMediaPermission
  simp only [hhelper.init, hhelper.uris, hhelper.permission, operateMode_eq_map htype, hzip,
    Bool.not_true, Bool.or_self, Bool.false_eq_true, if_false]
  rw [List.map_map]
  apply congrArg
  apply List.map_congr_left
  intro p hp
  rw [Function.comp_apply, mediaAnswer, htype p hp]
  rfl

theorem getMediaPolicyCommonWork_eq (hhelper : helper.Succeeds) {policies : List PolicyInfo}
    (hnamed : ∀ p ∈ policies, isMedia p = true → NamedMode p) (results : PolicyInfo → SandboxRetType) :
    getMediaPolicyCommonWork (env.withHelper helper caller) tokenId policies (policies.map results) =
      .ok (policies.map fun p => if isMedia p then
        (if mediaAnswer helper tokenId p then .OPERATE_SUCCESSFULLY
          else .POLICY_HAS_NOT_BEEN_PERSISTED) else results p) := by
  unfold getMediaPolicyCommonWork
  by_cases hnone : policies.filter isMedia = []
  · rw [if_pos hnone]
    apply congrArg
    apply List.map_congr_left
    intro p hp
    exact (if_neg (List.filter_eq_nil_iff.mp hnone p hp)).symm
  · have hmedia : ∀ p ∈ policies.filter isMedia, NamedMode p := fun p hp =>
      hnamed p (List.mem_filter.mp hp).1 (List.mem_filter.mp hp).2
    have hanswer : (env.withHelper helper caller).media.getMediaPermission tokenId
        (policies.filter isMedia) = .ok ((policies.filter isMedia).map (mediaAnswer helper tokenId)) :=
      getMediaPermission_eq hhelper hmedia
    rw [if_neg hnone, hanswer]
    simp only [List.map_map]
    exact congrArg _ (scatter_map isMedia policies _ _)

theorem matchNormalPolicy_eq (hfind : env.findOk = true) (policies : List PolicyInfo) :
    matchNormalPolicy (env.withHelper helper caller) t tokenId policies =
      .ok (policies.map (normalAnswer env t tokenId)) := by
  have hfound : (env.withHelper helper caller).findOk = true := hfind
  simp only [matchNormalPolicy, hfound, Bool.not_true, Bool.false_eq_true, if_false]
  by_cases hempty : isEmpty (matchTrie env t tokenId) = true
  · refine (if_pos hempty).trans (congrArg _ (List.map_congr_left fun p _ => ?_))
    rw [normalAnswer, if_pos hempty]
  · refine (if_neg hempty).trans (congrArg _ (List.map_congr_left fun p _ => ?_))
    rw [normalAnswer, if_neg hempty]
    rfl

theorem isNormal_eq_not (p : PolicyInfo) : isNormal p = !isMedia p := rfl

theorem matchPolicy_eq_map (hhelper : helper.Succeeds) (hfind : env.findOk = true)
    {policies : List PolicyInfo} (hnamed : ∀ p ∈ policies, isMedia p = true → NamedMode p) :
    matchPolicy (env.withHelper helper caller) t tokenId policies =
      (.SANDBOX_MANAGER_OK, policies.map (matchAnswer env helper t tokenId)) := by
  unfold matchPolicy
  rw [getMediaPolicyCommonWork_eq hhelper hnamed]
  simp only
  by_cases hnone : policies.filter isNormal = []
  · rw [if_pos hnone]
    apply congrArg
    apply List.map_congr_left
    intro p hp
    have hmedia : isMedia p = true := by
      have hnot := List.filter_eq_nil_iff.mp hnone p hp
      rw [isNormal_eq_not] at hnot
      simpa using hnot
    rw [matchAnswer, if_pos hmedia, if_pos hmedia]
  · rw [if_neg hnone, matchNormalPolicy_eq hfind]
    simp only
    rw [scatter_map]
    apply congrArg
    apply List.map_congr_left
    intro p _
    rw [matchAnswer, isNormal_eq_not]
    cases isMedia p with
    | false => rfl
    | true => rfl

theorem matchPolicy_unnamed {policies : List PolicyInfo} {p : PolicyInfo} (hp : p ∈ policies)
    (hmedia : isMedia p = true) (hunnamed : ¬ NamedMode p) :
    (matchPolicy (env.withHelper helper caller) t tokenId policies).1 ≠ .SANDBOX_MANAGER_OK := by
  have hmem : p ∈ policies.filter isMedia := List.mem_filter.mpr ⟨hp, hmedia⟩
  have hconvert : operateModeToPhotoPermissionType ((policies.filter isMedia).map mediaMode) = none :=
    (operateMode_eq_none_iff _).mpr
      ⟨_, List.mem_map_of_mem hmem, Option.not_isSome_iff_eq_none.mp hunnamed⟩
  have herror : ∃ e, e ≠ ErrCode.SANDBOX_MANAGER_OK ∧
      (env.withHelper helper caller).media.getMediaPermission tokenId (policies.filter isMedia) =
        .error e := by
    show ∃ e, _ ∧ getMediaPermission helper tokenId (policies.filter isMedia) = .error e
    unfold getMediaPermission
    simp only [hconvert]
    split
    · exact ⟨_, by decide, rfl⟩
    · exact ⟨_, by decide, rfl⟩
  obtain ⟨e, he, herror⟩ := herror
  unfold matchPolicy getMediaPolicyCommonWork
  rw [if_neg (List.ne_nil_of_mem hmem), herror]
  exact he

end

/-- **`MatchPolicy` answers policy by policy exactly if every media policy has a mode that the media
library has a name for**: reading, writing or both. -/
theorem matchPolicy_independent_iff (env : Env) (helper : MediaHelper) (caller : UInt32) (t : Table)
    (tokenId : UInt32) (policies : List PolicyInfo) (hhelper : helper.Succeeds)
    (hfind : env.findOk = true) :
    Independent env helper caller t tokenId policies ↔
      ∀ p ∈ policies, isMediaPolicy p.path = true → NamedMode p := by
  apply Iff.intro
  · intro hindependent p hp hmedia
    by_contra hunnamed
    exact matchPolicy_unnamed hp hmedia hunnamed hindependent.ret
  · intro hnamed
    have hall := @matchPolicy_eq_map env helper caller t tokenId hhelper hfind policies hnamed
    apply Independent.mk
    · rw [hall]
    · rw [hall, List.length_map]
    · intro i p hp
      have halone : ∀ q ∈ [p], isMedia q = true → NamedMode q := by
        intro q hq
        rw [List.mem_singleton.mp hq]
        exact hnamed p (List.mem_of_getElem? hp)
      refine ⟨matchAnswer env helper t tokenId p, matchPolicy_eq_map hhelper hfind halone, ?_⟩
      rw [hall, List.getElem?_map, hp, Option.map_some]

/-- A library that knows every file as its own uri and permits all of it. -/
def openLibrary : MediaHelper where
  initOk := true
  urisOk _ := true
  uriOf := id
  checkOk _ _ := true
  mayGrant _ _ _ := true
  grantOk _ _ _ := true
  permissionOk _ _ := true
  permitted _ _ _ := true

def photo (mode : UInt64) : PolicyInfo := { path := MEDIA_PATH_1 ++ bytes "/1.jpg", mode }

def document : PolicyInfo := { path := bytes "/storage/Users/currentUser/docs/a", mode := READ_MODE }

theorem openLibrary_succeeds : openLibrary.Succeeds := ⟨rfl, fun _ => rfl, fun _ _ => rfl⟩

theorem matchPolicy_independent_photo :
    Independent grantingEnv openLibrary 1 .empty 7 [photo READ_MODE, document] ↔
      ∀ p ∈ [photo READ_MODE, document], isMediaPolicy p.path = true → NamedMode p :=
  matchPolicy_independent_iff grantingEnv openLibrary 1 .empty 7 _ openLibrary_succeeds rfl

/-- A photo to be created in keeps the document from being answered. -/
theorem matchPolicy_not_independent :
    ¬ ∀ (env : Env) (helper : MediaHelper) (caller : UInt32) (t : Table) (tokenId : UInt32)
      (policies : List PolicyInfo), helper.Succeeds → env.findOk = true →
        Independent env helper caller t tokenId policies := by
  intro h
  have hret := (h grantingEnv openLibrary 1 .empty 7 [document, photo 4] openLibrary_succeeds rfl).ret
  revert hret
  decide +kernel

end SandboxManager.Policy
