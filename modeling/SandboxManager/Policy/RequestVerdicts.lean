import SandboxManager.Policy.Shared

/-! The verdicts on the policies of one request.

Only the first policy of a request may refresh the share map, and only when it is looked up
itself. So the others are judged by the refreshed map or by the map as it was, and that is
what they get alone exactly where the entries they are looked up in say the same
(`judgesEach_iff`). -/
namespace SandboxManager.PathRule
open Library Policy Share

/-! ### Which policies are looked up -/

/-- The verdict on a policy whose path is not read. -/
def ruledOut (policy : PolicyInfo) : Option SandboxRetType :=
  if checkPolicyValidity policy .NORMAL_POLICY ≠ .OPERATE_SUCCESSFULLY then
    some (checkPolicyValidity policy .NORMAL_POLICY)
  else if policy.path.length % 2 ^ 32 ≠ (cStr policy.path).length % 2 ^ 32 then some .INVALID_PATH
  else none

/-- Otherwise the verdict is the one on the path's reading. -/
theorem checkItem_eq (notResident : Bool) (env : ShareEnv) (m : ShareMap) (userId : UInt32)
    (bundleName : Bytes) (index : Nat) (policy : PolicyInfo) :
    checkItem notResident env m userId bundleName index policy =
      match ruledOut policy with
      | some res => (m, res)
      | none =>
        let verdict := judge env m userId policy bundleName index
          (reading notResident (adjustPath policy.path))
        (verdict.1, if verdict.2 then .OPERATE_SUCCESSFULLY else .INVALID_PATH) := by
  simp only [checkItem, checkPathIsBlocked, ruledOut]
  by_cases hvalid : checkPolicyValidity policy .NORMAL_POLICY ≠ .OPERATE_SUCCESSFULLY
  · simp only [if_pos hvalid]
  by_cases hnul : policy.path.length % 2 ^ 32 ≠ (cStr policy.path).length % 2 ^ 32
  · simp only [if_neg hvalid, if_pos hnul]
  simp only [if_neg hvalid, if_neg hnul, checkPathWithinRule_eq_judge]
  generalize judge env m userId policy bundleName index _ = verdict
  obtain ⟨m', accepted⟩ := verdict
  cases accepted <;> rfl

/-- What is looked up for a policy whose path has this reading: the bundle and the path, if the
self path's bundle is the right one and the path was not authorised before. -/
def lookedUp (bundleName : Bytes) (policy : PolicyInfo) : Reading → Option (Bytes × Bytes)
  | .long bundle (some pathTmp) =>
    if policy.type = .SELF_PATH ∧ (bundleName = [] ∨ bundle ≠ bundleName) then none
    else if policy.type = .AUTHORIZATION_PATH then none
    else some (bundle, pathTmp)
  | _ => none

def lookupOf (notResident : Bool) (bundleName : Bytes) (policy : PolicyInfo) :
    Option (Bytes × Bytes) :=
  if ruledOut policy = none then
    lookedUp bundleName policy (reading notResident (adjustPath policy.path))
  else none

theorem judge_of_not_lookedUp {bundleName : Bytes} {policy : PolicyInfo} {r : Reading}
    (h : lookedUp bundleName policy r = none) (userId : UInt32) :
    ∃ accepted, ∀ env m index, judge env m userId policy bundleName index r = (m, accepted) := by
  cases r with
  | outside => exact ⟨_, fun _ _ _ => rfl⟩
  | barred => exact ⟨_, fun _ _ _ => rfl⟩
  | short => exact ⟨_, fun _ _ _ => rfl⟩
  | long bundle shared =>
    by_cases hself : policy.type = .SELF_PATH ∧ (bundleName = [] ∨ bundle ≠ bundleName)
    · exact ⟨_, fun _ _ _ => if_pos hself⟩
    · cases shared with
      | none => exact ⟨_, fun _ _ _ => if_neg hself⟩
      | some pathTmp =>
        by_cases hauth : policy.type = .AUTHORIZATION_PATH
        · exact ⟨_, fun _ _ _ => (if_neg hself).trans (if_pos hauth)⟩
        · rw [lookedUp, if_neg hself, if_neg hauth] at h
          cases h

theorem judge_of_lookedUp {bundleName : Bytes} {policy : PolicyInfo} {r : Reading}
    {bundle path : Bytes} (h : lookedUp bundleName policy r = some (bundle, path)) (env : ShareEnv)
    (m : ShareMap) (userId : UInt32) (index : Nat) :
    judge env m userId policy bundleName index r =
      checkShared env m userId policy.mode index bundle path := by
  unfold lookedUp at h
  split at h
  case h_2 => cases h
  case h_1 bundle' pathTmp =>
    split at h
    case isTrue => cases h
    case isFalse hself =>
      split at h
      case isTrue => cases h
      case isFalse hauth =>
        cases h
        exact (if_neg hself).trans (if_neg hauth)

/-- A policy that is not looked up gets one verdict and leaves the map alone. -/
theorem checkItem_of_not_looked {notResident : Bool} {bundleName : Bytes} {policy : PolicyInfo}
    (h : lookupOf notResident bundleName policy = none) (userId : UInt32) :
    ∃ verdict, ∀ env m index,
      checkItem notResident env m userId bundleName index policy = (m, verdict) := by
  simp only [checkItem_eq]
  unfold lookupOf at h
  cases hout : ruledOut policy with
  | some res => exact ⟨res, fun _ _ _ => rfl⟩
  | none =>
    rw [if_pos hout] at h
    obtain ⟨accepted, haccepted⟩ := judge_of_not_lookedUp h userId
    simp only [haccepted]
    exact ⟨_, fun _ _ _ => rfl⟩

theorem checkItem_of_looked {notResident : Bool} {bundleName : Bytes} {policy : PolicyInfo}
    {bundle path : Bytes} (h : lookupOf notResident bundleName policy = some (bundle, path))
    (env : ShareEnv) (m : ShareMap) (userId : UInt32) (index : Nat) :
    checkItem notResident env m userId bundleName index policy =
      ((checkShared env m userId policy.mode index bundle path).1,
        if (checkShared env m userId policy.mode index bundle path).2 then .OPERATE_SUCCESSFULLY
        else .INVALID_PATH) := by
  rw [checkItem_eq]
  unfold lookupOf at h
  split at h
  case isFalse => cases h
  case isTrue hout => simp only [hout, judge_of_lookedUp h]

/-- Behind the first policy the map is only read, and the index no longer matters. -/
theorem checkItem_later {notResident : Bool} {env : ShareEnv} {m : ShareMap} {userId : UInt32}
    {bundleName : Bytes} {index : Nat} (hindex : index ≠ 0) (policy : PolicyInfo) :
    checkItem notResident env m userId bundleName index policy =
      (m, (checkItem notResident env m userId bundleName 1 policy).2) := by
  cases hlookup : lookupOf notResident bundleName policy with
  | none =>
    obtain ⟨verdict, hverdict⟩ := checkItem_of_not_looked hlookup userId
    rw [hverdict, hverdict]
  | some lookup =>
    rw [checkItem_of_looked hlookup, checkItem_of_looked hlookup, checkShared_kept (.inl hindex),
      checkShared_kept (.inl Nat.one_ne_zero)]

theorem checkLoop_later {notResident : Bool} {env : ShareEnv} {m : ShareMap} {userId : UInt32}
    {bundleName : Bytes} {index : Nat} (hindex : index ≠ 0) (policies : List PolicyInfo) :
    checkLoop notResident env userId bundleName index policies m =
      (m, policies.map fun policy =>
        (checkItem notResident env m userId bundleName 1 policy).2) := by
  induction policies generalizing index with
  | nil => rfl
  | cons policy rest ih =>
    rw [checkLoop, checkItem_later hindex]
    simp only [ih (Nat.succ_ne_zero index), List.map_cons]

/-! ### The verdicts of a request -/

/-- The verdicts of the checking loop of `SetPolicy` on a request. -/
def blockVerdicts (notResident : Bool) (env : ShareEnv) (m : ShareMap) (userId : UInt32)
    (bundleName : Bytes) (policies : List PolicyInfo) : List SandboxRetType :=
  (checkLoop notResident env userId bundleName 0 policies m).2

/-- The verdict on a policy in a request of its own. -/
def verdictAlone (notResident : Bool) (env : ShareEnv) (m : ShareMap) (userId : UInt32)
    (bundleName : Bytes) (policy : PolicyInfo) : SandboxRetType :=
  (checkItem notResident env m userId bundleName 0 policy).2

example (notResident : Bool) (env : ShareEnv) (m : ShareMap) (userId : UInt32) (bundleName : Bytes)
    (policy : PolicyInfo) : blockVerdicts notResident env m userId bundleName [policy] =
      [verdictAlone notResident env m userId bundleName policy] := rfl

/-- The first policy is judged as it is alone, the others by the map it leaves. -/
theorem blockVerdicts_cons (notResident : Bool) (env : ShareEnv) (m : ShareMap) (userId : UInt32)
    (bundleName : Bytes) (first : PolicyInfo) (rest : List PolicyInfo) :
    blockVerdicts notResident env m userId bundleName (first :: rest) =
      verdictAlone notResident env m userId bundleName first ::
        rest.map fun later => (checkItem notResident env
          (checkItem notResident env m userId bundleName 0 first).1 userId bundleName 1 later).2 := by
  unfold blockVerdicts
  rw [checkLoop]
  simp only [checkLoop_later (Nat.succ_ne_zero 0)]
  rfl

/-- The check of the first policy refreshes the map: it is looked up, the map has no directory
for its path, and the bundle manager answers. -/
def Refreshes (notResident : Bool) (env : ShareEnv) (m : ShareMap) (userId : UInt32)
    (bundleName : Bytes) (first : PolicyInfo) : Prop :=
  ∃ bundle path, lookupOf notResident bundleName first = some (bundle, path) ∧
    ¬ Configures (m bundle userId) path ∧
    (getAllShareCfg env m userId).2 = .SANDBOX_MANAGER_OK

/-- Behind the first policy the later one meets entries that say what the entries say it is
judged by alone: a directory found in the map says the same after the refresh that was made, a
path without one is let through as it would be after the refresh that was not made. -/
def Undisturbed (notResident : Bool) (env : ShareEnv) (m : ShareMap) (userId : UInt32)
    (bundleName : Bytes) (first later : PolicyInfo) : Prop :=
  ∀ bundle path, lookupOf notResident bundleName later = some (bundle, path) →
    (Refreshes notResident env m userId bundleName first → Configures (m bundle userId) path →
      (Opens (m bundle userId) path later.mode.toUInt32 ↔
        Opens ((getAllShareCfg env m userId).1 bundle userId) path later.mode.toUInt32)) ∧
    (¬ Refreshes notResident env m userId bundleName first → ¬ Configures (m bundle userId) path →
      (Opens (m bundle userId) path later.mode.toUInt32 ↔
        (getAllShareCfg env m userId).2 = .SANDBOX_MANAGER_OK ∧
          Opens ((getAllShareCfg env m userId).1 bundle userId) path later.mode.toUInt32))

/-- The map the first policy leaves. -/
theorem checkItem_map (notResident : Bool) (env : ShareEnv) (m : ShareMap) (userId : UInt32)
    (bundleName : Bytes) (first : PolicyInfo) :
    (Refreshes notResident env m userId bundleName first →
      (checkItem notResident env m userId bundleName 0 first).1 =
        (getAllShareCfg env m userId).1) ∧
    (¬ Refreshes notResident env m userId bundleName first →
      (checkItem notResident env m userId bundleName 0 first).1 = m) := by
  cases hlookup : lookupOf notResident bundleName first with
  | none =>
    obtain ⟨verdict, hverdict⟩ := checkItem_of_not_looked hlookup userId
    rw [hverdict]
    refine ⟨?_, fun _ => rfl⟩
    rintro ⟨bundle, path, h, -⟩
    rw [hlookup] at h
    cases h
  | some lookup =>
    obtain ⟨bundle, path⟩ := lookup
    rw [checkItem_of_looked hlookup]
    by_cases hconfigures : Configures (m bundle userId) path
    · rw [checkShared_kept (.inr hconfigures)]
      refine ⟨?_, fun _ => rfl⟩
      rintro ⟨bundle', path', h, hnot, -⟩
      rw [hlookup] at h
      cases h
      exact absurd hconfigures hnot
    · rw [checkShared_refreshed hconfigures]
      rcases getAllShareCfg_eq env m userId with ⟨m', h⟩ | h
      · rw [h]
        refine ⟨fun _ => rfl, fun hnot => absurd ?_ hnot⟩
        exact ⟨bundle, path, hlookup, hconfigures, by rw [h]⟩
      · rw [h]
        exact ⟨fun _ => rfl, fun _ => rfl⟩

/-- A later policy is judged as it is alone where the first one leaves its entries undisturbed. -/
theorem undisturbed_iff {notResident : Bool} {env : ShareEnv} {m : ShareMap} {userId : UInt32}
    {bundleName : Bytes} {first later : PolicyInfo} :
    (checkItem notResident env (checkItem notResident env m userId bundleName 0 first).1 userId
        bundleName 1 later).2 = verdictAlone notResident env m userId bundleName later ↔
      Undisturbed notResident env m userId bundleName first later := by
  unfold verdictAlone Undisturbed
  cases hlookup : lookupOf notResident bundleName later with
  | none =>
    obtain ⟨verdict, hverdict⟩ := checkItem_of_not_looked hlookup userId
    rw [hverdict, hverdict]
    exact iff_of_true rfl fun _ _ h => by cases h
  | some lookup =>
    obtain ⟨bundle, path⟩ := lookup
    obtain ⟨hrefreshed, hkept⟩ := checkItem_map notResident env m userId bundleName first
    have hverdict : ∀ accepted accepted' : Bool,
        ((if accepted then SandboxRetType.OPERATE_SUCCESSFULLY else .INVALID_PATH) =
          if accepted' then .OPERATE_SUCCESSFULLY else .INVALID_PATH) ↔
          (accepted = true ↔ accepted' = true) := by decide
    have hforall : ∀ p : Bytes → Bytes → Prop,
        (∀ bundle' path', some (bundle, path) = some (bundle', path') → p bundle' path') ↔
          p bundle path :=
      fun p => ⟨fun h => h bundle path rfl, fun h _ _ heq => by cases heq; exact h⟩
    rw [hforall, checkItem_of_looked hlookup, checkItem_of_looked hlookup, hverdict, checkShared_iff,
      checkShared_iff, opensInForce_later Nat.one_ne_zero, opensInForce_first]
    by_cases hrefreshes : Refreshes notResident env m userId bundleName first
    · have ⟨_, _, _, _, hok⟩ := hrefreshes
      rw [hrefreshed hrefreshes]
      by_cases hconfigures : Configures (m bundle userId) path
      · simp [hrefreshes, hconfigures, iff_comm]
      · simp [hrefreshes, hconfigures, hok]
    · rw [hkept hrefreshes]
      by_cases hconfigures : Configures (m bundle userId) path
      · simp [hrefreshes, hconfigures]
      · simp [hrefreshes, hconfigures]

/-! ### `SetPolicy` -/

/-- Where the kernel enforces policies and the results are not cleared, the verdict on a
rejected policy is its result. -/
theorem setPolicy_rejected {env : SetEnv} {m : ShareMap} {tokenId : UInt32}
    {policy : List PolicyInfo} {policyFlag : UInt64} {setInfo : SetInfo} {i : Nat}
    {verdict : SandboxRetType} (hmac : env.isMacSupport = true)
    (hkept : (setPolicy env m tokenId policy policyFlag setInfo).2.2 ≠ [])
    (hverdict : (blockVerdicts env.notResident env.share m setInfo.userId setInfo.bundleName
      policy)[i]? = some verdict)
    (hrejected : verdict ≠ .OPERATE_SUCCESSFULLY) :
    (setPolicy env m tokenId policy policyFlag setInfo).2.2[i]? = some verdict := by
  unfold blockVerdicts at hverdict
  have hset : setPolicy env m tokenId policy policyFlag setInfo =
      ((checkLoop env.notResident env.share setInfo.userId setInfo.bundleName 0 policy m).1,
        setPolicyInner env policy ⟨tokenId, policyFlag, setInfo.timestamp, setInfo.userId⟩
          (checkLoop env.notResident env.share setInfo.userId setInfo.bundleName 0 policy m).2) := by
    unfold setPolicy
    rw [hmac]
    rfl
  rw [hset] at hkept ⊢
  generalize (checkLoop env.notResident env.share setInfo.userId setInfo.bundleName 0 policy m).2 =
    result at hverdict hkept ⊢
  simp only [setPolicyInner] at hkept ⊢
  split
  case isTrue => exact hverdict
  case isFalse hsome =>
    rw [if_neg hsome] at hkept
    split
    case h_1 e herror =>
      rw [herror] at hkept
      exact absurd rfl hkept
    case h_2 setResult _ =>
      show (scatter isAccepted result result setResult)[i]? = _
      rw [getElem?_scatter_of_not hverdict (decide_eq_false hrejected)]
      exact hverdict

section
variable (env : SetEnv) (m : ShareMap) (setInfo : SetInfo)

/-- The verdicts `SetPolicy` computes for a request. -/
def verdicts (policies : List PolicyInfo) : List SandboxRetType :=
  blockVerdicts env.notResident env.share m setInfo.userId setInfo.bundleName policies

/-- Each policy of the request is judged as it is in a request of its own, a verdict that rejects
it is its result, and in another order the policies have the same verdicts. -/
structure JudgesEach (tokenId : UInt32) (policyFlag : UInt64) (policies : List PolicyInfo) : Prop
    where
  alone : ∀ (i : Nat) (policy : PolicyInfo), policies[i]? = some policy →
    (verdicts env m setInfo policies)[i]? = (verdicts env m setInfo [policy])[0]?
  refused : env.isMacSupport = true →
    (setPolicy env m tokenId policies policyFlag setInfo).2.2 ≠ [] →
    ∀ (i : Nat) (policy : PolicyInfo) (verdict : SandboxRetType), policies[i]? = some policy →
      verdicts env m setInfo [policy] = [verdict] → verdict ≠ .OPERATE_SUCCESSFULLY →
      (setPolicy env m tokenId policies policyFlag setInfo).2.2[i]? = some verdict
  reordered : ∀ policies', policies.Perm policies' →
    (policies.zip (verdicts env m setInfo policies)).Perm
      (policies'.zip (verdicts env m setInfo policies'))

/-- Whichever of two policies comes first leaves the other undisturbed. -/
def Independent (a b : PolicyInfo) : Prop :=
  Undisturbed env.notResident env.share m setInfo.userId setInfo.bundleName a b ∧
    Undisturbed env.notResident env.share m setInfo.userId setInfo.bundleName b a

/-- The verdict on a policy in a request of its own. -/
def own (policy : PolicyInfo) : SandboxRetType :=
  verdictAlone env.notResident env.share m setInfo.userId setInfo.bundleName policy

variable {env m setInfo}

theorem verdicts_cons_iff {first : PolicyInfo} {rest : List PolicyInfo} :
    verdicts env m setInfo (first :: rest) = (first :: rest).map (own env m setInfo) ↔
      ∀ later ∈ rest, Undisturbed env.notResident env.share m setInfo.userId setInfo.bundleName
        first later := by
  unfold verdicts own
  rw [blockVerdicts_cons, List.map_cons, List.cons_inj_right, List.map_inj_left]
  exact forall₂_congr fun _ _ => undisturbed_iff

theorem length_verdicts (policies : List PolicyInfo) :
    (verdicts env m setInfo policies).length = policies.length := by
  cases policies with
  | nil => rfl
  | cons first rest =>
    unfold verdicts
    rw [blockVerdicts_cons, List.length_cons, List.length_map, List.length_cons]

theorem verdicts_eq_iff {policies : List PolicyInfo} :
    verdicts env m setInfo policies = policies.map (own env m setInfo) ↔
      ∀ (i : Nat) (policy : PolicyInfo), policies[i]? = some policy →
        (verdicts env m setInfo policies)[i]? = (verdicts env m setInfo [policy])[0]? := by
  constructor
  · intro h i policy hi
    rw [h, List.getElem?_map, hi]
    rfl
  · intro h
    refine List.ext_getElem? fun i => ?_
    rw [List.getElem?_map]
    cases hi : policies[i]? with
    | none =>
      refine List.getElem?_eq_none_iff.mpr ?_
      rw [length_verdicts]
      exact List.getElem?_eq_none_iff.mp hi
    | some policy => exact h i policy hi

/-- The verdicts of a reordered request are those on each policy alone, too. -/
theorem verdicts_of_reordered {policies policies' : List PolicyInfo}
    (h : verdicts env m setInfo policies = policies.map (own env m setInfo))
    (hzip : (policies.zip (verdicts env m setInfo policies)).Perm
      (policies'.zip (verdicts env m setInfo policies'))) :
    verdicts env m setInfo policies' = policies'.map (own env m setInfo) := by
  have hown : ∀ item ∈ policies'.zip (verdicts env m setInfo policies'),
      item.2 = own env m setInfo item.1 := by
    intro item hitem
    have hmem := hzip.mem_iff.mpr hitem
    rw [h, ← List.map_prod_left_eq_zip] at hmem
    obtain ⟨policy, -, rfl⟩ := List.mem_map.mp hmem
    rfl
  have hlen : (verdicts env m setInfo policies').length = policies'.length :=
    length_verdicts policies'
  calc verdicts env m setInfo policies'
      = (policies'.zip (verdicts env m setInfo policies')).map Prod.snd :=
        (List.map_snd_zip (Nat.le_of_eq hlen)).symm
    _ = (policies'.zip (verdicts env m setInfo policies')).map (own env m setInfo ∘ Prod.fst) :=
        List.map_congr_left hown
    _ = policies'.map (own env m setInfo) := by
        rw [← List.map_map, List.map_fst_zip (Nat.le_of_eq hlen.symm)]

end

/-- **Each policy of a request is judged on its own exactly where every two of them leave each
other's entries undisturbed**, whichever comes first: where the first one's check refreshes the
map, what the refresh changes does not matter to the other, and where it does not, neither does
what a refresh would have changed. -/
theorem judgesEach_iff (env : SetEnv) (m : ShareMap) (tokenId : UInt32) (policyFlag : UInt64)
    (setInfo : SetInfo) (policies : List PolicyInfo) :
    JudgesEach env m setInfo tokenId policyFlag policies ↔
      policies.Pairwise (Independent env m setInfo) := by
  constructor
  · intro h
    have hall : ∀ {policies'}, policies.Perm policies' →
        verdicts env m setInfo policies' = policies'.map (own env m setInfo) :=
      fun hperm => verdicts_of_reordered (verdicts_eq_iff.mpr h.alone) (h.reordered _ hperm)
    refine List.pairwise_iff_forall_sublist.mpr fun {a b} hab => ?_
    -- either of the two can come first
    obtain ⟨others, hperm⟩ := hab.exists_perm_append
    exact ⟨verdicts_cons_iff.mp (hall hperm) b (List.mem_cons_self ..),
      verdicts_cons_iff.mp (hall (hperm.trans (List.Perm.swap ..))) a (List.mem_cons_self ..)⟩
  · intro h
    have hall : ∀ {policies'}, policies.Perm policies' →
        verdicts env m setInfo policies' = policies'.map (own env m setInfo) := by
      intro policies' hperm
      have hpairwise := hperm.pairwise h fun hab => ⟨hab.2, hab.1⟩
      cases policies' with
      | nil => rfl
      | cons first rest =>
        exact verdicts_cons_iff.mpr fun later hlater =>
          ((List.pairwise_cons.mp hpairwise).1 later hlater).1
    have halone := verdicts_eq_iff.mp (hall (List.Perm.refl policies))
    refine ⟨halone, ?_, ?_⟩
    · intro hmac hkept i policy verdict hi hverdict hrejected
      refine setPolicy_rejected hmac hkept ?_ hrejected
      have hthere := halone i policy hi
      rw [hverdict] at hthere
      exact hthere
    · intro policies' hperm
      rw [hall (List.Perm.refl policies), hall hperm, ← List.map_prod_left_eq_zip,
        ← List.map_prod_left_eq_zip]
      exact hperm.map _

/-- The profile of `com.a` shares `/base/files` for reading. -/
def filesProfile : ShareEnv where
  order := entryOrder
  cJSONParse _ := some (.object [(bytes "share_files", .object [(bytes "scopes", .array
    [.object [(bytes "path", .string (bytes "/base/files")),
      (bytes "permission", .string (bytes "r"))]])])])
  getAllJsonProfile _ := some [⟨bytes "com.a", []⟩]

/-- The kernel takes every policy. -/
def filesEnv : SetEnv := ⟨true, filesProfile, true, fun _ policies =>
  .ok (policies.map fun _ => .OPERATE_SUCCESSFULLY)⟩

def callerInfo : SetInfo := ⟨[], 0, 100⟩

def documentsPolicy : PolicyInfo :=
  ⟨bytes "/storage/Users/currentUser/Documents", READ_MODE, .UNKNOWN⟩

def filesPolicy : PolicyInfo :=
  ⟨bytes "/storage/Users/currentUser/appdata/el2/base/com.a/files", READ_MODE, .UNKNOWN⟩

def cachePolicy : PolicyInfo :=
  ⟨bytes "/storage/Users/currentUser/appdata/el2/base/com.a/cache", READ_MODE, .UNKNOWN⟩

theorem not_configures_emptyMap (bundle path : Bytes) (userId : UInt32) :
    ¬ Configures (emptyMap bundle userId) path := fun ⟨_, _, h, _⟩ => nomatch h

/-- Whichever of the two comes first refreshes the map for both, and only one is shared. -/
theorem judgesEach_files :
    JudgesEach filesEnv emptyMap callerInfo 0 0 [filesPolicy, cachePolicy] := by
  have hrefreshes : ∀ {first : PolicyInfo} {path : Bytes},
      lookupOf true [] first = some (bytes "com.a", path) → ∀ later,
        Undisturbed true filesProfile emptyMap 100 [] first later := fun hlookup later bundle path _ =>
    ⟨fun _ h => absurd h (not_configures_emptyMap bundle path 100),
      fun h => absurd ⟨_, _, hlookup, not_configures_emptyMap _ _ 100, rfl⟩ h⟩
  have hfiles : lookupOf true [] filesPolicy = some (bytes "com.a", filesPolicy.path) := by decide
  have hcache : lookupOf true [] cachePolicy = some (bytes "com.a", cachePolicy.path) := by decide
  refine (judgesEach_iff filesEnv emptyMap 0 0 callerInfo _).mpr (List.pairwise_pair.mpr ?_)
  exact ⟨hrefreshes hfiles cachePolicy, hrefreshes hcache filesPolicy⟩

/-- Behind a policy that is not looked up no refresh is made, and a directory that `com.a` does
not share is let through, which alone it is not. -/
theorem not_judgesEach :
    ¬ JudgesEach filesEnv emptyMap callerInfo 0 0 [documentsPolicy, cachePolicy] := by
  intro h
  have := h.alone 1 cachePolicy rfl
  revert this
  decide

end SandboxManager.PathRule
