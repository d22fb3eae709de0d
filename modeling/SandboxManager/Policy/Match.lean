import SandboxManager.Policy.Persist

/-! What stays matched after it was persisted.

`AddPolicy` stores the row of every ordinary policy it reports as successful, and
no later `AddPolicy` removes a key (`exists_key_of_added`, `AddRun.exists_key`).
`MatchPolicy` then finds the policy's own directory on the way to its path, but the
first directory on that way decides: storing a policy further up can take a match
away, storing one elsewhere cannot. -/
namespace SandboxManager.Policy
open Library Trie

/-! ### What `AddPolicy` stores -/

theorem length_queryBatches {mac : MacAdapter} {tokenId : UInt32} {n : Nat}
    {policy : List PolicyInfo} {results : List SandboxRetType} (hn : policy.length ≤ n)
    (h : queryBatches mac tokenId n policy = .ok results) : results.length = policy.length := by
  induction n generalizing policy results with
  | zero =>
    have : policy = [] := List.eq_nil_of_length_eq_zero (by omega)
    subst this
    cases h
    rfl
  | succ n ih =>
    cases policy with
    | nil =>
      cases h
      rfl
    | cons p ps =>
      simp only [queryBatches] at h
      split at h
      case h_1 => cases h
      case h_2 answer _ =>
        split at h
        case h_1 => cases h
        case h_2 rest hrest =>
          have hlen := ih (by simp [MAX_POLICY_NUM] at hn ⊢; omega) hrest
          cases h
          simp only [List.length_append, List.length_map, List.length_range, List.length_take,
            List.length_drop, hlen]
          omega

theorem length_querySandboxPolicy {mac : MacAdapter} {tokenId : UInt32}
    {policy : List PolicyInfo} {results : List SandboxRetType}
    (h : querySandboxPolicy mac tokenId policy = .ok results) :
    results.length = policy.length := by
  unfold querySandboxPolicy at h
  split at h
  case isTrue => cases h
  case isFalse => exact length_queryBatches (Nat.le_refl _) h

/-- What a successful `AddNormalPolicy` leaves: one result a policy, and each policy
reported as successful handed to the database, when the kernel enforces policies. -/
structure Added (env : Env) (t t' : Table) (tokenId flag : UInt32) (policy : List PolicyInfo)
    (results : List SandboxRetType) : Prop where
  length : results.length = policy.length
  handed : ∀ (i : Nat) (p : PolicyInfo), policy[i]? = some p →
    results[i]? = some SandboxRetType.OPERATE_SUCCESSFULLY →
      ∃ policies, addToDatabaseIfNotDuplicate env t tokenId policies flag = some t' ∧ p ∈ policies

theorem key_policyRow (tokenId flag : UInt32) (p : PolicyInfo) :
    (policyRow tokenId flag p).key = transferPolicyToGeneric tokenId p := rfl

theorem addToDatabase_keys {env : Env} {t t' : Table} {tokenId flag : UInt32}
    {policies : List PolicyInfo}
    (h : addToDatabaseIfNotDuplicate env t tokenId policies flag = some t') (k : RowKey) :
    (∃ r ∈ t', r.key = k) ↔
      (∃ r ∈ t, r.key = k) ∨ ∃ p ∈ policies, transferPolicyToGeneric tokenId p = k := by
  unfold addToDatabaseIfNotDuplicate at h
  split at h
  case isTrue hnil =>
    cases h
    simp [hnil]
  case isFalse =>
    split at h
    case isFalse => cases h
    case isTrue =>
      cases h
      rw [exists_key_rdbAdd]
      simp only [List.mem_map, exists_exists_and_eq_and, key_policyRow]

theorem added_of_addNormalPolicy {env : Env} (hmac : env.mac.isMacSupport = true) {t t' : Table}
    {tokenId flag : UInt32} {policy : List PolicyInfo} {results : List SandboxRetType}
    (h : addNormalPolicy env t tokenId policy flag = (t', .ok results)) :
    Added env t t' tokenId flag policy results := by
  unfold addNormalPolicy at h
  rw [hmac] at h
  simp only [Bool.not_true, Bool.false_eq_true, if_false] at h
  split at h
  case h_1 => cases h
  case h_2 queryResults hquery =>
    have hlen := length_querySandboxPolicy hquery
    split at h
    case h_1 => cases h
    case h_2 t'' hadd =>
      obtain ⟨rfl, hres⟩ := Prod.mk.inj h
      cases hres
      refine ⟨by simp [hlen], fun i p hp hr => ?_⟩
      rw [List.getElem?_map, Option.map_eq_some_iff] at hr
      obtain ⟨q, hq, hok⟩ := hr
      have hpersist : isPersistable env tokenId q = true := by
        by_contra hnot
        rw [if_neg hnot] at hok
        cases hok
      have hfst : q.1 = p := by
        obtain ⟨hq1, -⟩ := List.getElem?_zip_eq_some.mp hq
        exact Option.some.inj (hq1.symm.trans hp)
      refine ⟨_, hadd, ?_⟩
      exact List.mem_map.mpr ⟨q, List.mem_filter.mpr ⟨List.mem_of_getElem? hq, hpersist⟩, hfst⟩

/-- The media part leaves the results of all other policies alone. -/
theorem getElem?_addMediaPart {env : Env} {tokenId : UInt32} {policy : List PolicyInfo}
    {results results' : List SandboxRetType} {i : Nat} {p : PolicyInfo}
    (h : addMediaPart env tokenId policy results = .ok results') (hp : policy[i]? = some p)
    (hmedia : isMediaIndex p = false) :
    results'[i]? = results[i]? ∧ results'.length = results.length := by
  unfold addMediaPart at h
  split at h
  case isTrue =>
    cases h
    exact ⟨rfl, rfl⟩
  case isFalse =>
    split at h
    case h_1 => cases h
    case h_2 =>
      cases h
      exact ⟨getElem?_scatter_of_not hp hmedia, length_scatter ..⟩

/-- An invalid policy keeps its error code, whatever else happens. -/
theorem addPolicy_valid {env : Env} {t t' : Table} {tokenId flag : UInt32}
    {policy : List PolicyInfo} {results : List SandboxRetType} {i : Nat} {p : PolicyInfo}
    (h : addPolicy env t tokenId policy flag = (t', .SANDBOX_MANAGER_OK, results))
    (hp : policy[i]? = some p) (hr : results[i]? = some .OPERATE_SUCCESSFULLY) :
    isValid p = true := by
  by_contra hnot
  have hv : isValid p = false := by simpa using hnot
  have hmedia : isMediaIndex p = false := by simp [isMediaIndex, hv]
  have hpass : isPassIndex p = false := by simp [isPassIndex, hv]
  unfold addPolicy at h
  split at h
  case h_1 e _ =>
    obtain ⟨-, -, hnil⟩ : t = t' ∧ e = _ ∧ [] = results := by simpa using h
    rw [← hnil] at hr
    cases hr
  case h_2 results₀ hm =>
    obtain ⟨hkeep, -⟩ := getElem?_addMediaPart hm hp hmedia
    rw [List.getElem?_map, hp] at hkeep
    have hinvalid : results₀[i]? ≠ some .OPERATE_SUCCESSFULLY := by
      intro heq
      rw [hkeep] at heq
      simp [isValid] at hv heq
      exact hv heq
    split at h
    case isTrue =>
      obtain ⟨-, hres⟩ : t = t' ∧ results₀ = results := by simpa using h
      exact hinvalid (hres ▸ hr)
    case isFalse =>
      split at h
      case h_1 t'' e _ =>
        obtain ⟨-, -, hnil⟩ : t'' = t' ∧ e = _ ∧ [] = results := by simpa using h
        rw [← hnil] at hr
        cases hr
      case h_2 t'' queryResults _ =>
        obtain ⟨-, hres⟩ : t'' = t' ∧ scatter isPassIndex policy results₀ queryResults = results := by
          simpa using h
        rw [← hres, getElem?_scatter_of_not hp hpass] at hr
        exact hinvalid hr

/-- When `AddPolicy` succeeds, every ordinary policy with a successful result was handed to the
database. -/
theorem addPolicy_handed {env : Env} (hmac : env.mac.isMacSupport = true) {t t' : Table}
    {tokenId flag : UInt32} {policy : List PolicyInfo} {results : List SandboxRetType} {i : Nat}
    {p : PolicyInfo} (h : addPolicy env t tokenId policy flag = (t', .SANDBOX_MANAGER_OK, results))
    (hp : policy[i]? = some p) (hnormal : isMediaPolicy p.path = false)
    (hr : results[i]? = some .OPERATE_SUCCESSFULLY) :
    ∃ policies, addToDatabaseIfNotDuplicate env t tokenId policies flag = some t' ∧
      p ∈ policies := by
  have hvalid : isValid p = true := addPolicy_valid h hp hr
  have hmedia : isMediaIndex p = false := by simp [isMediaIndex, hnormal]
  have hpass : isPassIndex p = true := by simp [isPassIndex, hvalid, hnormal]
  unfold addPolicy at h
  split at h
  case h_1 e _ =>
    obtain ⟨-, -, hnil⟩ : t = t' ∧ e = _ ∧ [] = results := by simpa using h
    rw [← hnil] at hr
    cases hr
  case h_2 results₀ hm =>
    obtain ⟨-, hlen⟩ := getElem?_addMediaPart hm hp hmedia
    split at h
    case isTrue hnone =>
      have hmem : p ∈ policy.filter isPassIndex :=
        List.mem_filter.mpr ⟨List.mem_of_getElem? hp, hpass⟩
      rw [hnone] at hmem
      cases hmem
    case isFalse =>
      split at h
      case h_1 t'' e _ =>
        obtain ⟨-, -, hnil⟩ : t'' = t' ∧ e = _ ∧ [] = results := by simpa using h
        rw [← hnil] at hr
        cases hr
      case h_2 t'' queryResults hadd =>
        obtain ⟨rfl, hres⟩ : t'' = t' ∧ scatter isPassIndex policy results₀ queryResults = results := by
          simpa using h
        have hadded := added_of_addNormalPolicy hmac hadd
        have hlen' : results₀.length = policy.length := by simpa using hlen
        rw [← hres, getElem?_scatter hp hpass hlen' hadded.length] at hr
        exact hadded.handed _ p (getElem?_filter_rank hp hpass) hr

/-- **What `AddPolicy` persists**: when it succeeds, every ordinary policy with a successful
result is valid and its row's key is stored. -/
theorem addPolicy_stored {env : Env} (hmac : env.mac.isMacSupport = true) {t t' : Table}
    {tokenId flag : UInt32} {policy : List PolicyInfo} {results : List SandboxRetType} {i : Nat}
    {p : PolicyInfo} (h : addPolicy env t tokenId policy flag = (t', .SANDBOX_MANAGER_OK, results))
    (hp : policy[i]? = some p) (hnormal : isMediaPolicy p.path = false)
    (hr : results[i]? = some .OPERATE_SUCCESSFULLY) :
    isValid p = true ∧ ∃ r ∈ t', r.key = transferPolicyToGeneric tokenId p := by
  obtain ⟨policies, hadd, hmem⟩ := addPolicy_handed hmac h hp hnormal hr
  exact ⟨addPolicy_valid h hp hr, (addToDatabase_keys hadd _).mpr (Or.inr ⟨p, hmem, rfl⟩)⟩

/-- Whatever the outcome, some policies, perhaps none, were handed to the database. -/
theorem addPolicy_table (env : Env) (t : Table) (tokenId flag : UInt32) (policy : List PolicyInfo) :
    ∃ policies, addToDatabaseIfNotDuplicate env t tokenId policies flag =
      some (addPolicy env t tokenId policy flag).1 := by
  have hnone : addToDatabaseIfNotDuplicate env t tokenId [] flag = some t := rfl
  have hnormal : ∃ policies, addToDatabaseIfNotDuplicate env t tokenId policies flag =
      some (addNormalPolicy env t tokenId (policy.filter isPassIndex) flag).1 := by
    unfold addNormalPolicy
    split
    · exact ⟨[], hnone⟩
    · split
      · exact ⟨[], hnone⟩
      · simp only
        split
        case h_1 => exact ⟨[], hnone⟩
        case h_2 hadd => exact ⟨_, hadd⟩
  unfold addPolicy
  split
  · exact ⟨[], hnone⟩
  · split
    · exact ⟨[], hnone⟩
    · split <;> simpa [*] using hnormal

/-- No key stored before is lost, whatever the outcome. -/
theorem exists_key_addPolicy (env : Env) {t : Table} (tokenId flag : UInt32)
    (policy : List PolicyInfo) {r : Row} (hr : r ∈ t) :
    ∃ r' ∈ (addPolicy env t tokenId policy flag).1, r'.key = r.key := by
  obtain ⟨_, hadd⟩ := addPolicy_table env t tokenId flag policy
  exact (addToDatabase_keys hadd r.key).mpr (Or.inl ⟨r, hr, rfl⟩)

/-- Any number of successful `AddPolicy` calls of one token, each met by its own answers. -/
inductive AddRun (tokenId : UInt32) : Table → Table → Prop
  | done (t : Table) : AddRun tokenId t t
  | add {env : Env} {t t' t'' : Table} {policy : List PolicyInfo} {flag : UInt32}
      {results : List SandboxRetType}
      (call : addPolicy env t tokenId policy flag = (t', .SANDBOX_MANAGER_OK, results))
      (rest : AddRun tokenId t' t'') : AddRun tokenId t t''

theorem AddRun.exists_key {tokenId : UInt32} {t t' : Table} (run : AddRun tokenId t t') {r : Row}
    (hr : r ∈ t) : ∃ r' ∈ t', r'.key = r.key := by
  induction run generalizing r with
  | done t => exact ⟨r, hr, rfl⟩
  | @add env t _ _ policy flag _ call _ ih =>
    obtain ⟨r₁, hr₁, hk₁⟩ := exists_key_addPolicy env tokenId flag policy hr
    rw [call] at hr₁
    obtain ⟨r₂, hr₂, hk₂⟩ := ih hr₁
    exact ⟨r₂, hr₂, hk₂.trans hk₁⟩

/-! ### What `MatchPolicy` reads -/

theorem mem_tokenRows {t : Table} {tokenId : UInt32} {x : Bytes × UInt64} :
    x ∈ tokenRows t tokenId ↔
      ∃ r ∈ t, r.tokenId = tokenId ∧ (r.path, r.mode.toUInt32.toUInt64) = x := by
  simp [tokenRows, KeyedTable.mem_iff, and_assoc]

theorem isModeMatch_of_valid {p : PolicyInfo} {type : SetPolicyType}
    (h : checkPolicyValidity p type = .OPERATE_SUCCESSFULLY) :
    isModeMatchPolicyType p.mode type = true := by
  simp only [checkPolicyValidity] at h
  split at h
  case isTrue => cases h
  case isFalse =>
    split at h
    case isTrue => cases h
    case isFalse =>
      split at h
      case isTrue hmode => exact hmode
      case isFalse => cases h

/-- A valid mode survives the way through the table. -/
theorem narrow_mode {p : PolicyInfo} (h : isValid p = true) :
    p.mode.toUInt32.toUInt64 = p.mode := by
  have hmode := isModeMatch_of_valid (of_decide_eq_true h)
  simp only [isModeMatchPolicyType, Bool.and_eq_true, decide_eq_true_eq, MAX_MODE,
    UInt64.lt_iff_toNat_lt] at hmode
  have h32 : UInt64.toNat 32 = 32 := rfl
  simp only [← UInt64.toNat_inj, UInt64.toNat_toUInt32, UInt32.toNat_toUInt64]
  omega

theorem mem_tokenRows_of_key {t : Table} {tokenId : UInt32} {p : PolicyInfo} {r : Row}
    (hv : isValid p = true) (hr : r ∈ t) (hk : r.key = transferPolicyToGeneric tokenId p) :
    (adjustPath p.path, p.mode) ∈ tokenRows t tokenId := by
  have htoken : r.tokenId = tokenId := congrArg RowKey.tokenId hk
  have hpath : r.path = adjustPath p.path := congrArg RowKey.path hk
  have hmode : r.mode = p.mode := congrArg RowKey.mode hk
  exact mem_tokenRows.mpr ⟨r, hr, htoken, by rw [hpath, hmode, narrow_mode hv]⟩

theorem canonical_adjustPath (path : Bytes) : canonical (adjustPath path) = canonical path := by
  rw [canonical, canonical, canonicalAt, canonicalAt, splitPath_adjustPath]

/-- A trie in which something is stored below the root is not empty. -/
theorem isEmpty_of_stored {t : PolicyTrie} {a : List Bytes} (ha : a ≠ [])
    (h : (policyAt t a).1 = true) : isEmpty t = false := by
  cases a with
  | nil => exact absurd rfl ha
  | cons k a =>
    cases t with
    | node v cs =>
      cases cs with
      | nil => simp [policyAt, KeyTree.fieldAt, KeyTree.child?, KeyTree.children] at h
      | cons c cs => rfl

section Matching
variable (env : Env) (t : Table) (tokenId : UInt32) (p : PolicyInfo)

/-- The two tries `MatchNormalPolicy` builds. -/
def matchTrie : PolicyTrie :=
  insertPaths (initTrieWithCaseSensitivity env.caseInsensitivePaths env.caseSensitivePaths)
    (tokenRows t tokenId)

def matchTrieNew : PolicyTrie :=
  insertPaths (addDeniedPaths builtinTrie env.mac.blockedInheritPaths) (tokenRows t tokenId)

variable {env t tokenId p}

theorem matchPolicy_single (hfind : env.findOk = true) (hnormal : isMediaPolicy p.path = false) :
    matchPolicy env t tokenId [p] = (.SANDBOX_MANAGER_OK,
      [if isEmpty (matchTrie env t tokenId) then .POLICY_HAS_NOT_BEEN_PERSISTED
        else processPolicyMatch (matchTrieNew env t tokenId) p]) := by
  have hmedia : isMedia p = false := hnormal
  have hnorm : isNormal p = true := by simp [isNormal, hnormal]
  by_cases hempty : isEmpty (matchTrie env t tokenId) = true
  · have hempty' := hempty
    unfold matchTrie at hempty'
    simp [matchPolicy, getMediaPolicyCommonWork, matchNormalPolicy, scatter, hmedia, hnorm, hfind,
      hempty, hempty']
  · have hempty' := hempty
    unfold matchTrie at hempty'
    simp [matchPolicy, getMediaPolicyCommonWork, matchNormalPolicy, scatter, hmedia, hnorm, hfind,
      hempty, hempty', matchTrieNew]

/-- The depth of the deepest path on the way that blocks inheritance. -/
def blockedOn (env : Env) (path : Bytes) : Nat :=
  blockedDepth builtinInsensitive path env.mac.blockedInheritPaths

theorem isEmpty_matchTrie {lo k : Nat} {path : Bytes} (hk : 1 ≤ k)
    (h : k ∈ storedDepths builtinInsensitive (tokenRows t tokenId) path lo) :
    isEmpty (matchTrie env t tokenId) = false := by
  obtain ⟨-, row, hrow, -, hlen⟩ := h
  have hsplit : (splitPath row.1).length = k := by
    rw [← hlen, canonicalAt, KeyTree.length_address]
  refine isEmpty_of_stored (a := canonicalAt (flags (initTrieWithCaseSensitivity
    env.caseInsensitivePaths env.caseSensitivePaths)) row.1) ?_ ?_
  · refine List.ne_nil_of_length_pos ?_
    rw [canonicalAt, KeyTree.length_address]
    omega
  · rw [matchTrie, policyAt_insertPaths]
    simp only [Bool.or_eq_true, List.any_eq_true, decide_eq_true_eq]
    exact Or.inr ⟨row, hrow, rfl⟩

/-- **`MatchPolicy` of one ordinary policy** answers what the rows of the token grant. -/
theorem matchPolicy_iff_grants (hfind : env.findOk = true) (hv : isValid p = true)
    (hnormal : isMediaPolicy p.path = false) :
    matchPolicy env t tokenId [p] = (.SANDBOX_MANAGER_OK, [.OPERATE_SUCCESSFULLY]) ↔
      Grants builtinInsensitive (tokenRows t tokenId) p.path (max (blockedOn env p.path) 1)
        p.mode := by
  have hcheck : checkPolicyValidity p .NORMAL_POLICY = .OPERATE_SUCCESSFULLY :=
    of_decide_eq_true hv
  have hgrants := checkPathNew_iff_grants configured_builtin env.mac.blockedInheritPaths
    (tokenRows t tokenId) p.path p.mode
  rw [flags_builtin, ← matchTrieNew, ← blockedOn] at hgrants
  rw [matchPolicy_single hfind hnormal, ← hgrants]
  by_cases hnew : checkPathNew (matchTrieNew env t tokenId) p.path p.mode = true
  · obtain ⟨k, hk, -⟩ := hgrants.mp hnew
    have hempty : isEmpty (matchTrie env t tokenId) = false :=
      isEmpty_matchTrie (by have := hk.1.1; omega) hk.1
    simp [hempty, processPolicyMatch, hcheck, hnew]
  · by_cases hempty : isEmpty (matchTrie env t tokenId) = true
    · simp [hempty, hnew]
    · simp [hempty, processPolicyMatch, hcheck, hnew]

/-- More rows grant no less as long as nothing is stored above the deciding directory. -/
theorem grants_of_subset {rows rows' : List (Bytes × UInt64)} {path : Bytes} {lo k : Nat}
    {mode : UInt64} (hsub : rows ⊆ rows') (hk : IsLeast (storedDepths builtinInsensitive rows path lo) k)
    (habove : ∀ j ∈ storedDepths builtinInsensitive rows' path lo, k ≤ j)
    (h : Grants builtinInsensitive rows path lo mode) :
    Grants builtinInsensitive rows' path lo mode := by
  rw [grants_iff_of_isLeast hk] at h
  obtain ⟨⟨hlo, row, hrow, hp, hlen⟩, -⟩ := hk
  exact ⟨k, ⟨⟨hlo, row, hsub hrow, hp, hlen⟩, habove⟩, h.of_subset hsub⟩

theorem AddRun.tokenRows_subset {tokenId : UInt32} {t t' : Table} (run : AddRun tokenId t t') :
    tokenRows t tokenId ⊆ tokenRows t' tokenId := by
  intro x hx
  obtain ⟨r, hr, htoken, hxr⟩ := mem_tokenRows.mp hx
  obtain ⟨r', hr', hk⟩ := run.exists_key hr
  have htoken' : r'.tokenId = r.tokenId := congrArg RowKey.tokenId hk
  have hpath : r'.path = r.path := congrArg RowKey.path hk
  have hmode : r'.mode = r.mode := congrArg RowKey.mode hk
  exact mem_tokenRows.mpr ⟨r', hr', htoken'.trans htoken, by rw [hpath, hmode, hxr]⟩

end Matching

/-- A kernel and a database that accept everything, no media library, the built-in case
configuration. -/
def grantingEnv : Env where
  mac := { fd := 3, isMacSupport := true, blockedInheritPaths := [APPDATA],
           queryIoctl := fun _ _ => some fun _ => (true, 0), unsetIoctl := fun _ _ _ => true }
  media := { addMediaPolicy := fun _ _ => .error .SANDBOX_MANAGER_MEDIA_CALL_ERR,
             removeMediaPolicy := fun _ _ => .error .SANDBOX_MANAGER_MEDIA_CALL_ERR,
             getMediaPermission := fun _ _ => .error .SANDBOX_MANAGER_MEDIA_CALL_ERR }
  userGrantMap := []
  verifyAccessToken := fun _ _ => false
  caseInsensitivePaths := [CURRENT_USER]
  caseSensitivePaths := [APPDATA]
  addOk := true
  findOk := true
  removeOk := true

/-- The table after token 7 persisted one policy. -/
def addedTo (t : Table) (path : Bytes) (mode : UInt64) : Table :=
  (addPolicy grantingEnv t 7 [⟨path, mode, .UNKNOWN⟩] 0).1

/-- **A persisted policy is matched by the shallowest directory stored on its way.** After
`AddPolicy` reported success for it, and after any further successful additions, that
directory exists, and the policy is matched exactly when the modes stored there cover
its own: in particular when every directory stored on its way covers it. Further
additions take a match away only by storing a policy above the directory that decided. -/
theorem matchPolicy_after_adds {env env' : Env} {t t' t'' : Table} {tokenId flag : UInt32}
    {policy : List PolicyInfo} {results : List SandboxRetType} {i : Nat} {p : PolicyInfo}
    (hmac : env.mac.isMacSupport = true)
    (call : addPolicy env t tokenId policy flag = (t', .SANDBOX_MANAGER_OK, results))
    (hp : policy[i]? = some p) (hr : results[i]? = some .OPERATE_SUCCESSFULLY)
    (hnormal : isMediaPolicy p.path = false) (hcomponents : splitPath p.path ≠ [])
    (run : AddRun tokenId t' t'') (hfind : env'.findOk = true) :
    let lo := fun path => max (blockedOn env' path) 1
    let rows' := tokenRows t' tokenId
    let rows'' := tokenRows t'' tokenId
    let matched := fun t q =>
      matchPolicy env' t tokenId [q] = (.SANDBOX_MANAGER_OK, [.OPERATE_SUCCESSFULLY])
    (∃ k, IsLeast (storedDepths builtinInsensitive rows'' p.path (lo p.path)) k ∧
        (matched t'' p ↔ Covers (modeAtDepth builtinInsensitive rows'' p.path k) p.mode)) ∧
      ((∀ row ∈ rows'', canonical row.1 <+: canonical p.path →
          lo p.path ≤ (canonical row.1).length → canonical row.1 ≠ canonical p.path →
            Covers row.2 p.mode) → matched t'' p) ∧
      ∀ q k, isValid q = true → isMediaPolicy q.path = false →
        IsLeast (storedDepths builtinInsensitive rows' q.path (lo q.path)) k →
          (∀ j ∈ storedDepths builtinInsensitive rows'' q.path (lo q.path), k ≤ j) →
            matched t' q → matched t'' q := by
  intro lo rows' rows'' matched
  obtain ⟨hv, r, hr', hk⟩ := addPolicy_stored hmac call hp hnormal hr
  have hself : (adjustPath p.path, p.mode) ∈ rows'' :=
    run.tokenRows_subset (mem_tokenRows_of_key hv hr' hk)
  have hcanon : canonical (adjustPath p.path) = canonical p.path := canonical_adjustPath p.path
  have hiff : matched t'' p ↔ Grants builtinInsensitive rows'' p.path (lo p.path) p.mode :=
    matchPolicy_iff_grants hfind hv hnormal
  -- the policy's own row is stored at the end of the way
  have hend : (canonical p.path).length ∈
      storedDepths builtinInsensitive rows'' p.path (lo p.path) := by
    refine ⟨?_, _, hself, ?_, ?_⟩
    · have hpos : 1 ≤ (canonical p.path).length := by
        rw [canonical, canonicalAt, KeyTree.length_address]
        exact List.length_pos_of_ne_nil hcomponents
      have hblocked : blockedOn env' p.path ≤ (canonical p.path).length := by
        rcases blockedDepth_spec builtinInsensitive p.path env'.mac.blockedInheritPaths with h | h
        · exact (le_of_eq h).trans (Nat.zero_le _)
        · obtain ⟨b, -, hpre, hlen⟩ := h
          exact (le_of_eq hlen.symm).trans hpre.length_le
      exact Nat.max_le.mpr ⟨hblocked, hpos⟩
    · rw [← canonical, ← canonical, hcanon]
    · rw [← canonical, hcanon]
  obtain ⟨k, hleast⟩ := exists_isLeast_storedDepths hend
  refine ⟨⟨k, hleast, hiff.trans (grants_iff_of_isLeast hleast)⟩, fun hall => ?_, ?_⟩
  · rw [hiff, grants_iff_of_isLeast hleast]
    obtain ⟨hlo, row, hrow, hpre, hlen⟩ := hleast.1
    have htake : canonicalAt builtinInsensitive row.1 =
        (canonicalAt builtinInsensitive p.path).take k := hlen ▸ List.prefix_iff_eq_take.mp hpre
    by_cases hsame : canonical row.1 = canonical p.path
    · exact covers_mergedMode hself (decide_eq_true ((hcanon.trans hsame.symm).trans htake))
        (covers_self p.mode)
    · exact covers_mergedMode hrow (decide_eq_true htake) (hall row hrow hpre (hlen ▸ hlo) hsame)
  · intro q k hq hqn hkq habove hmatched
    rw [show matched t'' q ↔ _ from matchPolicy_iff_grants hfind hq hqn]
    rw [show matched t' q ↔ _ from matchPolicy_iff_grants hfind hq hqn] at hmatched
    exact grants_of_subset run.tokenRows_subset hkq habove hmatched

/-- A policy beside the persisted one leaves its match alone. -/
theorem matchPolicy_after_sibling :
    matchPolicy grantingEnv
      (addedTo (addedTo .empty (bytes "/a/b") WRITE_MODE) (bytes "/a/c") READ_MODE) 7
      [⟨bytes "/a/b", WRITE_MODE, .UNKNOWN⟩] = (.SANDBOX_MANAGER_OK, [.OPERATE_SUCCESSFULLY]) := by
  have first : addPolicy grantingEnv .empty 7 [⟨bytes "/a/b", WRITE_MODE, .UNKNOWN⟩] 0 =
      (addedTo .empty (bytes "/a/b") WRITE_MODE, .SANDBOX_MANAGER_OK, [.OPERATE_SUCCESSFULLY]) :=
    rfl
  have second : addPolicy grantingEnv (addedTo .empty (bytes "/a/b") WRITE_MODE) 7
      [⟨bytes "/a/c", READ_MODE, .UNKNOWN⟩] 0 =
      (addedTo (addedTo .empty (bytes "/a/b") WRITE_MODE) (bytes "/a/c") READ_MODE,
        .SANDBOX_MANAGER_OK, [.OPERATE_SUCCESSFULLY]) := rfl
  have hrun : AddRun 7 _ _ := .add second (.done _)
  have hmain := matchPolicy_after_adds (i := 0) rfl first rfl rfl (by decide) (by decide) hrun
    (show grantingEnv.findOk = true from rfl)
  exact hmain.2.1 (by decide)

/-- A policy on a parent directory, persisted later and for another mode, takes the match
of a persisted policy away. -/
theorem matchPolicy_lost :
    ¬ ∀ (env env' : Env) (t t' t'' : Table) (tokenId flag : UInt32) (policy : List PolicyInfo)
        (results : List SandboxRetType) (i : Nat) (p : PolicyInfo),
      env.mac.isMacSupport = true → isMediaPolicy p.path = false →
      blockedOn env' p.path = 0 →
      addPolicy env t tokenId policy flag = (t', .SANDBOX_MANAGER_OK, results) →
      policy[i]? = some p → results[i]? = some .OPERATE_SUCCESSFULLY →
      AddRun tokenId t' t'' → env'.findOk = true →
        matchPolicy env' t'' tokenId [p] = (.SANDBOX_MANAGER_OK, [.OPERATE_SUCCESSFULLY]) := by
  intro h
  have first : addPolicy grantingEnv .empty 7 [⟨bytes "/a/b", WRITE_MODE, .UNKNOWN⟩] 0 =
      (addedTo .empty (bytes "/a/b") WRITE_MODE, .SANDBOX_MANAGER_OK, [.OPERATE_SUCCESSFULLY]) :=
    rfl
  have second : addPolicy grantingEnv (addedTo .empty (bytes "/a/b") WRITE_MODE) 7
      [⟨bytes "/a", READ_MODE, .UNKNOWN⟩] 0 =
      (addedTo (addedTo .empty (bytes "/a/b") WRITE_MODE) (bytes "/a") READ_MODE,
        .SANDBOX_MANAGER_OK, [.OPERATE_SUCCESSFULLY]) := rfl
  have hmatch := h grantingEnv grantingEnv .empty _ _ 7 0 _ _ 0 _ rfl (by decide) (by decide) first
    rfl rfl (.add second (.done _)) rfl
  revert hmatch
  decide

end SandboxManager.Policy
