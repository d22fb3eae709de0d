import SandboxManager.Policy.Match

/-! What `RemovePolicy` removes.

When every kernel call succeeds, the loop records one condition for every path the
search rebuilds from a stored row (`removeLoop_eq`), and a row goes exactly when it
equals a rebuilt path, that is, when it is stored normalised and is spelled as one of
the policies (`mem_removePolicy`). `SamePath` is what a caller means by naming a path.
The distance between the two is `removePolicy_exact_iff`. -/
namespace SandboxManager.Policy
open Library KeyTree Trie

section Loop
variable (env : Env) (t : Table) (tokenId : UInt32)

/-- The case configuration as the tries of this service have it. -/
def caseFlags : List Bytes → Bool :=
  flags (initTrieWithCaseSensitivity env.caseInsensitivePaths env.caseSensitivePaths)

/-- The trie `RemoveNormalPolicy` searches. -/
def removeTrie : PolicyTrie :=
  insertPathsPreserving
    (initTrieWithCaseSensitivity env.caseInsensitivePaths env.caseSensitivePaths)
    (tokenRows t tokenId)

/-- What the loop records for one policy. -/
def conditionsOf (trie : PolicyTrie) (p : PolicyInfo) : List RowKey :=
  if isValid p then
    (findMatchingPaths trie p.path p.mode).map fun m =>
      transferPolicyToGeneric tokenId { p with path := m }
  else []

def resultOf (trie : PolicyTrie) (p : PolicyInfo) : SandboxRetType :=
  if isValid p then
    if findMatchingPaths trie p.path p.mode = [] then .POLICY_HAS_NOT_BEEN_PERSISTED
    else .OPERATE_SUCCESSFULLY
  else checkPolicyValidity p .NORMAL_POLICY

/-- Every `ioctl(UN_SET_POLICY_CMD)` succeeds. -/
def AllUnset : Prop :=
  ∀ calls tokenId p, unSetSandboxPolicy env.mac calls tokenId p = .SANDBOX_MANAGER_OK

variable {env tokenId}

variable (tokenId) in
theorem unsetAndRecord_eq (hunset : AllUnset env) (p : PolicyInfo) (paths : List Bytes)
    (s : RemoveState) :
    (unsetAndRecord env tokenId p paths s).2 = .SANDBOX_MANAGER_OK ∧
      (unsetAndRecord env tokenId p paths s).1.conditions = s.conditions ++
        paths.map fun m => transferPolicyToGeneric tokenId { p with path := m } := by
  induction paths generalizing s with
  | nil => simp [unsetAndRecord]
  | cons m rest ih =>
    simp only [unsetAndRecord, hunset s.unset tokenId, List.map_cons]
    obtain ⟨hret, hcond⟩ := ih ⟨s.unset ++ [(tokenId, { p with path := m })],
      s.conditions ++ [transferPolicyToGeneric tokenId { p with path := m }]⟩
    refine ⟨hret, hcond.trans ?_⟩
    simp

variable (tokenId) in
/-- **The loop policy by policy**, when every kernel call succeeds. -/
theorem removeLoop_eq (hunset : AllUnset env) (trie : PolicyTrie) (policies : List PolicyInfo)
    (s : RemoveState) :
    (removeLoop env trie tokenId policies s).2 =
        (.SANDBOX_MANAGER_OK, policies.map (resultOf trie)) ∧
      (removeLoop env trie tokenId policies s).1.conditions =
        s.conditions ++ policies.flatMap (conditionsOf tokenId trie) := by
  induction policies generalizing s with
  | nil => simp [removeLoop]
  | cons p rest ih =>
    by_cases hv : checkPolicyValidity p .NORMAL_POLICY = .OPERATE_SUCCESSFULLY
    · have hvalid : isValid p = true := decide_eq_true hv
      by_cases hnone : findMatchingPaths trie p.path p.mode = []
      · obtain ⟨hret, hcond⟩ := ih s
        simp [removeLoop, hv, hnone, resultOf, conditionsOf, hvalid, hret, hcond]
      · obtain ⟨hstep, hrec⟩ := unsetAndRecord_eq tokenId hunset p
          (findMatchingPaths trie p.path p.mode) s
        generalize hu : unsetAndRecord env tokenId p (findMatchingPaths trie p.path p.mode) s = u
        rw [hu] at hstep hrec
        obtain ⟨s', ret⟩ := u
        subst hstep
        obtain ⟨hret, hcond⟩ := ih s'
        have hrec : s'.conditions = _ := hrec
        simp [removeLoop, hv, hnone, resultOf, conditionsOf, hvalid, hu, hret, hcond, hrec]
    · have hvalid : isValid p = false := decide_eq_false hv
      obtain ⟨hret, hcond⟩ := ih s
      simp [removeLoop, hv, resultOf, conditionsOf, hvalid, hret, hcond]

variable (tokenId) in
theorem exists_removeLoop_eq (hunset : AllUnset env) (trie : PolicyTrie)
    (policies : List PolicyInfo) :
    ∃ s : RemoveState, removeLoop env trie tokenId policies ⟨[], []⟩ =
        (s, .SANDBOX_MANAGER_OK, policies.map (resultOf trie)) ∧
      s.conditions = policies.flatMap (conditionsOf tokenId trie) := by
  obtain ⟨hloop, hcond⟩ := removeLoop_eq tokenId hunset trie policies ⟨[], []⟩
  exact ⟨_, Prod.ext rfl hloop, hcond⟩

/-- Without media policies the ordinary part is all there is. -/
theorem removePolicy_ordinary (hmac : env.mac.isMacSupport = true) {t : Table}
    {policies : List PolicyInfo} (hnormal : ∀ p ∈ policies, isMediaPolicy p.path = false) :
    removePolicy env t tokenId policies = removeNormalPolicy env t tokenId policies := by
  have hmedia : policies.filter isMediaIndex = [] :=
    List.filter_eq_nil_iff.mpr fun p hp => by simp [isMediaIndex, hnormal p hp]
  simp [removePolicy, hmac, hmedia]

/-- A successful removal of ordinary policies, without the loop. -/
theorem removePolicy_eq (hmac : env.mac.isMacSupport = true) (hunset : AllUnset env) {t : Table}
    {policies : List PolicyInfo} (hnormal : ∀ p ∈ policies, isMediaPolicy p.path = false)
    (hret : (removePolicy env t tokenId policies).ret = .SANDBOX_MANAGER_OK) :
    (removePolicy env t tokenId policies).table =
        rdbRemove t (policies.flatMap (conditionsOf tokenId (removeTrie env t tokenId))) ∧
      (removePolicy env t tokenId policies).results =
        policies.map (resultOf (removeTrie env t tokenId)) := by
  obtain ⟨s, hrun, hcond⟩ := exists_removeLoop_eq tokenId hunset (removeTrie env t tokenId) policies
  rw [removePolicy_ordinary hmac hnormal] at hret ⊢
  unfold removeNormalPolicy at hret ⊢
  rw [← removeTrie] at hret ⊢
  by_cases hfind : env.findOk = true
  · by_cases hnil : s.conditions = []
    · have hnil' := hcond.symm.trans hnil
      simp only [hfind, hrun, hnil, hnil', Bool.not_true, Bool.false_eq_true, if_false, ne_eq,
        not_true_eq_false, if_true, rdbRemove, List.foldl_nil, and_self]
    · by_cases hremove : env.removeOk = true
      · simp [hfind, hrun, hnil, hremove, ← hcond]
      · simp [hfind, hrun, hnil, hremove] at hret
  · simp [hfind] at hret

/-- With the database answering too, the removal succeeds. -/
theorem ret_removePolicy (hmac : env.mac.isMacSupport = true) (hunset : AllUnset env) {t : Table}
    {policies : List PolicyInfo} (hnormal : ∀ p ∈ policies, isMediaPolicy p.path = false)
    (hfind : env.findOk = true) (hremove : env.removeOk = true) :
    (removePolicy env t tokenId policies).ret = .SANDBOX_MANAGER_OK := by
  obtain ⟨s, hrun, -⟩ := exists_removeLoop_eq tokenId hunset (removeTrie env t tokenId) policies
  rw [removePolicy_ordinary hmac hnormal]
  unfold removeNormalPolicy
  rw [← removeTrie]
  by_cases hnil : s.conditions = []
  · simp [hfind, hrun, hnil]
  · simp [hfind, hrun, hnil, hremove]

end Loop

/-! ### Rows -/

/-- The row of some valid ordinary policy, as `AddPolicy` writes it. -/
def WrittenByAddPolicy (r : Row) : Prop :=
  ∃ p, isValid p = true ∧ isMediaPolicy p.path = false ∧
    r.key = transferPolicyToGeneric r.tokenId p

/-- Two paths are the same up to one slash at the end and letter case where the configuration
ignores it. -/
def SamePath (φ : List Bytes → Bool) (p q : Bytes) : Prop :=
  toLowerCase (adjustPath p) = toLowerCase (adjustPath q) ∧ canonicalAt φ p = canonicalAt φ q

/-- The row is what a request of `tokenId` means by the policy `p`. -/
def Names (φ : List Bytes → Bool) (tokenId : UInt32) (p : PolicyInfo) (r : Row) : Prop :=
  r.tokenId = tokenId ∧ r.mode = p.mode ∧ SamePath φ r.path p.path

/-- Stored with one slash in front of each of its components, of which there are some. -/
def StoredPlainly (r : Row) : Prop := Normalized r.path ∧ splitPath r.path ≠ []

theorem WrittenByAddPolicy.narrow {r : Row} (h : WrittenByAddPolicy r) :
    r.mode.toUInt32.toUInt64 = r.mode := by
  obtain ⟨p, hv, -, hk⟩ := h
  have hmode : r.mode = p.mode := congrArg RowKey.mode hk
  rw [hmode]
  exact narrow_mode hv

theorem WrittenByAddPolicy.depth {r : Row} (h : WrittenByAddPolicy r) : r.depth = getDepth r.path := by
  obtain ⟨p, -, -, hk⟩ := h
  have hpath : r.path = adjustPath p.path := congrArg RowKey.path hk
  have hdepth : r.depth = getDepth (adjustPath p.path) := congrArg RowKey.depth hk
  rw [hdepth, hpath]

/-- A rebuilt path does not end in a slash. -/
theorem adjustPath_absolute {ws : List Bytes} (hws : ∀ w ∈ ws, IsSegment slash w) :
    adjustPath (absolute slash ws) = absolute slash ws := by
  unfold adjustPath
  rw [if_neg]
  intro hlast
  cases hw : ws.getLast? with
  | none =>
    rw [List.getLast?_eq_none_iff.mp hw] at hlast
    cases hlast
  | some w =>
    obtain ⟨init, rfl⟩ := List.getLast?_eq_some_iff.mp hw
    have hseg := hws w (by simp)
    rw [absolute_append, absolute_cons, absolute_nil, List.append_nil, List.getLast?_append,
      List.getLast?_cons] at hlast
    obtain ⟨c, hc⟩ : ∃ c, w.getLast? = some c := Option.isSome_iff_exists.mp (by simp [hseg.1])
    simp [hc] at hlast
    exact hseg.2 (hlast ▸ List.mem_of_getLast? hc)

section Rows
variable {env : Env} {tokenId : UInt32} {t : Table} (hwritten : ∀ r ∈ t, WrittenByAddPolicy r)
include hwritten

/-- What the trie is searched for holds of the rows themselves. -/
theorem exists_row_iff {mode : UInt64} {f : Bytes → Prop} :
    (∃ row ∈ tokenRows t tokenId, row.2 = mode ∧ f row.1) ↔
      ∃ r ∈ t, r.tokenId = tokenId ∧ r.mode = mode ∧ f r.path := by
  constructor
  · rintro ⟨row, hrow, hmode, hf⟩
    obtain ⟨r, hr, htoken, rfl⟩ := mem_tokenRows.mp hrow
    exact ⟨r, hr, htoken, (hwritten r hr).narrow.symm.trans hmode, hf⟩
  · rintro ⟨r, hr, htoken, rfl, hf⟩
    exact ⟨_, mem_tokenRows.mpr ⟨r, hr, htoken, rfl⟩, (hwritten r hr).narrow, hf⟩

/-- Some row of the policy's mode is spelled as the policy. -/
def Found (env : Env) (t : Table) (tokenId : UInt32) (p : PolicyInfo) : Prop :=
  splitPath p.path ≠ [] ∧ ∃ r ∈ t, r.tokenId = tokenId ∧ r.mode = p.mode ∧
    SpelledAs (caseFlags env) (splitPath r.path) (splitPath p.path)

theorem resultOf_eq_ok {p : PolicyInfo} :
    resultOf (removeTrie env t tokenId) p = .OPERATE_SUCCESSFULLY ↔
      isValid p = true ∧ Found env t tokenId p := by
  unfold resultOf
  by_cases hv : isValid p = true
  · simp only [hv, if_true, true_and]
    by_cases hsplit : splitPath p.path = []
    · simp [findMatchingPaths, hsplit, Found]
    · have hiff : (∃ m, m ∈ findMatchingPaths (removeTrie env t tokenId) p.path p.mode) ↔
          Found env t tokenId p := by
        simp only [removeTrie, mem_findMatchingPaths (configured_init _ _) hsplit, Found,
          ← exists_row_iff hwritten (f := fun path =>
            SpelledAs (caseFlags env) (splitPath path) (splitPath p.path))]
        constructor
        · rintro ⟨m, row, hrow, hmode, hs, -⟩
          exact ⟨hsplit, row, hrow, hmode, hs⟩
        · rintro ⟨-, row, hrow, hmode, hs⟩
          exact ⟨_, row, hrow, hmode, hs, rfl⟩
      rw [← hiff]
      cases findMatchingPaths (removeTrie env t tokenId) p.path p.mode with
      | nil => simp
      | cons m rest => simp
  · have hcheck : checkPolicyValidity p .NORMAL_POLICY ≠ .OPERATE_SUCCESSFULLY :=
      fun h => hv (decide_eq_true h)
    simp [hv, hcheck]

/-- **The rows that go**: stored plainly, and spelled as a valid policy of their mode. -/
theorem key_mem_conditions_iff {policies : List PolicyInfo} {r : Row} (hr : r ∈ t) :
    r.key ∈ policies.flatMap (conditionsOf tokenId (removeTrie env t tokenId)) ↔
      r.tokenId = tokenId ∧ StoredPlainly r ∧ ∃ p ∈ policies, isValid p = true ∧
        r.mode = p.mode ∧ SpelledAs (caseFlags env) (splitPath r.path) (splitPath p.path) := by
  have hseg : ∀ path, splitPath (absolute slash (splitPath path)) = splitPath path := fun path =>
    segments_absolute slash _ fun w hw => isSegment_of_mem slash hw
  have hadjust : ∀ path, adjustPath (absolute slash (splitPath path)) = absolute slash (splitPath path) :=
    fun path => adjustPath_absolute fun w hw => isSegment_of_mem slash hw
  rw [List.mem_flatMap]
  constructor
  · rintro ⟨p, hp, hmem⟩
    unfold conditionsOf at hmem
    split at hmem
    case isFalse => cases hmem
    case isTrue hv =>
      obtain ⟨m, hm, hk⟩ := List.mem_map.mp hmem
      have hsplit : splitPath p.path ≠ [] := by
        intro hnil
        simp [findMatchingPaths, hnil] at hm
      obtain ⟨row, hrow, hmode, hs, rfl⟩ := (mem_findMatchingPaths (configured_init _ _) hsplit).mp hm
      have htoken : tokenId = r.tokenId := congrArg RowKey.tokenId hk
      have hpath : adjustPath (absolute slash (splitPath row.1)) = r.path := congrArg RowKey.path hk
      have hrmode : p.mode = r.mode := congrArg RowKey.mode hk
      rw [hadjust] at hpath
      have hsplit' : splitPath r.path = splitPath row.1 := by rw [← hpath, hseg]
      refine ⟨htoken.symm, ⟨?_, ?_⟩, p, hp, hv, hrmode.symm, hsplit' ▸ hs⟩
      · rw [Normalized, hsplit', hpath]
      · intro hnil
        have hlen := hs.length_eq
        rw [← hsplit', hnil] at hlen
        exact hsplit (List.eq_nil_of_length_eq_zero hlen)
  · rintro ⟨htoken, ⟨hnorm, hne⟩, p, hp, hv, hmode, hs⟩
    have hsplit : splitPath p.path ≠ [] := by
      intro hnil
      have hlen := hs.length_eq
      rw [hnil] at hlen
      exact hne (List.eq_nil_of_length_eq_zero hlen.symm)
    refine ⟨p, hp, ?_⟩
    rw [conditionsOf, if_pos hv, List.mem_map]
    have hfound : r.path ∈ findMatchingPaths (removeTrie env t tokenId) p.path p.mode := by
      refine (mem_findMatchingPaths (configured_init _ _) hsplit).mpr
        ⟨(r.path, r.mode.toUInt32.toUInt64), mem_tokenRows.mpr ⟨r, hr, htoken, rfl⟩, ?_, hs, hnorm⟩
      exact (hwritten r hr).narrow.trans hmode
    refine ⟨r.path, hfound, ?_⟩
    have hadj : adjustPath r.path = r.path := by
      rw [hnorm]
      exact hadjust r.path
    simp only [transferPolicyToGeneric, hadj, Row.key, (hwritten r hr).depth, htoken, hmode]

end Rows

/-- `AddPolicy` writes only rows of valid ordinary policies. -/
theorem written_addPolicy {env : Env} {t : Table} (tokenId flag : UInt32)
    (policy : List PolicyInfo) (h : ∀ r ∈ t, WrittenByAddPolicy r) :
    ∀ r ∈ (addPolicy env t tokenId policy flag).1, WrittenByAddPolicy r := by
  have hadd : ∀ r ∈ (addNormalPolicy env t tokenId (policy.filter isPassIndex) flag).1,
      WrittenByAddPolicy r := by
    unfold addNormalPolicy
    split
    · exact h
    · split
      · exact h
      · simp only
        split
        case h_1 => exact h
        case h_2 t' hdb =>
          intro r hr
          unfold addToDatabaseIfNotDuplicate at hdb
          split at hdb
          case isTrue => exact h r (Option.some.inj hdb ▸ hr)
          case isFalse =>
            split at hdb
            case isFalse => cases hdb
            case isTrue =>
              rw [← Option.some.inj hdb] at hr
              rcases mem_of_mem_rdbAdd hr with hr | hr
              · exact h r hr
              · obtain ⟨p, hp, rfl⟩ := List.mem_map.mp hr
                obtain ⟨q, hq, rfl⟩ := List.mem_map.mp hp
                have hpass := (List.mem_filter.mp (List.of_mem_zip (List.mem_filter.mp hq).1).1).2
                simp only [isPassIndex, Bool.and_eq_true, Bool.not_eq_true'] at hpass
                exact ⟨q.1, hpass.1, hpass.2, rfl⟩
  unfold addPolicy
  split
  · exact h
  · split
    · exact h
    · split <;> simpa [*] using hadd

/-- The table after token 7 persisted a policy from nothing holds written rows only. -/
theorem written_addedTo (path : Bytes) (mode : UInt64) :
    ∀ r ∈ addedTo .empty path mode, WrittenByAddPolicy r :=
  written_addPolicy 7 0 _ fun r hr => absurd hr (KeyedTable.not_mem_empty r)

theorem allUnset_grantingEnv : AllUnset grantingEnv := fun _ _ _ => rfl

/-! ### Complete and precise -/

/-- What a removal should do to the table. -/
structure RemovesExactly (φ : List Bytes → Bool) (tokenId : UInt32) (policies : List PolicyInfo)
    (t t' : Table) (results : List SandboxRetType) : Prop where
  complete : ∀ (i : Nat) (p : PolicyInfo), policies[i]? = some p →
    results[i]? = some SandboxRetType.OPERATE_SUCCESSFULLY → ∀ r ∈ t', ¬ Names φ tokenId p r
  precise : ∀ r ∈ t, (∀ (i : Nat) (p : PolicyInfo), policies[i]? = some p →
    results[i]? = some SandboxRetType.OPERATE_SUCCESSFULLY → ¬ Names φ tokenId p r) → r ∈ t'
  onlyOld : ∀ r ∈ t', r ∈ t
  removable : ∀ p ∈ policies, isValid p = true →
    ∀ r ∈ t', r.key ≠ transferPolicyToGeneric tokenId p

/-- When it does: the rows in question are stored plainly, and being spelled as a policy of
the request is the same for them as being named by one. -/
structure PlainAndNamed (env : Env) (tokenId : UInt32) (policies : List PolicyInfo) (t : Table) :
    Prop where
  own : ∀ p ∈ policies, isValid p = true → ∀ r ∈ t, r.key = transferPolicyToGeneric tokenId p →
    StoredPlainly r
  named : ∀ p ∈ policies, isValid p = true → Found env t tokenId p →
    ∀ r ∈ t, Names (caseFlags env) tokenId p r → StoredPlainly r ∧ ∃ q ∈ policies,
      isValid q = true ∧ r.mode = q.mode ∧
        SpelledAs (caseFlags env) (splitPath r.path) (splitPath q.path)
  spelled : ∀ r ∈ t, r.tokenId = tokenId → StoredPlainly r → ∀ p ∈ policies, isValid p = true →
    r.mode = p.mode → SpelledAs (caseFlags env) (splitPath r.path) (splitPath p.path) →
      ∃ q ∈ policies, isValid q = true ∧ Found env t tokenId q ∧
        Names (caseFlags env) tokenId q r

theorem spelledAs_self (φ : List Bytes → Bool) (a : List Bytes) : SpelledAs φ a a := by
  refine follows_self ?_ a
  intro dir k
  rfl

/-- **`RemovePolicy` is complete and precise exactly for rows stored plainly** that are
spelled as a policy precisely when they are named by one. -/
theorem removePolicy_exact_iff {env : Env} {tokenId : UInt32} {t : Table}
    {policies : List PolicyInfo} (hmac : env.mac.isMacSupport = true) (hunset : AllUnset env)
    (hnormal : ∀ p ∈ policies, isMediaPolicy p.path = false)
    (hwritten : ∀ r ∈ t, WrittenByAddPolicy r)
    (hret : (removePolicy env t tokenId policies).ret = .SANDBOX_MANAGER_OK) :
    RemovesExactly (caseFlags env) tokenId policies t (removePolicy env t tokenId policies).table
        (removePolicy env t tokenId policies).results ↔
      PlainAndNamed env tokenId policies t := by
  obtain ⟨htable, hresults⟩ := removePolicy_eq hmac hunset hnormal hret
  rw [htable, hresults]
  have hgone : ∀ r ∈ t, r.key ∈ policies.flatMap (conditionsOf tokenId
      (removeTrie env t tokenId)) ↔ r.tokenId = tokenId ∧ StoredPlainly r ∧ ∃ p ∈ policies,
        isValid p = true ∧ r.mode = p.mode ∧
          SpelledAs (caseFlags env) (splitPath r.path) (splitPath p.path) :=
    fun r hr => key_mem_conditions_iff hwritten hr
  have hok : ∀ (i : Nat) (p : PolicyInfo), policies[i]? = some p →
      ((policies.map (resultOf (removeTrie env t tokenId)))[i]? =
        some SandboxRetType.OPERATE_SUCCESSFULLY ↔ isValid p = true ∧ Found env t tokenId p) := by
    intro i p hp
    rw [List.getElem?_map, hp, Option.map_some, Option.some.injEq]
    exact resultOf_eq_ok hwritten
  constructor
  · intro h
    have hdeleted : ∀ r ∈ t, r ∉ rdbRemove t
        (policies.flatMap (conditionsOf tokenId (removeTrie env t tokenId))) →
        StoredPlainly r ∧ ∃ p ∈ policies, isValid p = true ∧ r.mode = p.mode ∧
          SpelledAs (caseFlags env) (splitPath r.path) (splitPath p.path) := by
      intro r hr hnot
      rw [mem_rdbRemove, not_and, not_not] at hnot
      exact ((hgone r hr).mp (hnot hr)).2
    refine ⟨fun p hp hv r hr hk => ?_, fun p hp hv hf r hr hn => ?_,
      fun r hr htoken hplain p hp hv hmode hs => ?_⟩
    · exact (hdeleted r hr fun hr' => h.removable p hp hv r hr' hk).1
    · obtain ⟨i, hi⟩ := List.mem_iff_getElem?.mp hp
      exact hdeleted r hr fun hr' => h.complete i p hi ((hok i p hi).mpr ⟨hv, hf⟩) r hr' hn
    · by_contra hno
      have hstays := h.precise r hr fun i q hi hq hn => by
        obtain ⟨hvq, hfq⟩ := (hok i q hi).mp hq
        exact hno ⟨q, List.mem_of_getElem? hi, hvq, hfq, hn⟩
      exact (mem_rdbRemove.mp hstays).2 ((hgone r hr).mpr ⟨htoken, hplain, p, hp, hv, hmode, hs⟩)
  · intro h
    refine ⟨fun i p hi hres r hr hn => ?_, fun r hr hno => ?_, fun r hr => (mem_rdbRemove.mp hr).1,
      fun p hp hv r hr hk => ?_⟩
    · obtain ⟨hr, hkeep⟩ := mem_rdbRemove.mp hr
      obtain ⟨hv, hf⟩ := (hok i p hi).mp hres
      obtain ⟨hplain, hq⟩ := h.named p (List.mem_of_getElem? hi) hv hf r hr hn
      exact hkeep ((hgone r hr).mpr ⟨hn.1, hplain, hq⟩)
    · refine mem_rdbRemove.mpr ⟨hr, fun hmem => ?_⟩
      obtain ⟨htoken, hplain, p, hp, hv, hmode, hs⟩ := (hgone r hr).mp hmem
      obtain ⟨q, hq, hvq, hfq, hn⟩ := h.spelled r hr htoken hplain p hp hv hmode hs
      obtain ⟨i, hi⟩ := List.mem_iff_getElem?.mp hq
      exact hno i q hi ((hok i q hi).mpr ⟨hvq, hfq⟩) hn
    · obtain ⟨hr, hkeep⟩ := mem_rdbRemove.mp hr
      have htoken : r.tokenId = tokenId := congrArg RowKey.tokenId hk
      have hpath : r.path = adjustPath p.path := congrArg RowKey.path hk
      have hmode : r.mode = p.mode := congrArg RowKey.mode hk
      refine hkeep ((hgone r hr).mpr ⟨htoken, h.own p hp hv r hr hk, p, hp, hv, hmode, ?_⟩)
      rw [hpath, splitPath_adjustPath]
      exact spelledAs_self _ _

theorem removePolicy_exact_docs :
    let t := addedTo .empty (bytes "/storage/Users/currentUser/Docs") READ_MODE
    let policies := [⟨bytes "/storage/Users/currentUser/docs/", READ_MODE, .UNKNOWN⟩]
    RemovesExactly (caseFlags grantingEnv) 7 policies t (removePolicy grantingEnv t 7 policies).table
        (removePolicy grantingEnv t 7 policies).results ↔
      PlainAndNamed grantingEnv 7 policies t :=
  removePolicy_exact_iff rfl allUnset_grantingEnv (by decide) (written_addedTo _ _)
    (ret_removePolicy rfl allUnset_grantingEnv (by decide) rfl rfl)

/-- Stored with a repeated slash, a policy stays although its removal succeeds. -/
theorem removePolicy_not_exact :
    ¬ ∀ (env : Env) (tokenId : UInt32) (t : Table) (policies : List PolicyInfo),
      env.mac.isMacSupport = true → AllUnset env →
      (∀ p ∈ policies, isMediaPolicy p.path = false) → (∀ r ∈ t, WrittenByAddPolicy r) →
      (removePolicy env t tokenId policies).ret = .SANDBOX_MANAGER_OK →
        RemovesExactly (caseFlags env) tokenId policies t
          (removePolicy env t tokenId policies).table
          (removePolicy env t tokenId policies).results := by
  intro h
  have hnormal : ∀ p ∈ [(⟨bytes "/a//b", READ_MODE, .UNKNOWN⟩ : PolicyInfo)],
      isMediaPolicy p.path = false := by decide
  have hwritten := written_addedTo (bytes "/a//b") READ_MODE
  have hret : (removePolicy grantingEnv (addedTo .empty (bytes "/a//b") READ_MODE) 7
      [⟨bytes "/a//b", READ_MODE, .UNKNOWN⟩]).ret = .SANDBOX_MANAGER_OK :=
    ret_removePolicy rfl allUnset_grantingEnv hnormal rfl rfl
  have hexact := h grantingEnv 7 _ _ rfl allUnset_grantingEnv hnormal hwritten hret
  have hrow : policyRow 7 0 ⟨bytes "/a//b", READ_MODE, .UNKNOWN⟩ ∈
      (addedTo .empty (bytes "/a//b") READ_MODE).rows := by decide
  refine hexact.removable _ (List.mem_singleton_self _) (by decide) _ ?_ (key_policyRow 7 0 _)
  rw [(removePolicy_eq rfl allUnset_grantingEnv hnormal hret).1, mem_rdbRemove,
    key_mem_conditions_iff hwritten hrow]
  refine ⟨hrow, fun hgone => ?_⟩
  exact absurd hgone.2.1.1 (by decide)

end SandboxManager.Policy
