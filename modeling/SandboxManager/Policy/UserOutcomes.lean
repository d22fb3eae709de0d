import SandboxManager.Policy.UserGrant

/-! What a grant or a revocation by the user leaves behind.

The table says what was granted, the kernel enforces it, and the two are changed one after the
other. They agree afterwards exactly when no answer of the kernel is dropped on the way:
`grantPermissionByUser_atomic_iff` and `revokePermissionByUser_honest_iff` say which answers
these are. -/
namespace SandboxManager.Policy
open Library Trie

/-! ### Requests -/

/-- Every call of a request over so many policies succeeds. -/
def MacAnswers.Complete (answers : MacAnswers) (n : Nat) : Prop :=
  ∀ k, MAX_POLICY_NUM * k < n → answers.ioctl k = true

/-- A call that succeeds answers for its batch; the others follow. -/
theorem macBatches_call {answers : MacAnswers} {batch : Nat} (h : answers.ioctl batch = true)
    (n : Nat) {policy : List PolicyInfo} (hne : policy ≠ []) :
    macBatches answers (n + 1) batch policy =
      ((policy.take MAX_POLICY_NUM).mapIdx
          (fun i _ => answers.result (MAX_POLICY_NUM * batch + i)) ++
        (macBatches answers n (batch + 1) (policy.drop MAX_POLICY_NUM)).1,
      (macBatches answers n (batch + 1) (policy.drop MAX_POLICY_NUM)).2) := by
  cases policy with
  | nil => exact absurd rfl hne
  | cons p ps => simp only [macBatches, h, Bool.not_true, Bool.false_eq_true, if_false]

theorem macBatches_fails {answers : MacAnswers} {batch : Nat} (h : ¬ answers.ioctl batch = true)
    (n : Nat) {policy : List PolicyInfo} (hne : policy ≠ []) :
    macBatches answers (n + 1) batch policy = ([], .SANDBOX_MANAGER_MAC_IOCTL_ERR) := by
  cases policy with
  | nil => exact absurd rfl hne
  | cons p ps => simp only [macBatches, h, Bool.not_false, if_true]

theorem length_drop_batch {n : Nat} {policy : List PolicyInfo} (hn : policy.length ≤ n + 1) :
    (policy.drop MAX_POLICY_NUM).length ≤ n := by
  simp only [List.length_drop, MAX_POLICY_NUM]
  omega

theorem macBatches_ok_iff {answers : MacAnswers} {n batch : Nat} {policy : List PolicyInfo}
    (hn : policy.length ≤ n) :
    (macBatches answers n batch policy).2 = .SANDBOX_MANAGER_OK ↔
      ∀ k, MAX_POLICY_NUM * k < policy.length → answers.ioctl (batch + k) = true := by
  by_cases hne : policy = []
  · subst hne
    cases n <;> simp [macBatches]
  have hpos : 0 < policy.length := List.length_pos_of_ne_nil hne
  induction n generalizing batch policy with
  | zero => omega
  | succ n ih =>
    by_cases hioctl : answers.ioctl batch = true
    · rw [macBatches_call hioctl n hne]
      have hrest : (macBatches answers n (batch + 1) (policy.drop MAX_POLICY_NUM)).2 =
          .SANDBOX_MANAGER_OK ↔ ∀ k, MAX_POLICY_NUM * k < (policy.drop MAX_POLICY_NUM).length →
            answers.ioctl (batch + 1 + k) = true := by
        by_cases hdone : policy.drop MAX_POLICY_NUM = []
        · rw [hdone]
          cases n <;> simp [macBatches]
        · exact ih (length_drop_batch hn) hdone (List.length_pos_of_ne_nil hdone)
      rw [hrest, List.length_drop]
      constructor
      · intro h k hk
        cases k with
        | zero => exact hioctl
        | succ k =>
          have := h k (by simp only [MAX_POLICY_NUM] at hk ⊢; omega)
          rwa [Nat.add_assoc, Nat.add_comm 1 k] at this
      · intro h k hk
        have := h (k + 1) (by simp only [MAX_POLICY_NUM] at hk ⊢; omega)
        rwa [Nat.add_assoc, Nat.add_comm 1 k]
    · rw [macBatches_fails hioctl n hne]
      exact iff_of_false (fun h => by cases h) fun h => absurd (h 0 hpos) hioctl

/-- A request that succeeds has an answer for each policy. -/
theorem macBatches_results {answers : MacAnswers} {n batch : Nat} {policy : List PolicyInfo}
    (hn : policy.length ≤ n) (h : (macBatches answers n batch policy).2 = .SANDBOX_MANAGER_OK) :
    (macBatches answers n batch policy).1 =
      policy.mapIdx fun i _ => answers.result (MAX_POLICY_NUM * batch + i) := by
  induction n generalizing batch policy with
  | zero =>
    obtain rfl : policy = [] := List.eq_nil_of_length_eq_zero (Nat.le_zero.mp hn)
    rfl
  | succ n ih =>
    by_cases hne : policy = []
    · subst hne
      rfl
    · have hioctl : answers.ioctl batch = true :=
        (macBatches_ok_iff hn).mp h 0 (List.length_pos_of_ne_nil hne)
      rw [macBatches_call hioctl n hne] at h ⊢
      show _ ++ (macBatches answers n (batch + 1) (policy.drop MAX_POLICY_NUM)).1 = _
      rw [ih (length_drop_batch hn) h]
      conv_rhs => rw [← List.take_append_drop MAX_POLICY_NUM policy, List.mapIdx_append]
      by_cases hlong : policy.length ≤ MAX_POLICY_NUM
      · rw [List.drop_eq_nil_of_le hlong]
        rfl
      · have htake : (policy.take MAX_POLICY_NUM).length = MAX_POLICY_NUM := by
          rw [List.length_take]
          omega
        rw [htake]
        apply congrArg
        apply congrArg (fun f => List.mapIdx f _)
        funext i _
        apply congrArg answers.result
        rw [Nat.mul_add, Nat.mul_one, Nat.add_assoc, Nat.add_comm i]

theorem macRequest_ok_iff {fd : Int} {answers : MacAnswers} {policy : List PolicyInfo} :
    (macRequest fd answers policy).2 = .SANDBOX_MANAGER_OK ↔
      0 ≤ fd ∧ answers.Complete policy.length := by
  unfold macRequest
  split
  case isTrue hfd =>
    exact iff_of_false (fun h => by cases h) fun h => absurd h.1 (not_le.mpr hfd)
  case isFalse hfd =>
    rw [macBatches_ok_iff (Nat.le_refl _), and_iff_right (not_lt.mp hfd)]
    simp only [MacAnswers.Complete, Nat.zero_add]

theorem macRequest_results {fd : Int} {answers : MacAnswers} {policy : List PolicyInfo}
    (h : (macRequest fd answers policy).2 = .SANDBOX_MANAGER_OK) :
    (macRequest fd answers policy).1 = policy.mapIdx fun i _ => answers.result i := by
  have hfd : ¬ fd < 0 := not_lt.mpr (macRequest_ok_iff.mp h).1
  unfold macRequest at h ⊢
  rw [if_neg hfd] at h ⊢
  rw [macBatches_results (Nat.le_refl _) h]
  simp only [Nat.mul_zero, Nat.zero_add]

/-- The rules a successful request settled. -/
theorem mem_accepted {fd : Int} {answers : MacAnswers} {policy : List PolicyInfo}
    (h : (macRequest fd answers policy).2 = .SANDBOX_MANAGER_OK) {tokenId : UInt32} {rule : MacRule} :
    rule ∈ accepted tokenId policy (macRequest fd answers policy).1 ↔
      ∃ (i : Nat) (p : PolicyInfo), policy[i]? = some p ∧ answers.result i = true ∧
        macRule tokenId p = rule := by
  rw [macRequest_results h, accepted, List.mem_map]
  constructor
  · rintro ⟨item, hitem, rfl⟩
    obtain ⟨hmem, hyes⟩ := List.mem_filter.mp hitem
    obtain ⟨i, hi⟩ := List.mem_iff_getElem?.mp hmem
    obtain ⟨hp, hresult⟩ := List.getElem?_zip_eq_some.mp hi
    rw [List.getElem?_mapIdx, hp, Option.map_some, Option.some.injEq] at hresult
    exact ⟨i, item.1, hp, hresult.trans hyes, rfl⟩
  · rintro ⟨i, p, hp, hyes, rfl⟩
    refine ⟨(p, true), List.mem_filter.mpr ⟨?_, rfl⟩, rfl⟩
    refine List.mem_of_getElem? (i := i) (List.getElem?_zip_eq_some.mpr ⟨hp, ?_⟩)
    rw [List.getElem?_mapIdx, hp, Option.map_some, hyes]

/-! ### Granting -/

/-- The valid policies of a request. -/
def validPolicies (policies : List PolicyInfo) : List PolicyInfo := (filterValidPolicy policies).2

/-- A failed grant leaves the table alone, and after a successful one the kernel enforces what
the table says was granted. -/
structure GrantAtomic (t : UgcTable) (tokenId : UInt32) (policies : List PolicyInfo)
    (o : UgcState) : Prop where
  unchanged : o.ret ≠ .SANDBOX_MANAGER_OK → ∀ r, r ∈ o.table ↔ r ∈ t
  granted : o.ret = .SANDBOX_MANAGER_OK → ∀ p ∈ validPolicies policies,
    grantRow tokenId p ∈ o.table → macRule tokenId p ∈ o.rules

/-- Every call of the request for these policies succeeds. -/
def UgcEnv.Reached (env : UgcEnv) (policies : List PolicyInfo) : Prop :=
  0 ≤ env.fd ∧ env.set.Complete policies.length

/-- The kernel has the rule of every policy or says yes to it. -/
def Granting (env : UgcEnv) (rules : List MacRule) (tokenId : UInt32) (policies : List PolicyInfo) :
    Prop :=
  ∀ p ∈ policies, macRule tokenId p ∈ rules ∨ ∃ (i : Nat) (q : PolicyInfo),
    policies[i]? = some q ∧ env.set.result i = true ∧ macRule tokenId q = macRule tokenId p

theorem mem_grantRows {t : UgcTable} {tokenId : UInt32} {policies : List PolicyInfo} {r : UgcRow} :
    r ∈ ugcReplace t (policies.map (grantRow tokenId)) ↔
      r ∈ policies.map (grantRow tokenId) ∨
        (r ∈ t ∧ ∀ v ∈ policies.map (grantRow tokenId), v.key ≠ r.key) := by
  refine KeyedTable.mem_foldl_insertReplace fun v hv w hw hkey => ?_
  obtain ⟨p, -, rfl⟩ := List.mem_map.mp hv
  obtain ⟨q, -, rfl⟩ := List.mem_map.mp hw
  exact congrArg (fun k => (⟨k, .UGC_PERMISSION_GRANTED⟩ : UgcRow)) hkey

/-- The rows of a grant change nothing exactly when they stand there already. -/
theorem grantRows_unchanged_iff {t : UgcTable} {tokenId : UInt32} {policies : List PolicyInfo} :
    (∀ r, r ∈ ugcReplace t (policies.map (grantRow tokenId)) ↔ r ∈ t) ↔
      ∀ p ∈ policies, grantRow tokenId p ∈ t := by
  constructor
  · intro h p hp
    exact (h _).mp (mem_grantRows.mpr (Or.inl (List.mem_map_of_mem hp)))
  · intro h r
    rw [mem_grantRows]
    constructor
    · rintro (hr | ⟨hr, -⟩)
      · obtain ⟨p, hp, rfl⟩ := List.mem_map.mp hr
        exact h p hp
      · exact hr
    · intro hr
      by_cases hkey : ∃ v ∈ policies.map (grantRow tokenId), v.key = r.key
      · obtain ⟨v, hv, hkey⟩ := hkey
        obtain ⟨p, hp, rfl⟩ := List.mem_map.mp hv
        rw [← KeyedTable.eq_of_key_eq (h p hp) hr hkey]
        exact Or.inl hv
      · exact Or.inr ⟨hr, fun v hv hsame => hkey ⟨v, hv, hsame⟩⟩

theorem grantPermissionByUser_none {env : UgcEnv} {t : UgcTable} {rules : List MacRule}
    {tokenId : UInt32} {policies : List PolicyInfo} (h : validPolicies policies = []) :
    grantPermissionByUser env t rules tokenId policies = { table := t, rules } :=
  if_pos h

theorem grantPermissionByUser_refused {env : UgcEnv} {t : UgcTable} {rules : List MacRule}
    {tokenId : UInt32} {policies : List PolicyInfo} (h : validPolicies policies ≠ [])
    (hadd : env.addOk = false) :
    grantPermissionByUser env t rules tokenId policies =
      { table := t, rules, ret := .SANDBOX_MANAGER_DB_ERR } := by
  have hvalid : ¬ (filterValidPolicy policies).2 = [] := h
  simp only [grantPermissionByUser, hvalid, hadd, Bool.not_false, if_true, if_false]

theorem grantPermissionByUser_added {env : UgcEnv} {t : UgcTable} {rules : List MacRule}
    {tokenId : UInt32} {policies : List PolicyInfo} (h : validPolicies policies ≠ [])
    (hadd : env.addOk = true) :
    grantPermissionByUser env t rules tokenId policies =
      { table := ugcReplace t ((validPolicies policies).map (grantRow tokenId))
        rules := rules ++ accepted tokenId (validPolicies policies)
          (macRequest env.fd env.set (validPolicies policies)).1
        ret := (macRequest env.fd env.set (validPolicies policies)).2 } := by
  have hvalid : ¬ (filterValidPolicy policies).2 = [] := h
  simp only [grantPermissionByUser, setPolicyInner, hvalid, hadd, Bool.not_true,
    Bool.false_eq_true, if_false]
  rfl

/-- **When a grant is atomic**: the database refuses it; or every call reaches the kernel, which
has or accepts each rule; or some call does not, and everything was granted already. -/
theorem grantPermissionByUser_atomic_iff (env : UgcEnv) (t : UgcTable) (rules : List MacRule)
    (tokenId : UInt32) (policies : List PolicyInfo) :
    GrantAtomic t tokenId policies (grantPermissionByUser env t rules tokenId policies) ↔
      env.addOk = false ∨
        (env.Reached (validPolicies policies) ∧
          Granting env rules tokenId (validPolicies policies)) ∨
        (¬ env.Reached (validPolicies policies) ∧
          ∀ p ∈ validPolicies policies, grantRow tokenId p ∈ t) := by
  by_cases hnone : validPolicies policies = []
  · rw [grantPermissionByUser_none hnone]
    have hall : ∀ P : PolicyInfo → Prop, ∀ p ∈ validPolicies policies, P p := by
      intro P p hp
      rw [hnone] at hp
      exact absurd hp List.not_mem_nil
    refine iff_of_true ⟨fun h => absurd rfl h, fun _ => hall _⟩ ?_
    by_cases hreached : env.Reached (validPolicies policies)
    · exact Or.inr (Or.inl ⟨hreached, hall _⟩)
    · exact Or.inr (Or.inr ⟨hreached, hall _⟩)
  by_cases hadd : env.addOk = true
  case neg =>
    have hrefused : env.addOk = false := by simpa using hadd
    rw [grantPermissionByUser_refused hnone hrefused]
    exact iff_of_true ⟨fun _ _ => Iff.rfl, fun h => ErrCode.noConfusion h⟩ (Or.inl hrefused)
  rw [grantPermissionByUser_added hnone hadd, hadd]
  by_cases hreached : env.Reached (validPolicies policies)
  · -- every rule the kernel says yes to is in force, every row is there
    have hok := macRequest_ok_iff.mpr hreached
    have hrules : ∀ p, macRule tokenId p ∈ rules ++ accepted tokenId (validPolicies policies)
          (macRequest env.fd env.set (validPolicies policies)).1 ↔
        macRule tokenId p ∈ rules ∨ ∃ (i : Nat) (q : PolicyInfo),
          (validPolicies policies)[i]? = some q ∧ env.set.result i = true ∧
            macRule tokenId q = macRule tokenId p := by
      intro p
      rw [List.mem_append, mem_accepted hok]
    constructor
    · intro h
      refine Or.inr (Or.inl ⟨hreached, fun p hp => (hrules p).mp ?_⟩)
      exact h.granted hok p hp (mem_grantRows.mpr (Or.inl (List.mem_map_of_mem hp)))
    · rintro (h | ⟨-, h⟩ | ⟨h, -⟩)
      · cases h
      · exact ⟨fun hne => absurd hok hne, fun _ p hp _ => (hrules p).mpr (h p hp)⟩
      · exact absurd hreached h
  · -- the rows are there although the call fails
    have hfail := fun hok => hreached (macRequest_ok_iff.mp hok)
    constructor
    · intro h
      exact Or.inr (Or.inr ⟨hreached, grantRows_unchanged_iff.mp (h.unchanged hfail)⟩)
    · rintro (h | ⟨h, -⟩ | ⟨-, h⟩)
      · cases h
      · exact absurd h hreached
      · exact ⟨fun _ => grantRows_unchanged_iff.mpr h, fun hok => absurd hok hfail⟩

/-- The kernel answers every call; of the items it takes those that `result` says. -/
def ugcEnv (result : Bool) : UgcEnv where
  fd := 3
  isMacSupport := true
  addOk := true
  set := ⟨fun _ => true, fun _ => result⟩
  modifyOk _ := true
  unset _ := ⟨fun _ => true, fun _ => result⟩

def musicPolicy : PolicyInfo := { path := bytes "/storage/Users/currentUser/Music", mode := READ_MODE }

theorem validPolicies_music : validPolicies [musicPolicy] = [musicPolicy] := by decide +kernel

/-- A rule the kernel turns down is granted all the same, and a call it does not answer fails
after the table has changed. -/
theorem grantPermissionByUser_not_atomic :
    ¬ GrantAtomic .empty 7 [musicPolicy]
        (grantPermissionByUser (ugcEnv false) .empty [] 7 [musicPolicy]) ∧
      ¬ GrantAtomic .empty 7 [musicPolicy]
        (grantPermissionByUser { ugcEnv true with set := ⟨fun _ => false, fun _ => true⟩ }
          .empty [] 7 [musicPolicy]) := by
  have hmem : musicPolicy ∈ validPolicies [musicPolicy] := by
    rw [validPolicies_music]
    exact List.mem_singleton.mpr rfl
  constructor
  · intro h
    have hrow : grantRow 7 musicPolicy ∈
        (grantPermissionByUser (ugcEnv false) .empty [] 7 [musicPolicy]).table := by
      rw [KeyedTable.mem_iff]
      decide +kernel
    have hrule := h.granted (by decide +kernel) musicPolicy hmem hrow
    revert hrule
    decide +kernel
  · intro h
    have hrow : grantRow 7 musicPolicy ∈
        (grantPermissionByUser { ugcEnv true with set := ⟨fun _ => false, fun _ => true⟩ }
          .empty [] 7 [musicPolicy]).table := by
      rw [KeyedTable.mem_iff]
      decide +kernel
    have hold := (h.unchanged (by decide +kernel) _).mp hrow
    exact KeyedTable.not_mem_empty _ hold

/-! ### Revoking -/

/-- A mode let through is an ordinary one. -/
theorem normal_of_validateTempMode {mode : UInt64}
    (h : validateTempMode mode = .OPERATE_SUCCESSFULLY) :
    isModeMatchPolicyType mode .NORMAL_POLICY = true := by
  unfold validateTempMode at h
  split at h
  case isTrue => cases h
  case isFalse hbits =>
    obtain ⟨hsome, hnone⟩ := not_or.mp hbits
    have hnone : mode &&& ~~~normalBits = 0 := not_not.mp hnone
    have hsame : mode &&& normalBits = mode := by
      have hsplit : mode &&& (normalBits ||| ~~~normalBits) =
          mode &&& normalBits ||| mode &&& ~~~normalBits :=
        UInt64.toBitVec_inj.mp BitVec.and_or_distrib_left
      rw [UInt64.or_not_self, UInt64.and_neg_one, hnone, UInt64.or_zero] at hsplit
      exact hsplit.symm
    have hlow : mode.toNat % 2 ^ 5 = mode.toNat := by
      rw [← Nat.and_two_pow_sub_one_eq_mod]
      exact congrArg UInt64.toNat hsame
    have hpos : mode.toNat ≠ 0 := by
      intro hzero
      apply hsome
      rw [hsame]
      exact UInt64.toNat_inj.mp hzero
    have hread : READ_MODE.toNat = 1 := rfl
    have hmax : MAX_MODE.toNat = 32 := rfl
    simp only [isModeMatchPolicyType, Bool.and_eq_true, decide_eq_true_eq, UInt64.le_iff_toNat_le,
      UInt64.lt_iff_toNat_lt]
    omega

theorem isNormalMode_of_valid {policies : List PolicyInfo} :
    ∀ p ∈ validPolicies policies, isNormalMode p = true := by
  intro p hp
  obtain ⟨origin, horigin, rfl⟩ := List.mem_map.mp hp
  have hresult : filterResult origin = .OPERATE_SUCCESSFULLY :=
    of_decide_eq_true (List.mem_filter.mp horigin).2
  apply normal_of_validateTempMode
  by_contra hmode
  simp only [filterResult, hmode, ne_eq, not_false_eq_true, if_true] at hresult
  split at hresult
  · cases hresult
  · split at hresult
    case isTrue hpath => exact hpath hresult
    case isFalse => exact hmode hresult

/-- The table was changed and the kernel was asked, where there is one. -/
def UgcEnv.Carried (env : UgcEnv) (i : Nat) : Prop :=
  env.modifyOk i = true ∧
    (env.isMacSupport = true → 0 ≤ env.fd ∧ (env.unset i).ioctl 0 = true)

/-- Something went wrong for the policy at an index: in the database or in the kernel. -/
def UgcEnv.Failed (env : UgcEnv) (i : Nat) : Prop :=
  ¬ env.Carried i ∨ (env.isMacSupport = true ∧ (env.unset i).result 0 = false)

section
variable {env : UgcEnv} {tokenId : UInt32} {p : PolicyInfo} {rules : List MacRule} {rule : MacRule}

theorem unSetPolicy_unsupported (hmac : env.isMacSupport = false) (answers : MacAnswers)
    (policies : List PolicyInfo) :
    unSetPolicy env answers tokenId policies rules =
      (rules, .SANDBOX_MANAGER_OK, policies.map fun _ => .OPERATE_SUCCESSFULLY) := by
  rw [unSetPolicy, hmac]
  rfl

theorem unSetPolicy_single (hmac : env.isMacSupport = true) (hmode : isNormalMode p = true)
    (answers : MacAnswers) :
    (unSetPolicy env answers tokenId [p] rules).1 = rules.filter (fun rule =>
        rule ∉ accepted tokenId [p] (macRequest env.fd answers [p]).1) ∧
      (unSetPolicy env answers tokenId [p] rules).2.1 = (macRequest env.fd answers [p]).2 := by
  have hvalid : [p].filter isNormalMode = [p] := by rw [List.filter_cons, if_pos hmode, List.filter_nil]
  rw [unSetPolicy, hmac, hvalid]
  exact ⟨rfl, rfl⟩

theorem macRequest_single {fd : Int} {answers : MacAnswers} :
    (macRequest fd answers [p]).2 = .SANDBOX_MANAGER_OK ↔ 0 ≤ fd ∧ answers.ioctl 0 = true := by
  rw [macRequest_ok_iff]
  refine and_congr_right fun _ => ⟨fun h => h 0 (Nat.zero_lt_one), fun h k hk => ?_⟩
  obtain rfl : k = 0 := by
    simp only [List.length_singleton, MAX_POLICY_NUM] at hk
    omega
  exact h

theorem unSetPolicy_ok_iff (hmode : isNormalMode p = true) (answers : MacAnswers) :
    (unSetPolicy env answers tokenId [p] rules).2.1 = .SANDBOX_MANAGER_OK ↔
      (env.isMacSupport = true → 0 ≤ env.fd ∧ answers.ioctl 0 = true) := by
  by_cases hmac : env.isMacSupport = true
  · rw [(unSetPolicy_single hmac hmode answers).2, macRequest_single]
    exact ⟨fun h _ => h, fun h => h hmac⟩
  · rw [unSetPolicy_unsupported (by simpa using hmac)]
    exact ⟨fun _ h => absurd h hmac, fun _ => rfl⟩

/-- Unsetting puts no rule in force. -/
theorem mem_of_mem_unSetPolicy (hmode : isNormalMode p = true) {answers : MacAnswers}
    (h : rule ∈ (unSetPolicy env answers tokenId [p] rules).1) : rule ∈ rules := by
  by_cases hmac : env.isMacSupport = true
  · rw [(unSetPolicy_single hmac hmode answers).1] at h
    exact (List.mem_filter.mp h).1
  · rwa [unSetPolicy_unsupported (by simpa using hmac)] at h

/-- The rule is gone when the kernel says yes. -/
theorem not_mem_unSetPolicy (hmac : env.isMacSupport = true) (hmode : isNormalMode p = true)
    {answers : MacAnswers} (hcall : 0 ≤ env.fd ∧ answers.ioctl 0 = true)
    (hresult : answers.result 0 = true) :
    macRule tokenId p ∉ (unSetPolicy env answers tokenId [p] rules).1 := by
  intro h
  rw [(unSetPolicy_single hmac hmode answers).1] at h
  have hnot := of_decide_eq_true (List.mem_filter.mp h).2
  exact hnot ((mem_accepted (macRequest_single.mpr hcall)).mpr ⟨0, p, rfl, hresult, rfl⟩)

end

/-- No row of the key says that the permission is granted. -/
def Denied (t : UgcTable) (k : UgcKey) : Prop :=
  ∀ r ∈ t, r.key = k → r.status = .UGC_PERMISSION_DENIED

theorem denied_ugcDeny (t : UgcTable) (k : UgcKey) : Denied (ugcDeny t k) k := by
  intro r hr hkey
  obtain ⟨origin, -, rfl⟩ := KeyedTable.mem_modify.mp hr
  by_cases h : origin.key = k
  · rw [if_pos (decide_eq_true h)]
    rfl
  · rw [if_neg (by simpa using h)] at hkey
    exact absurd hkey h

theorem Denied.ugcDeny {t : UgcTable} {k : UgcKey} (h : Denied t k) (k' : UgcKey) :
    Denied (ugcDeny t k') k := by
  intro r hr hkey
  obtain ⟨origin, horigin, rfl⟩ := KeyedTable.mem_modify.mp hr
  by_cases hsame : origin.key = k'
  · rw [if_pos (decide_eq_true hsame)]
    rfl
  · rw [if_neg (by simpa using hsame)] at hkey ⊢
    exact h origin horigin hkey

section
variable {env : UgcEnv} {tokenId : UInt32}

theorem revokePolicy_failed {i : Nat} (h : env.modifyOk i = false) (p : PolicyInfo) (s : UgcState) :
    revokePolicy env tokenId i p s = { s with ret := .SANDBOX_MANAGER_DB_ERR } := by
  rw [revokePolicy, h]
  rfl

theorem revokePolicy_modified {i : Nat} (h : env.modifyOk i = true) (p : PolicyInfo) (s : UgcState) :
    revokePolicy env tokenId i p s =
      { table := ugcDeny s.table (ugcKey tokenId p)
        rules := (unSetPolicy env (env.unset i) tokenId [p] s.rules).1
        ret :=
          if (unSetPolicy env (env.unset i) tokenId [p] s.rules).2.1 ≠ .SANDBOX_MANAGER_OK then
            (unSetPolicy env (env.unset i) tokenId [p] s.rules).2.1
          else s.ret } := by
  rw [revokePolicy, h]
  rfl

/-- What one turn of the loop does. -/
structure Revoked (env : UgcEnv) (tokenId : UInt32) (i : Nat) (p : PolicyInfo)
    (s s' : UgcState) : Prop where
  ret : s'.ret = .SANDBOX_MANAGER_OK ↔ s.ret = .SANDBOX_MANAGER_OK ∧ env.Carried i
  denied : env.Carried i → Denied s'.table (ugcKey tokenId p)
  keepsDenied : ∀ k, Denied s.table k → Denied s'.table k
  unset : ¬ env.Failed i → env.isMacSupport = true → macRule tokenId p ∉ s'.rules
  keepsUnset : ∀ rule ∈ s'.rules, rule ∈ s.rules
  unsupported : env.isMacSupport = false → s'.rules = s.rules

theorem revokePolicy_revoked (i : Nat) {p : PolicyInfo} (hmode : isNormalMode p = true)
    (s : UgcState) : Revoked env tokenId i p s (revokePolicy env tokenId i p s) := by
  by_cases hmodify : env.modifyOk i = true
  case neg =>
    rw [revokePolicy_failed (by simpa using hmodify)]
    constructor
    · exact ⟨fun h => ErrCode.noConfusion h, fun h => absurd h.2.1 hmodify⟩
    · exact fun h => absurd h.1 hmodify
    · exact fun _ h => h
    · exact fun h => absurd (Or.inl fun hcarried => hmodify hcarried.1) h
    · exact fun _ h => h
    · exact fun _ => rfl
  case pos =>
    have hcall : (unSetPolicy env (env.unset i) tokenId [p] s.rules).2.1 = .SANDBOX_MANAGER_OK ↔ _ :=
      unSetPolicy_ok_iff hmode (env.unset i)
    rw [revokePolicy_modified hmodify]
    constructor
    · show (if _ then _ else _) = _ ↔ _
      by_cases hret : (unSetPolicy env (env.unset i) tokenId [p] s.rules).2.1 = .SANDBOX_MANAGER_OK
      · rw [if_neg (not_not.mpr hret)]
        exact ⟨fun h => ⟨h, hmodify, hcall.mp hret⟩, And.left⟩
      · rw [if_pos hret]
        exact ⟨fun h => absurd h hret, fun h => absurd (hcall.mpr h.2.2) hret⟩
    · exact fun _ => denied_ugcDeny _ _
    · exact fun k h => h.ugcDeny _
    · intro hfine hmac
      obtain ⟨hcarried, hitem⟩ := not_or.mp hfine
      have hresult : (env.unset i).result 0 = true := by simpa [hmac] using hitem
      exact not_mem_unSetPolicy hmac hmode ((not_not.mp hcarried).2 hmac) hresult
    · exact fun _ => mem_of_mem_unSetPolicy hmode
    · intro hmac
      show (unSetPolicy env (env.unset i) tokenId [p] s.rules).1 = s.rules
      rw [unSetPolicy_unsupported hmac]

/-- What the whole loop does. -/
structure RevokedAll (env : UgcEnv) (tokenId : UInt32) (i : Nat) (ps : List PolicyInfo)
    (s s' : UgcState) : Prop where
  ret : s'.ret = .SANDBOX_MANAGER_OK ↔
    s.ret = .SANDBOX_MANAGER_OK ∧ ∀ j < ps.length, env.Carried (i + j)
  denied : ∀ (j : Nat) (p : PolicyInfo), ps[j]? = some p → env.Carried (i + j) →
    Denied s'.table (ugcKey tokenId p)
  keepsDenied : ∀ k, Denied s.table k → Denied s'.table k
  unset : ∀ (j : Nat) (p : PolicyInfo), ps[j]? = some p → ¬ env.Failed (i + j) →
    env.isMacSupport = true → macRule tokenId p ∉ s'.rules
  keepsUnset : ∀ rule ∈ s'.rules, rule ∈ s.rules
  unsupported : env.isMacSupport = false → s'.rules = s.rules

theorem revokeLoop_revokedAll (i : Nat) {ps : List PolicyInfo}
    (hmode : ∀ p ∈ ps, isNormalMode p = true) (s : UgcState) :
    RevokedAll env tokenId i ps s (revokeLoop env tokenId i ps s) := by
  induction ps generalizing i s with
  | nil =>
    constructor
    · exact ⟨fun h => ⟨h, fun _ hj => absurd hj (Nat.not_lt_zero _)⟩, And.left⟩
    · exact fun _ _ h => by cases h
    · exact fun _ h => h
    · exact fun _ _ h => by cases h
    · exact fun _ h => h
    · exact fun _ => rfl
  | cons p ps ih =>
    obtain ⟨hp, hps⟩ := List.forall_mem_cons.mp hmode
    have first : Revoked env tokenId i p s _ := revokePolicy_revoked i hp s
    have rest := ih (i + 1) hps (revokePolicy env tokenId i p s)
    have hshift : ∀ j, i + 1 + j = i + (j + 1) := fun j => by omega
    constructor
    · show (revokeLoop env tokenId (i + 1) ps (revokePolicy env tokenId i p s)).ret = _ ↔ _
      rw [rest.ret, first.ret, and_assoc]
      refine and_congr_right fun _ => ⟨?_, fun h => ⟨h 0 (Nat.succ_pos _), fun j hj => ?_⟩⟩
      · rintro ⟨hfirst, hrest⟩ j hj
        cases j with
        | zero => exact hfirst
        | succ j => exact hshift j ▸ hrest j (Nat.lt_of_succ_lt_succ hj)
      · exact hshift j ▸ h (j + 1) (Nat.succ_lt_succ hj)
    · intro j q hq hcarried
      cases j with
      | zero =>
        obtain rfl : p = q := Option.some.inj hq
        exact rest.keepsDenied _ (first.denied hcarried)
      | succ j => exact rest.denied j q hq (hshift j ▸ hcarried)
    · exact fun k h => rest.keepsDenied k (first.keepsDenied k h)
    · intro j q hq hfine hmac
      cases j with
      | zero =>
        obtain rfl : p = q := Option.some.inj hq
        exact fun h => first.unset hfine hmac (rest.keepsUnset _ h)
      | succ j => exact rest.unset j q hq (hshift j ▸ hfine) hmac
    · exact fun rule h => first.keepsUnset rule (rest.keepsUnset rule h)
    · exact fun hmac => (rest.unsupported hmac).trans (first.unsupported hmac)

end

/-- After a successful revocation nothing is granted and nothing is in force, and no failure
passes for a success. -/
structure RevokeHonest (env : UgcEnv) (tokenId : UInt32) (policies : List PolicyInfo)
    (o : UgcState) : Prop where
  denied : o.ret = .SANDBOX_MANAGER_OK → ∀ p ∈ validPolicies policies,
    Denied o.table (ugcKey tokenId p)
  unset : o.ret = .SANDBOX_MANAGER_OK → ∀ p ∈ validPolicies policies,
    macRule tokenId p ∉ o.rules
  reported : ∀ i < (validPolicies policies).length, env.Failed i → o.ret ≠ .SANDBOX_MANAGER_OK

/-- **When a revocation is honest**: some policy's database or kernel call fails as a whole; or
the kernel says yes to each policy; or there is no kernel support, and no rule in force. -/
theorem revokePermissionByUser_honest_iff (env : UgcEnv) (t : UgcTable) (rules : List MacRule)
    (tokenId : UInt32) (policies : List PolicyInfo) :
    RevokeHonest env tokenId policies (revokePermissionByUser env t rules tokenId policies) ↔
      (∃ i < (validPolicies policies).length, ¬ env.Carried i) ∨
        (env.isMacSupport = true ∧
          ∀ i < (validPolicies policies).length, (env.unset i).result 0 = true) ∨
        (env.isMacSupport = false ∧ ∀ p ∈ validPolicies policies, macRule tokenId p ∉ rules) := by
  have all : RevokedAll env tokenId 0 (validPolicies policies) { table := t, rules }
      (revokePermissionByUser env t rules tokenId policies) :=
    revokeLoop_revokedAll 0 isNormalMode_of_valid _
  have hret : (revokePermissionByUser env t rules tokenId policies).ret = .SANDBOX_MANAGER_OK ↔
      ∀ i < (validPolicies policies).length, env.Carried i := by
    rw [all.ret, and_iff_right rfl]
    simp only [Nat.zero_add]
  by_cases hcarried : ∀ i < (validPolicies policies).length, env.Carried i
  case neg =>
    have hfail := fun hok => hcarried (hret.mp hok)
    have hsome : ∃ i < (validPolicies policies).length, ¬ env.Carried i := by
      simpa only [not_forall, exists_prop] using hcarried
    exact ⟨fun _ => Or.inl hsome, fun _ => ⟨fun h => absurd h hfail, fun h => absurd h hfail,
      fun _ _ _ => hfail⟩⟩
  have hok := hret.mpr hcarried
  have hdenied : ∀ p ∈ validPolicies policies,
      Denied (revokePermissionByUser env t rules tokenId policies).table (ugcKey tokenId p) := by
    intro p hp
    obtain ⟨i, hi⟩ := List.mem_iff_getElem?.mp hp
    have hlt : i < (validPolicies policies).length := (List.getElem?_eq_some_iff.mp hi).1
    exact all.denied i p hi ((Nat.zero_add i).symm ▸ hcarried i hlt)
  have hnone : ¬ ∃ i < (validPolicies policies).length, ¬ env.Carried i :=
    fun ⟨i, hi, hnot⟩ => hnot (hcarried i hi)
  rw [or_iff_right hnone]
  by_cases hmac : env.isMacSupport = true
  · rw [or_iff_left (fun h => absurd hmac (by rw [h.1]; decide)), and_iff_right hmac]
    constructor
    · intro h i hi
      by_contra hno
      exact h.reported i hi (Or.inr ⟨hmac, by simpa using hno⟩) hok
    · intro h
      have hfine : ∀ i < (validPolicies policies).length, ¬ env.Failed i := by
        rintro i hi (hnot | ⟨-, hno⟩)
        · exact hnot (hcarried i hi)
        · rw [h i hi] at hno
          cases hno
      refine ⟨fun _ => hdenied, fun _ p hp => ?_, fun i hi hfailed => absurd hfailed (hfine i hi)⟩
      obtain ⟨i, hi⟩ := List.mem_iff_getElem?.mp hp
      have hlt : i < (validPolicies policies).length := (List.getElem?_eq_some_iff.mp hi).1
      exact all.unset i p hi ((Nat.zero_add i).symm ▸ hfine i hlt) hmac
  · have hunsupported : env.isMacSupport = false := by simpa using hmac
    have hrules : (revokePermissionByUser env t rules tokenId policies).rules = rules :=
      all.unsupported hunsupported
    rw [or_iff_right (fun h => hmac h.1), and_iff_right hunsupported]
    constructor
    · intro h p hp
      exact hrules ▸ h.unset hok p hp
    · intro h
      refine ⟨fun _ => hdenied, fun _ p hp => hrules.symm ▸ h p hp, ?_⟩
      rintro i hi (hnot | ⟨hyes, -⟩)
      · exact absurd (hcarried i hi) hnot
      · exact absurd hyes hmac

/-- A rule the kernel does not let go of counts as revoked. -/
theorem revokePermissionByUser_not_honest :
    ¬ RevokeHonest (ugcEnv false) 7 [musicPolicy]
      (revokePermissionByUser (ugcEnv false)
        (ugcReplace .empty [grantRow 7 musicPolicy]) [macRule 7 musicPolicy] 7 [musicPolicy]) := by
  intro h
  have hlength : 0 < (validPolicies [musicPolicy]).length := by
    rw [validPolicies_music]
    decide
  exact h.reported 0 hlength (Or.inr ⟨rfl, rfl⟩) (by decide +kernel)

end SandboxManager.Policy
