import SandboxManager.Policy.Remove

/-! What a failed `RemovePolicy` leaves behind.

The kernel's rules are unset one by one while the loop goes on, and the rows go in one transaction
after it (`Ends`). An error on the way returns at once: the rules unset so far stay unset and their
rows stay in the table. So kernel and table are in step exactly if the kernel refuses at the very
first rule or everything that comes after the loop succeeds (`removePolicy_inStep_iff`). -/
namespace SandboxManager.Policy
open Library KeyTree Trie

/-- A rule to unset. -/
abbrev Rule := UInt32 × PolicyInfo

section
variable (env : Env)

/-- The kernel unsets the rules in this order, after those already unset. -/
def Unsets : List Rule → List Rule → Prop
  | _, [] => True
  | calls, rule :: rules =>
    unSetSandboxPolicy env.mac calls rule.1 rule.2 = .SANDBOX_MANAGER_OK ∧
      Unsets (calls ++ [rule]) rules

theorem unsets_append (calls a b : List Rule) :
    Unsets env calls (a ++ b) ↔ Unsets env calls a ∧ Unsets env (calls ++ a) b := by
  induction a generalizing calls with
  | nil =>
    rw [List.nil_append, List.append_nil]
    exact (iff_of_eq (true_and _)).symm
  | cons rule a ih =>
    rw [List.cons_append, Unsets, Unsets, ih, and_assoc, List.append_assoc, List.singleton_append]

def RemoveState.after (s : RemoveState) (rules : List Rule) : RemoveState where
  unset := s.unset ++ rules
  conditions := s.conditions ++ rules.map fun rule => transferPolicyToGeneric rule.1 rule.2

theorem RemoveState.after_append (s : RemoveState) (a b : List Rule) :
    s.after (a ++ b) = (s.after a).after b := by
  simp only [after, List.append_assoc, List.map_append]

/-- How a loop over rules ends: with all of them unset, or at the first that is refused. -/
inductive Ends (s : RemoveState) (rules : List Rule) : RemoveState → ErrCode → Prop
  | through (h : Unsets env s.unset rules) : Ends s rules (s.after rules) .SANDBOX_MANAGER_OK
  | refused {before rest : List Rule} {rule : Rule} {ret : ErrCode}
      (hrules : rules = before ++ rule :: rest) (h : Unsets env s.unset before)
      (hret : unSetSandboxPolicy env.mac (s.unset ++ before) rule.1 rule.2 = ret)
      (herr : ret ≠ .SANDBOX_MANAGER_OK) : Ends s rules (s.after before) ret

variable {env}

theorem RemoveState.after_nil (s : RemoveState) : s.after [] = s := by
  simp only [after, List.map_nil, List.append_nil]

theorem ends_nil (s : RemoveState) : Ends env s [] s .SANDBOX_MANAGER_OK := by
  have hthrough : Ends env s [] (s.after []) .SANDBOX_MANAGER_OK := Ends.through trivial
  rw [s.after_nil] at hthrough
  exact hthrough

theorem ends_head {s : RemoveState} {rule : Rule}
    (herr : unSetSandboxPolicy env.mac s.unset rule.1 rule.2 ≠ .SANDBOX_MANAGER_OK)
    (rest : List Rule) :
    Ends env s (rule :: rest) s (unSetSandboxPolicy env.mac s.unset rule.1 rule.2) := by
  have hrefused : Ends env s ([] ++ rule :: rest) (s.after [])
      (unSetSandboxPolicy env.mac s.unset rule.1 rule.2) :=
    Ends.refused rfl trivial (by rw [List.append_nil]) herr
  rw [s.after_nil] at hrefused
  exact hrefused

theorem Ends.append_right {s s' : RemoveState} {a b : List Rule} {ret : ErrCode}
    (h : Ends env s a s' ret) (herr : ret ≠ .SANDBOX_MANAGER_OK) : Ends env s (a ++ b) s' ret := by
  cases h with
  | through => exact absurd rfl herr
  | refused hrules hbefore hret =>
    exact .refused (by rw [hrules, List.append_assoc, List.cons_append]) hbefore hret herr

theorem Ends.append_left {s s' : RemoveState} {a b : List Rule} {ret : ErrCode}
    (ha : Unsets env s.unset a) (h : Ends env (s.after a) b s' ret) :
    Ends env s (a ++ b) s' ret := by
  cases h with
  | through hb =>
    rw [← RemoveState.after_append]
    exact .through ((unsets_append env _ _ _).mpr ⟨ha, hb⟩)
  | refused hrules hbefore hret herr =>
    rw [← RemoveState.after_append]
    refine .refused (by rw [hrules, List.append_assoc]) ((unsets_append env _ _ _).mpr ⟨ha, hbefore⟩)
      ?_ herr
    rw [← List.append_assoc]
    exact hret

theorem unsetAndRecord_ends (tokenId : UInt32) (policy : PolicyInfo) (paths : List Bytes)
    (s : RemoveState) :
    Ends env s (paths.map fun path => (tokenId, { policy with path := path }))
      (unsetAndRecord env tokenId policy paths s).1
      (unsetAndRecord env tokenId policy paths s).2 := by
  induction paths generalizing s with
  | nil => exact ends_nil s
  | cons path paths ih =>
    let rule : Rule := (tokenId, { policy with path := path })
    by_cases hok : unSetSandboxPolicy env.mac s.unset rule.1 rule.2 = .SANDBOX_MANAGER_OK
    · have hstep : unsetAndRecord env tokenId policy (path :: paths) s =
          unsetAndRecord env tokenId policy paths (s.after [rule]) := by
        have hok' : unSetSandboxPolicy env.mac s.unset tokenId { policy with path := path } =
            .SANDBOX_MANAGER_OK := hok
        simp only [unsetAndRecord, hok']
        rfl
      rw [hstep]
      exact Ends.append_left (a := [rule]) ⟨hok, trivial⟩ (ih (s.after [rule]))
    · have hstop : unsetAndRecord env tokenId policy (path :: paths) s =
          (s, unSetSandboxPolicy env.mac s.unset rule.1 rule.2) := by
        simp only [unsetAndRecord]
        split
        · exact absurd ‹_› hok
        · rfl
      rw [hstop]
      exact ends_head hok _

/-- What is to be unset for a policy. -/
def rulesOf (trie : PolicyTrie) (tokenId : UInt32) (policy : PolicyInfo) : List Rule :=
  if isValid policy then
    (findMatchingPaths trie policy.path policy.mode).map fun path =>
      (tokenId, { policy with path := path })
  else []

theorem removeLoop_ends (trie : PolicyTrie) (tokenId : UInt32) (policies : List PolicyInfo)
    (s : RemoveState) :
    Ends env s (policies.flatMap (rulesOf trie tokenId)) (removeLoop env trie tokenId policies s).1
      (removeLoop env trie tokenId policies s).2.1 := by
  induction policies generalizing s with
  | nil =>
    rw [List.flatMap_nil]
    exact ends_nil s
  | cons policy policies ih =>
    rw [List.flatMap_cons]
    by_cases hv : checkPolicyValidity policy .NORMAL_POLICY = .OPERATE_SUCCESSFULLY
    · have hrules : rulesOf trie tokenId policy = (findMatchingPaths trie policy.path policy.mode).map
          fun path => (tokenId, { policy with path := path }) := if_pos (decide_eq_true hv)
      by_cases hnone : findMatchingPaths trie policy.path policy.mode = []
      · rw [hrules, hnone, List.map_nil, List.nil_append]
        simp only [removeLoop, hv, hnone]
        exact ih s
      · have hends := @unsetAndRecord_ends env tokenId policy
          (findMatchingPaths trie policy.path policy.mode) s
        rw [← hrules] at hends
        generalize hu : unsetAndRecord env tokenId policy
          (findMatchingPaths trie policy.path policy.mode) s = u at hends
        obtain ⟨s', ret⟩ := u
        simp only [removeLoop, ne_eq, hv, hnone, hu, not_true_eq_false, if_false]
        by_cases hret : ret = .SANDBOX_MANAGER_OK
        · subst hret
          cases hends with
          | through hall => exact Ends.append_left hall (ih _)
          | refused _ _ _ herr => exact absurd rfl herr
        · split
          case h_1 heq =>
            cases heq
            exact absurd rfl hret
          case h_2 heq =>
            cases heq
            exact hends.append_right hret
    · have hrules : rulesOf trie tokenId policy = [] := if_neg fun hvalid => hv (of_decide_eq_true hvalid)
      rw [hrules, List.nil_append]
      simp only [removeLoop, ne_eq, hv, not_false_eq_true, if_true]
      exact ih s

end

/-! ### The call -/

/-- What the request has to unset, in order. -/
def requestRules (env : Env) (t : Table) (tokenId : UInt32) (policies : List PolicyInfo) : List Rule :=
  policies.flatMap (rulesOf (removeTrie env t tokenId) tokenId)

/-- Where the caller is told of a failure, nothing has been done. -/
def InStep (t : Table) (o : RemoveOutcome) : Prop :=
  o.ret ≠ .SANDBOX_MANAGER_OK → o.table = t ∧ o.unset = []

/-- The media library, if it is asked, reports no error. -/
def MediaRemoved (env : Env) (tokenId : UInt32) (policies : List PolicyInfo) : Prop :=
  policies.filter isMediaIndex = [] ∨
    ∀ e, env.media.removeMediaPolicy tokenId (policies.filter isMediaIndex) = .error e →
      e = .SANDBOX_MANAGER_OK

/-- The request is refused at its first rule, if it has any, or nothing of it is refused. -/
def AllOrNothing (env : Env) (t : Table) (tokenId : UInt32) (policies : List PolicyInfo) : Prop :=
  (∀ rule, (requestRules env t tokenId policies).head? = some rule →
    unSetSandboxPolicy env.mac [] rule.1 rule.2 ≠ .SANDBOX_MANAGER_OK) ∨
  (Unsets env [] (requestRules env t tokenId policies) ∧ env.removeOk = true ∧
    MediaRemoved env tokenId policies)

/-- The table, the answer and the rules unset, the loop's end given. -/
theorem removeNormalPolicy_of_loop {env : Env} {t : Table} {tokenId : UInt32}
    {policies : List PolicyInfo} (hfind : env.findOk = true) {s : RemoveState} {ret : ErrCode}
    {results : List SandboxRetType}
    (hloop : removeLoop env (removeTrie env t tokenId) tokenId policies ⟨[], []⟩ = (s, ret, results)) :
    removeNormalPolicy env t tokenId policies =
      if ret ≠ .SANDBOX_MANAGER_OK then ⟨t, ret, results, s.unset⟩
      else if s.conditions = [] then ⟨t, .SANDBOX_MANAGER_OK, results, s.unset⟩
      else if env.removeOk then ⟨rdbRemove t s.conditions, .SANDBOX_MANAGER_OK, results, s.unset⟩
      else ⟨t, .SANDBOX_MANAGER_DB_ERR, results, s.unset⟩ := by
  unfold removeNormalPolicy
  rw [← removeTrie]
  simp only [hfind, hloop, Bool.not_true, Bool.false_eq_true, if_false]

/-- The media part changes neither the table nor the rules. -/
theorem removePolicy_of_normal {env : Env} (t : Table) (tokenId : UInt32)
    (policies : List PolicyInfo) (hmac : env.mac.isMacSupport = true) :
    (removePolicy env t tokenId policies).table = (removeNormalPolicy env t tokenId policies).table ∧
      (removePolicy env t tokenId policies).unset =
        (removeNormalPolicy env t tokenId policies).unset ∧
      ((removePolicy env t tokenId policies).ret = .SANDBOX_MANAGER_OK ↔
        (removeNormalPolicy env t tokenId policies).ret = .SANDBOX_MANAGER_OK ∧
          MediaRemoved env tokenId policies) := by
  simp only [removePolicy, hmac, Bool.not_true, Bool.false_eq_true, if_false]
  generalize removeNormalPolicy env t tokenId policies = o
  by_cases hret : o.ret = .SANDBOX_MANAGER_OK
  · by_cases hnone : policies.filter isMediaIndex = []
    · rw [if_neg (not_not.mpr hret), if_pos hnone]
      exact ⟨rfl, rfl, iff_of_true hret ⟨hret, Or.inl hnone⟩⟩
    · rw [if_neg (not_not.mpr hret), if_neg hnone]
      cases hmedia : env.media.removeMediaPolicy tokenId (policies.filter isMediaIndex) with
      | error e =>
        refine ⟨rfl, rfl, fun he => ⟨hret, Or.inr fun e' he' => ?_⟩, fun hremoved => ?_⟩
        · rw [hmedia] at he'
          cases he'
          exact he
        · exact (hremoved.2.resolve_left hnone) e hmedia
      | ok results =>
        refine ⟨rfl, rfl, iff_of_true hret ⟨hret, Or.inr fun e he => ?_⟩⟩
        rw [hmedia] at he
        cases he
  · rw [if_pos hret]
    exact ⟨rfl, rfl, iff_of_false hret fun h => hret h.1⟩

/-- The loop's two ends, and what the rest of the call makes of them. -/
theorem inStep_of_ends {env : Env} {t : Table} {media : Prop} {rules : List Rule}
    {s : RemoveState} {ret : ErrCode} {results : List SandboxRetType}
    (hends : Ends env ⟨[], []⟩ rules s ret) :
    let o : RemoveOutcome :=
      if ret ≠ .SANDBOX_MANAGER_OK then ⟨t, ret, results, s.unset⟩
      else if s.conditions = [] then ⟨t, .SANDBOX_MANAGER_OK, results, s.unset⟩
      else if env.removeOk then ⟨rdbRemove t s.conditions, .SANDBOX_MANAGER_OK, results, s.unset⟩
      else ⟨t, .SANDBOX_MANAGER_DB_ERR, results, s.unset⟩
    (¬ (o.ret = .SANDBOX_MANAGER_OK ∧ media) → o.table = t ∧ o.unset = []) ↔
      (∀ rule, rules.head? = some rule →
        unSetSandboxPolicy env.mac [] rule.1 rule.2 ≠ .SANDBOX_MANAGER_OK) ∨
      (Unsets env [] rules ∧ env.removeOk = true ∧ media) := by
  intro o
  cases hends with
  | through hall =>
    cases rules with
    | nil => exact iff_of_true (fun _ => ⟨rfl, rfl⟩) (Or.inl fun rule hrule => by cases hrule)
    | cons rule rules =>
      -- with a rule unset, the failure must not be told
      have hunset : o.unset ≠ [] := by
        by_cases hremove : env.removeOk = true
        · simp [o, RemoveState.after, hremove]
        · simp [o, RemoveState.after, hremove]
      have hret : o.ret = .SANDBOX_MANAGER_OK ↔ env.removeOk = true := by
        by_cases hremove : env.removeOk = true
        · simp [o, RemoveState.after, hremove]
        · simp [o, RemoveState.after, hremove]
      have hfirst : ¬ ∀ first, (rule :: rules).head? = some first →
          unSetSandboxPolicy env.mac [] first.1 first.2 ≠ .SANDBOX_MANAGER_OK :=
        fun hrefused => hrefused rule rfl hall.1
      rw [hret, or_iff_right hfirst, and_iff_right hall]
      apply Iff.intro
      · intro htold
        by_contra hno
        exact hunset (htold hno).2
      · exact fun hgood hno => absurd hgood hno
  | @refused before rest rule ret hrules hbefore hret herr =>
    have ho : o = ⟨t, ret, results, before⟩ := if_pos herr
    rw [ho]
    have hnotall : ¬ Unsets env [] rules := by
      rw [hrules, unsets_append]
      intro hall
      exact herr (hret.symm.trans hall.2.1)
    have htold : (¬ (ret = .SANDBOX_MANAGER_OK ∧ media) → t = t ∧ before = []) ↔ before = [] :=
      ⟨fun h => (h fun hok => herr hok.1).2, fun h _ => ⟨rfl, h⟩⟩
    rw [or_iff_left fun h => hnotall h.1]
    refine htold.trans ?_
    cases before with
    | nil =>
      refine iff_of_true rfl fun first hfirst hok => ?_
      rw [hrules, List.nil_append, List.head?_cons, Option.some.injEq] at hfirst
      subst hfirst
      exact herr (hret.symm.trans hok)
    | cons first before =>
      refine iff_of_false (List.cons_ne_nil _ _) fun hrefused => ?_
      exact hrefused first (by rw [hrules]; rfl) hbefore.1

/-- **Kernel and table are in step exactly where all or nothing of the request is refused**, short of
a service without kernel support and of a query that fails. The first rule is the first that the
search comes to (`requestRules`). The source keeps the spellings of a name in an `unordered_set`,
which it walks in no order of its own; here they are in the order in which they were put in. -/
theorem removePolicy_inStep_iff (env : Env) (t : Table) (tokenId : UInt32)
    (policies : List PolicyInfo) :
    InStep t (removePolicy env t tokenId policies) ↔
      (env.mac.isMacSupport = true → env.findOk = true → AllOrNothing env t tokenId policies) := by
  by_cases hmac : env.mac.isMacSupport = true
  · by_cases hfind : env.findOk = true
    · obtain ⟨htable, hunset, hret⟩ := removePolicy_of_normal t tokenId policies hmac
      have hends := @removeLoop_ends env (removeTrie env t tokenId) tokenId policies ⟨[], []⟩
      rw [InStep, htable, hunset, ne_eq, hret]
      generalize hloop : removeLoop env (removeTrie env t tokenId) tokenId policies ⟨[], []⟩ = loop
        at hends
      obtain ⟨s, ret, results⟩ := loop
      rw [removeNormalPolicy_of_loop hfind hloop]
      rw [AllOrNothing, forall_prop_of_true hmac, forall_prop_of_true hfind]
      exact inStep_of_ends hends
    · have hnormal : removeNormalPolicy env t tokenId policies =
          ⟨t, .SANDBOX_MANAGER_DB_ERR, policies.map fun _ => .OPERATE_SUCCESSFULLY, []⟩ := by
        rw [removeNormalPolicy, if_pos (by simpa using hfind)]
      obtain ⟨htable, hunset, -⟩ := removePolicy_of_normal t tokenId policies hmac
      rw [hnormal] at htable hunset
      exact iff_of_true (fun _ => ⟨htable, hunset⟩) fun _ hfind' => absurd hfind' hfind
  · have hoff : (removePolicy env t tokenId policies).ret = .SANDBOX_MANAGER_OK := by
      rw [removePolicy, if_pos (by simpa using hmac)]
    exact iff_of_true (fun herr => absurd hoff herr) fun hmac' => absurd hmac' hmac

/-- A kernel that unsets one rule and no more. -/
def unsetsOne : Env :=
  { grantingEnv with mac := { grantingEnv.mac with unsetIoctl := fun calls _ _ => calls.isEmpty } }

def twoPolicies : List PolicyInfo :=
  [⟨bytes "/a", READ_MODE, .UNKNOWN⟩, ⟨bytes "/b", READ_MODE, .UNKNOWN⟩]

/-- The first of two rules is unset when the second is refused. -/
theorem removePolicy_not_inStep :
    ¬ ∀ (env : Env) (t : Table) (tokenId : UInt32) (policies : List PolicyInfo),
      InStep t (removePolicy env t tokenId policies) := by
  intro h
  have hinStep := h unsetsOne (addPolicy grantingEnv .empty 7 twoPolicies 0).1 7 twoPolicies
  have hunset := (hinStep (by decide +kernel)).2
  revert hunset
  decide +kernel

end SandboxManager.Policy
