import SandboxManager.Claw.AcceptedPolicy
import SandboxManager.Claw.Delivery

/-! The policies a monitor takes from its socket.

With `ParseOperationControlPolicy` as the parser, a request to add a policy gets as far as the
delivery only with one group, of the session, with legal paths and without a network module; and
so in every run, whatever the app writes. -/
namespace SandboxManager.Claw
open Library

/-- The monitor's externals, with the parser of the policy texts in place. -/
def policyExternals (cJSON_Parse : Bytes → Option Json) (cJSON_PrintUnformatted : Json → Bytes)
    (parseEvent : Bytes → Option (DeviceEventHeader × Bytes)) : Externals PolicyRuleGroup where
  cJSON_Parse
  cJSON_PrintUnformatted
  parseOperationControlPolicy text := parseOperationControlPolicy cJSON_Parse text []
  parseEvent

/-- The text of a policy with a single legal group. -/
structure SingleGroup (cJSON_Parse : Bytes → Option Json) (text : Bytes) : Prop where
  length : text.length ≤ MAX_POLICY_JSON_LENGTH
  depth : JsonDepth.checkJsonDepth text = .SUCCESS
  group : ∃ policy item, cJSON_Parse (cStr text) = some policy ∧ policy.isObject = true ∧
    policy.getObjectItem ruleGroupsKey = some (.array [item]) ∧ LegalGroup .DYNAMIC item

/-! ### Policy texts -/

theorem checkJsonDepth_cases (text : Bytes) :
    JsonDepth.checkJsonDepth text = .SUCCESS ∨ JsonDepth.checkJsonDepth text = .ERR_CONFIG_INVALID := by
  unfold JsonDepth.checkJsonDepth
  generalize false = inString
  generalize 0 = depth
  fun_induction JsonDepth.checkFrom inString depth text with
  | case1 => exact Or.inl rfl
  | case6 => exact Or.inr rfl
  | _ => assumption

/-- **A text is taken exactly where it is short and shallow and its tree is a legal policy**;
otherwise the groups are those that were there. -/
theorem parseOperationControlPolicy_spec (cJSON_Parse : Bytes → Option Json) (jsonStr : Bytes)
    (ruleGroups : List PolicyRuleGroup) :
    (∀ groups, parseOperationControlPolicy cJSON_Parse jsonStr ruleGroups = (.SUCCESS, groups) ↔
      (jsonStr.length ≤ MAX_POLICY_JSON_LENGTH ∧ JsonDepth.checkJsonDepth jsonStr = .SUCCESS) ∧
      ∃ policy, (cJSON_Parse (cStr jsonStr) = some policy ∧ policy.isObject = true) ∧
        LegalRuleGroups .DYNAMIC policy ∧ ruleGroupsOf policy = groups) ∧
    ((parseOperationControlPolicy cJSON_Parse jsonStr ruleGroups).1 ≠ .SUCCESS →
      parseOperationControlPolicy cJSON_Parse jsonStr ruleGroups =
        (.ERR_CONFIG_INVALID, ruleGroups)) := by
  unfold parseOperationControlPolicy
  by_cases hlong : MAX_POLICY_JSON_LENGTH < jsonStr.length
  · rw [if_pos hlong]
    refine ⟨fun groups => ?_, fun _ => rfl⟩
    have hnot : ¬ jsonStr.length ≤ MAX_POLICY_JSON_LENGTH := Nat.not_le.mpr hlong
    simp [hnot]
  rw [if_neg hlong]
  have hshort : jsonStr.length ≤ MAX_POLICY_JSON_LENGTH := Nat.not_lt.mp hlong
  by_cases hdepth : JsonDepth.checkJsonDepth jsonStr = .SUCCESS
  · rw [if_neg (not_not.mpr hdepth)]
    simp only [hshort, hdepth, and_self, true_and]
    split
    · rename_i members htree
      have hchecks := parseOperationControlRuleGroups_checks .DYNAMIC (.object members)
      have hobject : (Json.object members).isObject = true := rfl
      simp only [htree, Option.some.injEq, and_assoc, exists_eq_left', hobject, true_and]
      cases hread : parseOperationControlRuleGroups .DYNAMIC (.object members) with
      | ok groups =>
        refine ⟨fun groups' => ?_, fun h => absurd rfl h⟩
        rw [← hchecks.eq_ok_iff, hread]
        simp
      | error why =>
        refine ⟨fun groups' => ?_, fun _ => rfl⟩
        rw [← hchecks.eq_ok_iff, hread]
        simp
    · rename_i hnot
      refine ⟨fun groups => ⟨fun h => (by cases h), fun h => ?_⟩, fun _ => rfl⟩
      obtain ⟨policy, ⟨htree, hobject⟩, -⟩ := h
      cases policy with
      | object members => exact absurd htree (hnot members)
      | _ => cases hobject
  · rw [if_pos hdepth]
    have hinvalid := (checkJsonDepth_cases jsonStr).resolve_left hdepth
    rw [hinvalid]
    simp

/-- What reaches the delivery is one group. -/
theorem singleGroup_of_parsed {cJSON_Parse : Bytes → Option Json} {jsonStr : Bytes}
    {groups : List PolicyRuleGroup}
    (h : parseOperationControlPolicy cJSON_Parse jsonStr [] = (.SUCCESS, groups))
    (hgroups : groups ≠ []) : SingleGroup cJSON_Parse jsonStr := by
  obtain ⟨⟨hlength, hdepth⟩, policy, ⟨htree, hobject⟩, hlegal, rfl⟩ :=
    ((parseOperationControlPolicy_spec cJSON_Parse jsonStr []).1 groups).mp h
  refine ⟨hlength, hdepth, ?_⟩
  cases hitem : policy.getObjectItem ruleGroupsKey with
  | none => exact absurd (by simp [ruleGroupsOf, hitem, Json.itemsOf]) hgroups
  | some item =>
    obtain ⟨items, rfl, hcount, hall⟩ := hlegal item hitem
    cases items with
    | nil => exact absurd (by simp [ruleGroupsOf, hitem, Json.itemsOf]) hgroups
    | cons group rest =>
      obtain rfl : rest = [] := by
        rw [← List.length_eq_zero_iff]
        simpa using hcount
      exact ⟨policy, group, htree, hobject, hitem, hall group List.mem_cons_self⟩

namespace SandboxMonitor

/-! ### Requests -/

/-- A request to add a policy that was read whole and delivered, all or in part, carried a single
legal group. -/
def Served.Vetted (cJSON_Parse : Bytes → Option Json) (request : Served) : Prop :=
  request.message.header.msgType = SOCKET_MSG_ADD_POLICY →
    request.message.rejectReason = .SUCCESS → request.ret = .SUCCESS ∨ request.ret = .ERR_SET_POLICY_PARTIAL →
      SingleGroup cJSON_Parse request.message.body

def Vetted (cJSON_Parse : Bytes → Option Json) (m : SandboxMonitor) : Prop :=
  ∀ request ∈ m.world.served, Served.Vetted cJSON_Parse request

section
variable {cJSON_Parse : Bytes → Option Json} {cJSON_PrintUnformatted : Json → Bytes}
  {parseEvent : Bytes → Option (DeviceEventHeader × Bytes)}

/-- Only what was parsed to a group is delivered. -/
theorem handleAddPolicy_vetted (m : SandboxMonitor) (jsonBody : Bytes)
    (answers : RequestAnswers PolicyRuleGroup) {ret : SandboxError} {detail : Bytes}
    {m' : SandboxMonitor}
    (h : m.handleAddPolicy (policyExternals cJSON_Parse cJSON_PrintUnformatted parseEvent) jsonBody
      answers = (m', ret, detail))
    (hret : ret = .SUCCESS ∨ ret = .ERR_SET_POLICY_PARTIAL) : SingleGroup cJSON_Parse jsonBody := by
  have hspec := (parseOperationControlPolicy_spec cJSON_Parse jsonBody []).2
  unfold handleAddPolicy parseAddPolicy at h
  obtain ⟨parsed, groups, hparsed⟩ :
      ∃ parsed groups, parseOperationControlPolicy cJSON_Parse jsonBody [] = (parsed, groups) :=
    ⟨_, _, rfl⟩
  simp only [policyExternals, hparsed] at h hspec
  by_cases hready : m.state = .DEGRADED ∨ m.deviceFd < 0
  · rw [if_pos hready] at h
    cases h
    simp at hret
  rw [if_neg hready] at h
  by_cases hsuccess : parsed = .SUCCESS
  · rw [if_neg (not_not.mpr hsuccess)] at h
    by_cases hnil : groups = []
    · simp only [hnil, if_true, ne_eq, reduceCtorEq, not_false_eq_true] at h
      cases h
      simp at hret
    · exact singleGroup_of_parsed (hsuccess ▸ hparsed) hnil
  · have hinvalid := (Prod.mk.inj (hspec hsuccess)).1
    simp only [hinvalid, ne_eq, reduceCtorEq, not_false_eq_true, if_true] at h
    cases h
    simp at hret

theorem serve_vetted (m : SandboxMonitor) (message : ParsedMessage)
    (answers : RequestAnswers PolicyRuleGroup) {ret : SandboxError} {detail : Bytes}
    {m' : SandboxMonitor}
    (h : serve (policyExternals cJSON_Parse cJSON_PrintUnformatted parseEvent) m message answers =
      (m', ret, detail)) : Served.Vetted cJSON_Parse ⟨message, ret, detail⟩ := by
  intro htype hwhole hret
  unfold serve at h
  split at h
  · rw [dispatchSocketMessage, if_pos htype] at h
    exact handleAddPolicy_vetted m message.body answers h hret
  · rename_i hinvalid
    cases h
    unfold validateMessage at hret hinvalid
    rw [if_neg (not_not.mpr hwhole)] at hret hinvalid
    split at hret
    · simp at hret
    · exact absurd (by rw [if_neg ‹_›]) hinvalid

/-! ### Runs -/

theorem Vetted.of_served {m m' : SandboxMonitor} (h : Vetted cJSON_Parse m)
    (hsame : m'.world.served = m.world.served) : Vetted cJSON_Parse m' := by
  unfold Vetted
  rw [hsame]
  exact h

theorem Vetted.queueResponse (m : SandboxMonitor) (message : ParsedMessage)
    (answers : RequestAnswers PolicyRuleGroup) (h : Vetted cJSON_Parse m) :
    Vetted cJSON_Parse (m.queueResponse
      (policyExternals cJSON_Parse cJSON_PrintUnformatted parseEvent) message answers) := by
  have hserves := serve_serves
    (X := policyExternals cJSON_Parse cJSON_PrintUnformatted parseEvent) m message answers
  generalize hout : serve _ m message answers = out at hserves
  obtain ⟨m', ret, detail⟩ := out
  rw [queueResponse_eq m message answers hout]
  refine Vetted.of_served (m := m'.served ⟨message, ret, detail⟩) ?_
    (pushSocketMessage_records _ _).2.1
  intro request hrequest
  rcases List.mem_append.mp hrequest with hrequest | hrequest
  · rw [hserves.records.2.1] at hrequest
    exact h request hrequest
  · rw [List.mem_singleton.mp hrequest]
    exact serve_vetted m message answers hout

/-- Only what is read is served. -/
theorem Vetted.move {m m' : SandboxMonitor} (h : Vetted cJSON_Parse m)
    (hmove : Move (policyExternals cJSON_Parse cJSON_PrintUnformatted parseEvent) m m') :
    Vetted cJSON_Parse m' := by
  have hpush : ∀ (m₁ : SandboxMonitor) (eventId : UInt64) (json : Bytes),
      m₁.world.served = m.world.served →
        (m₁.pushEventReport eventId true json).world.served = m.world.served :=
    fun m₁ eventId json hsame => (pushSocketMessage_records m₁ _).2.1.trans hsame
  cases hmove with
  | answering sends => exact h.of_served rfl
  | writeEnabled enabled => exact h.of_served rfl
  | writable hs => exact h.of_served rfl
  | retry hattempts => exact h.of_served rfl
  | reconnect hattempts => exact h.of_served rfl
  | strip hs hqueue hresponse hbody => exact h.of_served rfl
  | discard hs hqueue hevent hbody => exact h.of_served rfl
  | closeDevice =>
    unfold SandboxMonitor.closeDevice
    split
    · exact h
    · exact h.of_served rfl
  | forward hs hidle hqueue hret =>
    exact h.of_served (sameRecords_handed (m.withSocket _) _).2.1
  | forwardFails hs hidle hqueue hret =>
    exact h.of_served (sameRecords_dropSocketChannel (m.withSocket _)).2.1
  | drop hs => exact h.of_served m.sameRecords_dropSocketChannel.2.1
  | degrade => exact h.of_served m.sameRecords_closeSocket.2.1
  | @read s hs answers =>
    have hparsed : Vetted cJSON_Parse (m.parsed (s.onReadable answers.arrived answers.reads).1
        (s.onReadable answers.arrived answers.reads).2.1) := h.of_served rfl
    exact queueResponses_keeps (P := Vetted cJSON_Parse)
      (fun m message answers hm => Vetted.queueResponse m message answers hm)
      (s.onReadable answers.arrived answers.reads).2.1 hparsed answers.requests
  | queueEvent eventId json hway => exact h.of_served (hpush (m.deliver eventId json) eventId json rfl)
  | sendEventFails eventId json hs hidle hqueue hret =>
    exact h.of_served ((sameRecords_dropSocketChannel _).2.1.trans
      (hpush ((m.deliver eventId json).withSocket _) eventId json rfl))
  | sendEvent eventId json hs hidle hqueue hret =>
    exact h.of_served (createEvent_records _ eventId json).2.1
  | dropEvent eventId hbody => exact h.of_served rfl

end

/-- **Whatever is written into the socket**, in every run of the monitor: a request that was read
whole and whose policy was delivered, all or in part, carried one group of the session, with legal
paths and bare commands and without a network module. -/
theorem run_vetted (cJSON_Parse : Bytes → Option Json) (cJSON_PrintUnformatted : Json → Bytes)
    (parseEvent : Bytes → Option (DeviceEventHeader × Bytes)) (config : MonitorConfig)
    (waits : List WaitResult) (rs : List (Round PolicyRuleGroup)) :
    Vetted cJSON_Parse
      (run (policyExternals cJSON_Parse cJSON_PrintUnformatted parseEvent) config waits rs).1 :=
  run_induction config waits rs (fun _ h => absurd h List.not_mem_nil)
    fun _ _ _ h hmove => h.move hmove

end SandboxMonitor

end SandboxManager.Claw
