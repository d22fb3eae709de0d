import SandboxManager.Policy.PreserveRuns

/-! Several records of one application (`HandleDuplicateBundleRecords`).

The latest record is taken and the others are to go. They are deleted by their token, which is
less than their key: a record of the token of the latest takes the latest with it. -/
namespace SandboxManager.Policy
open Library

/-- The first record of the latest time, with its index. -/
def FirstLatest (records : List BundleRecord) (latest : Nat × BundleRecord) : Prop :=
  ∃ before after, records = before ++ latest.2 :: after ∧ before.length = latest.1 ∧
    (∀ r ∈ before, r.timestamp < latest.2.timestamp) ∧
    ∀ r ∈ after, r.timestamp ≤ latest.2.timestamp

theorem FirstLatest.not_before {records : List BundleRecord} {latest latest' : Nat × BundleRecord}
    (h : FirstLatest records latest) (h' : FirstLatest records latest') :
    ¬ latest.1 < latest'.1 := by
  intro hlt
  obtain ⟨before, after, hsplit, hindex, -, hafter⟩ := h
  obtain ⟨before', after', hsplit', hindex', hbefore', -⟩ := h'
  have hbefore : latest.2 ∈ before' := by
    have hget : records[latest.1]? = some latest.2 := by
      rw [hsplit, ← hindex, List.getElem?_append_right le_rfl, Nat.sub_self, List.getElem?_cons_zero]
    rw [hsplit', List.getElem?_append_left (hindex' ▸ hlt)] at hget
    exact List.mem_of_getElem? hget
  have hlater : latest'.2 ∈ after := by
    have hget : records[latest'.1]? = some latest'.2 := by
      rw [hsplit', ← hindex', List.getElem?_append_right le_rfl, Nat.sub_self,
        List.getElem?_cons_zero]
    obtain ⟨j, hj⟩ := Nat.exists_eq_add_of_lt hlt
    rw [hsplit, List.getElem?_append_right (hindex ▸ hlt.le),
      show latest'.1 - before.length = j + 1 by omega, List.getElem?_cons_succ] at hget
    exact List.mem_of_getElem? hget
  exact Int64.not_lt.mpr (hafter _ hlater) (hbefore' _ hbefore)

/-- There is one such record. -/
theorem FirstLatest.unique {records : List BundleRecord} {latest latest' : Nat × BundleRecord}
    (h : FirstLatest records latest) (h' : FirstLatest records latest') :
    latest.2 = latest'.2 := by
  have hindices : latest.1 = latest'.1 :=
    Nat.le_antisymm (not_lt.mp (h'.not_before h)) (not_lt.mp (h.not_before h'))
  obtain ⟨before, after, hsplit, hindex, -, -⟩ := h
  obtain ⟨before', after', hsplit', hindex', -, -⟩ := h'
  rw [hsplit] at hsplit'
  obtain ⟨-, hrest⟩ := List.append_inj hsplit' (by rw [hindex, hindex', hindices])
  exact (List.cons_eq_cons.mp hrest).1

/-- One more record is looked at. -/
theorem FirstLatest.step {records : List BundleRecord} {latest : Nat × BundleRecord}
    (h : FirstLatest records latest) (record : BundleRecord) :
    FirstLatest (records ++ [record])
      (if record.timestamp > latest.2.timestamp then (records.length, record) else latest) := by
  obtain ⟨before, after, rfl, hindex, hbefore, hafter⟩ := h
  split
  case isTrue hlater =>
    refine ⟨_, [], rfl, rfl, fun r hr => ?_, fun r hr => absurd hr List.not_mem_nil⟩
    rw [List.mem_append, List.mem_cons] at hr
    rcases hr with hr | rfl | hr
    · exact Int64.lt_of_lt_of_le (hbefore r hr) (Int64.le_of_lt hlater)
    · exact hlater
    · exact Int64.lt_of_le_of_lt (hafter r hr) hlater
  case isFalse hlater =>
    refine ⟨before, after ++ [record], ?_, hindex, hbefore, fun r hr => ?_⟩
    · rw [List.append_assoc, List.cons_append]
    · rcases List.mem_append.mp hr with hr | hr
      · exact hafter r hr
      · obtain rfl := List.mem_singleton.mp hr
        exact Int64.not_lt.mp hlater

theorem FirstLatest.latestRecord {records : List BundleRecord} {latest : Nat × BundleRecord}
    (h : FirstLatest records latest) (rest : List BundleRecord) :
    FirstLatest (records ++ rest) (latestRecord records.length latest rest) := by
  induction rest generalizing records latest with
  | nil =>
    rw [List.append_nil]
    exact h
  | cons record rest ih =>
    have hnext := ih (h.step record)
    rw [List.append_assoc, List.singleton_append, List.length_append, List.length_singleton] at hnext
    exact hnext

section
variable {env : PreserveEnv} {appIdentifier : Bytes} {userId : Int32} {s : PreserveState}
  {first : BundleRecord} {records : List BundleRecord}

theorem firstLatest_latestRecord (first : BundleRecord) (records : List BundleRecord) :
    FirstLatest (first :: records) (latestRecord 1 (0, first) records) := by
  have hfirst : FirstLatest [first] (0, first) :=
    ⟨[], [], rfl, rfl, fun _ hr => absurd hr List.not_mem_nil,
      fun _ hr => absurd hr List.not_mem_nil⟩
  exact hfirst.latestRecord records

/-- Deleting by token, one record after another. -/
theorem mem_foldl_delete (hok : ∀ i, env.removeDuplicateOk i = true)
    (old : List (BundleRecord × Nat)) {r : BundleRecord} :
    r ∈ (old.foldl (fun s record =>
        if env.removeDuplicateOk record.2 then
          { s with bundles := s.bundles.delete fun r =>
              r.isOf appIdentifier userId && r.originalTokenId = record.1.originalTokenId }
        else s) s).bundles ↔
      r ∈ s.bundles ∧ ∀ x ∈ old, r.isOf appIdentifier userId = true →
        r.originalTokenId ≠ x.1.originalTokenId := by
  induction old generalizing s with
  | nil => exact ⟨fun h => ⟨h, fun _ hx => absurd hx List.not_mem_nil⟩, And.left⟩
  | cons x old ih =>
    rw [List.foldl_cons, ih, if_pos (hok _), KeyedTable.mem_delete, and_assoc, List.forall_mem_cons]
    refine and_congr_right fun _ => and_congr_left fun _ => ?_
    rw [Bool.and_eq_false_iff, decide_eq_false_iff_not, ← Bool.not_eq_true, ← imp_iff_not_or]

/-- The elements of a list beside one of them. -/
theorem mem_zipIdx_filter {α : Type} {before after : List α} {a x : α} :
    (∃ i, (x, i) ∈ (before ++ a :: after).zipIdx.filter fun r => r.2 ≠ before.length) ↔
      x ∈ before ∨ x ∈ after := by
  constructor
  · rintro ⟨i, hmem⟩
    rw [List.mem_filter, List.mem_zipIdx_iff_getElem?, decide_eq_true_eq] at hmem
    obtain ⟨hget, hne⟩ := hmem
    rcases Nat.lt_or_gt_of_ne hne with hlt | hgt
    · rw [List.getElem?_append_left hlt] at hget
      exact Or.inl (List.mem_of_getElem? hget)
    · obtain ⟨j, hj⟩ := Nat.exists_eq_add_of_lt hgt
      rw [List.getElem?_append_right hgt.le, show i - before.length = j + 1 by omega,
        List.getElem?_cons_succ] at hget
      exact Or.inr (List.mem_of_getElem? hget)
  · rintro (hx | hx)
    · obtain ⟨i, hget⟩ := List.mem_iff_getElem?.mp hx
      have hlt := (List.getElem?_eq_some_iff.mp hget).1
      refine ⟨i, List.mem_filter.mpr ⟨?_, decide_eq_true hlt.ne⟩⟩
      rw [List.mem_zipIdx_iff_getElem?, List.getElem?_append_left hlt]
      exact hget
    · obtain ⟨j, hget⟩ := List.mem_iff_getElem?.mp hx
      refine ⟨before.length + (j + 1), List.mem_filter.mpr ⟨?_, decide_eq_true (by omega)⟩⟩
      rw [List.mem_zipIdx_iff_getElem?, List.getElem?_append_right (Nat.le_add_right _ _),
        Nat.add_sub_cancel_left, List.getElem?_cons_succ]
      exact hget

/-- What is left of the records of the application: the latest, unless another has its token. -/
theorem handleDuplicateBundleRecords_left (hok : ∀ i, env.removeDuplicateOk i = true)
    (hrows : s.bundles.rows.filter (·.isOf appIdentifier userId) = first :: records)
    {before after : List BundleRecord}
    (hsplit : first :: records =
      before ++ (latestRecord 1 (0, first) records).2 :: after)
    (hindex : before.length = (latestRecord 1 (0, first) records).1) (r : BundleRecord) :
    (r ∈ (handleDuplicateBundleRecords env appIdentifier userId first records s).2.bundles ∧
        r.isOf appIdentifier userId = true) ↔
      r ∈ first :: records ∧ ∀ x, x ∈ before ∨ x ∈ after →
        r.originalTokenId ≠ x.originalTokenId := by
  have hmem : (r ∈ s.bundles ∧ r.isOf appIdentifier userId = true) ↔ r ∈ first :: records := by
    rw [← hrows, List.mem_filter]
    rfl
  have hold : (∀ x ∈ ((first :: records).zipIdx.filter fun r =>
        r.2 ≠ (latestRecord 1 (0, first) records).1),
        r.originalTokenId ≠ x.1.originalTokenId) ↔
      ∀ x, x ∈ before ∨ x ∈ after → r.originalTokenId ≠ x.originalTokenId := by
    rw [hsplit, ← hindex]
    constructor
    · intro h x hx
      obtain ⟨i, hi⟩ := mem_zipIdx_filter.mpr hx
      exact h (x, i) hi
    · intro h x hx
      exact h x.1 (mem_zipIdx_filter.mp ⟨x.2, hx⟩)
  rw [handleDuplicateBundleRecords, mem_foldl_delete hok, ← hmem, ← hold, and_right_comm]
  refine and_congr_right fun hr => ?_
  exact ⟨fun h x hx => h x hx hr.2, fun h x hx _ => h x hx⟩

end

/-- **The latest of several records is taken, and it is left alone exactly when no other record is
of its token.** -/
theorem handleDuplicateBundleRecords_sole_iff {env : PreserveEnv} {appIdentifier : Bytes}
    {userId : Int32} {s : PreserveState} {first : BundleRecord} {records : List BundleRecord}
    (hrows : s.bundles.rows.filter (·.isOf appIdentifier userId) = first :: records)
    (hok : ∀ i, env.removeDuplicateOk i = true) :
    (∃ i, FirstLatest (first :: records) (i,
      (handleDuplicateBundleRecords env appIdentifier userId first records s).1)) ∧
    (Sole appIdentifier userId
        (handleDuplicateBundleRecords env appIdentifier userId first records s).1
        (handleDuplicateBundleRecords env appIdentifier userId first records s).2 ↔
      ∀ latest, (∃ i, FirstLatest (first :: records) (i, latest)) →
        ∀ r ∈ first :: records, r ≠ latest → r.originalTokenId ≠ latest.originalTokenId) := by
  have hlatest := firstLatest_latestRecord first records
  obtain ⟨before, after, hsplit, hindex, -, -⟩ := hlatest
  have hnodup : (first :: records).Nodup := by
    rw [← hrows]
    have hunique := s.bundles.unique
    rw [List.map_id] at hunique
    exact hunique.filter _
  have hothers : ∀ r ∈ first :: records,
      r ≠ (latestRecord 1 (0, first) records).2 ↔ r ∈ before ∨ r ∈ after := by
    intro r hr
    rw [hsplit, List.nodup_append, List.nodup_cons] at hnodup
    rw [hsplit, List.mem_append, List.mem_cons] at hr
    constructor
    · intro hne
      exact hr.imp_right fun hr => hr.resolve_left hne
    · rintro (hr | hr) rfl
      · exact hnodup.2.2 _ hr _ (List.mem_cons_self ..) rfl
      · exact hnodup.2.1.1 hr
  have hleft := handleDuplicateBundleRecords_left hok hrows hsplit hindex
  have hmem : (latestRecord 1 (0, first) records).2 ∈ first :: records := by
    rw [hsplit]
    exact List.mem_append_right _ (List.mem_cons_self ..)
  refine ⟨⟨_, firstLatest_latestRecord first records⟩, fun hsole latest hfirst r hr hne htoken => ?_,
    fun htokens r => ?_⟩
  · obtain ⟨i, hi⟩ := hfirst
    obtain rfl : (latestRecord 1 (0, first) records).2 = latest :=
      (firstLatest_latestRecord first records).unique hi
    have hkept := (hleft _).mp ((hsole _).mpr rfl)
    exact hkept.2 r ((hothers r hr).mp hne) htoken.symm
  · rw [hleft]
    constructor
    · rintro ⟨hr, hkept⟩
      by_contra hne
      exact hkept r ((hothers r hr).mp hne) rfl
    · rintro rfl
      refine ⟨hmem, fun x hx htoken => ?_⟩
      have hx' : x ∈ first :: records := by
        rw [hsplit, List.mem_append, List.mem_cons]
        exact hx.imp_right Or.inr
      exact htokens _ ⟨_, firstLatest_latestRecord first records⟩ x hx' ((hothers x hx').mpr hx)
        htoken.symm

def earlier (tokenId : UInt32) : BundleRecord := ⟨bytes "mail", 100, bytes "mail.id", tokenId, 5⟩
def later (tokenId : UInt32) : BundleRecord := ⟨bytes "mail", 100, bytes "mail.id", tokenId, 6⟩

/-- Kept under a token, and again later under another. -/
def keptAs (tokenId tokenId' : UInt32) : PreserveState where
  policies := .empty
  bundles := ⟨[earlier tokenId, later tokenId'], by
    have htime : (5 : Int64) ≠ 6 := by decide
    rw [List.map_id, List.nodup_cons, List.mem_singleton]
    exact ⟨fun h => htime (congrArg BundleRecord.timestamp h), List.nodup_singleton _⟩⟩

/-- Under different tokens the later record is left. -/
theorem handleDuplicateBundleRecords_sole_pair :
    Sole (bytes "mail.id") 100
      (handleDuplicateBundleRecords (willingDatabase 7) (bytes "mail.id") 100 (earlier 1) [later 2]
        (keptAs 1 2)).1
      (handleDuplicateBundleRecords (willingDatabase 7) (bytes "mail.id") 100 (earlier 1) [later 2]
        (keptAs 1 2)).2 := by
  have hrows : (keptAs 1 2).bundles.rows.filter (·.isOf (bytes "mail.id") 100) =
      [earlier 1, later 2] := by decide +kernel
  refine (handleDuplicateBundleRecords_sole_iff hrows fun _ => rfl).2.mpr fun latest hlatest => ?_
  obtain ⟨i, before, after, hsplit, -⟩ := hlatest
  have hmem : latest ∈ [earlier 1, later 2] := by
    rw [hsplit]
    exact List.mem_append_right _ (List.mem_cons_self ..)
  have htokens : ∀ latest ∈ [earlier 1, later 2], ∀ r ∈ [earlier 1, later 2], r ≠ latest →
      r.originalTokenId ≠ latest.originalTokenId := by decide +kernel
  exact htokens latest hmem

/-- Under the same token both records go. -/
theorem handleDuplicateBundleRecords_not_sole :
    ¬ Sole (bytes "mail.id") 100
      (handleDuplicateBundleRecords (willingDatabase 7) (bytes "mail.id") 100 (earlier 1) [later 1]
        (keptAs 1 1)).1
      (handleDuplicateBundleRecords (willingDatabase 7) (bytes "mail.id") 100 (earlier 1) [later 1]
        (keptAs 1 1)).2 := by
  intro h
  have hrows : (handleDuplicateBundleRecords (willingDatabase 7) (bytes "mail.id") 100 (earlier 1)
      [later 1] (keptAs 1 1)).2.bundles.rows = [] := by decide +kernel
  have hmem := ((h _).mpr rfl).1
  rw [KeyedTable.mem_iff, hrows] at hmem
  exact List.not_mem_nil hmem

end SandboxManager.Policy
