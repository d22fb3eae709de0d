import SandboxManager.Policy.VolumeRuns

/-! Restoring a volume when the kernel refuses.

`SetPolicy` tells of a refusal by its return value or, for the single policy it is given, in a
result vector. `ActivateMacPolicy` drops the vector, and `ActivateRecords` clears a record's time
of unmounting whatever the kernel said. So a refused record can be tried again only if the
database refuses as well (`activePolicyByPath_retryable_iff`). -/
namespace SandboxManager.Policy
open Library

/-- What answers from outside, with the results of `SetPolicy` that are dropped. -/
structure RestoreEnv extends VolumeEnv where
  setPolicyResult : UInt32 → PolicyInfo → Int → List SandboxRetType

section
variable (env : RestoreEnv) (agingTtlMs now : Int) (t : Table) (path : Bytes)

/-- The kernel took the row's rule. -/
def RestoreEnv.Activates (r : Row) : Prop :=
  let userId := (env.userIdOf r.tokenId).getD (-1)
  env.setPolicy r.policy.1 r.policy.2 userId = .SANDBOX_MANAGER_OK ∧
    ∀ result ∈ env.setPolicyResult r.policy.1 r.policy.2 userId, result = .OPERATE_SUCCESSFULLY

instance (r : Row) : Decidable (env.Activates r) := inferInstanceAs (Decidable (_ ∧ _))

/-- A row that mounting the path has to restore. -/
structure ToRestore (r : Row) : Prop where
  stored : r ∈ t
  onVolume : ∃ volume, validatePath path = some volume ∧ AtOrBelow volume r.path
  restorable : r.Restorable agingTtlMs now

/-- The database lets the call get as far as the records. -/
structure RestoreEnv.Scans : Prop where
  findExpired : env.findExpiredOk = true
  remove : env.removeOk = true ∨ ∀ r ∈ t, ¬ r.Expired agingTtlMs now
  find : env.findOk = true

/-- Whom the kernel refused keeps the time of unmounting, so that a later call tries it again, and
a call that says OK restored all. -/
structure Retryable (o : VolumeOutcome) : Prop where
  pending : ∀ r, ToRestore agingTtlMs now t path r → ¬ env.Activates r →
    ∃ r' ∈ o.table, r'.key = r.key ∧ 0 < r'.volumeUnmountTs
  /-- The later call is within the time to live, and the database lets it get to the records. -/
  again : ∀ r, ToRestore agingTtlMs now t path r → ¬ env.Activates r →
    ∀ (later : RestoreEnv) (now' : Int), now' - r.volumeUnmountTs ≤ agingTtlMs →
      later.Scans agingTtlMs now' o.table →
      r.policy ∈ (activePolicyByPath later.toVolumeEnv agingTtlMs now' o.table path).activated.map
        fun call => (call.1, call.2.1)
  ret : o.ret = .SANDBOX_MANAGER_OK → ∀ r, ToRestore agingTtlMs now t path r → env.Activates r

end

/-! ### The loop over the records -/

theorem ret_foldl_activateRecord {env : VolumeEnv} {o : VolumeOutcome} {records : List Record}
    (h : (records.foldl (activateRecord env) o).ret = .SANDBOX_MANAGER_OK) :
    ∀ record ∈ records, env.modifyOk record = true := by
  induction records using List.reverseRecOn with
  | nil => exact fun record hrecord => absurd hrecord List.not_mem_nil
  | append_singleton records last ih =>
    rw [List.foldl_concat] at h
    have hlast : env.modifyOk last = true := by
      by_contra hno
      simp only [activateRecord, Bool.not_eq_true _ ▸ hno, Bool.not_false, if_true] at h
      cases h
    have hbefore : (records.foldl (activateRecord env) o).ret = .SANDBOX_MANAGER_OK := by
      simp only [activateRecord, hlast, Bool.not_true, Bool.false_eq_true, if_false] at h
      split at h
      · cases h
      · exact h
    intro record hrecord
    rcases List.mem_append.mp hrecord with hrecord | hrecord
    · exact ih hbefore record hrecord
    · exact List.mem_singleton.mp hrecord ▸ hlast

section
variable (env : RestoreEnv) (agingTtlMs now : Int) (t : PersistedTable)

theorem exists_deleteExpiredRecords (h : env.Scans agingTtlMs now t.table) :
    ∃ t', deleteExpiredRecords env.toVolumeEnv t.table now agingTtlMs = some t' := by
  rw [deleteExpiredRecords, h.findExpired, findExpiredVolumeRecords_eq]
  simp only [Bool.not_true, Bool.false_eq_true, if_false]
  split
  case isTrue => exact ⟨_, rfl⟩
  case isFalse hsome =>
    rcases h.remove with hremove | hnone
    · exact ⟨_, if_pos hremove⟩
    · refine absurd ?_ hsome
      rw [List.map_eq_nil_iff, List.filter_eq_nil_iff]
      exact fun r hr hexpired => hnone r hr (of_decide_eq_true hexpired)

theorem scans_of_deleteExpiredRecords {t' : Table}
    (h : deleteExpiredRecords env.toVolumeEnv t.table now agingTtlMs = some t')
    (hfind : env.findOk = true) : env.Scans agingTtlMs now t.table := by
  rw [deleteExpiredRecords, findExpiredVolumeRecords_eq] at h
  split at h
  · cases h
  · rename_i hexpired
    refine ⟨by simpa using hexpired, ?_, hfind⟩
    simp only at h
    split at h
    case isTrue hnone =>
      rw [List.map_eq_nil_iff, List.filter_eq_nil_iff] at hnone
      exact Or.inr fun r hr hold => hnone r hr (decide_eq_true hold)
    case isFalse =>
      split at h
      · exact Or.inl ‹_›
      · cases h

/-- What a call on a volume comes to: the loop over what is to be restored, or an error after
which nothing but expired rows can be missing. -/
theorem activePolicyByPath_cases {path volume : Bytes} (hpath : validatePath path = some volume) :
    (env.Scans agingTtlMs now t.table ∧ ∃ t' : Table,
      (t'.rows = t.table.rows.filter fun r => !decide (r.Expired agingTtlMs now)) ∧
      activePolicyByPath env.toVolumeEnv agingTtlMs now t.table path =
        activateRecords env.toVolumeEnv t'
          ((t'.rows.filter fun r => AtOrBelow volume r.path ∧ r.Restorable agingTtlMs now).map
            resultToGenericValues)) ∨
    (¬ env.Scans agingTtlMs now t.table ∧
      (activePolicyByPath env.toVolumeEnv agingTtlMs now t.table path).ret ≠ .SANDBOX_MANAGER_OK ∧
      ∀ r ∈ t.table, ¬ r.Expired agingTtlMs now →
        r ∈ (activePolicyByPath env.toVolumeEnv agingTtlMs now t.table path).table) := by
  unfold activePolicyByPath
  simp only [hpath]
  cases hdelete : deleteExpiredRecords env.toVolumeEnv t.table now agingTtlMs with
  | none =>
    refine Or.inr ⟨fun hscans => ?_, by simp, fun r hr _ => hr⟩
    obtain ⟨t', ht'⟩ := exists_deleteExpiredRecords env agingTtlMs now t hscans
    rw [hdelete] at ht'
    cases ht'
  | some t' =>
    have hrows := rows_deleteExpiredRecords t hdelete
    cases hfind : env.findOk with
    | false =>
      refine Or.inr ⟨fun hscans => ?_, by simp, fun r hr hexpired => ?_⟩
      · rw [hscans.find] at hfind
        cases hfind
      · show r ∈ t'
        rw [KeyedTable.mem_iff, hrows, List.mem_filter]
        exact ⟨hr, by simpa using hexpired⟩
    | true =>
      refine Or.inl ⟨scans_of_deleteExpiredRecords env agingTtlMs now t hdelete hfind, t', hrows, ?_⟩
      rw [← filterRestorableRecords_eq]
      rfl

end

/-- A record's stamp is cleared exactly if the database lets it be. -/
theorem mem_activateRecords {env : VolumeEnv} {t : Table} (ht : ∀ r ∈ t, r.Written)
    (p : Row → Bool) {r : Row} (hr : r ∈ t) (hp : p r = true) :
    (if env.modifyOk (resultToGenericValues r) then setUnmountTs 0 r else r) ∈
      (activateRecords env t ((t.rows.filter p).map resultToGenericValues)).table := by
  have hany : (((t.rows.filter p).map resultToGenericValues).filter env.modifyOk).any
      (buildRecordConditions · r) = env.modifyOk (resultToGenericValues r) := by
    rw [List.filter_map, List.filter_filter, any_conditions_iff ht _ hr, hp, Bool.and_true]
    rfl
  rw [KeyedTable.mem_iff, activateRecords, (foldl_activateRecord env _ _).1, rows_stampAll, ← hany]
  exact List.mem_map_of_mem hr

/-- What a call has to restore it tries to restore, once it gets to the records. -/
theorem activated_of_toRestore {env : RestoreEnv} {agingTtlMs now : Int} {t : PersistedTable}
    {path : Bytes} {r : Row} (hscans : env.Scans agingTtlMs now t.table)
    (hr : ToRestore agingTtlMs now t.table path r) :
    r.policy ∈ (activePolicyByPath env.toVolumeEnv agingTtlMs now t.table path).activated.map
      fun call => (call.1, call.2.1) := by
  obtain ⟨volume, hpath, hbelow⟩ := hr.onVolume
  rcases activePolicyByPath_cases env agingTtlMs now t hpath with
    ⟨-, t', hrows, houtcome⟩ | ⟨hfails, -⟩
  · have hstored : r ∈ t'.rows := by
      rw [hrows, List.mem_filter]
      refine ⟨hr.stored, ?_⟩
      rw [Bool.not_eq_true', decide_eq_false_iff_not]
      exact hr.restorable.not_expired
    rw [houtcome, activateRecords, (foldl_activateRecord _ _ _).2, List.nil_append, List.map_map,
      List.map_map]
    refine List.mem_map.mpr ⟨r, List.mem_filter.mpr ⟨hstored, decide_eq_true ⟨hbelow, hr.restorable⟩⟩,
      ?_⟩
    exact genericToPolicy_record (t.written r hr.stored)
  · exact absurd hscans hfails

/-- A row that is left as it was by one call is tried by the next one in time. -/
theorem activated_again {env later : RestoreEnv} {agingTtlMs now now' : Int} {t : PersistedTable}
    {path : Bytes} {r : Row} (hr : ToRestore agingTtlMs now t.table path r)
    (hleft : r ∈ (activePolicyByPath env.toVolumeEnv agingTtlMs now t.table path).table)
    (htime : now' - r.volumeUnmountTs ≤ agingTtlMs)
    (hscans : later.Scans agingTtlMs now'
      (activePolicyByPath env.toVolumeEnv agingTtlMs now t.table path).table) :
    r.policy ∈ (activePolicyByPath later.toVolumeEnv agingTtlMs now'
        (activePolicyByPath env.toVolumeEnv agingTtlMs now t.table path).table path).activated.map
      fun call => (call.1, call.2.1) := by
  let left : PersistedTable :=
    ⟨(activePolicyByPath env.toVolumeEnv agingTtlMs now t.table path).table,
      written_activePolicyByPath env.toVolumeEnv agingTtlMs now t.written path⟩
  have hpending : ToRestore agingTtlMs now' left.table path r :=
    ⟨hleft, hr.onVolume, hr.restorable.1, htime⟩
  exact activated_of_toRestore (t := left) hscans hpending

/-- **A refused record can be tried again exactly if its stamp could not be cleared**, so never
while the database works. -/
theorem activePolicyByPath_retryable_iff (env : RestoreEnv) (agingTtlMs now : Int)
    (t : PersistedTable) (path : Bytes) :
    Retryable env agingTtlMs now t.table path
        (activePolicyByPath env.toVolumeEnv agingTtlMs now t.table path) ↔
      (env.Scans agingTtlMs now t.table → ∀ r, ToRestore agingTtlMs now t.table path r →
        env.Activates r ∨ env.modifyOk (resultToGenericValues r) = false) := by
  cases hpath : validatePath path with
  | none =>
    have hnothing : ∀ r, ¬ ToRestore agingTtlMs now t.table path r := by
      intro r h
      obtain ⟨_, ⟨volume, hvolume, _⟩, _⟩ := h
      rw [hpath] at hvolume
      cases hvolume
    exact ⟨fun _ _ r hr => absurd hr (hnothing r),
      fun _ => ⟨fun r hr => absurd hr (hnothing r), fun r hr => absurd hr (hnothing r),
        fun _ r hr => absurd hr (hnothing r)⟩⟩
  | some volume =>
    rcases activePolicyByPath_cases env agingTtlMs now t hpath with
      ⟨hscans, t', hrows, houtcome⟩ | ⟨hfails, hret, hkept⟩
    · have hwritten : ∀ r ∈ t', r.Written := t.written_filter hrows
      let selects : Row → Bool := fun r => AtOrBelow volume r.path ∧ r.Restorable agingTtlMs now
      have hselected : ∀ r, ToRestore agingTtlMs now t.table path r → r ∈ t' ∧ selects r = true := by
        intro r hr
        obtain ⟨volume', hvolume', hbelow⟩ := hr.onVolume
        rw [hpath, Option.some.injEq] at hvolume'
        subst hvolume'
        refine ⟨?_, decide_eq_true ⟨hbelow, hr.restorable⟩⟩
        rw [KeyedTable.mem_iff, hrows, List.mem_filter]
        exact ⟨hr.stored, by simpa using hr.restorable.not_expired⟩
      -- what becomes of a row that is to be restored
      have hnow : ∀ r, ToRestore agingTtlMs now t.table path r →
          (if env.modifyOk (resultToGenericValues r) then setUnmountTs 0 r else r) ∈
            (activateRecords env.toVolumeEnv t'
              ((t'.rows.filter selects).map resultToGenericValues)).table := fun r hr =>
        mem_activateRecords hwritten selects (hselected r hr).1 (hselected r hr).2
      rw [← houtcome] at hnow
      apply Iff.intro
      · intro hretry _ r hr
        by_contra hbad
        obtain ⟨hrefused, hcleared⟩ := not_or.mp hbad
        have hzero := hnow r hr
        rw [if_pos (Bool.not_eq_false _ ▸ hcleared)] at hzero
        obtain ⟨r', hr', hkey, hpending⟩ := hretry.pending r hr hrefused
        rw [KeyedTable.eq_of_key_eq hr' hzero hkey] at hpending
        exact absurd hpending (Int.lt_irrefl 0)
      · intro hcondition
        have hkept : ∀ r, ToRestore agingTtlMs now t.table path r → ¬ env.Activates r →
            r ∈ (activePolicyByPath env.toVolumeEnv agingTtlMs now t.table path).table := by
          intro r hr hrefused
          have hleft := hnow r hr
          rw [(hcondition hscans r hr).resolve_left hrefused] at hleft
          exact hleft
        apply Retryable.mk
        · exact fun r hr hrefused => ⟨r, hkept r hr hrefused, rfl, hr.restorable.1⟩
        · exact fun r hr hrefused later now' => activated_again hr (hkept r hr hrefused)
        · intro hok r hr
          rw [houtcome] at hok
          obtain ⟨hstored, hpicked⟩ := hselected r hr
          have hcleared := ret_foldl_activateRecord hok (resultToGenericValues r)
            (List.mem_map_of_mem (List.mem_filter.mpr ⟨hstored, hpicked⟩))
          exact (hcondition hscans r hr).resolve_right fun hno => by
            rw [hcleared] at hno
            cases hno
    · refine ⟨fun _ hscans => absurd hscans hfails, fun _ => ?_⟩
      have hleft := fun r (hr : ToRestore agingTtlMs now t.table path r) =>
        hkept r hr.stored hr.restorable.not_expired
      exact ⟨fun r hr _ => ⟨r, hleft r hr, rfl, hr.restorable.1⟩,
        fun r hr _ later now' => activated_again hr (hleft r hr), fun hok => absurd hok hret⟩

/-- The kernel's refusal is in the result only. -/
def refusing : RestoreEnv where
  toVolumeEnv := willing
  setPolicyResult _ _ _ := [.POLICY_MAC_FAIL]

def unmountedCard : PersistedTable where
  table := ⟨[setUnmountTs 2 cardRow], List.nodup_singleton _⟩
  written := by
    intro r hr
    rw [List.mem_singleton.mp hr]
    exact ⟨by decide, by decide, by decide, by decide⟩

/-- The row is not restored, its stamp is gone, and the call says OK. -/
theorem refused_not_retryable :
    ¬ ∀ (env : RestoreEnv) (agingTtlMs now : Int) (t : PersistedTable) (path : Bytes),
      Retryable env agingTtlMs now t.table path
        (activePolicyByPath env.toVolumeEnv agingTtlMs now t.table path) := by
  intro h
  have hretry := h refusing 5 4 unmountedCard (bytes "/storage/External/Card_1")
  have hr : ToRestore 5 4 unmountedCard.table (bytes "/storage/External/Card_1")
      (setUnmountTs 2 cardRow) :=
    ⟨List.mem_singleton.mpr rfl, ⟨bytes "/storage/External/Card_1", by decide +kernel,
      by decide +kernel⟩, by decide⟩
  have hactivates := hretry.ret (by decide +kernel) _ hr
  revert hactivates
  decide +kernel

end SandboxManager.Policy
