import SandboxManager.Policy.Volume

/-! What unmounting and mounting do to the table.

Three predicates written apart meet here: which rows lie on a volume (an escaped LIKE query,
`isSubPathIgnoreCase_iff`), which have expired and which can be restored. On a table that the
service wrote a record finds its own row and no other, so each operation changes exactly the rows
it selects, over any run (`run_exact`). -/
namespace SandboxManager.Policy
open Library Trie

/-! ### Tables that were written -/

/-- What the service writes into a row's columns. -/
structure Row.Written (r : Row) : Prop where
  mode : r.mode < MAX_MODE
  flag : r.flag.toNat < 2 ^ 31
  depth : -2 ^ 31 ≤ r.depth ∧ r.depth < 2 ^ 31
  stamp : 0 ≤ r.volumeUnmountTs

structure PersistedTable where
  table : Table
  written : ∀ r ∈ table, r.Written

theorem getInt_of_bounds {n : Int} (h : -2 ^ 31 ≤ n ∧ n < 2 ^ 31) : getInt n = n := by
  unfold getInt
  rw [Int.bmod_eq_of_le] <;> omega

theorem Row.Written.modeColumn {r : Row} (h : r.Written) : r.modeColumn = r.mode.toNat := by
  have hmode : r.mode.toNat < 32 := UInt64.lt_iff_toNat_lt.mp h.mode
  show r.mode.toBitVec.toInt = _
  rw [BitVec.toInt_eq_toNat_of_lt]
  · rfl
  · show 2 * r.mode.toNat < 2 ^ 64
    omega

/-- A written mode survives being read. -/
theorem Row.Written.getInt_mode {r : Row} (h : r.Written) : getInt r.modeColumn = r.mode.toNat := by
  have hmode : r.mode.toNat < 32 := UInt64.lt_iff_toNat_lt.mp h.mode
  rw [h.modeColumn, getInt_of_bounds]
  omega

theorem buildRecordConditions_iff {r r' : Row} (h : r.Written) (h' : r'.Written) :
    buildRecordConditions (resultToGenericValues r) r' = true ↔ r'.key = r.key := by
  simp only [buildRecordConditions, resultToGenericValues, Bool.and_eq_true, decide_eq_true_eq,
    Row.key, RowKey.mk.injEq, h.getInt_mode, h'.modeColumn, getInt_of_bounds h.depth, Nat.cast_inj,
    UInt64.toNat_inj]
  tauto

/-- A record finds its own row. -/
theorem recordPredicates_iff {r r' : Row} (h : r.Written) (h' : r'.Written) :
    recordPredicates (resultToGenericValues r) r' = true ↔ r' = r := by
  have hflag : getInt r.flag.toNat = r.flag.toNat := getInt_of_bounds (by have := h.flag; omega)
  rw [recordPredicates, Bool.and_eq_true, Bool.and_eq_true, buildRecordConditions_iff h h']
  simp only [resultToGenericValues, decide_eq_true_eq, hflag, Nat.cast_inj, UInt32.toNat_inj,
    Row.key, RowKey.mk.injEq]
  constructor
  · rintro ⟨⟨⟨htoken, hdepth, hpath, hmode⟩, hflag⟩, hts⟩
    cases r
    cases r'
    simp_all
  · rintro rfl
    exact ⟨⟨⟨rfl, rfl, rfl, rfl⟩, rfl⟩, rfl⟩

theorem genericToPolicy_record {r : Row} (h : r.Written) :
    genericToPolicy (resultToGenericValues r) = (r.tokenId, { path := r.path, mode := r.mode }) := by
  have hmode : UInt64.ofInt (getInt r.modeColumn) = r.mode := by
    have hlt := r.mode.toNat_lt
    rw [h.getInt_mode]
    apply UInt64.toNat_inj.mp
    show (UInt64.ofNat ((r.mode.toNat : Int) % 2 ^ 64).toNat).toNat = _
    rw [UInt64.toNat_ofNat']
    omega
  rw [genericToPolicy]
  exact congrArg (fun mode => (r.tokenId, ({ path := r.path, mode := mode } : PolicyInfo))) hmode

/-! ### Rows on a volume -/

/-- At the path or below it, up to ASCII case. -/
def AtOrBelow (volume path : Bytes) : Prop :=
  toLowerCase path = toLowerCase volume ∨ toLowerCase (volume ++ [slash]) <+: toLowerCase path

instance (volume path : Bytes) : Decidable (AtOrBelow volume path) :=
  inferInstanceAs (Decidable (_ ∨ _))

theorem isSubPathIgnoreCase_iff (filePath : Bytes) (row : Row) :
    isSubPathIgnoreCase filePath row = true ↔ AtOrBelow filePath row.path := by
  have hlike := sqliteLike.like_escape_any filePath (c := slash) (by decide) (by decide) row.path
  rw [isSubPathIgnoreCase, Bool.or_eq_true, beq_iff_eq, or_comm]
  exact or_congr_right hlike

/-- Byte by byte the same, up to ASCII case. -/
def SameUpToCase (a b : Bytes) : Prop := List.Forall₂ (fun c d => tolower c = tolower d) a b

theorem sameUpToCase_iff (a b : Bytes) : SameUpToCase a b ↔ toLowerCase a = toLowerCase b := by
  rw [toLowerCase, toLowerCase, ← List.forall₂_eq_eq_eq, List.forall₂_map_left_iff,
    List.forall₂_map_right_iff]
  rfl

/-- **The query is literal.** Whatever wildcards the path is made of, its condition takes the path
itself and what follows it after a slash, up to ASCII case, and nothing else. -/
theorem isSubPathIgnoreCase_literal (filePath : Bytes) (row : Row) :
    isSubPathIgnoreCase filePath row = true ↔
      SameUpToCase row.path filePath ∨
        ∃ start rest, row.path = start ++ slash :: rest ∧ SameUpToCase start filePath := by
  have hbelow : toLowerCase (filePath ++ [slash]) <+: toLowerCase row.path ↔
      ∃ start rest, row.path = start ++ slash :: rest ∧ SameUpToCase start filePath := by
    have hfolded : toLowerCase (filePath ++ [slash]) = toLowerCase filePath ++ [slash] :=
      List.map_append
    rw [hfolded]
    apply Iff.intro
    · intro h
      obtain ⟨tail, htail⟩ := h
      rw [List.append_assoc] at htail
      -- the stored path splits where its folded form does
      obtain ⟨start, below, hpath, hstart, hbelow⟩ := List.map_eq_append_iff.mp htail.symm
      obtain ⟨c, rest, rfl, hslash, -⟩ := List.map_eq_cons_iff.mp hbelow
      exact ⟨start, rest, (tolower_eq_slash c).mp hslash ▸ hpath, (sameUpToCase_iff _ _).mpr hstart⟩
    · intro h
      obtain ⟨start, rest, hpath, hstart⟩ := h
      rw [hpath, ← (sameUpToCase_iff _ _).mp hstart, toLowerCase, toLowerCase, List.map_append]
      exact (List.prefix_append_right_inj _).mpr ⟨rest.map tolower, rfl⟩
  rw [isSubPathIgnoreCase_iff, AtOrBelow, ← sameUpToCase_iff]
  exact or_congr_right hbelow

/-! ### Stamps -/

/-- Each record's row is given the time stamp. -/
def stampAll (ts : Int) (t : Table) (records : List Record) : Table :=
  records.foldl (fun t record => modifyUnmountTs t record ts) t

theorem rows_stampAll (ts : Int) (t : Table) (records : List Record) :
    (stampAll ts t records).rows = t.rows.map fun r =>
      if records.any (buildRecordConditions · r) then setUnmountTs ts r else r := by
  induction records generalizing t with
  | nil => exact (List.map_id' t.rows).symm
  | cons record records ih =>
    show (stampAll ts (modifyUnmountTs t record ts) records).rows = _
    rw [ih]
    show (t.rows.map _).map _ = _
    rw [List.map_map]
    apply List.map_congr_left
    intro r _
    rw [Function.comp_apply, List.any_cons]
    by_cases hrecord : buildRecordConditions record r = true
    · have hsame : ∀ other, buildRecordConditions other (setUnmountTs ts r) =
          buildRecordConditions other r := fun _ => rfl
      simp only [hrecord, if_true, hsame, Bool.true_or]
      split <;> rfl
    · simp only [Bool.not_eq_true _ ▸ hrecord, Bool.false_eq_true, if_false, Bool.false_or]

theorem rows_removeRecords (t : Table) (records : List Record) :
    (removeRecords t records).rows = t.rows.filter fun r => !records.any (recordPredicates · r) := by
  induction records generalizing t with
  | nil => exact (List.filter_eq_self.mpr fun _ _ => rfl).symm
  | cons record records ih =>
    show (removeRecords (t.delete (recordPredicates record)) records).rows = _
    rw [ih]
    show (t.rows.filter _).filter _ = _
    rw [List.filter_filter]
    apply List.filter_congr
    intro r _
    rw [List.any_cons, Bool.not_or, Bool.and_comm]

section
variable {step : VolumeOutcome → Record → VolumeOutcome}

/-- A loop that stamps the row of each record the database takes. -/
theorem table_foldl {env : VolumeEnv} {ts : Int} (h : ∀ o record, (step o record).table =
      if env.modifyOk record then modifyUnmountTs o.table record ts else o.table)
    (o : VolumeOutcome) (records : List Record) :
    (records.foldl step o).table = stampAll ts o.table (records.filter env.modifyOk) := by
  induction records generalizing o with
  | nil => rfl
  | cons record records ih =>
    rw [List.foldl_cons, ih, h]
    by_cases hok : env.modifyOk record = true
    · rw [List.filter_cons_of_pos hok, if_pos hok]
      rfl
    · rw [List.filter_cons_of_neg hok, if_neg hok]

/-- A loop that notes something of each record. -/
theorem noted_foldl {β : Type} {noted : VolumeOutcome → List β} {note : Record → β}
    (h : ∀ o record, noted (step o record) = noted o ++ [note record])
    (o : VolumeOutcome) (records : List Record) :
    noted (records.foldl step o) = noted o ++ records.map note := by
  induction records generalizing o with
  | nil => exact (List.append_nil _).symm
  | cons record records ih =>
    rw [List.foldl_cons, ih, h, List.append_assoc, List.singleton_append, List.map_cons]

end

/-- What the loops over the records do, when some of them are refused too. -/
theorem foldl_deactiveRecord (env : VolumeEnv) (now : Int) (o : VolumeOutcome)
    (records : List Record) :
    (records.foldl (deactiveRecord env now) o).table =
        stampAll now o.table (records.filter env.modifyOk) ∧
      (records.foldl (deactiveRecord env now) o).unset =
        o.unset ++ records.map genericToPolicy :=
  ⟨table_foldl (fun _ _ => rfl) o records, noted_foldl (fun _ _ => rfl) o records⟩

theorem foldl_activateRecord (env : VolumeEnv) (o : VolumeOutcome) (records : List Record) :
    (records.foldl (activateRecord env) o).table =
        stampAll 0 o.table (records.filter env.modifyOk) ∧
      (records.foldl (activateRecord env) o).activated = o.activated ++ records.map fun record =>
        ((genericToPolicy record).1, (genericToPolicy record).2,
          (env.userIdOf (genericToPolicy record).1).getD (-1)) :=
  ⟨table_foldl (fun _ _ => rfl) o records, noted_foldl (fun _ _ => rfl) o records⟩

/-! ### Selections -/

section
variable {t : Table} (ht : ∀ r ∈ t, r.Written)
include ht

omit ht in
theorem any_selected_iff {finds : Record → Row → Bool} (p : Row → Bool) {r : Row} (hr : r ∈ t)
    (hfinds : ∀ origin ∈ t, finds (resultToGenericValues origin) r = true ↔ r = origin) :
    ((t.rows.filter p).map resultToGenericValues).any (finds · r) = p r := by
  rw [Bool.eq_iff_iff, List.any_map, List.any_eq_true]
  constructor
  · rintro ⟨origin, horigin, hmatch⟩
    obtain ⟨hmem, hp⟩ := List.mem_filter.mp horigin
    rw [(hfinds origin hmem).mp hmatch]
    exact hp
  · intro hp
    exact ⟨r, List.mem_filter.mpr ⟨hr, hp⟩, (hfinds r hr).mpr rfl⟩

/-- Records read from selected rows find exactly the selected rows. -/
theorem any_conditions_iff (p : Row → Bool) {r : Row} (hr : r ∈ t) :
    ((t.rows.filter p).map resultToGenericValues).any (buildRecordConditions · r) = p r := by
  refine any_selected_iff p hr fun origin horigin => ?_
  rw [buildRecordConditions_iff (ht origin horigin) (ht r hr)]
  exact ⟨fun hkey => KeyedTable.eq_of_key_eq hr horigin hkey, congrArg Row.key⟩

theorem any_predicates_iff (p : Row → Bool) {r : Row} (hr : r ∈ t) :
    ((t.rows.filter p).map resultToGenericValues).any (recordPredicates · r) = p r := by
  exact any_selected_iff p hr fun origin horigin => recordPredicates_iff (ht origin horigin) (ht r hr)

theorem rows_stampAll_selected (ts : Int) (p : Row → Bool) :
    (stampAll ts t ((t.rows.filter p).map resultToGenericValues)).rows =
      t.rows.map fun r => if p r then setUnmountTs ts r else r := by
  rw [rows_stampAll]
  apply List.map_congr_left
  intro r hr
  rw [any_conditions_iff ht p hr]

theorem rows_removeRecords_selected (p : Row → Bool) :
    (removeRecords t ((t.rows.filter p).map resultToGenericValues)).rows =
      t.rows.filter fun r => !p r := by
  rw [rows_removeRecords]
  apply List.filter_congr
  intro r hr
  rw [any_predicates_iff ht p hr]

end

/-! ### One call -/

structure VolumeEnv.Succeeds (env : VolumeEnv) : Prop where
  unSetPolicy : ∀ tokenId policy, env.unSetPolicy tokenId policy = .SANDBOX_MANAGER_OK
  setPolicy : ∀ tokenId policy userId, env.setPolicy tokenId policy userId = .SANDBOX_MANAGER_OK
  find : env.findOk = true
  findExpired : env.findExpiredOk = true
  remove : env.removeOk = true
  modify : ∀ record, env.modifyOk record = true

def Row.Expired (agingTtlMs now : Int) (r : Row) : Prop :=
  0 < r.volumeUnmountTs ∧ agingTtlMs < now - r.volumeUnmountTs

def Row.Restorable (agingTtlMs now : Int) (r : Row) : Prop :=
  0 < r.volumeUnmountTs ∧ now - r.volumeUnmountTs ≤ agingTtlMs

instance (agingTtlMs now : Int) (r : Row) : Decidable (r.Expired agingTtlMs now) :=
  inferInstanceAs (Decidable (_ ∧ _))

instance (agingTtlMs now : Int) (r : Row) : Decidable (r.Restorable agingTtlMs now) :=
  inferInstanceAs (Decidable (_ ∧ _))

theorem Row.Restorable.not_expired {agingTtlMs now : Int} {r : Row}
    (h : r.Restorable agingTtlMs now) : ¬ r.Expired agingTtlMs now :=
  fun hexpired => absurd hexpired.2 (not_lt.mpr h.2)

/-- A stamped row is either expired or to be restored. -/
theorem Row.not_stamped {agingTtlMs now : Int} {r : Row} (hstamp : 0 ≤ r.volumeUnmountTs)
    (hexpired : ¬ r.Expired agingTtlMs now) (hrestorable : ¬ r.Restorable agingTtlMs now) :
    r.volumeUnmountTs = 0 := by
  by_contra hne
  have hpositive : 0 < r.volumeUnmountTs := by omega
  exact hexpired ⟨hpositive, not_le.mp fun hle => hrestorable ⟨hpositive, hle⟩⟩

/-- The kernel rule of a row. -/
def Row.policy (r : Row) : UInt32 × PolicyInfo := (r.tokenId, { path := r.path, mode := r.mode })

/-- Exactly the rows on the volume are stamped. -/
structure Unmounts (volume : Bytes) (now : Int) (before : Table) (o : VolumeOutcome) : Prop where
  rows : o.table.rows = before.rows.map fun r =>
    if AtOrBelow volume r.path then setUnmountTs now r else r
  unset : o.unset = (before.rows.filter fun r => AtOrBelow volume r.path).map Row.policy
  activated : o.activated = []
  ret : o.ret = .SANDBOX_MANAGER_OK

/-- What mounting makes of a row, if it stays. -/
def Row.mounted (agingTtlMs now : Int) (volume : Bytes) (r : Row) : Option Row :=
  if r.Expired agingTtlMs now then none
  else if AtOrBelow volume r.path ∧ r.Restorable agingTtlMs now then some (setUnmountTs 0 r)
  else some r

/-- Exactly the expired rows go, and exactly the restorable ones on the volume are restored. -/
structure Mounts (agingTtlMs now : Int) (volume : Bytes) (before : Table) (o : VolumeOutcome) :
    Prop where
  rows : o.table.rows = before.rows.filterMap (Row.mounted agingTtlMs now volume)
  activated : o.activated.map (fun call => (call.1, call.2.1)) =
    (before.rows.filter fun r =>
      AtOrBelow volume r.path ∧ r.Restorable agingTtlMs now).map Row.policy
  unset : o.unset = []
  ret : o.ret = .SANDBOX_MANAGER_OK
  /-- Nothing on the volume stays unmounted. -/
  cleared : ∀ r ∈ o.table, AtOrBelow volume r.path → r.volumeUnmountTs = 0

section
variable {env : VolumeEnv} (henv : env.Succeeds)
include henv

theorem ret_deactiveRecord (now : Int) {o : VolumeOutcome} (ho : o.ret = .SANDBOX_MANAGER_OK)
    (records : List Record) :
    (records.foldl (deactiveRecord env now) o).ret = .SANDBOX_MANAGER_OK := by
  refine List.foldlRecOn (motive := fun o : VolumeOutcome => o.ret = .SANDBOX_MANAGER_OK)
    records _ ho fun o ho record _ => ?_
  simp [deactiveRecord, henv.unSetPolicy, henv.modify, ho]

theorem ret_activateRecord {o : VolumeOutcome} (ho : o.ret = .SANDBOX_MANAGER_OK)
    (records : List Record) :
    (records.foldl (activateRecord env) o).ret = .SANDBOX_MANAGER_OK := by
  refine List.foldlRecOn (motive := fun o : VolumeOutcome => o.ret = .SANDBOX_MANAGER_OK)
    records _ ho fun o ho record _ => ?_
  simp [activateRecord, henv.setPolicy, henv.modify, ho]

end

theorem findSubPathIgnoreCase_eq (t : Table) (volume : Bytes) :
    findSubPathIgnoreCase t volume =
      (t.rows.filter fun r => AtOrBelow volume r.path).map resultToGenericValues := by
  rw [findSubPathIgnoreCase]
  apply congrArg (List.map resultToGenericValues)
  apply List.filter_congr
  intro r _
  rw [Bool.eq_iff_iff, isSubPathIgnoreCase_iff, decide_eq_true_eq]

theorem unset_deactivated {t : Table} (ht : ∀ r ∈ t, r.Written) (p : Row → Bool) :
    ((t.rows.filter p).map resultToGenericValues).map genericToPolicy =
      (t.rows.filter p).map Row.policy := by
  rw [List.map_map]
  apply List.map_congr_left
  intro r hr
  exact genericToPolicy_record (ht r (List.mem_filter.mp hr).1)

theorem deactivePolicyByPath_unmounts {env : VolumeEnv} (henv : env.Succeeds) (now : Int)
    (t : PersistedTable) {path volume : Bytes} (hpath : validatePath path = some volume) :
    Unmounts volume now t.table (deactivePolicyByPath env now t.table path) := by
  have hfilter : ∀ records : List Record, records.filter env.modifyOk = records :=
    fun records => List.filter_eq_self.mpr fun record _ => henv.modify record
  have houtcome : deactivePolicyByPath env now t.table path =
      (findSubPathIgnoreCase t.table volume).foldl (deactiveRecord env now) { table := t.table } := by
    rw [deactivePolicyByPath, hpath]
    simp only [henv.find, Bool.not_true, Bool.false_eq_true, if_false]
    rfl
  obtain ⟨htable, hunset⟩ := foldl_deactiveRecord env now { table := t.table }
    (findSubPathIgnoreCase t.table volume)
  rw [hfilter, findSubPathIgnoreCase_eq] at htable
  rw [houtcome]
  constructor
  · rw [findSubPathIgnoreCase_eq, htable, rows_stampAll_selected t.written]
    simp only [decide_eq_true_eq]
  · rw [hunset, findSubPathIgnoreCase_eq, unset_deactivated t.written]
    rfl
  · exact List.foldlRecOn (motive := fun o : VolumeOutcome => o.activated = []) _ _ rfl
      fun _ ho _ _ => ho
  · exact ret_deactiveRecord henv now rfl _

theorem findExpiredVolumeRecords_eq (t : Table) (agingTtlMs now : Int) :
    findExpiredVolumeRecords t (now - agingTtlMs) =
      (t.rows.filter fun r => decide (r.Expired agingTtlMs now)).map resultToGenericValues := by
  rw [findExpiredVolumeRecords]
  apply congrArg (List.map resultToGenericValues)
  apply List.filter_congr
  intro r _
  rw [Bool.eq_iff_iff, Bool.and_eq_true, decide_eq_true_eq, decide_eq_true_eq, decide_eq_true_eq,
    Row.Expired]
  exact and_congr_right fun _ => ⟨fun h => by omega, fun h => by omega⟩

theorem filterRestorableRecords_eq (t : Table) (volume : Bytes) (agingTtlMs now : Int) :
    filterRestorableRecords (findSubPathIgnoreCase t volume) now agingTtlMs =
      (t.rows.filter fun r => AtOrBelow volume r.path ∧ r.Restorable agingTtlMs now).map
        resultToGenericValues := by
  rw [filterRestorableRecords, findSubPathIgnoreCase_eq, List.filter_map, List.filter_filter]
  apply congrArg (List.map resultToGenericValues)
  apply List.filter_congr
  intro r _
  rw [Bool.eq_iff_iff, Bool.and_eq_true, decide_eq_true_eq, decide_eq_true_eq, Function.comp_apply,
    Bool.and_eq_true, decide_eq_true_eq, decide_eq_true_eq, and_comm]
  rfl

/-- The rows that are left once the expired ones are gone. -/
theorem rows_deleteExpiredRecords {env : VolumeEnv} {agingTtlMs now : Int} (t : PersistedTable)
    {t' : Table} (h : deleteExpiredRecords env t.table now agingTtlMs = some t') :
    t'.rows = t.table.rows.filter fun r => !decide (r.Expired agingTtlMs now) := by
  have hrows := rows_removeRecords_selected t.written fun r => decide (r.Expired agingTtlMs now)
  rw [deleteExpiredRecords, findExpiredVolumeRecords_eq] at h
  split at h
  · cases h
  · simp only at h
    split at h
    case isTrue hnone =>
      rw [← Option.some.inj h]
      rw [hnone] at hrows
      exact hrows
    case isFalse =>
      split at h
      · rw [← Option.some.inj h]
        exact hrows
      · cases h

theorem deleteExpiredRecords_succeeds {env : VolumeEnv} (henv : env.Succeeds) (agingTtlMs now : Int)
    (t : Table) : ∃ t', deleteExpiredRecords env t now agingTtlMs = some t' := by
  rw [deleteExpiredRecords, henv.findExpired, henv.remove]
  by_cases hnone : findExpiredVolumeRecords t (now - agingTtlMs) = []
  · exact ⟨t, by simp [hnone]⟩
  · exact ⟨_, by simp [hnone]; rfl⟩

theorem PersistedTable.written_filter (t : PersistedTable) {t' : Table} {kept : Row → Bool}
    (hrows : t'.rows = t.table.rows.filter kept) : ∀ r ∈ t', r.Written := by
  intro r hr
  rw [KeyedTable.mem_iff, hrows] at hr
  exact t.written r (List.mem_filter.mp hr).1

/-- What stays on the volume has no stamp. -/
theorem Row.volumeUnmountTs_mounted {agingTtlMs now : Int} {volume : Bytes} {r r' : Row}
    (hstamp : 0 ≤ r.volumeUnmountTs) (h : r.mounted agingTtlMs now volume = some r')
    (hvolume : AtOrBelow volume r'.path) : r'.volumeUnmountTs = 0 := by
  unfold Row.mounted at h
  split at h
  case isTrue => cases h
  case isFalse hexpired =>
    split at h
    case isTrue =>
      cases h
      rfl
    case isFalse hselect =>
      cases h
      exact Row.not_stamped hstamp hexpired fun hrestorable => hselect ⟨hvolume, hrestorable⟩

theorem activePolicyByPath_mounts {env : VolumeEnv} (henv : env.Succeeds) (agingTtlMs now : Int)
    (t : PersistedTable) {path volume : Bytes} (hpath : validatePath path = some volume) :
    Mounts agingTtlMs now volume t.table (activePolicyByPath env agingTtlMs now t.table path) := by
  obtain ⟨t', hdelete⟩ := deleteExpiredRecords_succeeds henv agingTtlMs now t.table
  have hrows' := rows_deleteExpiredRecords t hdelete
  have hwritten : ∀ r ∈ t', r.Written := t.written_filter hrows'
  have hselected := filterRestorableRecords_eq t' volume agingTtlMs now
  have houtcome : activePolicyByPath env agingTtlMs now t.table path =
      (filterRestorableRecords (findSubPathIgnoreCase t' volume) now agingTtlMs).foldl
        (activateRecord env) { table := t' } := by
    rw [activePolicyByPath, hpath]
    simp only [hdelete, henv.find, Bool.not_true, Bool.false_eq_true, if_false]
    rfl
  have hfilter : ∀ records : List Record, records.filter env.modifyOk = records :=
    fun records => List.filter_eq_self.mpr fun record _ => henv.modify record
  obtain ⟨htable, hactivated⟩ := foldl_activateRecord env { table := t' }
    (filterRestorableRecords (findSubPathIgnoreCase t' volume) now agingTtlMs)
  have hrows : (activePolicyByPath env agingTtlMs now t.table path).table.rows =
      t.table.rows.filterMap (Row.mounted agingTtlMs now volume) := by
    rw [houtcome, htable, hfilter, hselected, rows_stampAll_selected hwritten, hrows',
      ← List.filterMap_eq_map, List.filterMap_filter]
    apply List.filterMap_congr
    intro r _
    rw [Row.mounted]
    by_cases hexpired : r.Expired agingTtlMs now
    · simp [hexpired]
    · by_cases hselect : AtOrBelow volume r.path ∧ r.Restorable agingTtlMs now
      · simp [hexpired, hselect]
      · simp [hexpired, hselect]
  constructor
  · exact hrows
  · rw [houtcome, hactivated, hselected, List.nil_append, List.map_map]
    refine (unset_deactivated hwritten _).trans ?_
    rw [hrows', List.filter_filter]
    apply congrArg (List.map Row.policy)
    apply List.filter_congr
    intro r _
    rw [Bool.eq_iff_iff, Bool.and_eq_true, Bool.not_eq_true', decide_eq_true_eq,
      decide_eq_false_iff_not, and_iff_left_iff_imp]
    exact fun hselect => hselect.2.not_expired
  · rw [houtcome]
    exact List.foldlRecOn (motive := fun o : VolumeOutcome => o.unset = []) _ _ rfl
      fun _ ho _ _ => ho
  · rw [houtcome]
    exact ret_activateRecord henv rfl _
  · intro r hr hvolume
    rw [KeyedTable.mem_iff, hrows] at hr
    obtain ⟨origin, horigin, hmounted⟩ := List.mem_filterMap.mp hr
    exact Row.volumeUnmountTs_mounted (t.written origin horigin).stamp hmounted hvolume

/-! ### Runs -/

/-- A call, at a time in milliseconds. -/
inductive VolumeCall where
  | deactive (path : Bytes) (now : Nat)
  | active (path : Bytes) (now : Nat)

def VolumeCall.path : VolumeCall → Bytes
  | .deactive path _ => path
  | .active path _ => path

def VolumeCall.outcome (env : VolumeEnv) (agingTtlMs : Int) (t : Table) :
    VolumeCall → VolumeOutcome
  | .deactive path now => deactivePolicyByPath env now t path
  | .active path now => activePolicyByPath env agingTtlMs now t path

theorem written_setUnmountTs {r : Row} (h : r.Written) {ts : Int} (hts : 0 ≤ ts) :
    (setUnmountTs ts r).Written :=
  ⟨h.mode, h.flag, h.depth, hts⟩

theorem written_stampAll {ts : Int} (hts : 0 ≤ ts) {t : Table} (ht : ∀ r ∈ t, r.Written)
    (records : List Record) : ∀ r ∈ stampAll ts t records, r.Written := by
  intro r hr
  rw [KeyedTable.mem_iff, rows_stampAll] at hr
  obtain ⟨origin, horigin, rfl⟩ := List.mem_map.mp hr
  split
  · exact written_setUnmountTs (ht origin horigin) hts
  · exact ht origin horigin

/-- Ageing only takes rows away. -/
theorem mem_of_deleteExpiredRecords {env : VolumeEnv} {t t' : Table} {now agingTtlMs : Int}
    (h : deleteExpiredRecords env t now agingTtlMs = some t') {r : Row} (hr : r ∈ t') : r ∈ t := by
  unfold deleteExpiredRecords at h
  split at h
  · cases h
  · dsimp only at h
    split at h
    · cases h
      exact hr
    · split at h
      · cases h
        rw [KeyedTable.mem_iff, rows_removeRecords] at hr
        exact (List.mem_filter.mp hr).1
      · cases h

theorem written_activePolicyByPath (env : VolumeEnv) (agingTtlMs now : Int) {t : Table}
    (ht : ∀ r ∈ t, r.Written) (path : Bytes) :
    ∀ r ∈ (activePolicyByPath env agingTtlMs now t path).table, r.Written := by
  unfold activePolicyByPath
  split
  · exact ht
  · split
    · exact ht
    · rename_i t' hdelete
      have ht' : ∀ r ∈ t', r.Written :=
        fun r hr => ht r (mem_of_deleteExpiredRecords hdelete hr)
      split
      · exact ht'
      · rw [activateRecords, (foldl_activateRecord env _ _).1]
        exact written_stampAll (Int.le_refl 0) ht' _

theorem written_outcome (env : VolumeEnv) (agingTtlMs : Int) {t : Table}
    (ht : ∀ r ∈ t, r.Written) (call : VolumeCall) :
    ∀ r ∈ (call.outcome env agingTtlMs t).table, r.Written := by
  cases call with
  | deactive path now =>
    show ∀ r ∈ (deactivePolicyByPath env now t path).table, r.Written
    unfold deactivePolicyByPath
    split
    · exact ht
    · split
      · exact ht
      · rw [deactiveRecords, (foldl_deactiveRecord env now _ _).1]
        exact written_stampAll (Int.natCast_nonneg now) ht _
  | active path now => exact written_activePolicyByPath env agingTtlMs now ht path

/-- The table after a call. -/
def PersistedTable.after (env : VolumeEnv) (agingTtlMs : Int) (t : PersistedTable)
    (call : VolumeCall) : PersistedTable :=
  ⟨(call.outcome env agingTtlMs t.table).table, written_outcome env agingTtlMs t.written call⟩

def PersistedTable.run (env : VolumeEnv) (agingTtlMs : Int) (t : PersistedTable)
    (calls : List VolumeCall) : PersistedTable :=
  calls.foldl (PersistedTable.after env agingTtlMs) t

/-- What a call on a volume is to do. -/
def VolumeCall.Exact (agingTtlMs : Int) (volume : Bytes) (before : Table) (o : VolumeOutcome) :
    VolumeCall → Prop
  | .deactive _ now => Unmounts volume now before o
  | .active _ now => Mounts agingTtlMs now volume before o

/-- **Whatever came before, unmounting stamps and mounting ages and restores exactly.** -/
theorem PersistedTable.run_exact {env : VolumeEnv} (henv : env.Succeeds) (agingTtlMs : Int)
    (t : PersistedTable) (calls : List VolumeCall) (call : VolumeCall) {volume : Bytes}
    (hpath : validatePath call.path = some volume) :
    call.Exact agingTtlMs volume (t.run env agingTtlMs calls).table
      (call.outcome env agingTtlMs (t.run env agingTtlMs calls).table) := by
  cases call with
  | deactive path now => exact deactivePolicyByPath_unmounts henv now _ hpath
  | active path now => exact activePolicyByPath_mounts henv agingTtlMs now _ hpath

/-- Everything answers, and tokens are of user 100. -/
def willing : VolumeEnv where
  unSetPolicy _ _ := .SANDBOX_MANAGER_OK
  setPolicy _ _ _ := .SANDBOX_MANAGER_OK
  userIdOf _ := some 100
  findOk := true
  findExpiredOk := true
  removeOk := true
  modifyOk _ := true

theorem willing_succeeds : willing.Succeeds :=
  ⟨fun _ _ => rfl, fun _ _ _ => rfl, rfl, rfl, rfl, fun _ => rfl⟩

def cardRow : Row :=
  { tokenId := 7, path := bytes "/storage/External/Card_1/a", mode := 3, depth := 4, flag := 0 }

/-- One row on a card. -/
def card : PersistedTable where
  table := ⟨[cardRow], List.nodup_singleton _⟩
  written := by
    intro r hr
    rw [List.mem_singleton.mp hr]
    exact ⟨by decide, by decide, by decide, by decide⟩

theorem PersistedTable.run_exact_card :
    (VolumeCall.active (bytes "/storage/External/CARD_1/") 9).Exact 5
      (bytes "/storage/External/CARD_1")
      (card.run willing 5 [.deactive (bytes "/storage/External/Card_1") 2]).table
      ((VolumeCall.active (bytes "/storage/External/CARD_1/") 9).outcome willing 5
        (card.run willing 5 [.deactive (bytes "/storage/External/Card_1") 2]).table) :=
  card.run_exact willing_succeeds 5 _ (.active (bytes "/storage/External/CARD_1/") 9)
    (by decide +kernel)

end SandboxManager.Policy
