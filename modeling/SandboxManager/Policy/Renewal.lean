import SandboxManager.Policy.Match
import SandboxManager.Policy.VolumeRuns

/-! Persisting a policy again while its volume is unmounted.

The time of the unmounting lies in the row `AddPolicy` inserts. With flag 1 the row is replaced
and the time goes with it; with any other flag the insertion is ignored, the stale time stays
behind a successful result, and the row ages as if nobody had asked for it again. -/
namespace SandboxManager.Policy
open Library Trie

/-! ### Runs -/

/-- Each call meets its own answers from outside. -/
inductive PersistCall where
  | add (env : Env) (tokenId : UInt32) (policy : List PolicyInfo) (flag : UInt32)
  | deactive (env : VolumeEnv) (now : Int) (path : Bytes)
  | active (env : VolumeEnv) (agingTtlMs now : Int) (path : Bytes)

def PersistCall.after (t : Table) : PersistCall → Table
  | .add env tokenId policy flag => (addPolicy env t tokenId policy flag).1
  | .deactive env now path => (deactivePolicyByPath env now t path).table
  | .active env agingTtlMs now path => (activePolicyByPath env agingTtlMs now t path).table

def tableAfter (t : Table) (calls : List PersistCall) : Table := calls.foldl PersistCall.after t

/-- An `AddPolicy` that reports success for the row. -/
def PersistCall.Persists (t : Table) (k : RowKey) : PersistCall → Prop
  | .add env tokenId policy flag => ∃ t' results, ∃ (i : Nat) (p : PolicyInfo),
      addPolicy env t tokenId policy flag = (t', .SANDBOX_MANAGER_OK, results) ∧
        policy[i]? = some p ∧ results[i]? = some .OPERATE_SUCCESSFULLY ∧
          transferPolicyToGeneric tokenId p = k
  | .deactive _ _ _ | .active _ _ _ _ => False

/-- A `DeactivePolicyByPath` of a volume the row lies on, whatever comes of it. -/
def PersistCall.Unmounts (k : RowKey) : PersistCall → Prop
  | .deactive _ _ path => ∃ volume, validatePath path = some volume ∧ AtOrBelow volume k.path
  | .add _ _ _ _ | .active _ _ _ _ => False

/-- The row was persisted, and its volume was not unmounted since. -/
def Renewed (t : Table) (calls : List PersistCall) (k : RowKey) : Prop :=
  ∃ before call after, calls = before ++ call :: after ∧ call.Persists (tableAfter t before) k ∧
    ∀ later ∈ after, ¬ later.Unmounts k

/-- No row of this key carries a time stamp. -/
def Unstamped (t : Table) (k : RowKey) : Prop := ∀ r ∈ t, r.key = k → r.volumeUnmountTs ≤ 0

/-- Each policy that is added replaces its row, or finds no time stamp in it. -/
def PersistCall.Fresh (t : Table) : PersistCall → Prop
  | .add env tokenId policy flag => ∀ p ∈ policy, isValid p = true →
      (flag = 1 ∧ env.mac.isMacSupport = true ∧ isMediaPolicy p.path = false) ∨
        Unstamped t (transferPolicyToGeneric tokenId p)
  | .deactive _ _ _ | .active _ _ _ _ => True

theorem tableAfter_concat (t : Table) (calls : List PersistCall) (call : PersistCall) :
    tableAfter t (calls ++ [call]) = call.after (tableAfter t calls) :=
  List.foldl_concat ..

theorem renewed_concat {t : Table} {calls : List PersistCall} {call : PersistCall} {k : RowKey}
    (h : Renewed t (calls ++ [call]) k) :
    call.Persists (tableAfter t calls) k ∨ Renewed t calls k ∧ ¬ call.Unmounts k := by
  obtain ⟨before, first, after, hcalls, hpersists, hlater⟩ := h
  rcases List.eq_nil_or_concat after with rfl | ⟨after, last, rfl⟩
  · obtain ⟨rfl, hcall⟩ := List.append_inj' hcalls rfl
    obtain rfl : call = first := List.singleton_inj.mp hcall
    exact Or.inl hpersists
  · rw [List.concat_eq_append] at hcalls hlater
    rw [← List.cons_append, ← List.append_assoc] at hcalls
    obtain ⟨rfl, hcall⟩ := List.append_inj' hcalls rfl
    obtain rfl : call = last := List.singleton_inj.mp hcall
    refine Or.inr ⟨⟨before, first, after, rfl, hpersists, fun later hmem => ?_⟩, ?_⟩
    · exact hlater later (List.mem_append_left _ hmem)
    · exact hlater call (List.mem_append_right _ (List.mem_singleton.mpr rfl))

/-! ### One call -/

/-- A row that is replaced is a new one. -/
theorem mem_rdbAdd_replace {t : Table} {values : List Row} {r v : Row} (hv : v ∈ values)
    (hkey : r.key = v.key) (h : r ∈ rdbAdd t values .REPLACE) : r ∈ values := by
  induction values generalizing t with
  | nil => cases hv
  | cons first rest ih =>
    have hrest : r ∈ rdbAdd (t.insertReplace first) rest .REPLACE := h
    by_cases hmem : v ∈ rest
    · exact List.mem_cons_of_mem first (ih hmem hrest)
    · obtain rfl : v = first := (List.mem_cons.mp hv).resolve_right hmem
      rcases mem_of_mem_rdbAdd hrest with h | h
      · rcases KeyedTable.mem_insertReplace.mp h with rfl | ⟨-, hne⟩
        · exact hv
        · exact absurd hkey hne
      · exact List.mem_cons_of_mem v h

theorem stamp_policyRow {tokenId flag : UInt32} {policies : List PolicyInfo} {r : Row}
    (h : r ∈ policies.map (policyRow tokenId flag)) : r.volumeUnmountTs = 0 := by
  obtain ⟨p, -, rfl⟩ := List.mem_map.mp h
  rfl

/-- What the database holds after it was handed policies. -/
theorem mem_addToDatabase {env : Env} {t t' : Table} {tokenId flag : UInt32}
    {policies : List PolicyInfo}
    (hadd : addToDatabaseIfNotDuplicate env t tokenId policies flag = some t') {r : Row}
    (hr : r ∈ t') : r ∈ t ∨ r.volumeUnmountTs = 0 := by
  unfold addToDatabaseIfNotDuplicate at hadd
  split at hadd
  case isTrue => exact Or.inl (Option.some.inj hadd ▸ hr)
  case isFalse =>
    split at hadd
    case isFalse => cases hadd
    case isTrue => exact (mem_of_mem_rdbAdd (Option.some.inj hadd ▸ hr)).imp_right stamp_policyRow

theorem mem_addToDatabase_replace {env : Env} {t t' : Table} {tokenId : UInt32}
    {policies : List PolicyInfo} {p : PolicyInfo} (hp : p ∈ policies)
    (hadd : addToDatabaseIfNotDuplicate env t tokenId policies 1 = some t') :
    Unstamped t' (transferPolicyToGeneric tokenId p) := by
  intro r hr hkey
  unfold addToDatabaseIfNotDuplicate at hadd
  split at hadd
  case isTrue hnil => rw [hnil] at hp; cases hp
  case isFalse =>
    split at hadd
    case isFalse => cases hadd
    case isTrue =>
      have hmem : r ∈ rdbAdd t (policies.map (policyRow tokenId 1)) .REPLACE :=
        Option.some.inj hadd ▸ hr
      exact (stamp_policyRow (mem_rdbAdd_replace (List.mem_map_of_mem hp) hkey hmem)).le

/-- A fresh addition that reports success leaves no time stamp. -/
theorem PersistCall.Fresh.unstamped {t : Table} {call : PersistCall} {k : RowKey}
    (hfresh : call.Fresh t) (hpersists : call.Persists t k) : Unstamped (call.after t) k := by
  cases call with
  | add env tokenId policy flag =>
    obtain ⟨t', results, i, p, hadd, hp, hresult, rfl⟩ := hpersists
    have hafter : (PersistCall.add env tokenId policy flag).after t = t' := congrArg Prod.fst hadd
    rw [hafter]
    rcases hfresh p (List.mem_of_getElem? hp) (addPolicy_valid hadd hp hresult) with h | h
    · obtain ⟨rfl, hmac, hnormal⟩ := h
      obtain ⟨policies, hdatabase, hmem⟩ := addPolicy_handed hmac hadd hp hnormal hresult
      exact mem_addToDatabase_replace hmem hdatabase
    · obtain ⟨policies, hdatabase⟩ := addPolicy_table env t tokenId flag policy
      rw [hadd] at hdatabase
      intro r hr hkey
      rcases mem_addToDatabase hdatabase hr with hold | hnew
      · exact h r hold hkey
      · exact hnew.le
  | deactive env now path => exact hpersists.elim
  | active env agingTtlMs now path => exact hpersists.elim

/-- What stamping makes of a row. -/
theorem mem_stampAll {ts : Int} {t : Table} {records : List Record} {r : Row}
    (h : r ∈ stampAll ts t records) :
    r ∈ t ∨ ∃ origin ∈ t, r = setUnmountTs ts origin ∧
      ∃ record ∈ records, record.path = r.path := by
  rw [KeyedTable.mem_iff, rows_stampAll] at h
  obtain ⟨origin, horigin, heq⟩ := List.mem_map.mp h
  split at heq
  case isFalse => exact Or.inl (heq ▸ horigin)
  case isTrue hany =>
    obtain ⟨record, hrecord, hmatch⟩ := List.any_eq_true.mp hany
    refine Or.inr ⟨origin, horigin, heq.symm, record, hrecord, ?_⟩
    simp only [buildRecordConditions, Bool.and_eq_true, decide_eq_true_eq] at hmatch
    rw [← heq]
    exact hmatch.1.1.2.symm

theorem mem_deactivePolicyByPath {env : VolumeEnv} {now : Int} {t : Table} {path : Bytes} {r : Row}
    (h : r ∈ (deactivePolicyByPath env now t path).table) :
    r ∈ t ∨ (PersistCall.deactive env now path).Unmounts r.key := by
  unfold deactivePolicyByPath at h
  split at h
  case h_1 => exact Or.inl h
  case h_2 volume hvolume =>
    split at h
    case isTrue => exact Or.inl h
    case isFalse =>
      unfold deactiveRecords at h
      rw [(foldl_deactiveRecord env now _ _).1] at h
      apply (mem_stampAll h).imp_right
      rintro ⟨-, -, -, record, hrecord, hpath⟩
      have hselected := (List.mem_filter.mp hrecord).1
      rw [findSubPathIgnoreCase_eq] at hselected
      obtain ⟨selected, hmem, rfl⟩ := List.mem_map.mp hselected
      have habove : AtOrBelow volume selected.path := of_decide_eq_true (List.mem_filter.mp hmem).2
      have hsame : selected.path = r.key.path := hpath
      exact ⟨volume, hvolume, hsame ▸ habove⟩

theorem mem_activePolicyByPath {env : VolumeEnv} {agingTtlMs now : Int} {t : Table} {path : Bytes}
    {r : Row} (h : r ∈ (activePolicyByPath env agingTtlMs now t path).table) :
    r ∈ t ∨ r.volumeUnmountTs = 0 := by
  unfold activePolicyByPath at h
  split at h
  case h_1 => exact Or.inl h
  case h_2 =>
    split at h
    case h_1 => exact Or.inl h
    case h_2 t' hdelete =>
      have hold : ∀ r ∈ t', r ∈ t := fun r hr => mem_of_deleteExpiredRecords hdelete hr
      split at h
      case isTrue => exact Or.inl (hold r h)
      case isFalse =>
        unfold activateRecords at h
        rw [(foldl_activateRecord env _ _).1] at h
        rcases mem_stampAll h with h | ⟨origin, -, rfl, -⟩
        · exact Or.inl (hold r h)
        · exact Or.inr rfl

/-- Only unmounting its volume stamps a row. -/
theorem Unstamped.after {t : Table} {call : PersistCall} {k : RowKey} (h : Unstamped t k)
    (hcall : ¬ call.Unmounts k) : Unstamped (call.after t) k := by
  intro r hr hkey
  cases call with
  | add env tokenId policy flag =>
    obtain ⟨_, hdatabase⟩ := addPolicy_table env t tokenId flag policy
    rcases mem_addToDatabase hdatabase hr with hold | hnew
    · exact h r hold hkey
    · exact hnew.le
  | deactive env now path =>
    rcases mem_deactivePolicyByPath hr with hold | hunmounts
    · exact h r hold hkey
    · exact absurd (hkey ▸ hunmounts) hcall
  | active env agingTtlMs now path =>
    rcases mem_activePolicyByPath hr with hold | hnew
    · exact h r hold hkey
    · exact hnew.le

/-! ### Ageing -/

/-- Stamping keeps every key. -/
theorem exists_key_stampAll (ts : Int) {t : Table} (records : List Record) {r : Row} (hr : r ∈ t) :
    ∃ r' ∈ stampAll ts t records, r'.key = r.key := by
  by_cases hany : records.any (buildRecordConditions · r) = true
  · refine ⟨setUnmountTs ts r, ?_, rfl⟩
    rw [KeyedTable.mem_iff, rows_stampAll]
    exact List.mem_map.mpr ⟨r, hr, if_pos hany⟩
  · refine ⟨r, ?_, rfl⟩
    rw [KeyedTable.mem_iff, rows_stampAll]
    exact List.mem_map.mpr ⟨r, hr, if_neg hany⟩

/-- A row that carries no time stamp does not expire. -/
theorem mem_deleteExpiredRecords {env : VolumeEnv} {t t' : Table} {now agingTtlMs : Int} {r : Row}
    (hr : r ∈ t) (hstamp : r.volumeUnmountTs ≤ 0)
    (h : deleteExpiredRecords env t now agingTtlMs = some t') : r ∈ t' := by
  unfold deleteExpiredRecords at h
  split at h
  case isTrue => cases h
  case isFalse =>
    simp only at h
    split at h
    case isTrue => exact Option.some.inj h ▸ hr
    case isFalse =>
      split at h
      case isFalse => cases h
      case isTrue =>
        rw [← Option.some.inj h, KeyedTable.mem_iff, rows_removeRecords]
        refine List.mem_filter.mpr ⟨hr, ?_⟩
        rw [Bool.not_eq_true', Bool.eq_false_iff]
        intro hany
        obtain ⟨record, hrecord, hmatch⟩ := List.any_eq_true.mp hany
        obtain ⟨expired, hexpired, rfl⟩ := List.mem_map.mp hrecord
        have hts := (List.mem_filter.mp hexpired).2
        simp only [recordPredicates, Bool.and_eq_true, decide_eq_true_eq] at hmatch hts
        have hsame : r.volumeUnmountTs = expired.volumeUnmountTs := hmatch.2
        omega

theorem exists_key_activePolicyByPath {env : VolumeEnv} {agingTtlMs now : Int} {t : Table}
    {path : Bytes} {r : Row} (hr : r ∈ t) (hstamp : r.volumeUnmountTs ≤ 0) :
    ∃ r' ∈ (activePolicyByPath env agingTtlMs now t path).table, r'.key = r.key := by
  unfold activePolicyByPath
  split
  case h_1 => exact ⟨r, hr, rfl⟩
  case h_2 =>
    split
    case h_1 => exact ⟨r, hr, rfl⟩
    case h_2 t' hdelete =>
      have hleft : r ∈ t' := mem_deleteExpiredRecords hr hstamp hdelete
      split
      case isTrue => exact ⟨r, hleft, rfl⟩
      case isFalse =>
        rw [activateRecords, (foldl_activateRecord env _ _).1]
        exact exists_key_stampAll 0 _ hleft

/-- After a run of fresh calls the renewed rows carry no time stamp. -/
theorem unstamped_of_renewed (t : Table) {calls : List PersistCall}
    (hfresh : ∀ before call after, calls = before ++ call :: after →
      call.Fresh (tableAfter t before)) {k : RowKey} (hrenewed : Renewed t calls k) :
    Unstamped (tableAfter t calls) k := by
  induction calls using List.reverseRecOn with
  | nil =>
    obtain ⟨before, _, _, hcalls, -⟩ := hrenewed
    cases before <;> cases hcalls
  | append_singleton calls call ih =>
    rw [tableAfter_concat]
    rcases renewed_concat hrenewed with hpersists | ⟨hearlier, hkept⟩
    · exact (hfresh calls call [] rfl).unstamped hpersists
    · refine (ih (fun before first after hcalls => ?_) hearlier).after hkept
      exact hfresh before first (after ++ [call]) (by rw [hcalls, List.append_assoc, List.cons_append])

/-- **A row that was persisted since its volume was last unmounted is not aged out**, in every run
whose additions replace the rows they find stamped. -/
theorem renewed_kept (t : Table) (calls : List PersistCall)
    (hfresh : ∀ before call after, calls = before ++ call :: after →
      call.Fresh (tableAfter t before)) (env : VolumeEnv) (agingTtlMs now : Int) (path : Bytes)
    {r : Row} (hr : r ∈ tableAfter t calls) (hrenewed : Renewed t calls r.key) :
    (∀ t', deleteExpiredRecords env (tableAfter t calls) now agingTtlMs = some t' → r ∈ t') ∧
      ∃ r' ∈ (activePolicyByPath env agingTtlMs now (tableAfter t calls) path).table,
        r'.key = r.key := by
  have hstamp := unstamped_of_renewed t hfresh hrenewed r hr rfl
  exact ⟨fun _ => mem_deleteExpiredRecords hr hstamp, exists_key_activePolicyByPath hr hstamp⟩

/-- Token 7 persists a path on a card. -/
def addOnCard (flag : UInt32) : PersistCall :=
  .add grantingEnv 7 [⟨bytes "/storage/External/c/a", READ_MODE, .UNKNOWN⟩] flag

/-- The path is persisted, the card unmounted, and the path persisted again. -/
def againOnCard (flag : UInt32) : List PersistCall :=
  [addOnCard flag, .deactive willing 10 (bytes "/storage/External/c"), addOnCard flag]

def rowOnCard (flag : UInt32) (ts : Int) : Row :=
  { tokenId := 7, path := bytes "/storage/External/c/a", mode := READ_MODE, depth := 4, flag,
    volumeUnmountTs := ts }

/-- Either way the second addition reports success. -/
theorem renewed_againOnCard {flag : UInt32} (h : flag = 0 ∨ flag = 1) :
    Renewed .empty (againOnCard flag) (rowOnCard flag 0).key := by
  have hanswer : (addPolicy grantingEnv (tableAfter .empty ((againOnCard flag).take 2)) 7
      [⟨bytes "/storage/External/c/a", READ_MODE, .UNKNOWN⟩] flag).2 =
        (.SANDBOX_MANAGER_OK, [.OPERATE_SUCCESSFULLY]) := by
    rcases h with rfl | rfl <;> decide +kernel
  refine ⟨(againOnCard flag).take 2, addOnCard flag, [], rfl, ?_, fun _ h => absurd h List.not_mem_nil⟩
  have hkey : transferPolicyToGeneric 7 ⟨bytes "/storage/External/c/a", READ_MODE, .UNKNOWN⟩ =
      (rowOnCard 0 0).key := by decide +kernel
  exact ⟨_, _, 0, _, Prod.ext rfl hanswer, rfl, rfl, hkey⟩

/-- With flag 1 the row outlives its time on another card. -/
theorem renewed_kept_card :
    ∃ r' ∈ (activePolicyByPath willing VOLUME_POLICY_AGING_TTL_MS (VOLUME_POLICY_AGING_TTL_MS + 11)
      (tableAfter .empty (againOnCard 1)) (bytes "/storage/External/d")).table,
        r'.key = (rowOnCard 1 0).key := by
  have hfresh : ∀ before call after, againOnCard 1 = before ++ call :: after →
      call.Fresh (tableAfter .empty before) := by
    intro before call after hcalls
    have hmem : call ∈ againOnCard 1 := hcalls ▸ List.mem_append_right _ (List.mem_cons_self ..)
    have hadd : (addOnCard 1).Fresh (tableAfter .empty before) := by
      intro p hp _
      obtain rfl := List.mem_singleton.mp hp
      exact Or.inl ⟨rfl, rfl, by decide⟩
    simp only [againOnCard, List.mem_cons, List.not_mem_nil, or_false] at hmem
    rcases hmem with rfl | rfl | rfl
    · exact hadd
    · exact trivial
    · exact hadd
  have hrow : rowOnCard 1 0 ∈ tableAfter .empty (againOnCard 1) := by
    rw [KeyedTable.mem_iff]
    decide +kernel
  exact (renewed_kept .empty (againOnCard 1) hfresh willing VOLUME_POLICY_AGING_TTL_MS
    (VOLUME_POLICY_AGING_TTL_MS + 11) (bytes "/storage/External/d") hrow
    (renewed_againOnCard (Or.inr rfl))).2

/-- With flag 0 it is aged out. -/
theorem renewed_aged_out :
    ¬ ∀ (calls : List PersistCall) (env : VolumeEnv) (now : Int) (r : Row),
      r ∈ tableAfter .empty calls → Renewed .empty calls r.key → ∀ t',
        deleteExpiredRecords env (tableAfter .empty calls) now VOLUME_POLICY_AGING_TTL_MS = some t' →
          r ∈ t' := by
  intro h
  have hrow : rowOnCard 0 10 ∈ tableAfter .empty (againOnCard 0) := by
    rw [KeyedTable.mem_iff]
    decide +kernel
  have hscan : ∃ t', deleteExpiredRecords willing (tableAfter .empty (againOnCard 0))
      (VOLUME_POLICY_AGING_TTL_MS + 11) VOLUME_POLICY_AGING_TTL_MS = some t' ∧ t'.rows = [] :=
    ⟨_, rfl, by decide +kernel⟩
  obtain ⟨t', hdelete, hnone⟩ := hscan
  have hkept := h (againOnCard 0) willing _ (rowOnCard 0 10) hrow
    (renewed_againOnCard (Or.inl rfl)) t' hdelete
  rw [KeyedTable.mem_iff, hnone] at hkept
  exact List.not_mem_nil hkept

end SandboxManager.Policy
