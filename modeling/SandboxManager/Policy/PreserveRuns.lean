import SandboxManager.Policy.Preserve

/-! What removals and installations do to the policies that are kept.

An event concerns one identifier and one user. What it does to the records of others is nothing
(`Elsewhere`), whatever the database answers; so a record that was saved is the only one of its
application until an event of that application comes (`run_sole`), and then the rows it names are
the ones that are handed over (`handOver_handed`). -/
namespace SandboxManager.Policy
open Library

/-! ### Records of others -/

/-- The records of every other identifier or user are the same. -/
def Elsewhere (appIdentifier : Bytes) (userId : Int32) (s s' : PreserveState) : Prop :=
  ∀ record : BundleRecord, record.isOf appIdentifier userId = false →
    (record ∈ s'.bundles ↔ record ∈ s.bundles)

section
variable {env : PreserveEnv} {appIdentifier : Bytes} {userId : Int32} {s s' s'' : PreserveState}

theorem Elsewhere.refl (s : PreserveState) : Elsewhere appIdentifier userId s s :=
  fun _ _ => Iff.rfl

theorem Elsewhere.trans (h : Elsewhere appIdentifier userId s s')
    (h' : Elsewhere appIdentifier userId s' s'') : Elsewhere appIdentifier userId s s'' :=
  fun record hrecord => (h' record hrecord).trans (h record hrecord)

theorem Elsewhere.of_bundles (h : s'.bundles = s.bundles) : Elsewhere appIdentifier userId s s' := by
  intro record _
  rw [h]

/-- Deleting records of one application. -/
theorem elsewhere_delete {p : BundleRecord → Bool}
    (h : ∀ record, p record = true → record.isOf appIdentifier userId = true) :
    Elsewhere appIdentifier userId s { s with bundles := s.bundles.delete p } := by
  intro record hrecord
  have hp : p record = false := by
    cases hp : p record with
    | false => rfl
    | true =>
      rw [h record hp] at hrecord
      cases hrecord
  rw [KeyedTable.mem_delete]
  exact and_iff_left hp

theorem deleteBundlePersistentPolicies_elsewhere : Elsewhere appIdentifier userId s
    (deleteBundlePersistentPolicies env appIdentifier userId s).2 := by
  unfold deleteBundlePersistentPolicies
  split
  · exact .refl s
  · split
    · exact elsewhere_delete fun _ => id
    · exact .refl s

theorem saveBundlePersistentPolicies_elsewhere (bundleName : Bytes) (tokenId : UInt32) :
    Elsewhere appIdentifier userId s
      (saveBundlePersistentPolicies env bundleName userId appIdentifier tokenId s).2 := by
  unfold saveBundlePersistentPolicies
  split
  · exact .refl s
  · have hdelete : Elsewhere appIdentifier userId s
        (deleteBundlePersistentPolicies env appIdentifier userId s).2 :=
      deleteBundlePersistentPolicies_elsewhere
    refine hdelete.trans ?_
    dsimp only
    split
    · intro record hrecord
      rw [KeyedTable.mem_insertIgnore]
      refine or_iff_left fun hnew => ?_
      rw [hnew.1] at hrecord
      simp [BundleRecord.isOf] at hrecord
    · exact .refl _

theorem handleDuplicateBundleRecords_elsewhere (first : BundleRecord) (records : List BundleRecord) :
    Elsewhere appIdentifier userId s
      (handleDuplicateBundleRecords env appIdentifier userId first records s).2 := by
  refine List.foldlRecOn _ _ (Elsewhere.refl s) fun t ht record _ => ?_
  split
  · exact ht.trans (elsewhere_delete fun r hr => (Bool.and_eq_true_iff.mp hr).1)
  · exact ht

theorem findBundleRecord_elsewhere :
    Elsewhere appIdentifier userId s (findBundleRecord env appIdentifier userId s).2.2 := by
  unfold findBundleRecord
  split
  · exact .refl s
  · exact .refl s
  · exact .refl s
  · exact handleDuplicateBundleRecords_elsewhere _ _

theorem bundles_handOver (originalTokenId newTokenId : UInt32) :
    (handOver env originalTokenId newTokenId s).2.bundles = s.bundles := by
  unfold handOver
  split
  · rfl
  · split
    · rfl
    · split
      · rfl
      · split <;> rfl

theorem restoreBundlePersistentPolicies_elsewhere (newTokenId : UInt32) :
    Elsewhere appIdentifier userId s
      (restoreBundlePersistentPolicies env appIdentifier userId newTokenId s).2 := by
  have hfind : Elsewhere appIdentifier userId s (findBundleRecord env appIdentifier userId s).2.2 :=
    findBundleRecord_elsewhere
  unfold restoreBundlePersistentPolicies
  split
  · exact .refl s
  · split
    case h_1 heq => rwa [heq] at hfind
    case h_2 heq =>
      rw [heq] at hfind
      exact hfind.trans (.of_bundles (bundles_handOver _ _))
    case h_3 heq => rwa [heq] at hfind

theorem restoreAndDelete_elsewhere (newTokenId : UInt32) :
    Elsewhere appIdentifier userId s (restoreAndDelete env appIdentifier userId newTokenId s) := by
  have hrestore : Elsewhere appIdentifier userId s
      (restoreBundlePersistentPolicies env appIdentifier userId newTokenId s).2 :=
    restoreBundlePersistentPolicies_elsewhere newTokenId
  unfold restoreAndDelete
  dsimp only
  split
  · exact hrestore
  · exact hrestore.trans deleteBundlePersistentPolicies_elsewhere

end

/-! ### Runs -/

/-- A removal that keeps the policies, or an installation, with what its calls are answered. -/
inductive BundleEvent where
  | preserve (env : PreserveEnv) (bundleName : Bytes) (userId : Int32) (appIdentifier : Bytes)
      (tokenId : UInt32)
  | add (env : PreserveEnv) (appIdentifier : Bytes) (userId : Int32) (newTokenId : UInt32)

def BundleEvent.pair : BundleEvent → Bytes × Int32
  | .preserve _ _ userId appIdentifier _ => (appIdentifier, userId)
  | .add _ appIdentifier userId _ => (appIdentifier, userId)

def BundleEvent.after (s : PreserveState) : BundleEvent → PreserveState
  | .preserve env bundleName userId appIdentifier tokenId =>
    (saveBundlePersistentPolicies env bundleName userId appIdentifier tokenId s).2
  | .add env appIdentifier userId newTokenId =>
    restoreAndDelete env appIdentifier userId newTokenId s

def runBundleEvents (s : PreserveState) (events : List BundleEvent) : PreserveState :=
  events.foldl BundleEvent.after s

theorem BundleEvent.after_elsewhere (event : BundleEvent) (s : PreserveState) :
    Elsewhere event.pair.1 event.pair.2 s (event.after s) := by
  cases event with
  | preserve env bundleName userId appIdentifier tokenId =>
    exact saveBundlePersistentPolicies_elsewhere bundleName tokenId
  | add env appIdentifier userId newTokenId => exact restoreAndDelete_elsewhere newTokenId

/-- There is one record of the application, and it is this one. -/
def Sole (appIdentifier : Bytes) (userId : Int32) (record : BundleRecord) (s : PreserveState) : Prop :=
  ∀ r, (r ∈ s.bundles ∧ r.isOf appIdentifier userId = true) ↔ r = record

section
variable {env : PreserveEnv} {appIdentifier : Bytes} {userId : Int32} {record : BundleRecord}
  {s : PreserveState}

theorem isOf_eq_false {r : BundleRecord} {appIdentifier' : Bytes} {userId' : Int32}
    (h : r.isOf appIdentifier userId = true)
    (hpair : (appIdentifier', userId') ≠ (appIdentifier, userId)) :
    r.isOf appIdentifier' userId' = false := by
  rw [BundleRecord.isOf, Bool.and_eq_true, decide_eq_true_eq, decide_eq_true_eq] at h
  rw [BundleRecord.isOf, h.1, h.2, Bool.and_eq_false_iff, decide_eq_false_iff_not,
    decide_eq_false_iff_not]
  by_contra hboth
  rw [not_or, not_not, not_not] at hboth
  exact hpair (Prod.ext hboth.1.symm hboth.2.symm)

/-- Events of others leave the record the only one. -/
theorem run_sole (h : Sole appIdentifier userId record s) {events : List BundleEvent}
    (hothers : ∀ event ∈ events, event.pair ≠ (appIdentifier, userId)) :
    Sole appIdentifier userId record (runBundleEvents s events) := by
  refine List.foldlRecOn events BundleEvent.after h fun t ht event hevent r => ?_
  rw [← ht r]
  refine and_congr_left fun hr => ?_
  exact event.after_elsewhere t r (isOf_eq_false hr (hothers event hevent))

/-- Every call of an event succeeds, unless a constraint of a table is in the way. -/
structure PreserveEnv.AllOk (env : PreserveEnv) : Prop where
  removeBundle : env.removeBundleOk = true
  addBundle : env.addBundleOk = true
  findBundle : env.findBundleOk = true
  findPolicy : env.findPolicyOk = true
  modifyPolicy : env.modifyPolicyOk = true

theorem deleteBundlePersistentPolicies_ok (hok : env.AllOk) (hident : appIdentifier ≠ []) :
    deleteBundlePersistentPolicies env appIdentifier userId s =
      (.SANDBOX_MANAGER_OK,
        { s with bundles := s.bundles.delete (·.isOf appIdentifier userId) }) := by
  rw [deleteBundlePersistentPolicies, if_neg hident, if_pos hok.removeBundle]

theorem saveBundlePersistentPolicies_ok (hok : env.AllOk) (hident : appIdentifier ≠ [])
    (bundleName : Bytes) (tokenId : UInt32) :
    (saveBundlePersistentPolicies env bundleName userId appIdentifier tokenId s).1 =
        .SANDBOX_MANAGER_OK ∧
      Sole appIdentifier userId ⟨bundleName, userId, appIdentifier, tokenId, env.time⟩
        (saveBundlePersistentPolicies env bundleName userId appIdentifier tokenId s).2 := by
  rw [saveBundlePersistentPolicies, if_neg hident, deleteBundlePersistentPolicies_ok hok hident]
  dsimp only
  rw [if_pos hok.addBundle]
  refine ⟨rfl, fun r => ?_⟩
  have hnew : (⟨bundleName, userId, appIdentifier, tokenId, env.time⟩ : BundleRecord).isOf
      appIdentifier userId = true := by
    rw [BundleRecord.isOf, decide_eq_true rfl, decide_eq_true rfl]
    rfl
  rw [KeyedTable.mem_insertIgnore, KeyedTable.mem_delete]
  constructor
  · rintro ⟨⟨-, hnot⟩ | ⟨hr, -⟩, hof⟩
    · rw [hof] at hnot
      cases hnot
    · exact hr
  · rintro rfl
    refine ⟨Or.inr ⟨rfl, fun r hr heq => ?_⟩, hnew⟩
    rw [KeyedTable.mem_delete] at hr
    obtain rfl : r = _ := heq
    cases hnew.symm.trans hr.2

/-! ### Handing over -/

/-- The rows of one token are handed to another, and nothing else happens to them or to others. -/
structure HandedOver (originalTokenId newTokenId : UInt32) (s s' : PreserveState) : Prop where
  moved : ∀ row ∈ s.policies, row.tokenId = originalTokenId → row.handedTo newTokenId ∈ s'.policies
  only : ∀ row ∈ s'.policies, row.tokenId = newTokenId →
    ∃ row' ∈ s.policies, row'.tokenId = originalTokenId ∧ row = row'.handedTo newTokenId
  released : ∀ row ∈ s'.policies, row.tokenId ≠ originalTokenId
  others : ∀ row : Row, row.tokenId ≠ originalTokenId → row.tokenId ≠ newTokenId →
    (row ∈ s'.policies ↔ row ∈ s.policies)

/-- An update whose new token has no rows. -/
theorem handedOver_update {originalTokenId newTokenId : UInt32} {policies : Table}
    (hfree : ∀ row ∈ s.policies, row.tokenId ≠ newTokenId)
    (h : s.policies.update? (·.isOf originalTokenId) (·.handedTo newTokenId) = some policies) :
    HandedOver originalTokenId newTokenId s { s with policies } := by
  have hmem : ∀ {row : Row}, row ∈ policies ↔ ∃ r ∈ s.policies,
      row = if r.isOf originalTokenId then r.handedTo newTokenId else r := KeyedTable.mem_update? h
  have hmoved : ∀ row ∈ s.policies, row.tokenId = originalTokenId →
      row.handedTo newTokenId ∈ policies := by
    intro row hrow htoken
    exact hmem.mpr ⟨row, hrow, (if_pos (decide_eq_true htoken)).symm⟩
  have honly : ∀ row ∈ policies, (∃ row' ∈ s.policies, row'.tokenId = originalTokenId ∧
      row = row'.handedTo newTokenId) ∨ row ∈ s.policies ∧ row.tokenId ≠ originalTokenId := by
    intro row hrow
    obtain ⟨row', hrow', heq⟩ := hmem.mp hrow
    by_cases hof : row'.isOf originalTokenId = true
    · rw [if_pos hof] at heq
      exact Or.inl ⟨row', hrow', of_decide_eq_true hof, heq⟩
    · rw [if_neg hof] at heq
      exact Or.inr (heq ▸ ⟨hrow', fun htoken => hof (decide_eq_true htoken)⟩)
  constructor
  · exact hmoved
  · intro row hrow htoken
    exact (honly row hrow).elim id fun hkept => absurd htoken (hfree row hkept.1)
  · intro row hrow htoken
    obtain ⟨row', hrow', htoken', rfl⟩ | ⟨-, hne⟩ := honly row hrow
    · have hsame : newTokenId = originalTokenId := htoken
      exact hfree row' hrow' (htoken'.trans hsame.symm)
    · exact hne htoken
  · intro row hne hne'
    constructor
    · intro hrow
      obtain ⟨row', -, -, rfl⟩ | ⟨hkept, -⟩ := honly row hrow
      · exact absurd rfl hne'
      · exact hkept
    · intro hrow
      exact hmem.mpr ⟨row, hrow, (if_neg fun hof => hne (of_decide_eq_true hof)).symm⟩

/-- Nothing is in the way of rows that go where there are none. -/
theorem exists_update_handedTo (originalTokenId : UInt32) {newTokenId : UInt32}
    (hfree : ∀ row ∈ s.policies, row.tokenId ≠ newTokenId) :
    ∃ policies, s.policies.update? (·.isOf originalTokenId) (·.handedTo newTokenId) =
      some policies := by
  apply KeyedTable.exists_update?
  intro r hr r' hr' hkey
  by_cases hof : r.isOf originalTokenId = true <;> by_cases hof' : r'.isOf originalTokenId = true
  · rw [if_pos hof, if_pos hof'] at hkey
    apply KeyedTable.eq_of_key_eq hr hr'
    have htoken : r.tokenId = r'.tokenId :=
      (of_decide_eq_true hof).trans (of_decide_eq_true hof').symm
    simp only [Row.key, Row.handedTo, RowKey.mk.injEq, true_and] at hkey
    simp only [Row.key, htoken, hkey]
  · rw [if_pos hof, if_neg hof'] at hkey
    exact absurd (congrArg RowKey.tokenId hkey).symm (hfree r' hr')
  · rw [if_neg hof, if_pos hof'] at hkey
    exact absurd (congrArg RowKey.tokenId hkey) (hfree r hr)
  · rw [if_neg hof, if_neg hof'] at hkey
    exact KeyedTable.eq_of_key_eq hr hr' hkey

theorem handOver_handed (hok : env.AllOk) (originalTokenId : UInt32) {newTokenId : UInt32}
    (hfree : ∀ row ∈ s.policies, row.tokenId ≠ newTokenId) :
    (handOver env originalTokenId newTokenId s).1 = .SANDBOX_MANAGER_OK ∧
      HandedOver originalTokenId newTokenId s (handOver env originalTokenId newTokenId s).2 := by
  unfold handOver
  rw [hok.findPolicy, hok.modifyPolicy]
  by_cases hnone : s.policies.rows.filter (·.isOf originalTokenId) = []
  · have hnot : ∀ row ∈ s.policies, row.tokenId ≠ originalTokenId := by
      intro row hrow htoken
      exact List.filter_eq_nil_iff.mp hnone row hrow (decide_eq_true htoken)
    simp only [hnone, Bool.not_true, Bool.false_eq_true, if_false, if_true, true_and]
    constructor
    · exact fun row hrow htoken => absurd htoken (hnot row hrow)
    · exact fun row hrow htoken => absurd htoken (hfree row hrow)
    · exact hnot
    · exact fun _ _ _ => Iff.rfl
  · obtain ⟨policies, hupdate⟩ := exists_update_handedTo originalTokenId hfree
    simp only [hnone, hupdate, Bool.not_true, Bool.false_eq_true, if_false, true_and]
    exact handedOver_update hfree hupdate

/-- The only record is found. -/
theorem findBundleRecord_sole (hok : env.AllOk) (h : Sole appIdentifier userId record s) :
    findBundleRecord env appIdentifier userId s = (.SANDBOX_MANAGER_OK, some record, s) := by
  have hrows : s.bundles.rows.filter (·.isOf appIdentifier userId) = [record] := by
    apply List.perm_singleton.mp
    refine (List.perm_ext_iff_of_nodup ?_ (List.nodup_singleton _)).mpr fun r => ?_
    · have hnodup := s.bundles.unique
      rw [List.map_id] at hnodup
      exact hnodup.filter _
    · rw [List.mem_filter, List.mem_singleton]
      exact h r
  rw [findBundleRecord, fetchBundleRecordsByIdentifier, if_pos hok.findBundle, hrows]

/-- What an installation under a new token comes to. -/
structure Restored (appIdentifier : Bytes) (userId : Int32) (originalTokenId newTokenId : UInt32)
    (s s' : PreserveState) : Prop where
  rows : HandedOver originalTokenId newTokenId s s'
  deleted : ∀ r ∈ s'.bundles, r.isOf appIdentifier userId = false
  elsewhere : Elsewhere appIdentifier userId s s'

theorem restoreAndDelete_restored (hok : env.AllOk) (hident : appIdentifier ≠ [])
    (h : Sole appIdentifier userId record s) {newTokenId : UInt32}
    (hfree : ∀ row ∈ s.policies, row.tokenId ≠ newTokenId) :
    Restored appIdentifier userId record.originalTokenId newTokenId s
      (restoreAndDelete env appIdentifier userId newTokenId s) := by
  obtain ⟨hret, hrows⟩ := handOver_handed hok record.originalTokenId hfree
  have hrestore : restoreBundlePersistentPolicies env appIdentifier userId newTokenId s =
      handOver env record.originalTokenId newTokenId s := by
    rw [restoreBundlePersistentPolicies, if_neg hident, findBundleRecord_sole hok h]
  have heq : restoreAndDelete env appIdentifier userId newTokenId s =
      { (handOver env record.originalTokenId newTokenId s).2 with
        bundles := (handOver env record.originalTokenId newTokenId s).2.bundles.delete
          (·.isOf appIdentifier userId) } := by
    rw [restoreAndDelete, hrestore]
    dsimp only
    rw [if_neg (not_not.mpr hret), deleteBundlePersistentPolicies_ok hok hident]
  have helsewhere : Elsewhere appIdentifier userId s
      (restoreAndDelete env appIdentifier userId newTokenId s) :=
    restoreAndDelete_elsewhere newTokenId
  rw [heq] at helsewhere ⊢
  refine ⟨⟨hrows.moved, hrows.only, hrows.released, hrows.others⟩, fun r hr => ?_, helsewhere⟩
  exact (KeyedTable.mem_delete.mp hr).2

end

/-- **Policies that are kept come back**: once they are kept for an application there is one record
of it, which names its token, through whatever happens to other applications; and an installation
under a token without rows then gets every row of the old one, takes nothing from anybody else,
and leaves no record of the application and every record of others. -/
theorem preserve_then_add {env : PreserveEnv} (hok : env.AllOk) {appIdentifier : Bytes}
    (hident : appIdentifier ≠ []) (userId : Int32) (bundleName : Bytes) (tokenId : UInt32)
    {s s' : PreserveState} {events : List BundleEvent}
    (hothers : ∀ event ∈ events, event.pair ≠ (appIdentifier, userId))
    (hrun : runBundleEvents s (.preserve env bundleName userId appIdentifier tokenId :: events) =
      s') :
    (∃ record : BundleRecord, record.originalTokenId = tokenId ∧
      Sole appIdentifier userId record s') ∧
    ∀ env' : PreserveEnv, env'.AllOk → ∀ newTokenId,
      (∀ row ∈ s'.policies, row.tokenId ≠ newTokenId) →
        Restored appIdentifier userId tokenId newTokenId s'
          (restoreAndDelete env' appIdentifier userId newTokenId s') := by
  subst hrun
  have hsaved : Sole appIdentifier userId _
      (saveBundlePersistentPolicies env bundleName userId appIdentifier tokenId s).2 :=
    (saveBundlePersistentPolicies_ok hok hident bundleName tokenId).2
  have hsole := run_sole hsaved hothers
  exact ⟨⟨_, rfl, hsole⟩, fun _ hok' _ hfree => restoreAndDelete_restored hok' hident hsole hfree⟩

/-- A database that does what it is asked. -/
def willingDatabase (time : Int64) : PreserveEnv where
  time
  removeBundleOk := true
  addBundleOk := true
  findBundleOk := true
  removeDuplicateOk _ := true
  findPolicyOk := true
  modifyPolicyOk := true
  removePolicyOk := true

theorem willingDatabase_allOk (time : Int64) : (willingDatabase time).AllOk :=
  ⟨rfl, rfl, rfl, rfl, rfl⟩

/-- One row, and no records. -/
def oneRow (row : Row) : PreserveState := ⟨⟨[row], List.nodup_singleton _⟩, .empty⟩

/-- Another application is removed while the first is away. -/
def mailAway : PreserveState :=
  runBundleEvents (oneRow ⟨1, bytes "/a", 1, 1, 0, 0⟩)
    [.preserve (willingDatabase 5) (bytes "mail") 100 (bytes "mail.id") 1,
      .preserve (willingDatabase 6) (bytes "maps") 100 (bytes "maps.id") 3]

theorem preserve_then_add_mail :
    (∃ record : BundleRecord, record.originalTokenId = 1 ∧
      Sole (bytes "mail.id") 100 record mailAway) ∧
    Restored (bytes "mail.id") 100 1 2 mailAway
      (restoreAndDelete (willingDatabase 7) (bytes "mail.id") 100 2 mailAway) := by
  have hothers : ∀ event ∈ [BundleEvent.preserve (willingDatabase 6) (bytes "maps") 100
      (bytes "maps.id") 3], event.pair ≠ (bytes "mail.id", 100) := by
    intro event hevent
    obtain rfl := List.mem_singleton.mp hevent
    decide +kernel
  have hrun : runBundleEvents (oneRow ⟨1, bytes "/a", 1, 1, 0, 0⟩) _ = mailAway := rfl
  have hkept := preserve_then_add (willingDatabase_allOk 5) (by decide +kernel) 100 (bytes "mail") 1
    hothers hrun
  refine ⟨hkept.1, hkept.2 (willingDatabase 7) (willingDatabase_allOk 7) 2 fun row hrow => ?_⟩
  obtain rfl := List.mem_singleton.mp (show row ∈ [_] from hrow)
  decide +kernel

end SandboxManager.Policy
