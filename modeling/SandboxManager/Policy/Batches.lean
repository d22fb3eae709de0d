import SandboxManager.Policy.RawDataReads

/-! A request in batches (`ProcessPolicyBatch`, `policy_info_manager.cpp`).

The buffer of a request is not unpacked at once: so many policies are read from it, handed to the
function that handles a vector of them, and the answers are stored behind those of the batches
before. The size of a batch is the caller's, or as much more as keeps their number at
`MAX_BATCH_COUNT`.

A batch handled one policy at a time leaves no trace of where it was cut: the answers are those
to the policies of the buffer, in order (`processPolicyBatch_pointwise`). -/
namespace SandboxManager.Policy
open Library Claw Reader

def MAX_BATCH_COUNT_SHIFT : UInt32 := 5
def MAX_BATCH_COUNT : UInt32 := 1 <<< MAX_BATCH_COUNT_SHIFT

def calculateBatchSize (policyCount batchSize : UInt32) : UInt32 :=
  if batchSize = 0 then 1
  else if policyCount ≤ batchSize then policyCount
  else
    let dynamicBatchSize := policyCount >>> MAX_BATCH_COUNT_SHIFT
    let dynamicBatchSize :=
      if policyCount &&& (MAX_BATCH_COUNT - 1) ≠ 0 then dynamicBatchSize + 1 else dynamicBatchSize
    max batchSize dynamicBatchSize

section
variable {σ R : Type}

/-- `processFunc`, which works on a state of its own. -/
abbrev ProcessFunc (σ R : Type) := σ → List RawPolicyInfo → (ErrCode × List R) × σ

/-- What a request has come to: its result, the state of `processFunc`, the batches that were
handed over and the indices that were written. -/
structure BatchRun (σ R : Type) where
  ret : ErrCode
  result : List R
  state : σ
  batches : List (List RawPolicyInfo) := []
  writes : List Nat := []

/-- The loop that stores the answers to a batch. -/
def storeAt (index : Nat) : List R → List R → List R
  | [], result => result
  | r :: batchResult, result => storeAt (index + 1) batchResult (result.set index r)

def BatchRun.store (run : BatchRun σ R) (globalIndex : UInt32) (batchResult : List R) :
    BatchRun σ R :=
  { run with
    result := storeAt globalIndex.toNat batchResult run.result
    writes := run.writes ++ List.range' globalIndex.toNat batchResult.length }

/-- The loop, unless it is not over after so many turns. -/
def batchLoop (processFunc : ProcessFunc σ R) (policyCount finalBatchSize : UInt32) :
    Nat → PolicyVecBatchReader → UInt32 → BatchRun σ R → Option (BatchRun σ R)
  | 0, _, _, _ => none
  | fuel + 1, reader, globalIndex, run =>
    if globalIndex < policyCount then
      let currentBatchSize := min finalBatchSize (policyCount - globalIndex)
      match reader.readNextBatch currentBatchSize with
      | (_, none) => some { run with ret := .SANDBOX_MANAGER_SERVICE_PARCEL_ERR }
      | (batchPolicies, some reader) =>
        let answer := processFunc run.state batchPolicies
        let run := { run with state := answer.2, batches := run.batches ++ [batchPolicies] }
        if answer.1.1 ≠ .SANDBOX_MANAGER_OK then some { run with ret := answer.1.1 }
        else
          batchLoop processFunc policyCount finalBatchSize fuel reader
            (globalIndex + currentBatchSize) (run.store globalIndex answer.1.2)
    else some { run with ret := .SANDBOX_MANAGER_OK }

/-- `resize`: what is there stays. -/
def resize (result : List R) (n : Nat) (defaultValue : R) : List R :=
  result.take n ++ List.replicate (n - result.length) defaultValue

def processPolicyBatch (policyRawData : PolicyVecRawData) (result : List R)
    (processFunc : ProcessFunc σ R) (batchSize : UInt32) (defaultValue : R) (state : σ) :
    Option (BatchRun σ R) :=
  let reader := PolicyVecBatchReader.ofRawData policyRawData
  if !reader.isValid then
    some { ret := .SANDBOX_MANAGER_SERVICE_PARCEL_ERR, result, state }
  else if reader.policyCount = 0 then some { ret := .INVALID_PARAMTER, result, state }
  else
    let finalBatchSize := calculateBatchSize reader.policyCount batchSize
    batchLoop processFunc reader.policyCount finalBatchSize (reader.policyCount.toNat + 1) reader 0
      { ret := .SANDBOX_MANAGER_OK
        result := resize result reader.policyCount.toNat defaultValue
        state }

end

/-! ### Sizes -/

theorem toNat_min (a b : UInt32) : (min a b).toNat = min a.toNat b.toNat := by
  rw [show min a b = if a ≤ b then a else b from rfl, Nat.min_def]
  split
  case isTrue h => rw [if_pos (UInt32.le_iff_toNat_le.mp h)]
  case isFalse h => rw [if_neg fun h' => h (UInt32.le_iff_toNat_le.mpr h')]

theorem toNat_max (a b : UInt32) : (max a b).toNat = max a.toNat b.toNat := by
  rw [show max a b = if a ≤ b then b else a from rfl, Nat.max_def]
  split
  case isTrue h => rw [if_pos (UInt32.le_iff_toNat_le.mp h)]
  case isFalse h => rw [if_neg fun h' => h (UInt32.le_iff_toNat_le.mpr h')]

/-- How many batches of `f` it takes for `n`. -/
def batchCount (n f : Nat) : Nat := (n + f - 1) / f

theorem batchCount_le {n f m : Nat} (hf : 0 < f) (h : n ≤ m * f) : batchCount n f ≤ m := by
  apply Nat.le_of_lt_succ
  rw [batchCount, Nat.div_lt_iff_lt_mul hf, Nat.succ_mul]
  omega

theorem batchCount_mono {n f g : Nat} (hg : 0 < g) (h : g ≤ f) :
    batchCount n f ≤ batchCount n g := by
  apply batchCount_le (lt_of_lt_of_le hg h)
  have hcover : n ≤ batchCount n g * g := by
    have hdiv := Nat.div_add_mod (n + g - 1) g
    have hmod := Nat.mod_lt (n + g - 1) hg
    rw [batchCount, Nat.mul_comm]
    omega
  exact hcover.trans (Nat.mul_le_mul_left _ h)

/-- One more batch, which is as long as can be or the last. -/
theorem batchCount_step {n f : Nat} (hf : 0 < f) (hn : 0 < n) :
    batchCount n f = batchCount (n - min f n) f + 1 := by
  unfold batchCount
  by_cases h : f ≤ n
  · rw [Nat.min_eq_left h, ← Nat.add_div_right _ hf]
    congr 1
    omega
  · have hlast : n - min f n + f - 1 = f - 1 := by omega
    rw [hlast, Nat.div_eq_of_lt (by omega : f - 1 < f)]
    exact Nat.div_eq_of_lt_le (by omega) (by omega)

/-- The size that spreads the policies over `MAX_BATCH_COUNT` batches. -/
theorem dynamicBatchSize_le (policyCount : UInt32) :
    policyCount.toNat ≤ MAX_BATCH_COUNT.toNat *
      (if policyCount &&& (MAX_BATCH_COUNT - 1) ≠ 0 then policyCount >>> MAX_BATCH_COUNT_SHIFT + 1
        else policyCount >>> MAX_BATCH_COUNT_SHIFT).toNat := by
  have hlt := policyCount.toNat_lt
  have hmax : MAX_BATCH_COUNT.toNat = 32 := rfl
  have hshift : (policyCount >>> MAX_BATCH_COUNT_SHIFT).toNat = policyCount.toNat / 32 := by
    rw [UInt32.toNat_shiftRight, Nat.shiftRight_eq_div_pow]
    rfl
  have hmask : (policyCount &&& (MAX_BATCH_COUNT - 1)).toNat = policyCount.toNat % 32 := by
    rw [UInt32.toNat_and]
    exact Nat.and_two_pow_sub_one_eq_mod policyCount.toNat 5
  split
  case isTrue =>
    have hone : (1 : UInt32).toNat = 1 := rfl
    rw [UInt32.toNat_add, hshift, hmax, hone]
    omega
  case isFalse h =>
    have hzero : policyCount.toNat % 32 = 0 := by
      rw [← hmask, not_not.mp h]
      rfl
    rw [hshift, hmax]
    omega

/-- The size of a batch, and how many there are. -/
structure BatchSize (n batchSize f : Nat) : Prop where
  pos : 0 < f
  asked : 0 < batchSize → batchCount n f ≤ max 1 (batchCount n batchSize)
  most : 0 < batchSize → batchCount n f ≤ MAX_BATCH_COUNT.toNat

theorem BatchSize.max {n batchSize f : Nat} (hbatch : 0 < batchSize)
    (hspread : n ≤ MAX_BATCH_COUNT.toNat * f) : BatchSize n batchSize (max batchSize f) where
  pos := lt_of_lt_of_le hbatch (le_max_left _ _)
  asked _ := le_max_of_le_right (batchCount_mono hbatch (le_max_left _ _))
  most _ := by
    apply batchCount_le (lt_of_lt_of_le hbatch (le_max_left _ _))
    exact hspread.trans (Nat.mul_le_mul_left _ (le_max_right _ _))

theorem calculateBatchSize_spec {policyCount : UInt32} (h : 0 < policyCount.toNat)
    (batchSize : UInt32) :
    BatchSize policyCount.toNat batchSize.toNat (calculateBatchSize policyCount batchSize).toNat := by
  unfold calculateBatchSize
  by_cases hzero : batchSize = 0
  · subst hzero
    exact ⟨Nat.one_pos, fun h => absurd h (lt_irrefl 0), fun h => absurd h (lt_irrefl 0)⟩
  rw [if_neg hzero]
  by_cases hone : policyCount ≤ batchSize
  · rw [if_pos hone]
    have hcount : batchCount policyCount.toNat policyCount.toNat ≤ 1 :=
      batchCount_le h (Nat.one_mul _).ge
    exact ⟨h, fun _ => le_max_of_le_left hcount, fun _ => hcount.trans (by decide)⟩
  · rw [if_neg hone, toNat_max]
    have hbatch : 0 < batchSize.toNat :=
      Nat.pos_of_ne_zero fun hz => hzero (UInt32.toNat.inj hz)
    exact .max hbatch (dynamicBatchSize_le policyCount)

/-! ### The loop -/

section
variable {σ R : Type}

theorem storeAt_append (batchResult done pad : List R) (h : batchResult.length ≤ pad.length) :
    storeAt done.length batchResult (done ++ pad) =
      done ++ batchResult ++ pad.drop batchResult.length := by
  induction batchResult generalizing done pad with
  | nil => rw [storeAt, List.append_nil, List.length_nil, List.drop_zero]
  | cons r batchResult ih =>
    cases pad with
    | nil => exact absurd h (Nat.not_succ_le_zero _)
    | cons p pad =>
      have hset : (done ++ p :: pad).set done.length r = (done ++ [r]) ++ pad := by
        rw [List.set_append_right _ _ le_rfl, Nat.sub_self, List.set_cons_zero, List.append_assoc,
          List.singleton_append]
      have hlength : done.length + 1 = (done ++ [r]).length := by
        rw [List.length_append, List.length_singleton]
      rw [storeAt, hset, hlength, ih _ _ (Nat.le_of_succ_le_succ h), List.append_assoc done,
        List.singleton_append, List.length_cons, List.drop_succ_cons]

theorem length_resize (result : List R) (n : Nat) (defaultValue : R) :
    (resize result n defaultValue).length = n := by
  rw [resize, List.length_append, List.length_take, List.length_replicate]
  omega

/-- The first `index` policies are done, each on its own. -/
structure Done (f : RawPolicyInfo → R) (policies : List RawPolicyInfo) (index : Nat)
    (run : BatchRun σ R) : Prop where
  stored : ∃ pad, run.result = (policies.take index).map f ++ pad ∧
    pad.length = policies.length - index
  handed : run.batches.flatten = policies.take index
  writes : run.writes = List.range index

variable {f : RawPolicyInfo → R} {policies : List RawPolicyInfo} {index n : Nat}
  {run : BatchRun σ R}

theorem Done.step (h : Done f policies index run) {globalIndex : UInt32}
    (hindex : globalIndex.toNat = index) (hn : index + n ≤ policies.length) (state : σ) :
    Done f policies (index + n)
      ({ run with
          state
          batches := run.batches ++ [(policies.drop index).take n] }.store globalIndex
        (((policies.drop index).take n).map f)) := by
  obtain ⟨pad, hresult, hpad⟩ := h.stored
  have hbatch : ((policies.drop index).take n).length = n := by
    rw [List.length_take, List.length_drop]
    omega
  have hdone : ((policies.take index).map f).length = index := by
    rw [List.length_map, List.length_take]
    omega
  have hfits : (((policies.drop index).take n).map f).length ≤ pad.length := by
    rw [List.length_map, hbatch, hpad]
    omega
  constructor
  · refine ⟨pad.drop n, ?_, ?_⟩
    · show storeAt globalIndex.toNat _ run.result = _
      have hstore := storeAt_append _ ((policies.take index).map f) pad hfits
      rw [hdone, List.length_map, hbatch] at hstore
      rw [hindex, hresult, hstore, List.take_add, List.map_append]
    · rw [List.length_drop, hpad]
      omega
  · show (run.batches ++ [_]).flatten = _
    rw [List.flatten_append, List.flatten_singleton, h.handed, List.take_add]
  · show run.writes ++ List.range' globalIndex.toNat _ = _
    rw [h.writes, hindex, List.length_map, hbatch, List.range_eq_range', List.range_eq_range']
    have hjoin := List.range'_append_1 (s := 0) (m := index) (n := n)
    rw [Nat.zero_add] at hjoin
    exact hjoin

/-- The reader stands before the policies from `index` on. -/
structure Ahead (policies : List RawPolicyInfo) (index : Nat) (reader : PolicyVecBatchReader) :
    Prop where
  valid : reader.isValid = true
  ahead : ∃ l rest, CursorAt reader.cursor l ∧
    times (policies.length - index) batchRecord l = some (policies.drop index, rest)

theorem Ahead.next {reader : PolicyVecBatchReader} (h : Ahead policies index reader)
    {count : UInt32} (hcount : count.toNat ≤ policies.length - index) :
    ∃ reader', reader.readNextBatch count =
        ((policies.drop index).take count.toNat, some reader') ∧
      Ahead policies (index + count.toNat) reader' := by
  obtain ⟨l, rest, hat, hread⟩ := h.ahead
  obtain ⟨left, hbatch, hlater⟩ := times_split hread hcount
  obtain ⟨cursor, hnext, hat'⟩ := readNextBatch_some h.valid hat hbatch
  refine ⟨{ reader with cursor }, hnext, h.valid, left, rest, hat', ?_⟩
  rw [← List.drop_drop, ← Nat.sub_sub]
  exact hlater

variable {policyCount globalIndex : UInt32} {reader reader' : PolicyVecBatchReader}
  {processFunc : ProcessFunc σ R} {batch : List RawPolicyInfo} (finalBatchSize : UInt32)

/-- The size of the next batch. -/
theorem toNat_currentBatchSize (h : globalIndex < policyCount) :
    (min finalBatchSize (policyCount - globalIndex)).toNat =
      min finalBatchSize.toNat (policyCount.toNat - globalIndex.toNat) := by
  rw [toNat_min, UInt32.toNat_sub_of_le _ _ (UInt32.le_of_lt h)]

theorem toNat_globalIndex (h : globalIndex < policyCount) :
    (globalIndex + min finalBatchSize (policyCount - globalIndex)).toNat =
      globalIndex.toNat + min finalBatchSize.toNat (policyCount.toNat - globalIndex.toNat) := by
  have hlt := UInt32.lt_iff_toNat_lt.mp h
  have hbound := policyCount.toNat_lt
  rw [UInt32.toNat_add, toNat_currentBatchSize finalBatchSize h]
  exact Nat.mod_eq_of_lt (by omega)

/-! One turn of the loop. -/

theorem batchLoop_end (fuel : Nat) (h : ¬ globalIndex < policyCount) :
    batchLoop processFunc policyCount finalBatchSize (fuel + 1) reader globalIndex run =
      some { run with ret := .SANDBOX_MANAGER_OK } := if_neg h

theorem batchLoop_unread (fuel : Nat) (h : globalIndex < policyCount)
    (hnext : (reader.readNextBatch (min finalBatchSize (policyCount - globalIndex))).2 = none) :
    batchLoop processFunc policyCount finalBatchSize (fuel + 1) reader globalIndex run =
      some { run with ret := .SANDBOX_MANAGER_SERVICE_PARCEL_ERR } := by
  cases hresult : reader.readNextBatch (min finalBatchSize (policyCount - globalIndex)) with
  | mk batch next =>
    rw [hresult] at hnext
    obtain rfl : next = none := hnext
    simp only [batchLoop, h, if_true, hresult]

theorem batchLoop_next (fuel : Nat) (h : globalIndex < policyCount)
    (hnext : reader.readNextBatch (min finalBatchSize (policyCount - globalIndex)) =
      (batch, some reader')) :
    batchLoop processFunc policyCount finalBatchSize (fuel + 1) reader globalIndex run =
      if (processFunc run.state batch).1.1 ≠ .SANDBOX_MANAGER_OK then
        some { run with
          ret := (processFunc run.state batch).1.1
          state := (processFunc run.state batch).2
          batches := run.batches ++ [batch] }
      else
        batchLoop processFunc policyCount finalBatchSize fuel reader'
          (globalIndex + min finalBatchSize (policyCount - globalIndex))
          ({ run with
              state := (processFunc run.state batch).2
              batches := run.batches ++ [batch] }.store globalIndex
            (processFunc run.state batch).1.2) := by
  simp only [batchLoop, h, if_true, hnext]

variable {finalBatchSize}

/-- The loop goes through: every policy is done, in as few batches as their size allows. -/
theorem batchLoop_some
    (hpointwise : ∀ state batch, (processFunc state batch).1 = (.SANDBOX_MANAGER_OK, batch.map f))
    (hsize : 0 < finalBatchSize.toNat) (hcount : policies.length = policyCount.toNat)
    (hahead : Ahead policies globalIndex.toNat reader)
    (hdone : Done f policies globalIndex.toNat run) (hle : globalIndex ≤ policyCount)
    {fuel : Nat} (hfuel : policyCount.toNat - globalIndex.toNat < fuel) :
    ∃ run', batchLoop processFunc policyCount finalBatchSize fuel reader globalIndex run =
        some run' ∧ run'.ret = .SANDBOX_MANAGER_OK ∧ Done f policies policyCount.toNat run' ∧
      run'.batches.length = run.batches.length +
        batchCount (policyCount.toNat - globalIndex.toNat) finalBatchSize.toNat := by
  induction fuel generalizing reader globalIndex run with
  | zero => exact absurd hfuel (Nat.not_lt_zero _)
  | succ fuel ih =>
    by_cases hmore : globalIndex < policyCount
    case neg =>
      obtain rfl : globalIndex = policyCount :=
        UInt32.le_antisymm hle (UInt32.not_lt.mp hmore)
      refine ⟨_, batchLoop_end finalBatchSize fuel hmore, rfl, ?_, ?_⟩
      · exact ⟨hdone.stored, hdone.handed, hdone.writes⟩
      · have hnone : batchCount 0 finalBatchSize.toNat = 0 := Nat.div_eq_of_lt (by omega)
        rw [Nat.sub_self, hnone, Nat.add_zero]
    have hlt := UInt32.lt_iff_toNat_lt.mp hmore
    have hcurrent := toNat_currentBatchSize finalBatchSize hmore
    have hindex := toNat_globalIndex finalBatchSize hmore
    have hleft : (min finalBatchSize (policyCount - globalIndex)).toNat ≤
        policies.length - globalIndex.toNat := by omega
    obtain ⟨reader', hnext, hahead'⟩ := hahead.next hleft
    rw [hcurrent] at hnext hahead'
    have hanswer := hpointwise run.state ((policies.drop globalIndex.toNat).take
      (min finalBatchSize.toNat (policyCount.toNat - globalIndex.toNat)))
    have hdone' := hdone.step
      (n := min finalBatchSize.toNat (policyCount.toNat - globalIndex.toNat)) rfl (by omega)
      (processFunc run.state ((policies.drop globalIndex.toNat).take
        (min finalBatchSize.toNat (policyCount.toNat - globalIndex.toNat)))).2
    rw [← hindex] at hahead' hdone'
    obtain ⟨run', hloop, hret, hall, hlength⟩ := ih hahead' hdone'
      (UInt32.le_iff_toNat_le.mpr (by omega)) (by omega)
    refine ⟨run', ?_, hret, hall, ?_⟩
    · rw [batchLoop_next finalBatchSize fuel hmore hnext, hanswer, if_neg (not_not.mpr rfl)]
      exact hloop
    · have hleft : policyCount.toNat -
            (globalIndex + min finalBatchSize (policyCount - globalIndex)).toNat =
          policyCount.toNat - globalIndex.toNat -
            min finalBatchSize.toNat (policyCount.toNat - globalIndex.toNat) := by omega
      rw [hlength, hleft, batchCount_step hsize (Nat.sub_pos_of_lt hlt)]
      show (run.batches ++ [_]).length + _ = _
      rw [List.length_append, List.length_singleton]
      omega

/-- A record that is not there stops the loop, whatever is made of those before it. -/
theorem batchLoop_none (hsize : 0 < finalBatchSize.toNat) {l : Bytes}
    (hvalid : reader.isValid = true) (hat : CursorAt reader.cursor l)
    (hread : times (policyCount.toNat - globalIndex.toNat) batchRecord l = none)
    {fuel : Nat} (hfuel : policyCount.toNat - globalIndex.toNat < fuel) :
    ∃ run', batchLoop processFunc policyCount finalBatchSize fuel reader globalIndex run =
      some run' ∧ run'.ret ≠ .SANDBOX_MANAGER_OK := by
  induction fuel generalizing reader globalIndex run l with
  | zero => exact absurd hfuel (Nat.not_lt_zero _)
  | succ fuel ih =>
    by_cases hmore : globalIndex < policyCount
    case neg =>
      have hend : policyCount.toNat - globalIndex.toNat = 0 :=
        Nat.sub_eq_zero_of_le (UInt32.le_iff_toNat_le.mp (UInt32.not_lt.mp hmore))
      rw [hend] at hread
      cases hread
    have hlt := UInt32.lt_iff_toNat_lt.mp hmore
    have hcurrent := toNat_currentBatchSize finalBatchSize hmore
    have hindex := toNat_globalIndex finalBatchSize hmore
    have hsplit : policyCount.toNat - globalIndex.toNat =
        (min finalBatchSize (policyCount - globalIndex)).toNat + (policyCount.toNat -
          (globalIndex + min finalBatchSize (policyCount - globalIndex)).toNat) := by omega
    rw [hsplit, times_add] at hread
    cases hfirst : times (min finalBatchSize (policyCount - globalIndex)).toNat batchRecord l with
    | none =>
      have hnext := readNextBatch_none hvalid hat hfirst
      exact ⟨_, batchLoop_unread finalBatchSize fuel hmore hnext, ErrCode.noConfusion⟩
    | some first =>
      obtain ⟨batch, left⟩ := first
      obtain ⟨cursor, hnext, hat'⟩ := readNextBatch_some hvalid hat hfirst
      rw [hfirst, Option.bind_some, Option.map_eq_none_iff] at hread
      rw [batchLoop_next finalBatchSize fuel hmore hnext]
      by_cases hret : (processFunc run.state batch).1.1 ≠ .SANDBOX_MANAGER_OK
      · exact ⟨_, if_pos hret, hret⟩
      · rw [if_neg hret]
        exact ih hvalid hat' hread (by omega)

/-- What a request comes to whose batches are handled one policy at a time. -/
structure Pointwise (f : RawPolicyInfo → R) (policies : List RawPolicyInfo) (batchSize : UInt32)
    (run : BatchRun σ R) : Prop where
  ret : run.ret = .SANDBOX_MANAGER_OK
  result : run.result = policies.map f
  handed : run.batches.flatten = policies
  writes : run.writes = List.range policies.length
  asked : 0 < batchSize.toNat →
    run.batches.length ≤ max 1 (batchCount policies.length batchSize.toNat)
  most : 0 < batchSize.toNat → run.batches.length ≤ MAX_BATCH_COUNT.toNat

section
variable {raw : PolicyVecRawData} (result : List R) (batchSize : UInt32) (defaultValue : R)
  (state : σ)

/-- A buffer that reads on to its end starts the loop before its first policy. -/
theorem ofRawData_ahead {rest : Bytes} (h : policyVec raw.data = some (policies, rest)) :
    Ahead (policies.map RawPolicyInfo.truncated) (0 : UInt32).toNat
        (PolicyVecBatchReader.ofRawData raw) ∧
      (PolicyVecBatchReader.ofRawData raw).policyCount.toNat = policies.length := by
  obtain ⟨⟨count, left⟩, hcount, hread⟩ := Option.bind_eq_some_iff.mp h
  obtain ⟨cursor, hreader, hat⟩ := ofRawData_eq hcount
  by_cases hmax : ofLe32 count > POLICY_VEC_MAX_NUM
  case pos => rw [if_pos hmax] at hread; cases hread
  rw [if_neg hmax] at hread
  have hlength := length_times hread
  have hbatch : times (ofLe32 count).toNat batchRecord left =
      some (policies.map RawPolicyInfo.truncated, rest) := by
    rw [batchRecord, times_map, hread]
    rfl
  rw [hreader]
  refine ⟨⟨decide_eq_true hmax, left, rest, hat, ?_⟩, hlength.symm⟩
  rw [List.length_map, hlength]
  exact hbatch

theorem Done.start (h : policies.length = n) :
    Done f policies (0 : UInt32).toNat
      { ret := .SANDBOX_MANAGER_OK, result := resize result n defaultValue, state } where
  stored := ⟨resize result n defaultValue, rfl, by rw [length_resize, h]; rfl⟩
  handed := rfl
  writes := rfl

theorem processPolicyBatch_loop
    (hvalid : (PolicyVecBatchReader.ofRawData raw).isValid = true)
    (hcount : 0 < (PolicyVecBatchReader.ofRawData raw).policyCount.toNat) :
    processPolicyBatch raw result processFunc batchSize defaultValue state =
      batchLoop processFunc (PolicyVecBatchReader.ofRawData raw).policyCount
        (calculateBatchSize (PolicyVecBatchReader.ofRawData raw).policyCount batchSize)
        ((PolicyVecBatchReader.ofRawData raw).policyCount.toNat + 1)
        (PolicyVecBatchReader.ofRawData raw) 0
        { ret := .SANDBOX_MANAGER_OK
          result := resize result (PolicyVecBatchReader.ofRawData raw).policyCount.toNat defaultValue
          state } := by
  have hsome : (PolicyVecBatchReader.ofRawData raw).policyCount ≠ 0 := by
    intro hzero
    rw [hzero] at hcount
    exact lt_irrefl 0 hcount
  simp only [processPolicyBatch, hvalid, hsome, Bool.not_true, Bool.false_eq_true, if_false]

theorem processPolicyBatch_some {rest : Bytes} (h : policyVec raw.data = some (policies, rest))
    (hpos : policies ≠ [])
    (hpointwise : ∀ state batch, (processFunc state batch).1 = (.SANDBOX_MANAGER_OK, batch.map f)) :
    ∃ run, processPolicyBatch raw result processFunc batchSize defaultValue state = some run ∧
      Pointwise f (policies.map RawPolicyInfo.truncated) batchSize run := by
  obtain ⟨hahead, hcount⟩ := ofRawData_ahead h
  have hlength : 0 < (PolicyVecBatchReader.ofRawData raw).policyCount.toNat := by
    rw [hcount]
    exact List.length_pos_of_ne_nil hpos
  have hsize := calculateBatchSize_spec hlength batchSize
  have hall : (policies.map RawPolicyInfo.truncated).length =
      (PolicyVecBatchReader.ofRawData raw).policyCount.toNat := by rw [List.length_map, hcount]
  obtain ⟨run, hloop, hret, hdone, hbatches⟩ := batchLoop_some hpointwise hsize.pos hall hahead
    (Done.start result defaultValue state hall) UInt32.zero_le (Nat.lt_succ_self _)
  rw [← hall] at hdone
  obtain ⟨pad, hresult, hpad⟩ := hdone.stored
  have hwhole := hdone.handed
  rw [List.take_length] at hresult hwhole
  rw [Nat.sub_self] at hpad
  rw [List.eq_nil_of_length_eq_zero hpad, List.append_nil] at hresult
  have hused : run.batches.length = batchCount (policies.map RawPolicyInfo.truncated).length
      (calculateBatchSize (PolicyVecBatchReader.ofRawData raw).policyCount batchSize).toNat := by
    rw [hbatches, hall]
    exact Nat.zero_add _
  refine ⟨run, ?_, hret, hresult, hwhole, hdone.writes, ?_, ?_⟩
  · rw [processPolicyBatch_loop _ _ _ _ hahead.valid hlength]
    exact hloop
  · rw [hused, hall]
    exact hsize.asked
  · rw [hused, hall]
    exact hsize.most

theorem processPolicyBatch_none (h : policyVec raw.data = none) :
    ∃ run, processPolicyBatch raw result processFunc batchSize defaultValue state = some run ∧
      run.ret ≠ .SANDBOX_MANAGER_OK := by
  by_cases hvalid : (PolicyVecBatchReader.ofRawData raw).isValid = true
  case neg =>
    refine ⟨{ ret := .SANDBOX_MANAGER_SERVICE_PARCEL_ERR, result, state }, ?_, ErrCode.noConfusion⟩
    rw [processPolicyBatch, eq_false_of_ne_true hvalid]
    rfl
  by_cases hzero : (PolicyVecBatchReader.ofRawData raw).policyCount = 0
  case pos =>
    refine ⟨{ ret := .INVALID_PARAMTER, result, state }, ?_, ErrCode.noConfusion⟩
    simp only [processPolicyBatch, hvalid, hzero, Bool.not_true, Bool.false_eq_true, if_false,
      if_true]
  have hcount : 0 < (PolicyVecBatchReader.ofRawData raw).policyCount.toNat :=
    Nat.pos_of_ne_zero fun hz => hzero (UInt32.toNat.inj hz)
  have hsize := calculateBatchSize_spec hcount batchSize
  rw [processPolicyBatch_loop _ _ _ _ hvalid hcount]
  cases hfirst : take 4 raw.data with
  | none =>
    rw [ofRawData_invalid hfirst] at hvalid
    cases hvalid
  | some first =>
    obtain ⟨count, left⟩ := first
    obtain ⟨cursor, hreader, hat⟩ := ofRawData_eq hfirst
    rw [policyVec, hfirst, Option.bind_some] at h
    rw [hreader] at hvalid hsize ⊢
    rw [if_neg (of_decide_eq_true hvalid)] at h
    have hbatch : times ((ofLe32 count).toNat - (0 : UInt32).toNat) batchRecord left = none := by
      show times (ofLe32 count).toNat batchRecord left = none
      rw [batchRecord, times_map, h]
      rfl
    exact batchLoop_none hsize.pos hvalid hat hbatch (Nat.lt_succ_self _)

/-- **A request in batches is a request at once**: a function that answers each policy on its own
is asked about every policy of the buffer, in order, and each answer is stored once in its place,
whatever the size of a batch. Only a buffer that can be read to its last record is answered with
success. -/
theorem processPolicyBatch_pointwise :
    (∀ rest, policyVec raw.data = some (policies, rest) → policies ≠ [] →
      (∀ state batch, (processFunc state batch).1 = (.SANDBOX_MANAGER_OK, batch.map f)) →
        ∃ run, processPolicyBatch raw result processFunc batchSize defaultValue state = some run ∧
          Pointwise f (policies.map RawPolicyInfo.truncated) batchSize run) ∧
      (policyVec raw.data = none →
        ∃ run, processPolicyBatch raw result processFunc batchSize defaultValue state = some run ∧
          run.ret ≠ .SANDBOX_MANAGER_OK) :=
  ⟨fun _ => processPolicyBatch_some result batchSize defaultValue state,
    processPolicyBatch_none result batchSize defaultValue state⟩

/-- Two policies in batches of one, counted and read by their mode, and a buffer that announces one
and has none. -/
theorem processPolicyBatch_pointwise_two :
    (∃ run, processPolicyBatch
        (marshalling [⟨bytes "/a", 1, 0⟩, ⟨bytes "/b", 2, 0⟩]) [] (fun calls batch =>
          ((.SANDBOX_MANAGER_OK, batch.map RawPolicyInfo.mode), calls + 1)) 1 7 0 = some run ∧
      Pointwise RawPolicyInfo.mode [⟨bytes "/a", 1, 0⟩, ⟨bytes "/b", 2, 0⟩] 1 run) ∧
    ∃ run, processPolicyBatch ⟨[1, 0, 0, 0], by decide⟩ [] (fun calls batch =>
        ((.SANDBOX_MANAGER_OK, batch.map RawPolicyInfo.mode), calls + 1)) 1 7 0 = some run ∧
      run.ret ≠ .SANDBOX_MANAGER_OK :=
  ⟨(processPolicyBatch_pointwise (σ := Nat) [] 1 7 0).1 []
      (PolicyVec.reads_marshalling
        ⟨[⟨bytes "/a", 1, 0⟩, ⟨bytes "/b", 2, 0⟩], by decide +kernel, by decide +kernel⟩)
      (List.cons_ne_nil _ _) fun _ _ => rfl,
    (@processPolicyBatch_pointwise Nat UInt64 RawPolicyInfo.mode [] _ _ [] 1 7 0).2
      (by decide +kernel)⟩

end

end

end SandboxManager.Policy
