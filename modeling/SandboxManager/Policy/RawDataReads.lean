import SandboxManager.Policy.RawData

/-! The two ways to read a buffer of policies accept the same buffers.

Both follow one format (`policyVec`): a number, and so many records. The stream follows it with a
position and 32-bit arithmetic on it, the batch reader with a pointer and a size, and cutting the
number into batches cuts the records in the same places. They differ in what they make of a NUL
within a path. -/
namespace SandboxManager.Policy
open Library Claw Reader

/-! ### The format -/

def record : Reader UInt8 RawPolicyInfo := do
  let pathLen ← take 4
  let path ← take (ofLe32 pathLen).toNat
  let mode ← take 8
  let type ← take 4
  return ⟨path, ofLe64 mode, ofLe32 type⟩

/-- What is read of a buffer that has so many policies as it says. -/
def policyVec (data : Bytes) : Option (List RawPolicyInfo × Bytes) :=
  (take 4 data).bind fun count =>
    if ofLe32 count.1 > POLICY_VEC_MAX_NUM then none
    else times (ofLe32 count.1).toNat record count.2

theorem ofLe64_u64Le (n : UInt64) : ofLe64 (u64Le n) = n := by
  show UInt64.ofNat ((ofLe32 (toLe32 n.toUInt32)).toNat +
    (ofLe32 (toLe32 (n >>> 32).toUInt32)).toNat * 4294967296) = n
  rw [ofLe32_toLe32, ofLe32_toLe32, doubleWord_eq]

theorem reads_serialize {policy : RawPolicyInfo} (h : policy.path.length < 2 ^ 32) :
    Reads record policy.serialize policy := by
  have hlen : (UInt32.ofNat policy.path.length).toNat = policy.path.length := toNat_ofNat h
  rw [RawPolicyInfo.serialize, hlen, List.take_length]
  simp only [List.append_assoc]
  refine (Reads.take (toLe32 (UInt32.ofNat policy.path.length))).bind ?_
  rw [ofLe32_toLe32, hlen]
  refine (Reads.take policy.path).bind ((Reads.take (u64Le policy.mode)).bind ?_)
  have htype := (Reads.take (toLe32 policy.type)).bind_pure fun type =>
    (⟨policy.path, ofLe64 (u64Le policy.mode), ofLe32 type⟩ : RawPolicyInfo)
  rw [ofLe64_u64Le, ofLe32_toLe32] at htype
  rw [ofLe64_u64Le]
  exact htype

/-! ### The stream -/

/-- A good stream, with the list left to be read. -/
structure StreamAt (content : Bytes) (ss : StringStream) (l : Bytes) : Prop where
  written : ss.content = content
  next : ss.next ≤ content.length
  left : content.drop ss.next = l
  failbit : ss.failbit = false
  eofbit : ss.eofbit = false

theorem StreamAt.length {content l : Bytes} {ss : StringStream} (h : StreamAt content ss l) :
    l.length = content.length - ss.next := by
  rw [← h.left, List.length_drop]

theorem fetch_follows (content : Bytes) (n : Nat) :
    Decoder.Follows (StreamAt content) (fetch n) (take n) where
  reads {ss l a rest} hat hread := by
    by_cases hn : n ≤ l.length
    case neg => rw [take, if_neg hn] at hread; cases hread
    rw [take, if_pos hn] at hread
    obtain ⟨rfl, rfl⟩ := Prod.mk.inj (Option.some.inj hread)
    have hlength := hat.length
    have hchars : ((ss.content.drop ss.next).take n) = l.take n := by rw [hat.written, hat.left]
    have htaken : (l.take n).length = n := by rw [List.length_take]; omega
    have hread : ss.read n = (l.take n, { ss with next := ss.next + n }) := by
      simp only [StringStream.read, hat.failbit, hat.eofbit, Bool.or_false, Bool.false_eq_true,
        if_false, hchars, htaken, lt_irrefl, decide_false]
    refine ⟨{ ss with next := ss.next + n }, ?_, ?_⟩
    · simp only [fetch, hread, hat.failbit, hat.eofbit, Bool.or_false, Bool.false_eq_true, if_false]
    · refine ⟨hat.written, ?_, ?_, hat.failbit, hat.eofbit⟩
      · show ss.next + n ≤ content.length
        have := hat.next
        omega
      · show content.drop (ss.next + n) = l.drop n
        rw [← List.drop_drop, hat.left]
  fails {ss l} hat hread := by
    have hn : ¬ n ≤ l.length := by
      intro hn
      rw [take, if_pos hn] at hread
      cases hread
    have hshort : ((ss.content.drop ss.next).take n).length < n := by
      rw [hat.written, hat.left, List.length_take]
      omega
    simp only [fetch, StringStream.read, hat.failbit, hat.eofbit, Bool.or_false,
      Bool.false_eq_true, if_false, hshort, decide_true, Bool.or_true, if_true]

theorem fetchPath_follows (raw : PolicyVecRawData) (n : UInt32) :
    Decoder.Follows (StreamAt raw.data) (fetchPath raw.size n) (take n.toNat) := by
  have hcheck : ∀ {ss l}, StreamAt raw.data ss l →
      (n > raw.size - UInt32.ofInt ss.tellg ↔ ¬ n.toNat ≤ l.length) := by
    intro ss l hat
    have hlength := hat.length
    have hnext := hat.next
    have hfits := raw.fits
    have hsize : raw.size.toNat = raw.data.length := toNat_ofNat hfits
    have htellg : (UInt32.ofInt ss.tellg).toNat = ss.next := by
      rw [StringStream.tellg, hat.failbit]
      show (UInt32.ofNat ((ss.next : Int) % 2 ^ 32).toNat).toNat = ss.next
      rw [UInt32.toNat_ofNat']
      omega
    have hleft : (raw.size - UInt32.ofInt ss.tellg).toNat = l.length := by
      rw [UInt32.toNat_sub_of_le, hsize, htellg, hlength]
      rw [UInt32.le_iff_toNat_le, hsize, htellg]
      exact hnext
    rw [gt_iff_lt, UInt32.lt_iff_toNat_lt, hleft, not_le]
  have hfetch := fetch_follows raw.data n.toNat
  constructor
  · intro ss l a rest hat hread
    have hn : n.toNat ≤ l.length := by
      by_contra hn
      rw [take, if_neg hn] at hread
      cases hread
    rw [fetchPath, if_neg fun h => (hcheck hat).mp h hn]
    exact hfetch.reads hat hread
  · intro ss l hat hread
    rw [fetchPath]
    split
    · rfl
    · exact hfetch.fails hat hread

theorem fetchPolicy_follows (raw : PolicyVecRawData) :
    Decoder.Follows (StreamAt raw.data) (fetchPolicy raw.size) record := by
  refine (fetch_follows raw.data 4).bind fun pathLen => ?_
  refine (fetchPath_follows raw (ofLe32 pathLen)).bind fun path => ?_
  refine (fetch_follows raw.data 8).bind fun mode => ?_
  exact (fetch_follows raw.data 4).bind fun type => .pure _

theorem streamAt_start (raw : PolicyVecRawData) :
    StreamAt raw.data { content := raw.data } raw.data :=
  ⟨rfl, Nat.zero_le _, rfl, rfl, rfl⟩

/-- `Unmarshalling` reads the format, and nothing else. -/
theorem unmarshalling_some {raw : PolicyVecRawData} {policies : List RawPolicyInfo} {rest : Bytes}
    (h : policyVec raw.data = some (policies, rest)) (out : List RawPolicyInfo) :
    unmarshalling raw out = (.SANDBOX_MANAGER_OK, out ++ policies) := by
  obtain ⟨⟨count, left⟩, hcount, hread⟩ := Option.bind_eq_some_iff.mp h
  obtain ⟨ss, hfetch, hat⟩ := (fetch_follows raw.data 4).reads (streamAt_start raw) hcount
  by_cases hmax : ofLe32 count > POLICY_VEC_MAX_NUM
  · rw [if_pos hmax] at hread
    cases hread
  · rw [if_neg hmax] at hread
    obtain ⟨ss', hloop, -⟩ := (fetchPolicy_follows raw).collect_reads hat hread out
    simp only [unmarshalling, hfetch, hmax, if_false, hloop]

theorem unmarshalling_none {raw : PolicyVecRawData} (h : policyVec raw.data = none)
    (out : List RawPolicyInfo) :
    (unmarshalling raw out).1 = .SANDBOX_MANAGER_SERVICE_PARCEL_ERR := by
  rw [policyVec, Option.bind_eq_none_iff] at h
  cases hcount : take 4 raw.data with
  | none => simp only [unmarshalling, (fetch_follows raw.data 4).fails (streamAt_start raw) hcount]
  | some first =>
    obtain ⟨count, left⟩ := first
    obtain ⟨ss, hfetch, hat⟩ := (fetch_follows raw.data 4).reads (streamAt_start raw) hcount
    have hread := h _ hcount
    by_cases hmax : ofLe32 count > POLICY_VEC_MAX_NUM
    · simp only [unmarshalling, hfetch, hmax, if_true]
    · rw [if_neg hmax] at hread
      have hfails := (fetchPolicy_follows raw).collect_fails hat hread out
      simp only [unmarshalling, hfetch, hmax, if_false]
      split
      case h_1 => rfl
      case h_2 hloop =>
        rw [hloop] at hfails
        cases hfails

/-! ### The cursor -/

/-- What the pointer points at, and its size. -/
structure CursorAt (cursor : Cursor) (l : Bytes) : Prop where
  dataPtr : cursor.dataPtr = l
  remainingSize : cursor.remainingSize.toNat = l.length

theorem CursorAt.advance {cursor : Cursor} {l : Bytes} (h : CursorAt cursor l) {n : UInt32}
    (hn : n.toNat ≤ l.length) : CursorAt (cursor.advance n) (l.drop n.toNat) := by
  constructor
  · show cursor.dataPtr.drop n.toNat = l.drop n.toNat
    rw [h.dataPtr]
  · show (cursor.remainingSize - n).toNat = (l.drop n.toNat).length
    rw [UInt32.toNat_sub_of_le, h.remainingSize, List.length_drop]
    rw [UInt32.le_iff_toNat_le, h.remainingSize]
    exact hn

theorem readTo_follows (n : UInt32) : Decoder.Follows CursorAt (readTo n) (take n.toNat) where
  reads {cursor l a rest} hat hread := by
    by_cases hn : n.toNat ≤ l.length
    case neg => rw [take, if_neg hn] at hread; cases hread
    rw [take, if_pos hn] at hread
    obtain ⟨rfl, rfl⟩ := Prod.mk.inj (Option.some.inj hread)
    have henough : ¬ cursor.remainingSize < n := by
      rw [UInt32.lt_iff_toNat_lt, hat.remainingSize]
      omega
    refine ⟨cursor.advance n, ?_, hat.advance hn⟩
    rw [readTo, if_neg henough, hat.dataPtr]
  fails {cursor l} hat hread := by
    have hshort : cursor.remainingSize < n := by
      rw [UInt32.lt_iff_toNat_lt, hat.remainingSize]
      by_contra hn
      rw [take, if_pos (not_lt.mp hn)] at hread
      cases hread
    rw [readTo, if_pos hshort]

theorem readPath_follows (n : UInt32) :
    Decoder.Follows CursorAt (readPath n) (take n.toNat >>= fun path => pure (cStr path)) := by
  have hread : readPath n = readTo n >>= fun path => pure (cStr path) := by
    funext cursor
    rw [Decoder.bind_apply, readPath, readTo]
    by_cases hn : n > cursor.remainingSize
    · rw [if_pos hn, if_pos hn, Option.bind_none]
    · rw [if_neg hn, if_neg hn, Option.bind_some]
      rfl
  rw [hread]
  exact (readTo_follows n).bind fun path => .pure _

/-- The path up to its first NUL. -/
def RawPolicyInfo.truncated (policy : RawPolicyInfo) : RawPolicyInfo :=
  { policy with path := cStr policy.path }

theorem readPolicy_follows :
    Decoder.Follows CursorAt readPolicy (record >>= fun policy => pure policy.truncated) := by
  have hrecord : (record >>= fun policy => (pure policy.truncated : Reader UInt8 RawPolicyInfo)) =
      (do
        let pathLen ← take 4
        let path ← take (ofLe32 pathLen).toNat >>= fun path => pure (cStr path)
        let mode ← take 8
        let type ← take 4
        return ⟨path, ofLe64 mode, ofLe32 type⟩) := by
    funext l
    simp only [record, Reader.bind_apply, Option.bind_assoc]
    rfl
  rw [hrecord]
  refine (readTo_follows 4).bind fun pathLen => ?_
  refine (readPath_follows (ofLe32 pathLen)).bind fun path => ?_
  refine (readTo_follows 8).bind fun mode => ?_
  exact (readTo_follows 4).bind fun type => .pure _

/-! ### Batches -/

/-- Successive calls, until one fails: the policies of each, and whether all succeeded. -/
def PolicyVecBatchReader.readBatches (reader : PolicyVecBatchReader) :
    List UInt32 → List (List RawPolicyInfo) × Bool
  | [] => ([], reader.isValid)
  | count :: counts =>
    match reader.readNextBatch count with
    | (out, none) => ([out], false)
    | (out, some reader) =>
      let (outs, ok) := reader.readBatches counts
      (out :: outs, ok)

/-- How many policies so many batches are. -/
def total (counts : List UInt32) : Nat := (counts.map UInt32.toNat).sum

/-- What a batch is to be. -/
def batchRecord : Reader UInt8 RawPolicyInfo := record >>= fun policy => pure policy.truncated

section
variable {reader : PolicyVecBatchReader} {l rest : Bytes} {policies : List RawPolicyInfo}

theorem readNextBatch_some (hvalid : reader.isValid = true) (hat : CursorAt reader.cursor l)
    {count : UInt32} (hread : times count.toNat batchRecord l = some (policies, rest)) :
    ∃ cursor, reader.readNextBatch count = (policies, some { reader with cursor }) ∧
      CursorAt cursor rest := by
  obtain ⟨cursor, hloop, hat'⟩ := readPolicy_follows.collect_reads hat hread []
  refine ⟨cursor, ?_, hat'⟩
  rw [PolicyVecBatchReader.readNextBatch, hvalid, hloop]
  rfl

theorem readNextBatch_none (hvalid : reader.isValid = true) (hat : CursorAt reader.cursor l)
    {count : UInt32} (hread : times count.toNat batchRecord l = none) :
    (reader.readNextBatch count).2 = none := by
  have hloop := readPolicy_follows.collect_fails hat hread []
  cases hresult : readPolicy.collect count.toNat reader.cursor [] with
  | mk out cursor =>
    rw [hresult] at hloop
    obtain rfl : cursor = none := hloop
    rw [PolicyVecBatchReader.readNextBatch, hvalid, hresult]
    rfl

theorem readBatches_some (hvalid : reader.isValid = true) (hat : CursorAt reader.cursor l)
    {counts : List UInt32} (hread : times (total counts) batchRecord l = some (policies, rest)) :
    (reader.readBatches counts).2 = true ∧ (reader.readBatches counts).1.flatten = policies := by
  induction counts generalizing reader l policies with
  | nil =>
    obtain ⟨rfl, -⟩ : [] = policies ∧ l = rest := Prod.mk.inj (Option.some.inj hread)
    exact ⟨hvalid, rfl⟩
  | cons count counts ih =>
    rw [total, List.map_cons, List.sum_cons, times_add] at hread
    obtain ⟨⟨first, left⟩, hfirst, hmore⟩ := Option.bind_eq_some_iff.mp hread
    obtain ⟨⟨later, last⟩, hlater, heq⟩ := Option.map_eq_some_iff.mp hmore
    obtain ⟨rfl, rfl⟩ := Prod.mk.inj heq
    obtain ⟨cursor, hbatch, hat'⟩ := readNextBatch_some hvalid hat hfirst
    have hvalid' : ({ reader with cursor } : PolicyVecBatchReader).isValid = true := hvalid
    obtain ⟨hok, hflatten⟩ := ih hvalid' hat' hlater
    rw [PolicyVecBatchReader.readBatches, hbatch]
    exact ⟨hok, by rw [List.flatten_cons, hflatten]⟩

theorem readBatches_none (hvalid : reader.isValid = true) (hat : CursorAt reader.cursor l)
    {counts : List UInt32} (hread : times (total counts) batchRecord l = none) :
    (reader.readBatches counts).2 = false := by
  induction counts generalizing reader l with
  | nil => cases hread
  | cons count counts ih =>
    rw [total, List.map_cons, List.sum_cons, times_add] at hread
    rw [PolicyVecBatchReader.readBatches]
    cases hfirst : times count.toNat batchRecord l with
    | none =>
      have hbatch := readNextBatch_none hvalid hat hfirst
      cases hresult : reader.readNextBatch count with
      | mk out next =>
        rw [hresult] at hbatch
        obtain rfl : next = none := hbatch
        rfl
    | some first =>
      obtain ⟨policies, left⟩ := first
      obtain ⟨cursor, hbatch, hat'⟩ := readNextBatch_some hvalid hat hfirst
      have hvalid' : ({ reader with cursor } : PolicyVecBatchReader).isValid = true := hvalid
      rw [hfirst, Option.bind_some, Option.map_eq_none_iff] at hread
      rw [hbatch]
      exact ih hvalid' hat' hread

end

/-! ### The two together -/

theorem cursorAt_start (raw : PolicyVecRawData) : CursorAt ⟨raw.data, raw.size⟩ raw.data :=
  ⟨rfl, toNat_ofNat raw.fits⟩

/-- How the batch reader starts out. -/
theorem ofRawData_eq {raw : PolicyVecRawData} {count rest : Bytes}
    (h : take 4 raw.data = some (count, rest)) :
    ∃ cursor, PolicyVecBatchReader.ofRawData raw =
        ⟨cursor, ofLe32 count, ¬ ofLe32 count > POLICY_VEC_MAX_NUM⟩ ∧ CursorAt cursor rest := by
  obtain ⟨cursor, hread, hat⟩ := (readTo_follows 4).reads (cursorAt_start raw) h
  exact ⟨cursor, by rw [PolicyVecBatchReader.ofRawData, hread], hat⟩

theorem ofRawData_invalid {raw : PolicyVecRawData} (h : take 4 raw.data = none) :
    (PolicyVecBatchReader.ofRawData raw).isValid = false := by
  rw [PolicyVecBatchReader.ofRawData, (readTo_follows 4).fails (cursorAt_start raw) h]

/-- A reader that is not valid reads nothing. -/
theorem readBatches_invalid {reader : PolicyVecBatchReader} (h : reader.isValid = false)
    (counts : List UInt32) : (reader.readBatches counts).2 = false := by
  cases counts with
  | nil => exact h
  | cons count counts =>
    rw [PolicyVecBatchReader.readBatches, PolicyVecBatchReader.readNextBatch, h]
    rfl

/-- The number, and for each policy its fields and its path. -/
def totalSize (policies : List RawPolicyInfo) : Nat :=
  4 + (policies.map fun policy => 16 + policy.path.length).sum

/-- A list of policies that fits into a buffer. -/
structure PolicyVec where
  policies : List RawPolicyInfo
  count : policies.length ≤ POLICY_VEC_MAX_NUM.toNat
  fits : totalSize policies < 2 ^ 32

/-- The announced number, cut into batches. -/
structure BatchSplit (raw : PolicyVecRawData) where
  counts : List UInt32
  whole : total counts = (PolicyVecBatchReader.ofRawData raw).policyCount.toNat

/-- Reading in batches is reading at once, up to the first NUL of each path. -/
structure BatchesAgree (raw : PolicyVecRawData) (split : BatchSplit raw) : Prop where
  accepts : ((PolicyVecBatchReader.ofRawData raw).readBatches split.counts).2 = true ↔
    (unmarshalling raw []).1 = .SANDBOX_MANAGER_OK
  policies : (unmarshalling raw []).1 = .SANDBOX_MANAGER_OK →
    ((PolicyVecBatchReader.ofRawData raw).readBatches split.counts).1.flatten =
      (unmarshalling raw []).2.map RawPolicyInfo.truncated

theorem batchesAgree (raw : PolicyVecRawData) (split : BatchSplit raw) : BatchesAgree raw split := by
  have hrefused : policyVec raw.data = none →
      ((PolicyVecBatchReader.ofRawData raw).readBatches split.counts).2 = false →
        BatchesAgree raw split := by
    intro hnone hbatches
    have herror := unmarshalling_none hnone []
    constructor
    · rw [hbatches, herror]
      exact iff_of_false Bool.false_ne_true ErrCode.noConfusion
    · intro h
      rw [herror] at h
      cases h
  cases hcount : take 4 raw.data with
  | none =>
    apply hrefused
    · rw [policyVec, hcount, Option.bind_none]
    · exact readBatches_invalid (ofRawData_invalid hcount) _
  | some first =>
    obtain ⟨count, left⟩ := first
    obtain ⟨cursor, hreader, hat⟩ := ofRawData_eq hcount
    have hwhole := split.whole
    rw [hreader] at hwhole
    have hvec : policyVec raw.data =
        if ofLe32 count > POLICY_VEC_MAX_NUM then none
        else times (ofLe32 count).toNat record left := by
      rw [policyVec, hcount, Option.bind_some]
    by_cases hmax : ofLe32 count > POLICY_VEC_MAX_NUM
    · apply hrefused
      · rw [hvec, if_pos hmax]
      · apply readBatches_invalid
        rw [hreader]
        exact decide_eq_false (not_not.mpr hmax)
    · rw [if_neg hmax] at hvec
      have hvalid : (PolicyVecBatchReader.ofRawData raw).isValid = true := by
        rw [hreader]
        exact decide_eq_true hmax
      have hstart : CursorAt (PolicyVecBatchReader.ofRawData raw).cursor left := by
        rw [hreader]
        exact hat
      have hbatch : times (total split.counts) batchRecord left =
          (times (ofLe32 count).toNat record left).map fun p =>
            (p.1.map RawPolicyInfo.truncated, p.2) := by
        rw [hwhole]
        exact times_map ..
      cases hread : times (ofLe32 count).toNat record left with
      | none =>
        rw [hread] at hbatch hvec
        exact hrefused hvec (readBatches_none hvalid hstart hbatch)
      | some result =>
        rw [hread] at hbatch hvec
        obtain ⟨hok, hflatten⟩ := readBatches_some hvalid hstart hbatch
        have hdone := unmarshalling_some hvec []
        constructor
        · rw [hok, hdone]
          exact ⟨fun _ => rfl, fun _ => rfl⟩
        · intro _
          rw [hdone]
          exact hflatten

theorem PolicyVec.length_path (vec : PolicyVec) :
    ∀ policy ∈ vec.policies, policy.path.length < 2 ^ 32 := by
  intro policy hmem
  have hfits := vec.fits
  have hle : 16 + policy.path.length ≤
      (vec.policies.map fun policy => 16 + policy.path.length).sum :=
    List.le_sum_of_mem (List.mem_map_of_mem hmem)
  unfold totalSize at hfits
  omega

theorem RawPolicyInfo.length_serialize {policy : RawPolicyInfo} (h : policy.path.length < 2 ^ 32) :
    policy.serialize.length = 16 + policy.path.length := by
  rw [serialize, toNat_ofNat h, List.take_length]
  simp only [List.length_append]
  have hword : ∀ n, (toLe32 n).length = 4 := fun _ => rfl
  have hdouble : (u64Le policy.mode).length = 8 := rfl
  rw [hword, hword, hdouble]
  omega

theorem PolicyVec.serializedData_eq (vec : PolicyVec) :
    serializedData vec.policies =
      toLe32 (UInt32.ofNat vec.policies.length) ++ vec.policies.flatMap RawPolicyInfo.serialize := by
  have hcount := vec.count
  have hmax : POLICY_VEC_MAX_NUM.toNat = 300000 := rfl
  rw [serializedData, toNat_ofNat (by omega), List.take_length]

theorem PolicyVec.length_serializedData (vec : PolicyVec) :
    (serializedData vec.policies).length = totalSize vec.policies := by
  have hsizes : (vec.policies.map fun policy => policy.serialize.length) =
      vec.policies.map fun policy => 16 + policy.path.length := by
    apply List.map_congr_left
    intro policy hmem
    exact RawPolicyInfo.length_serialize (vec.length_path policy hmem)
  rw [vec.serializedData_eq, List.length_append, List.length_flatMap, hsizes]
  rfl

theorem PolicyVec.data_marshalling (vec : PolicyVec) :
    (marshalling vec.policies).data = serializedData vec.policies := by
  apply List.take_of_length_le
  rw [Nat.mod_eq_of_lt (vec.length_serializedData ▸ vec.fits)]

/-- A buffer that was written is in the format. -/
theorem PolicyVec.reads_marshalling (vec : PolicyVec) :
    policyVec (marshalling vec.policies).data = some (vec.policies, []) := by
  have hcount := vec.count
  have hmax : POLICY_VEC_MAX_NUM.toNat = 300000 := rfl
  have hnum : (UInt32.ofNat vec.policies.length).toNat = vec.policies.length :=
    toNat_ofNat (by omega)
  have hrecords : Reads (times vec.policies.length record)
      (vec.policies.flatMap RawPolicyInfo.serialize) (vec.policies.map id) :=
    Reads.times fun policy hmem => reads_serialize (vec.length_path policy hmem)
  have hread := hrecords []
  rw [List.map_id, List.append_nil] at hread
  have hfirst := Reads.take (toLe32 (UInt32.ofNat vec.policies.length))
    (vec.policies.flatMap RawPolicyInfo.serialize)
  have hlimit : ¬ UInt32.ofNat vec.policies.length > POLICY_VEC_MAX_NUM := by
    rw [gt_iff_lt, UInt32.lt_iff_toNat_lt, hnum]
    omega
  rw [vec.data_marshalling, vec.serializedData_eq, policyVec]
  show ((take (toLe32 (UInt32.ofNat vec.policies.length)).length _).bind _) = _
  rw [hfirst, Option.bind_some, ofLe32_toLe32, if_neg hlimit, hnum]
  exact hread

theorem unmarshalling_marshalling (vec : PolicyVec) :
    unmarshalling (marshalling vec.policies) [] = (.SANDBOX_MANAGER_OK, vec.policies) :=
  unmarshalling_some vec.reads_marshalling []

/-- **What is written is read back, and reading in batches is reading at once**, on every buffer
and however the number is cut. -/
theorem policyVec_reads :
    (∀ vec : PolicyVec,
      unmarshalling (marshalling vec.policies) [] = (.SANDBOX_MANAGER_OK, vec.policies)) ∧
      ∀ (raw : PolicyVecRawData) (split : BatchSplit raw), BatchesAgree raw split :=
  ⟨unmarshalling_marshalling, batchesAgree⟩

end SandboxManager.Policy
