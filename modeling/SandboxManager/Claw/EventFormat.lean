import SandboxManager.Claw.DeviceEvent

/-! Which device events are accepted.

A well-formed event is a header and so many bytes as it declares, tiled by tagged values
(`WellFormed`); what is rendered of it is one member for each value with a known tag. The parser
works on memory with offsets. It reads no further than the declared payload, where it does the
same as a parser of lists (`parsePayload`), and that one takes a payload apart as it is tiled. -/
namespace SandboxManager.Claw.DeviceEvent
open Library

/-! ### Well-formed events -/

structure Tlv where
  tag : UInt16
  value : Bytes
deriving DecidableEq, Repr

/-- The bytes are headers, each followed by as many bytes as it announces. -/
inductive Tiled : Bytes → List Tlv → Prop
  | nil : Tiled [] []
  | cons {raw value rest : Bytes} {tlvs : List Tlv} (hraw : raw.length = TLV_HEADER_LENGTH)
      (hvalue : value.length = (TlvHeader.decode raw).length.toNat) (hrest : Tiled rest tlvs) :
      Tiled (raw ++ value ++ rest) (⟨(TlvHeader.decode raw).tag, value⟩ :: tlvs)

/-- The numbers of a width; all of them are sent in eight bytes. -/
def TlvValueType.Fits : TlvValueType → Bytes → Prop
  | .STRING, _ => True
  | .UINT64, value => value.length = 8
  | .INT64, value => value.length = 8
  | .UINT32, value => value.length = 8 ∧ ofLe value < 2 ^ 32
  | .INT32, value => value.length = 8 ∧ -2 ^ 31 ≤ (Int64.ofNat (ofLe value)).toInt ∧
      (Int64.ofNat (ofLe value)).toInt < 2 ^ 31

def TlvValueType.item : TlvValueType → Bytes → Json
  | .STRING, value => .string (cStr value)
  | .UINT64, value => .string (decimal (ofLe value))
  | .INT64, value => .string (toDecimal (Int64.ofNat (ofLe value)).toInt)
  | .UINT32, value => .number (decimal (ofLe value))
  | .INT32, value => .number (toDecimal (Int64.ofNat (ofLe value)).toInt)

namespace Tlv

def Known (t : Tlv) : Prop := ∃ field ∈ TLV_FIELD_TABLE, field.tag = t.tag

/-- A known tag has a value its field may have. -/
def Sound (t : Tlv) : Prop :=
  ∀ field ∈ TLV_FIELD_TABLE, field.tag = t.tag →
    t.value.length ≤ field.maxLength.toNat ∧ field.type.Fits t.value

/-- What a value contributes: nothing when its tag is unknown. -/
def member (t : Tlv) : Option (Bytes × Json) :=
  (TLV_FIELD_TABLE.find? (·.tag == t.tag)).map fun field => (field.name, field.type.item t.value)

end Tlv

/-- No known tag comes twice. -/
def Once (tlvs : List Tlv) : Prop := tlvs.Pairwise fun t t' => t.Known → t.tag ≠ t'.tag

def eventHeader (data : Bytes) : DeviceEventHeader :=
  DeviceEventHeader.decode (data.take DEVICE_EVENT_HEADER_LENGTH)

/-- The end of the payload the header declares. -/
def declaredEnd (data : Bytes) : Nat := DEVICE_EVENT_HEADER_LENGTH + (eventHeader data).valLen.toNat

def eventPayload (data : Bytes) : Bytes :=
  (data.drop DEVICE_EVENT_HEADER_LENGTH).take (eventHeader data).valLen.toNat

def eventText (cJSON_PrintUnformatted : Json → Bytes) (data : Bytes) (tlvs : List Tlv) : Bytes :=
  cStr (cJSON_PrintUnformatted (eventRoot (eventHeader data) (tlvs.filterMap Tlv.member)))

structure WellFormed (cJSON_PrintUnformatted : Json → Bytes) (data : Bytes) (tlvs : List Tlv) :
    Prop where
  holdsHeader : DEVICE_EVENT_HEADER_LENGTH ≤ data.length
  version : (eventHeader data).version = DEVICE_EVENT_VERSION
  bounded : (eventHeader data).valLen.toNat ≤ MAX_DEVICE_EVENT_LENGTH - DEVICE_EVENT_HEADER_LENGTH
  arrived : declaredEnd data ≤ data.length
  tiled : Tiled (eventPayload data) tlvs
  once : Once tlvs
  sound : ∀ t ∈ tlvs, t.Sound
  printed : (eventText cJSON_PrintUnformatted data tlvs).length ≤ MAX_BODY_LENGTH

/-! ### The table -/

theorem tag_injective : ∀ i j : Fin TLV_FIELD_TABLE.length,
    (TLV_FIELD_TABLE.get i).tag = (TLV_FIELD_TABLE.get j).tag → i = j := by decide +kernel

theorem fieldBit_and_ne_zero : ∀ i j : Fin TLV_FIELD_TABLE.length,
    fieldBit i &&& fieldBit j ≠ 0 ↔ i = j := by decide +kernel

theorem findTlvField_eq_some_iff {tag : UInt16} {i : Fin TLV_FIELD_TABLE.length} :
    findTlvField tag = some i ↔ (TLV_FIELD_TABLE.get i).tag = tag := by
  rw [findTlvField, List.findFinIdx?_eq_some_iff]
  refine ⟨fun h => beq_iff_eq.mp h.1, fun h => ⟨beq_iff_eq.mpr h, fun j hj hjtag => ?_⟩⟩
  have heq := tag_injective j i ((beq_iff_eq.mp hjtag).trans h.symm)
  omega

theorem known_iff {t : Tlv} : t.Known ↔ ∃ i, findTlvField t.tag = some i := by
  simp [findTlvField_eq_some_iff, Tlv.Known, List.mem_iff_get]

theorem sound_iff {t : Tlv} {i : Fin TLV_FIELD_TABLE.length} (h : findTlvField t.tag = some i) :
    t.Sound ↔ t.value.length ≤ (TLV_FIELD_TABLE.get i).maxLength.toNat ∧
      (TLV_FIELD_TABLE.get i).type.Fits t.value := by
  rw [findTlvField_eq_some_iff] at h
  refine ⟨fun hsound => hsound _ (List.get_mem ..) h, fun hi field hfield htag => ?_⟩
  obtain ⟨j, rfl⟩ := List.mem_iff_get.mp hfield
  rwa [tag_injective j i (htag.trans h.symm)]

theorem member_eq (t : Tlv) : t.member = (findTlvField t.tag).map fun i =>
    ((TLV_FIELD_TABLE.get i).name, (TLV_FIELD_TABLE.get i).type.item t.value) := by
  rw [Tlv.member, List.find?_eq_map_findFinIdx?_getElem, Option.map_map]
  rfl

theorem or_and_distrib (a b c : UInt32) : (a ||| b) &&& c = (a &&& c) ||| (b &&& c) := by
  rw [← UInt32.toBitVec_inj]
  ext k hk
  simp [Bool.and_or_distrib_right]

/-! ### Parsing a list -/

/-- The tag's bit is set already. -/
def Rendered (renderedTags : UInt32) (t : Tlv) : Prop :=
  ∃ i, findTlvField t.tag = some i ∧ renderedTags &&& fieldBit i ≠ 0

def mark (renderedTags : UInt32) (t : Tlv) : UInt32 :=
  match findTlvField t.tag with
  | none => renderedTags
  | some i => renderedTags ||| fieldBit i

theorem rendered_mark {renderedTags : UInt32} {t t' : Tlv} :
    Rendered (mark renderedTags t) t' ↔ Rendered renderedTags t' ∨ (t.Known ∧ t.tag = t'.tag) := by
  rw [known_iff]
  unfold mark
  cases hfind : findTlvField t.tag with
  | none => simp
  | some i =>
    have hbit : ∀ j, (renderedTags ||| fieldBit i) &&& fieldBit j ≠ 0 ↔
        renderedTags &&& fieldBit j ≠ 0 ∨ i = j := by
      intro j
      rw [or_and_distrib, ne_eq, UInt32.or_eq_zero_iff, not_and_or, ← fieldBit_and_ne_zero]
    simp only [Rendered, hbit]
    refine ⟨fun h => ?_, fun h => ?_⟩
    · obtain ⟨j, hj, hset | rfl⟩ := h
      · exact Or.inl ⟨j, hj, hset⟩
      · rw [findTlvField_eq_some_iff] at hfind hj
        exact Or.inr ⟨⟨i, rfl⟩, hfind.symm.trans hj⟩
    · rcases h with ⟨j, hj, hset⟩ | ⟨-, htag⟩
      · exact ⟨j, hj, Or.inl hset⟩
      · exact ⟨i, htag ▸ hfind, Or.inr rfl⟩

/-- How a number of a type is rendered, or why it is refused. -/
def renderNumeric : TlvValueType → UInt64 → Except SandboxError Json
  | .UINT64, value => .ok (.string (decimal value.toNat))
  | .INT64, raw => .ok (.string (toDecimal raw.toInt64.toInt))
  | .UINT32, value =>
    if value.toNat > 4294967295 then .error .ERR_EVENT_FIELD_INVALID
    else .ok (.number (decimal value.toNat))
  | .INT32, raw =>
    if raw.toInt64.toInt < -2147483648 ∨ raw.toInt64.toInt > 2147483647 then
      .error .ERR_EVENT_FIELD_INVALID
    else .ok (.number (toDecimal raw.toInt64.toInt))
  | .STRING, _ => .error .ERR_DATA_CORRUPT

def renderValue (type : TlvValueType) (value : Bytes) : Except SandboxError Json :=
  if type = .STRING then .ok (.string (cStr value))
  else if value.length ≠ 8 then .error .ERR_DATA_CORRUPT
  else renderNumeric type (UInt64.ofNat (ofLe value))

def acceptField (t : Tlv) (context : Members) (renderedTags : UInt32) :
    Except SandboxError (Members × UInt32) :=
  match findTlvField t.tag with
  | none => .ok (context, renderedTags)
  | some i =>
    let field := TLV_FIELD_TABLE.get i
    if t.value.length > field.maxLength.toNat then .error .ERR_EVENT_FIELD_INVALID
    else if renderedTags &&& fieldBit i ≠ 0 then .error .ERR_EVENT_FIELD_INVALID
    else (renderValue field.type t.value).map fun item =>
      (context ++ [(field.name, item)], renderedTags ||| fieldBit i)

def parsePayload (payload : Bytes) (context : Members) (renderedTags : UInt32) :
    Except SandboxError Members :=
  if payload = [] then .ok context
  else if payload.length < TLV_HEADER_LENGTH then .error .ERR_DATA_CORRUPT
  else
    let tlv := TlvHeader.decode (payload.take TLV_HEADER_LENGTH)
    let rest := payload.drop TLV_HEADER_LENGTH
    if tlv.length.toNat > rest.length then .error .ERR_DATA_CORRUPT
    else
      match acceptField ⟨tlv.tag, rest.take tlv.length.toNat⟩ context renderedTags with
      | .error ret => .error ret
      | .ok (context, renderedTags) =>
        parsePayload (rest.drop tlv.length.toNat) context renderedTags
termination_by payload.length
decreasing_by
  simp only [List.length_drop, TLV_HEADER_LENGTH] at *
  omega

/-! ### What the parser does to memory is what this one does to the payload -/

theorem ofLe_lt (word : Bytes) : ofLe word < 256 ^ word.length := by
  induction word with
  | nil => decide
  | cons b word ih =>
    have hb := b.toNat_lt
    show b.toNat + 256 * ofLe word < 256 ^ (word.length + 1)
    rw [Nat.pow_succ]
    omega

theorem toNat_ofLe {value : Bytes} (h : value.length = 8) :
    (UInt64.ofNat (ofLe value)).toNat = ofLe value := by
  have hlt := ofLe_lt value
  rw [h] at hlt
  rw [UInt64.toNat_ofNat']
  exact Nat.mod_eq_of_lt hlt

theorem toInt64_ofLe (value : Bytes) :
    (UInt64.ofNat (ofLe value)).toInt64 = Int64.ofNat (ofLe value) := rfl

theorem refused_eq_ok_iff {p : Prop} [Decidable p] {error : SandboxError} {rendered item : Json} :
    (if p then .error error else .ok rendered : Except SandboxError Json) = .ok item ↔
      ¬ p ∧ item = rendered := by
  by_cases hp : p
  · simp [hp]
  · simp [hp, eq_comm]

theorem renderNumeric_eq_ok_iff {type : TlvValueType} {value : Bytes} {item : Json}
    (htype : type ≠ .STRING) (h8 : value.length = 8) :
    renderNumeric type (UInt64.ofNat (ofLe value)) = .ok item ↔
      type.Fits value ∧ item = type.item value := by
  cases type with
  | STRING => exact absurd rfl htype
  | UINT64 =>
    simp only [renderNumeric, TlvValueType.Fits, TlvValueType.item, toNat_ofLe h8]
    simp [h8, eq_comm]
  | INT64 =>
    simp only [renderNumeric, TlvValueType.Fits, TlvValueType.item, toInt64_ofLe]
    simp [h8, eq_comm]
  | UINT32 =>
    rw [renderNumeric, refused_eq_ok_iff, toNat_ofLe h8]
    refine and_congr_left' ?_
    simp only [TlvValueType.Fits, h8, true_and]
    omega
  | INT32 =>
    rw [renderNumeric, refused_eq_ok_iff, toInt64_ofLe]
    refine and_congr_left' ?_
    simp only [TlvValueType.Fits, h8, true_and]
    omega

theorem renderValue_eq_ok_iff {type : TlvValueType} {value : Bytes} {item : Json} :
    renderValue type value = .ok item ↔ type.Fits value ∧ item = type.item value := by
  unfold renderValue
  by_cases htype : type = .STRING
  · subst htype
    simp [TlvValueType.Fits, TlvValueType.item, eq_comm]
  · rw [if_neg htype]
    by_cases h8 : value.length = 8
    · rw [if_neg (not_not.mpr h8), renderNumeric_eq_ok_iff htype h8]
    · have hunfit : ¬ type.Fits value := by
        cases type <;> simp_all [TlvValueType.Fits]
      simp [h8, hunfit]

variable {memory : Bytes} {data : Nat}

section
variable {length : UInt16} {value : Bytes}
  (hvalue : readMemory memory data length.toNat = some value) (hlength : value.length = length.toNat)
include hvalue hlength

theorem addNumericField_eq (render : UInt64 → Except SandboxError Json) (object : Members)
    (name : Bytes) : addNumericField render object name memory data length =
      some ((if value.length ≠ 8 then .error .ERR_DATA_CORRUPT
        else render (UInt64.ofNat (ofLe value))).map fun item => object ++ [(name, item)]) := by
  unfold addNumericField readNumericField
  by_cases h8 : length = 8
  · subst h8
    have hread : readMemory memory data 8 = some value := hvalue
    have hlen : value.length = 8 := hlength
    rw [if_neg (not_not.mpr rfl), hread, if_neg (not_not.mpr hlen)]
    have hmap : ∀ rendered : Except SandboxError Json,
        (rendered >>= fun item => pure (object ++ [(name, item)])) =
          rendered.map fun item => object ++ [(name, item)] := by
      intro rendered
      cases rendered <;> rfl
    exact congrArg some (hmap _)
  · have hne : value.length ≠ 8 := by
      rw [hlength]
      exact fun h => h8 (UInt16.toNat_inj.mp h)
    rw [if_pos h8, if_pos hne]
    rfl

theorem parseTlvField_eq (field : TlvFieldInfo) (context : Members) :
    parseTlvField field memory data length context =
      some ((renderValue field.type value).map fun item => context ++ [(field.name, item)]) := by
  have hnumeric := addNumericField_eq hvalue hlength
  unfold parseTlvField renderValue
  cases field.type with
  | STRING =>
    simp only [addStringField, hvalue, Option.map_some, if_true]
    rfl
  | UINT64 => exact hnumeric (renderNumeric .UINT64) context field.name
  | INT64 => exact hnumeric (renderNumeric .INT64) context field.name
  | UINT32 => exact hnumeric (renderNumeric .UINT32) context field.name
  | INT32 => exact hnumeric (renderNumeric .INT32) context field.name

end

theorem parseKnownTlvField_eq {tlv : TlvHeader} {value : Bytes}
    (hvalue : readMemory memory data tlv.length.toNat = some value)
    (hlength : value.length = tlv.length.toNat) (context : Members) (renderedTags : UInt32) :
    parseKnownTlvField tlv memory data context renderedTags =
      some (acceptField ⟨tlv.tag, value⟩ context renderedTags) := by
  unfold parseKnownTlvField acceptField
  cases findTlvField tlv.tag with
  | none => rfl
  | some i =>
    have hlong : tlv.length > (TLV_FIELD_TABLE.get i).maxLength ↔
        value.length > (TLV_FIELD_TABLE.get i).maxLength.toNat := by
      rw [hlength]
      exact UInt16.lt_iff_toNat_lt
    simp only [hlong, parseTlvField_eq hvalue hlength]
    split
    · rfl
    · split
      · rfl
      · cases renderValue (TLV_FIELD_TABLE.get i).type value <;> rfl

/-- The bytes of a stretch of memory. -/
def window (memory : Bytes) (data size : Nat) : Bytes := (memory.drop data).take size

theorem length_window {size : Nat} (h : data + size ≤ memory.length) :
    (window memory data size).length = size := by
  rw [window, List.length_take, List.length_drop]
  omega

theorem readMemory_window {size : Nat} (h : data + size ≤ memory.length) :
    readMemory memory data size = some (window memory data size) := if_pos h

theorem take_window {n size : Nat} (h : n ≤ size) :
    (window memory data size).take n = window memory data n := by
  rw [window, List.take_take, Nat.min_eq_left h]
  rfl

theorem drop_window (n size : Nat) :
    (window memory data size).drop n = window memory (data + n) (size - n) := by
  rw [window, List.drop_take, List.drop_drop]
  rfl

/-- **The loop reads nothing but the payload.** -/
theorem parseTlvLoop_eq {size : Nat} (hfits : data + size ≤ memory.length) {offset : Nat}
    (hoffset : offset ≤ size) (context : Members) (renderedTags : UInt32) :
    parseTlvLoop memory data size offset context renderedTags =
      some (parsePayload (window memory (data + offset) (size - offset)) context renderedTags) := by
  induction hleft : size - offset using Nat.strong_induction_on
    generalizing offset context renderedTags with
  | h left ih =>
    subst hleft
    have hlength : (window memory (data + offset) (size - offset)).length = size - offset :=
      length_window (by omega)
    rw [parseTlvLoop, parsePayload, hlength]
    by_cases hend : offset < size
    case neg =>
      rw [if_neg hend, if_pos (List.length_eq_zero_iff.mp (by omega))]
    rw [if_pos hend, if_neg (List.ne_nil_of_length_pos (by omega))]
    by_cases hheader : size - offset < TLV_HEADER_LENGTH
    case pos => rw [if_pos hheader, if_pos hheader]
    rw [if_neg hheader, if_neg hheader, readMemory_window (by omega),
      take_window (not_lt.mp hheader), drop_window]
    dsimp only
    generalize TlvHeader.decode (window memory (data + offset) TLV_HEADER_LENGTH) = tlv
    rw [Nat.sub_sub, Nat.add_assoc data, length_window (by omega)]
    by_cases hlong : tlv.length.toNat > size - (offset + TLV_HEADER_LENGTH)
    case pos => rw [if_pos hlong, if_pos hlong]
    have hvalue : data + (offset + TLV_HEADER_LENGTH) + tlv.length.toNat ≤ memory.length := by
      omega
    rw [if_neg hlong, if_neg hlong, take_window (not_lt.mp hlong),
      parseKnownTlvField_eq (readMemory_window hvalue) (length_window hvalue)]
    cases acceptField ⟨tlv.tag, window memory (data + (offset + TLV_HEADER_LENGTH))
        tlv.length.toNat⟩ context renderedTags with
    | error ret => rfl
    | ok next =>
      have hnext := ih (size - (offset + TLV_HEADER_LENGTH + tlv.length.toNat))
        (by unfold TLV_HEADER_LENGTH; omega) (by omega) next.1 next.2 rfl
      dsimp only
      rw [hnext, drop_window, Nat.add_assoc data, Nat.sub_sub]

/-! ### What a payload is accepted for -/

theorem acceptField_eq_ok_iff {t : Tlv} {context : Members} {renderedTags : UInt32}
    {next : Members × UInt32} :
    acceptField t context renderedTags = .ok next ↔
      t.Sound ∧ ¬ Rendered renderedTags t ∧
        next = (context ++ t.member.toList, mark renderedTags t) := by
  unfold acceptField mark Rendered
  cases hfind : findTlvField t.tag with
  | none =>
    have hsound : t.Sound := fun field hfield htag =>
      absurd (known_iff.mp ⟨field, hfield, htag⟩) (by simp [hfind])
    simp [member_eq, hfind, hsound, eq_comm]
  | some i =>
    have hrendered : (∃ j, some i = some j ∧ renderedTags &&& fieldBit j ≠ 0) ↔
        renderedTags &&& fieldBit i ≠ 0 := by
      simp
    simp only [sound_iff hfind, hrendered, member_eq, hfind, Option.map_some, Option.toList_some]
    generalize TLV_FIELD_TABLE.get i = field
    by_cases hlong : t.value.length > field.maxLength.toNat
    case pos => simp [hlong]
    rw [if_neg hlong, and_iff_right (not_lt.mp hlong)]
    by_cases hbit : renderedTags &&& fieldBit i ≠ 0
    case pos => simp [hbit]
    rw [if_neg hbit, and_iff_right hbit]
    cases hrender : renderValue field.type t.value with
    | error ret =>
      have hunfit : ¬ field.type.Fits t.value := fun hfits => by
        have hok := renderValue_eq_ok_iff.mpr ⟨hfits, rfl⟩
        rw [hrender] at hok
        cases hok
      simp [hunfit, Except.map]
    | ok item =>
      obtain ⟨hfits, hitem⟩ := renderValue_eq_ok_iff.mp hrender
      simp [hfits, hitem, Except.map, eq_comm]

theorem tiled_nil_iff {tlvs : List Tlv} : Tiled [] tlvs ↔ tlvs = [] := by
  refine ⟨fun h => ?_, fun h => h ▸ .nil⟩
  generalize hpayload : ([] : Bytes) = payload at h
  cases h with
  | nil => rfl
  | cons hraw hvalue hrest =>
    have hlength := congrArg List.length hpayload
    simp only [List.length_nil, List.length_append, hraw, TLV_HEADER_LENGTH] at hlength
    omega

theorem take_tlvHeader {raw value rest : Bytes} (hraw : raw.length = TLV_HEADER_LENGTH) :
    (raw ++ value ++ rest).take TLV_HEADER_LENGTH = raw := by
  rw [List.append_assoc, List.take_left' hraw]

theorem drop_tlvHeader {raw value rest : Bytes} (hraw : raw.length = TLV_HEADER_LENGTH) :
    (raw ++ value ++ rest).drop TLV_HEADER_LENGTH = value ++ rest := by
  rw [List.append_assoc, List.drop_left' hraw]

/-- A payload that is not empty begins with a header and the value it announces. -/
theorem tiled_iff {payload : Bytes} (hne : payload ≠ []) {tlvs : List Tlv} :
    Tiled payload tlvs ↔ TLV_HEADER_LENGTH ≤ payload.length ∧
      (TlvHeader.decode (payload.take TLV_HEADER_LENGTH)).length.toNat ≤
        (payload.drop TLV_HEADER_LENGTH).length ∧
      ∃ more, tlvs = ⟨(TlvHeader.decode (payload.take TLV_HEADER_LENGTH)).tag,
          (payload.drop TLV_HEADER_LENGTH).take
            (TlvHeader.decode (payload.take TLV_HEADER_LENGTH)).length.toNat⟩ :: more ∧
        Tiled ((payload.drop TLV_HEADER_LENGTH).drop
          (TlvHeader.decode (payload.take TLV_HEADER_LENGTH)).length.toNat) more := by
  refine ⟨fun h => ?_, fun h => ?_⟩
  · cases h with
    | nil => exact absurd rfl hne
    | @cons raw value rest more hraw hvalue hrest =>
      rw [take_tlvHeader hraw, drop_tlvHeader hraw, ← hvalue, List.take_left, List.drop_left]
      refine ⟨?_, ?_, more, rfl, hrest⟩
      · simp only [List.length_append, hraw]
        omega
      · simp
  · obtain ⟨hheader, hlong, more, rfl, hrest⟩ := h
    have htiled := Tiled.cons (List.length_take_of_le hheader) (List.length_take_of_le hlong) hrest
    rwa [List.append_assoc, List.take_append_drop, List.take_append_drop] at htiled

/-- What the rest of a payload is accepted for when some tags are marked. -/
structure Accepted (payload : Bytes) (renderedTags : UInt32) (tlvs : List Tlv) : Prop where
  tiled : Tiled payload tlvs
  once : Once tlvs
  sound : ∀ t ∈ tlvs, t.Sound
  fresh : ∀ t ∈ tlvs, ¬ Rendered renderedTags t

theorem accepted_cons_iff {payload rest : Bytes} {renderedTags : UInt32} {t : Tlv}
    {more : List Tlv} (htiled : Tiled payload (t :: more) ↔ Tiled rest more) :
    Accepted payload renderedTags (t :: more) ↔
      (t.Sound ∧ ¬ Rendered renderedTags t) ∧ Accepted rest (mark renderedTags t) more := by
  refine ⟨fun h => ?_, fun h => ?_⟩
  · obtain ⟨hdistinct, honce⟩ := List.pairwise_cons.mp h.once
    refine ⟨⟨h.sound t (List.mem_cons_self ..), h.fresh t (List.mem_cons_self ..)⟩,
      htiled.mp h.tiled, honce, fun t' ht' => h.sound t' (List.mem_cons_of_mem _ ht'),
      fun t' ht' hrendered => ?_⟩
    rcases rendered_mark.mp hrendered with hbefore | ⟨hknown, htag⟩
    · exact h.fresh t' (List.mem_cons_of_mem _ ht') hbefore
    · exact hdistinct t' ht' hknown htag
  · obtain ⟨⟨hsound, hfresh⟩, hmore⟩ := h
    refine ⟨htiled.mpr hmore.tiled, List.pairwise_cons.mpr ⟨fun t' ht' hknown htag => ?_, hmore.once⟩,
      List.forall_mem_cons.mpr ⟨hsound, hmore.sound⟩,
      List.forall_mem_cons.mpr ⟨hfresh, fun t' ht' hrendered => ?_⟩⟩
    · exact hmore.fresh t' ht' (rendered_mark.mpr (Or.inr ⟨hknown, htag⟩))
    · exact hmore.fresh t' ht' (rendered_mark.mpr (Or.inl hrendered))

theorem filterMap_member (t : Tlv) (more : List Tlv) :
    (t :: more).filterMap Tlv.member = t.member.toList ++ more.filterMap Tlv.member := by
  rw [List.filterMap_cons]
  cases t.member <;> rfl

/-- **A payload is parsed exactly when it is tiled by sound values without a known tag twice.** -/
theorem parsePayload_eq_ok_iff {payload : Bytes} {context context' : Members}
    {renderedTags : UInt32} :
    parsePayload payload context renderedTags = .ok context' ↔
      ∃ tlvs, Accepted payload renderedTags tlvs ∧
        context' = context ++ tlvs.filterMap Tlv.member := by
  induction hlength : payload.length using Nat.strong_induction_on
    generalizing payload context renderedTags with
  | h length ih =>
    subst hlength
    rw [parsePayload]
    by_cases hnil : payload = []
    case pos =>
      subst hnil
      rw [if_pos rfl, Except.ok.injEq]
      refine ⟨fun h => ⟨[], ⟨.nil, .nil, by simp, by simp⟩, by simp [h]⟩, fun h => ?_⟩
      obtain ⟨tlvs, haccepted, rfl⟩ := h
      rw [tiled_nil_iff.mp haccepted.tiled, List.filterMap_nil, List.append_nil]
    have htiled := @tiled_iff payload hnil
    rw [if_neg hnil]
    by_cases hheader : payload.length < TLV_HEADER_LENGTH
    case pos =>
      rw [if_pos hheader]
      refine ⟨fun h => absurd h (by simp), fun h => ?_⟩
      obtain ⟨tlvs, haccepted, -⟩ := h
      exact absurd (htiled.mp haccepted.tiled).1 (by omega)
    rw [if_neg hheader]
    generalize TlvHeader.decode (payload.take TLV_HEADER_LENGTH) = tlv at htiled ⊢
    dsimp only
    by_cases hlong : tlv.length.toNat > (payload.drop TLV_HEADER_LENGTH).length
    case pos =>
      rw [if_pos hlong]
      refine ⟨fun h => absurd h (by simp), fun h => ?_⟩
      obtain ⟨tlvs, haccepted, -⟩ := h
      exact absurd (htiled.mp haccepted.tiled).2.1 (by omega)
    rw [if_neg hlong]
    generalize hrest : (payload.drop TLV_HEADER_LENGTH).drop tlv.length.toNat = rest at htiled ⊢
    generalize (⟨tlv.tag, (payload.drop TLV_HEADER_LENGTH).take tlv.length.toNat⟩ : Tlv) = t
      at htiled ⊢
    have hcons : ∀ more, Tiled payload (t :: more) ↔ Tiled rest more := by
      intro more
      rw [htiled, and_iff_right (not_lt.mp hheader), and_iff_right (not_lt.mp hlong)]
      simp
    have hhead : ∀ tlvs, Accepted payload renderedTags tlvs → ∃ more, tlvs = t :: more :=
      fun tlvs h => (htiled.mp h.tiled).2.2.imp fun _ hmore => hmore.1
    cases haccept : acceptField t context renderedTags with
    | error ret =>
      refine ⟨fun h => absurd h (by simp), fun h => ?_⟩
      obtain ⟨tlvs, haccepted, -⟩ := h
      obtain ⟨more, rfl⟩ := hhead tlvs haccepted
      obtain ⟨⟨hsound, hfresh⟩, -⟩ := (accepted_cons_iff (hcons more)).mp haccepted
      have hok : acceptField t context renderedTags =
          .ok (context ++ t.member.toList, mark renderedTags t) :=
        acceptField_eq_ok_iff.mpr ⟨hsound, hfresh, rfl⟩
      rw [haccept] at hok
      cases hok
    | ok next =>
      obtain ⟨hsound, hfresh, rfl⟩ := acceptField_eq_ok_iff.mp haccept
      have hshorter : rest.length < payload.length := by
        rw [← hrest]
        simp only [List.length_drop, TLV_HEADER_LENGTH] at hheader ⊢
        omega
      dsimp only
      rw [ih rest.length hshorter rfl]
      refine ⟨fun h => ?_, fun h => ?_⟩
      · obtain ⟨more, haccepted, rfl⟩ := h
        refine ⟨t :: more, (accepted_cons_iff (hcons more)).mpr ⟨⟨hsound, hfresh⟩, haccepted⟩, ?_⟩
        rw [filterMap_member, List.append_assoc]
      · obtain ⟨tlvs, haccepted, rfl⟩ := h
        obtain ⟨more, rfl⟩ := hhead tlvs haccepted
        refine ⟨more, ((accepted_cons_iff (hcons more)).mp haccepted).2, ?_⟩
        rw [filterMap_member, List.append_assoc]

/-! ### The parser -/

/-- What a call yields once its header is valid. -/
def outcomeOf (cJSON_PrintUnformatted : Json → Bytes) (header : DeviceEventHeader) (payload : Bytes)
    (jsonOutput : Bytes) : ParseOutcome :=
  match parsePayload payload [] 0 with
  | .error error => ⟨.DROP, { header, error }, jsonOutput⟩
  | .ok context =>
    if (cStr (cJSON_PrintUnformatted (eventRoot header context))).length > MAX_BODY_LENGTH then
      ⟨.DROP, { header, error := .ERR_SOCKET_MSG_TOO_LARGE }, jsonOutput⟩
    else ⟨.DONE, { header }, cStr (cJSON_PrintUnformatted (eventRoot header context))⟩

/-- The checks of the header. -/
structure FrameValid (data : Bytes) : Prop where
  holdsHeader : DEVICE_EVENT_HEADER_LENGTH ≤ data.length
  version : (eventHeader data).version = DEVICE_EVENT_VERSION
  bounded : (eventHeader data).valLen.toNat ≤ MAX_DEVICE_EVENT_LENGTH - DEVICE_EVENT_HEADER_LENGTH
  arrived : declaredEnd data ≤ data.length

section
variable {memory data : Bytes} (hmemory : memory = data ∨ memory = data.take (declaredEnd data))
include hmemory

theorem take_header :
    memory.take DEVICE_EVENT_HEADER_LENGTH = data.take DEVICE_EVENT_HEADER_LENGTH := by
  have hle : DEVICE_EVENT_HEADER_LENGTH ≤ declaredEnd data := Nat.le_add_right _ _
  rcases hmemory with rfl | rfl
  · rfl
  · rw [List.take_take, Nat.min_eq_left hle]

theorem window_payload :
    window memory DEVICE_EVENT_HEADER_LENGTH (eventHeader data).valLen.toNat = eventPayload data := by
  unfold window
  rcases hmemory with rfl | rfl
  · rfl
  · rw [List.drop_take, declaredEnd, Nat.add_sub_cancel_left, List.take_take, Nat.min_self]
    rfl

theorem le_length_memory {n : Nat} (hn : n ≤ declaredEnd data) (h : n ≤ data.length) :
    n ≤ memory.length := by
  rcases hmemory with rfl | rfl
  · exact h
  · rw [List.length_take]
    exact Nat.le_min.mpr ⟨hn, h⟩

theorem validateEventFrame_eq [Decidable (FrameValid data)] :
    validateEventFrame memory data.length =
      some (if FrameValid data then some (eventHeader data) else none) := by
  unfold validateEventFrame
  by_cases hsize : data.length < DEVICE_EVENT_HEADER_LENGTH
  · rw [if_pos hsize, if_neg fun h => absurd h.holdsHeader (not_le.mpr hsize)]
  · have hread : readMemory memory 0 DEVICE_EVENT_HEADER_LENGTH =
        some (data.take DEVICE_EVENT_HEADER_LENGTH) := by
      have hlength := le_length_memory hmemory (Nat.le_add_right _ _) (not_lt.mp hsize)
      rw [readMemory_window (by omega), window, List.drop_zero, take_header hmemory]
    rw [if_neg hsize, hread, Option.map_some]
    show some (if (eventHeader data).version ≠ DEVICE_EVENT_VERSION then none
      else if (eventHeader data).valLen.toNat > MAX_DEVICE_EVENT_LENGTH - DEVICE_EVENT_HEADER_LENGTH
      then none
      else if data.length < declaredEnd data then none else some (eventHeader data)) = _
    by_cases hvalid : FrameValid data
    · rw [if_pos hvalid, if_neg (not_not.mpr hvalid.version), if_neg (not_lt.mpr hvalid.bounded),
        if_neg (not_lt.mpr hvalid.arrived)]
    · rw [if_neg hvalid]
      split
      · rfl
      case isFalse hversion =>
        split
        · rfl
        case isFalse hbounded =>
          split
          · rfl
          case isFalse harrived =>
            exact absurd ⟨not_lt.mp hsize, not_not.mp hversion, not_lt.mp hbounded,
              not_lt.mp harrived⟩ hvalid

variable (cJSON_PrintUnformatted : Json → Bytes) (jsonOutput : Bytes)

/-- Memory that ends with the declared payload is all the parser needs. -/
theorem parseEvent_of_valid (hvalid : FrameValid data) :
    TlvEventParser.parseEvent cJSON_PrintUnformatted memory data.length jsonOutput =
      some (outcomeOf cJSON_PrintUnformatted (eventHeader data) (eventPayload data) jsonOutput) := by
  classical
  have hfits := le_length_memory hmemory (le_refl _) hvalid.arrived
  have hparse := parseTlvLoop_eq hfits (Nat.zero_le _) [] 0
  rw [Nat.add_zero, Nat.sub_zero, window_payload hmemory] at hparse
  unfold TlvEventParser.parseEvent buildEventJson parseTlvFields outcomeOf
  rw [validateEventFrame_eq hmemory, if_pos hvalid]
  dsimp only
  rw [hparse]
  cases parsePayload (eventPayload data) [] 0 with
  | error error => rfl
  | ok context =>
    simp only [Option.map_some]
    by_cases hlong : (cStr (cJSON_PrintUnformatted (eventRoot (eventHeader data) context))).length >
        MAX_BODY_LENGTH
    · simp [hlong, bind, Except.bind]
    · simp [hlong, bind, Except.bind]

theorem parseEvent_of_not_valid (hvalid : ¬ FrameValid data) :
    TlvEventParser.parseEvent cJSON_PrintUnformatted memory data.length jsonOutput =
      some ⟨.DROP, { error := .ERR_DATA_CORRUPT }, jsonOutput⟩ := by
  classical
  unfold TlvEventParser.parseEvent
  rw [validateEventFrame_eq hmemory, if_neg hvalid]

end

section
variable {cJSON_PrintUnformatted : Json → Bytes} {data : Bytes} {tlvs : List Tlv}

theorem not_rendered_zero (t : Tlv) : ¬ Rendered 0 t := by
  simp [Rendered]

theorem wellFormed_iff : WellFormed cJSON_PrintUnformatted data tlvs ↔ FrameValid data ∧
    Accepted (eventPayload data) 0 tlvs ∧
      (eventText cJSON_PrintUnformatted data tlvs).length ≤ MAX_BODY_LENGTH := by
  refine ⟨fun h => ?_, fun h => ?_⟩
  · exact ⟨⟨h.holdsHeader, h.version, h.bounded, h.arrived⟩,
      ⟨h.tiled, h.once, h.sound, fun t _ => not_rendered_zero t⟩, h.printed⟩
  · obtain ⟨hvalid, haccepted, hprinted⟩ := h
    exact ⟨hvalid.holdsHeader, hvalid.version, hvalid.bounded, hvalid.arrived, haccepted.tiled,
      haccepted.once, haccepted.sound, hprinted⟩

theorem outcomeOf_of_wellFormed (h : WellFormed cJSON_PrintUnformatted data tlvs)
    (jsonOutput : Bytes) :
    outcomeOf cJSON_PrintUnformatted (eventHeader data) (eventPayload data) jsonOutput =
      ⟨.DONE, { header := eventHeader data }, eventText cJSON_PrintUnformatted data tlvs⟩ := by
  obtain ⟨-, haccepted, hprinted⟩ := wellFormed_iff.mp h
  have hparse : parsePayload (eventPayload data) [] 0 = .ok (tlvs.filterMap Tlv.member) :=
    parsePayload_eq_ok_iff.mpr ⟨tlvs, haccepted, rfl⟩
  rw [outcomeOf, hparse]
  exact if_neg (not_lt.mpr hprinted)

/-- A frame that is valid and not well-formed is dropped. -/
theorem outcomeOf_of_not_wellFormed (hvalid : FrameValid data)
    (h : ¬ ∃ tlvs, WellFormed cJSON_PrintUnformatted data tlvs) (jsonOutput : Bytes) :
    ∃ error, outcomeOf cJSON_PrintUnformatted (eventHeader data) (eventPayload data) jsonOutput =
      ⟨.DROP, { header := eventHeader data, error }, jsonOutput⟩ := by
  unfold outcomeOf
  cases hparse : parsePayload (eventPayload data) [] 0 with
  | error error => exact ⟨error, rfl⟩
  | ok context =>
    obtain ⟨tlvs, haccepted, rfl⟩ := parsePayload_eq_ok_iff.mp hparse
    have hlong : MAX_BODY_LENGTH < (eventText cJSON_PrintUnformatted data tlvs).length := by
      by_contra hshort
      exact h ⟨tlvs, wellFormed_iff.mpr ⟨hvalid, haccepted, not_lt.mp hshort⟩⟩
    exact ⟨.ERR_SOCKET_MSG_TOO_LARGE, if_pos hlong⟩

end

theorem member_eq_none {t : Tlv} (h : ¬ t.Known) : t.member = none := by
  rw [Tlv.member, Option.map_eq_none_iff, List.find?_eq_none]
  exact fun field hfield htag => h ⟨field, hfield, beq_iff_eq.mp htag⟩

/-- **The parser accepts exactly the well-formed events.** It answers for every buffer, also when
the memory ends with the declared payload; what it renders has nothing from unknown tags, and on a
drop the output is left alone. -/
theorem parseEvent_exact (cJSON_PrintUnformatted : Json → Bytes) (data jsonOutput : Bytes) :
    ∃ outcome,
      TlvEventParser.parseEvent cJSON_PrintUnformatted data data.length jsonOutput = some outcome ∧
      TlvEventParser.parseEvent cJSON_PrintUnformatted (data.take (declaredEnd data)) data.length
        jsonOutput = some outcome ∧
      (outcome.step = .DONE ↔ ∃ tlvs, WellFormed cJSON_PrintUnformatted data tlvs) ∧
      (∀ tlvs, WellFormed cJSON_PrintUnformatted data tlvs →
        outcome.jsonOutput = eventText cJSON_PrintUnformatted data tlvs) ∧
      (∀ t : Tlv, ¬ t.Known → t.member = none) ∧
      (outcome.step = .DROP → outcome.jsonOutput = jsonOutput) := by
  have hwhole : data = data ∨ data = data.take (declaredEnd data) := Or.inl rfl
  have hdeclared : data.take (declaredEnd data) = data ∨
      data.take (declaredEnd data) = data.take (declaredEnd data) := Or.inr rfl
  by_cases hvalid : FrameValid data
  · refine ⟨_, parseEvent_of_valid hwhole _ _ hvalid, parseEvent_of_valid hdeclared _ _ hvalid, ?_⟩
    by_cases h : ∃ tlvs, WellFormed cJSON_PrintUnformatted data tlvs
    · refine ⟨?_, fun tlvs htlvs => ?_, fun t => member_eq_none, ?_⟩
      · obtain ⟨tlvs, htlvs⟩ := h
        rw [outcomeOf_of_wellFormed htlvs]
        exact ⟨fun _ => ⟨tlvs, htlvs⟩, fun _ => rfl⟩
      · rw [outcomeOf_of_wellFormed htlvs]
      · obtain ⟨tlvs, htlvs⟩ := h
        simp [outcomeOf_of_wellFormed htlvs]
    · obtain ⟨error, heq⟩ := outcomeOf_of_not_wellFormed hvalid h jsonOutput
      rw [heq]
      exact ⟨by simp [h], fun tlvs htlvs => absurd ⟨tlvs, htlvs⟩ h, fun t => member_eq_none,
        fun _ => rfl⟩
  · have hnone : ¬ ∃ tlvs, WellFormed cJSON_PrintUnformatted data tlvs := fun h =>
      h.elim fun tlvs htlvs => hvalid (wellFormed_iff.mp htlvs).1
    refine ⟨_, parseEvent_of_not_valid hwhole _ _ hvalid, parseEvent_of_not_valid hdeclared _ _ hvalid,
      by simp [hnone], fun tlvs htlvs => absurd ⟨tlvs, htlvs⟩ hnone, fun t => member_eq_none,
      fun _ => rfl⟩

end SandboxManager.Claw.DeviceEvent
