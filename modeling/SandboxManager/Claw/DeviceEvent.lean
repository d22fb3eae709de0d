import SandboxManager.Claw.Wire
import SandboxManager.Number
import SandboxManager.Json

/-! Events of the device (`sandbox_device_event.h` and `sandbox_device_event.cpp`).

One read of the device yields a header and a payload of tagged values, which the parser renders as
one JSON object. An object of the library is its members in the order in which they were added;
printing is the library's. What may be read is a parameter, the memory: a read that goes beyond it
is a fault, `none`, whatever the size the parser was told. Copies succeed where they stay inside. -/
namespace SandboxManager.Claw.DeviceEvent

def DEVICE_EVENT_VERSION : UInt32 := 1

/-- Twenty-four bytes, with the event's number at offset sixteen. -/
structure DeviceEventHeader where
  version : UInt32 := 0
  eventClass : UInt32 := 0
  eventType : UInt32 := 0
  valLen : UInt32 := 0
  eventId : UInt64 := 0
deriving DecidableEq, Repr

structure TlvHeader where
  tag : UInt16
  length : UInt16
deriving DecidableEq, Repr

def DEVICE_EVENT_HEADER_LENGTH : Nat := 24
def TLV_HEADER_LENGTH : Nat := 4

/-- A little-endian number. -/
def ofLe (word : Bytes) : Nat := word.foldr (fun b n => b.toNat + 256 * n) 0

def DeviceEventHeader.decode (raw : Bytes) : DeviceEventHeader where
  version := ofLe32 (raw.take 4)
  eventClass := ofLe32 ((raw.drop 4).take 4)
  eventType := ofLe32 ((raw.drop 8).take 4)
  valLen := ofLe32 ((raw.drop 12).take 4)
  eventId := UInt64.ofNat (ofLe ((raw.drop 16).take 8))

def TlvHeader.decode (raw : Bytes) : TlvHeader where
  tag := UInt16.ofNat (ofLe (raw.take 2))
  length := UInt16.ofNat (ofLe ((raw.drop 2).take 2))

/-! ### The fields -/

inductive TlvValueType where
  | STRING
  | UINT64
  | INT64
  | UINT32
  | INT32
deriving DecidableEq, Repr

structure TlvFieldInfo where
  tag : UInt16
  name : Bytes
  type : TlvValueType
  maxLength : UInt16
deriving DecidableEq, Repr

def TLV_LEN_NUMERIC : UInt16 := 8
def TLV_LEN_STRING : UInt16 := 256

def TLV_FIELD_TABLE : List TlvFieldInfo :=
  [⟨1, bytes "event_name", .STRING, TLV_LEN_STRING⟩,
   ⟨2, bytes "timestamp", .STRING, TLV_LEN_STRING⟩,
   ⟨128, bytes "uid", .UINT32, TLV_LEN_NUMERIC⟩,
   ⟨131, bytes "pid", .INT32, TLV_LEN_NUMERIC⟩,
   ⟨133, bytes "comm", .STRING, TLV_LEN_STRING⟩,
   ⟨140, bytes "cmdline", .STRING, TLV_LEN_STRING⟩,
   ⟨141, bytes "start_time", .UINT64, TLV_LEN_NUMERIC⟩,
   ⟨160, bytes "exec_cmd", .STRING, TLV_LEN_STRING⟩,
   ⟨161, bytes "exec_argv", .STRING, TLV_LEN_STRING⟩,
   ⟨258, bytes "file_size", .UINT64, TLV_LEN_NUMERIC⟩,
   ⟨259, bytes "file_path", .STRING, TLV_LEN_STRING⟩,
   ⟨260, bytes "file_mode", .STRING, TLV_LEN_STRING⟩,
   ⟨261, bytes "file_owneruid", .UINT32, TLV_LEN_NUMERIC⟩,
   ⟨262, bytes "file_ownergid", .UINT32, TLV_LEN_NUMERIC⟩,
   ⟨279, bytes "open_flags", .UINT64, TLV_LEN_NUMERIC⟩,
   ⟨384, bytes "appid", .UINT64, TLV_LEN_NUMERIC⟩,
   ⟨386, bytes "agentid", .UINT64, TLV_LEN_NUMERIC⟩]

/-- Every field once, each at its longest. -/
def MAX_DEVICE_EVENT_LENGTH : Nat :=
  TLV_FIELD_TABLE.foldl (fun total field => total + (TLV_HEADER_LENGTH + field.maxLength.toNat))
    DEVICE_EVENT_HEADER_LENGTH

/-- The place of a tag in the table. -/
def findTlvField (tag : UInt16) : Option (Fin TLV_FIELD_TABLE.length) :=
  TLV_FIELD_TABLE.findFinIdx? (·.tag == tag)

/-! ### Rendering a value -/

abbrev Members := List (Bytes × Json)

/-- The outcome of a step that reads: a fault, an error code or a value. -/
abbrev Read (α : Type) := Option (Except SandboxError α)

def readMemory (memory : Bytes) (start length : Nat) : Option Bytes :=
  if start + length ≤ memory.length then some ((memory.drop start).take length) else none

def readNumericField (memory : Bytes) (data : Nat) (length : UInt16) : Read UInt64 :=
  if length ≠ 8 then some (.error .ERR_DATA_CORRUPT)
  else (readMemory memory data 8).map fun raw => .ok (UInt64.ofNat (ofLe raw))

/-- The four numeric appenders, which differ in what they accept and how they render. -/
def addNumericField (render : UInt64 → Except SandboxError Json) (object : Members) (name : Bytes)
    (memory : Bytes) (data : Nat) (length : UInt16) : Read Members :=
  (readNumericField memory data length).map fun value => do
    let item ← render (← value)
    return object ++ [(name, item)]

def addUint64Field : Members → Bytes → Bytes → Nat → UInt16 → Read Members :=
  addNumericField fun value => .ok (.string (decimal value.toNat))

def addInt64Field : Members → Bytes → Bytes → Nat → UInt16 → Read Members :=
  addNumericField fun raw => .ok (.string (toDecimal raw.toInt64.toInt))

/-- Too wide a number is refused, not cut. -/
def addUint32Field : Members → Bytes → Bytes → Nat → UInt16 → Read Members :=
  addNumericField fun value =>
    if value.toNat > 4294967295 then .error .ERR_EVENT_FIELD_INVALID
    else .ok (.number (decimal value.toNat))

def addInt32Field : Members → Bytes → Bytes → Nat → UInt16 → Read Members :=
  addNumericField fun raw =>
    let value := raw.toInt64.toInt
    if value < -2147483648 ∨ value > 2147483647 then .error .ERR_EVENT_FIELD_INVALID
    else .ok (.number (toDecimal value))

def addStringField (object : Members) (name : Bytes) (memory : Bytes) (data : Nat)
    (length : UInt16) : Read Members :=
  (readMemory memory data length.toNat).map fun value =>
    .ok (object ++ [(name, .string (cStr value))])

def parseTlvField (field : TlvFieldInfo) (memory : Bytes) (data : Nat) (length : UInt16)
    (context : Members) : Read Members :=
  match field.type with
  | .STRING => addStringField context field.name memory data length
  | .UINT64 => addUint64Field context field.name memory data length
  | .INT64 => addInt64Field context field.name memory data length
  | .UINT32 => addUint32Field context field.name memory data length
  | .INT32 => addInt32Field context field.name memory data length

/-! ### The payload -/

/-- The bit of a row of the table. -/
def fieldBit (i : Fin TLV_FIELD_TABLE.length) : UInt32 := 1 <<< UInt32.ofNat i

/-- An unknown tag is dropped; a known one that breaks its own rules rejects the event. -/
def parseKnownTlvField (tlv : TlvHeader) (memory : Bytes) (value : Nat) (context : Members)
    (renderedTags : UInt32) : Read (Members × UInt32) :=
  match findTlvField tlv.tag with
  | none => some (.ok (context, renderedTags))
  | some i =>
    let field := TLV_FIELD_TABLE.get i
    if tlv.length > field.maxLength then some (.error .ERR_EVENT_FIELD_INVALID)
    else if renderedTags &&& fieldBit i ≠ 0 then some (.error .ERR_EVENT_FIELD_INVALID)
    else
      (parseTlvField field memory value tlv.length context).map fun context =>
        context.map (·, renderedTags ||| fieldBit i)

/-- The loop of `ParseTlvFields`. Every round passes at least the four bytes of a header. -/
def parseTlvLoop (memory : Bytes) (data size offset : Nat) (context : Members)
    (renderedTags : UInt32) : Read Members :=
  if offset < size then
    if size - offset < TLV_HEADER_LENGTH then some (.error .ERR_DATA_CORRUPT)
    else
      match readMemory memory (data + offset) TLV_HEADER_LENGTH with
      | none => none
      | some raw =>
        let tlv := TlvHeader.decode raw
        let offset' := offset + TLV_HEADER_LENGTH
        if tlv.length.toNat > size - offset' then some (.error .ERR_DATA_CORRUPT)
        else
          match parseKnownTlvField tlv memory (data + offset') context renderedTags with
          | none => none
          | some (.error ret) => some (.error ret)
          | some (.ok (context, renderedTags)) =>
            parseTlvLoop memory data size (offset' + tlv.length.toNat) context renderedTags
  else some (.ok context)
termination_by size - offset
decreasing_by
  unfold TLV_HEADER_LENGTH
  omega

def parseTlvFields (memory : Bytes) (data size : Nat) (context : Members) : Read Members :=
  parseTlvLoop memory data size 0 context 0

/-! ### The event -/

/-- The header of a record that may be rendered, `none` for one that is dropped. -/
def validateEventFrame (memory : Bytes) (size : Nat) : Option (Option DeviceEventHeader) :=
  if size < DEVICE_EVENT_HEADER_LENGTH then some none
  else
    (readMemory memory 0 DEVICE_EVENT_HEADER_LENGTH).map fun raw =>
      let parsed := DeviceEventHeader.decode raw
      if parsed.version ≠ DEVICE_EVENT_VERSION then none
      else if parsed.valLen.toNat > MAX_DEVICE_EVENT_LENGTH - DEVICE_EVENT_HEADER_LENGTH then none
      else if size < DEVICE_EVENT_HEADER_LENGTH + parsed.valLen.toNat then none
      else some parsed

/-- The root object. `context` is added to it first and filled last. -/
def eventRoot (header : DeviceEventHeader) (context : Members) : Json :=
  .object [(bytes "context", .object context),
    (bytes "version", .number (decimal header.version.toNat)),
    (bytes "event_class", .number (decimal header.eventClass.toNat)),
    (bytes "event_type", .number (decimal header.eventType.toNat)),
    (bytes "val_len", .number (decimal header.valLen.toNat)),
    (bytes "event_id", .string (decimal header.eventId.toNat))]

/-- The text of one event that was validated, assigned to the output only in the end. -/
def buildEventJson (cJSON_PrintUnformatted : Json → Bytes) (header : DeviceEventHeader)
    (memory : Bytes) (payload : Nat) : Read Bytes :=
  (parseTlvFields memory payload header.valLen.toNat []).map fun parsed => do
    let jsonStr := cStr (cJSON_PrintUnformatted (eventRoot header (← parsed)))
    if jsonStr.length > MAX_BODY_LENGTH then .error .ERR_SOCKET_MSG_TOO_LARGE else .ok jsonStr

inductive ParseStep where
  | DONE
  | DROP
deriving DecidableEq, Repr

structure TlvEventParser where
  header : DeviceEventHeader := {}
  error : SandboxError := .SUCCESS
deriving DecidableEq, Repr

/-- The outcome of a call: what it returns, the parser's members and the output string. -/
structure ParseOutcome where
  step : ParseStep
  parser : TlvEventParser
  jsonOutput : Bytes
deriving DecidableEq, Repr

def TlvEventParser.parseEvent (cJSON_PrintUnformatted : Json → Bytes) (memory : Bytes) (size : Nat)
    (jsonOutput : Bytes) : Option ParseOutcome :=
  match validateEventFrame memory size with
  | none => none
  | some none => some ⟨.DROP, { error := .ERR_DATA_CORRUPT }, jsonOutput⟩
  | some (some header) =>
    (buildEventJson cJSON_PrintUnformatted header memory DEVICE_EVENT_HEADER_LENGTH).map fun built =>
      match built with
      | .error error => ⟨.DROP, { header, error }, jsonOutput⟩
      | .ok json => ⟨.DONE, { header }, json⟩

end SandboxManager.Claw.DeviceEvent
