import SandboxManager.Claw.EventFormat

/-! What an app can tell from the text of an event.

An app reads the object back (`readEvent`): the numbers of the header, and a value for each
field of the table. The library's printer and parser are parameters; all that is asked of them is
that the parser gives the event's own tree back (`Shown`). Every number survives. A string goes
through `c_str()`, so that it is read back as it came exactly when there is no NUL in it
(`readEvent_eq_iff`). -/
namespace SandboxManager.Claw.DeviceEvent

/-- The value of a field: a number, or the bytes of a string. -/
inductive FieldValue where
  | number (n : Int)
  | text (value : Bytes)
deriving DecidableEq, Repr

/-- What the bytes on the wire stand for. -/
def TlvValueType.wireValue : TlvValueType → Bytes → FieldValue
  | .STRING, value => .text value
  | .UINT64, value => .number (ofLe value)
  | .INT64, value => .number (Int64.ofNat (ofLe value)).toInt
  | .UINT32, value => .number (ofLe value)
  | .INT32, value => .number (Int64.ofNat (ofLe value)).toInt

/-- What an event says: its header, and the value of each field it has. -/
@[ext] structure EventReport where
  eventId : Int
  eventClass : Int
  eventType : Int
  valLen : Int
  fields : Fin TLV_FIELD_TABLE.length → Option FieldValue

def eventReport (header : DeviceEventHeader) (tlvs : List Tlv) : EventReport where
  eventId := header.eventId.toNat
  eventClass := header.eventClass.toNat
  eventType := header.eventType.toNat
  valLen := header.valLen.toNat
  fields i := (tlvs.find? (·.tag == (TLV_FIELD_TABLE.get i).tag)).map fun t =>
    (TLV_FIELD_TABLE.get i).type.wireValue t.value

/-! ### Reading the object -/

def readInteger (text : Bytes) : Option Int :=
  if text ≠ [] ∧ (leadingInteger text).2 = [] then some (leadingInteger text).1 else none

/-- A number rendered as a string. -/
def readQuoted : Json → Option Int
  | .string value => readInteger value
  | _ => none

def readNumber : Json → Option Int
  | .number literal => readInteger literal
  | _ => none

def readText : Json → Option Bytes
  | .string value => some value
  | _ => none

def TlvValueType.readItem (type : TlvValueType) (item : Json) : Option FieldValue :=
  match type with
  | .STRING => (readText item).map .text
  | .UINT64 => (readQuoted item).map .number
  | .INT64 => (readQuoted item).map .number
  | .UINT32 => (readNumber item).map .number
  | .INT32 => (readNumber item).map .number

def readEvent (root : Json) : Option EventReport := do
  let context ← root.getObjectItemCaseSensitive (bytes "context")
  let eventId ← (root.getObjectItemCaseSensitive (bytes "event_id")).bind readQuoted
  let eventClass ← (root.getObjectItemCaseSensitive (bytes "event_class")).bind readNumber
  let eventType ← (root.getObjectItemCaseSensitive (bytes "event_type")).bind readNumber
  let valLen ← (root.getObjectItemCaseSensitive (bytes "val_len")).bind readNumber
  return {
    eventId, eventClass, eventType, valLen
    fields := fun i => (context.getObjectItemCaseSensitive (TLV_FIELD_TABLE.get i).name).bind
      (TLV_FIELD_TABLE.get i).type.readItem }

theorem readInteger_toDecimal (n : Int) : readInteger (toDecimal n) = some n := by
  rw [readInteger, leadingInteger_toDecimal, if_pos ⟨toDecimal_ne_nil n, rfl⟩]

theorem readInteger_decimal (n : Nat) : readInteger (decimal n) = some (n : Int) := by
  have heq : toDecimal (n : Int) = decimal n := by
    rw [toDecimal, if_neg (by omega), Int.natAbs_natCast]
  rw [← heq, readInteger_toDecimal]

/-- What a value looks like to the app. -/
def TlvValueType.shown : TlvValueType → Bytes → Bytes
  | .STRING, value => cStr value
  | _, value => value

theorem readItem_item (type : TlvValueType) (value : Bytes) :
    type.readItem (type.item value) = some (type.wireValue (type.shown value)) := by
  cases type with
  | STRING => rfl
  | UINT64 => exact congrArg (Option.map FieldValue.number) (readInteger_decimal _)
  | INT64 => exact congrArg (Option.map FieldValue.number) (readInteger_toDecimal _)
  | UINT32 => exact congrArg (Option.map FieldValue.number) (readInteger_decimal _)
  | INT32 => exact congrArg (Option.map FieldValue.number) (readInteger_toDecimal _)

theorem name_injective : ∀ i j : Fin TLV_FIELD_TABLE.length,
    (TLV_FIELD_TABLE.get i).name = (TLV_FIELD_TABLE.get j).name → i = j := by decide +kernel

/-- A row's name finds the value with the row's tag. -/
theorem find_member (tlvs : List Tlv) (i : Fin TLV_FIELD_TABLE.length) :
    (Json.object (tlvs.filterMap Tlv.member)).getObjectItemCaseSensitive (TLV_FIELD_TABLE.get i).name =
      (tlvs.find? (·.tag == (TLV_FIELD_TABLE.get i).tag)).map fun t =>
        (TLV_FIELD_TABLE.get i).type.item t.value := by
  unfold Json.getObjectItemCaseSensitive
  dsimp only
  induction tlvs with
  | nil => rfl
  | cons t more ih =>
    rw [filterMap_member, member_eq, List.find?_cons]
    by_cases htag : t.tag = (TLV_FIELD_TABLE.get i).tag
    · rw [findTlvField_eq_some_iff.mpr htag.symm, beq_iff_eq.mpr htag]
      simp
    · rw [beq_eq_false_iff_ne.mpr htag]
      cases hfind : findTlvField t.tag with
      | none => exact ih
      | some j =>
        have hname : (TLV_FIELD_TABLE.get j).name ≠ (TLV_FIELD_TABLE.get i).name := by
          intro hname
          rw [name_injective j i hname, findTlvField_eq_some_iff] at hfind
          exact htag hfind.symm
        rw [Option.map_some, Option.toList_some, List.singleton_append, List.find?_cons_of_neg]
        · exact ih
        · simpa using hname

/-- The tree of an event. -/
def eventTree (data : Bytes) (tlvs : List Tlv) : Json :=
  eventRoot (eventHeader data) (tlvs.filterMap Tlv.member)

/-- What is read back: the report with each value as it is shown. -/
def shownReport (header : DeviceEventHeader) (tlvs : List Tlv) : EventReport :=
  { eventReport header tlvs with
    fields := fun i => (tlvs.find? (·.tag == (TLV_FIELD_TABLE.get i).tag)).map fun t =>
      (TLV_FIELD_TABLE.get i).type.wireValue ((TLV_FIELD_TABLE.get i).type.shown t.value) }

theorem readEvent_eventTree (data : Bytes) (tlvs : List Tlv) :
    readEvent (eventTree data tlvs) = some (shownReport (eventHeader data) tlvs) := by
  have hfields : ∀ i, ((Json.object (tlvs.filterMap Tlv.member)).getObjectItemCaseSensitive
      (TLV_FIELD_TABLE.get i).name).bind (TLV_FIELD_TABLE.get i).type.readItem =
        (shownReport (eventHeader data) tlvs).fields i := by
    intro i
    rw [find_member]
    unfold shownReport
    dsimp only
    cases tlvs.find? (·.tag == (TLV_FIELD_TABLE.get i).tag) with
    | none => rfl
    | some t => exact readItem_item _ _
  have hcontext : (eventTree data tlvs).getObjectItemCaseSensitive (bytes "context") =
      some (.object (tlvs.filterMap Tlv.member)) := rfl
  have hid : ((eventTree data tlvs).getObjectItemCaseSensitive (bytes "event_id")).bind readQuoted =
      some ((eventHeader data).eventId.toNat : Int) := readInteger_decimal _
  have hclass : ((eventTree data tlvs).getObjectItemCaseSensitive (bytes "event_class")).bind
      readNumber = some ((eventHeader data).eventClass.toNat : Int) := readInteger_decimal _
  have htype : ((eventTree data tlvs).getObjectItemCaseSensitive (bytes "event_type")).bind
      readNumber = some ((eventHeader data).eventType.toNat : Int) := readInteger_decimal _
  have hlen : ((eventTree data tlvs).getObjectItemCaseSensitive (bytes "val_len")).bind readNumber =
      some ((eventHeader data).valLen.toNat : Int) := readInteger_decimal _
  simp only [readEvent, hcontext, hid, hclass, htype, hlen, Option.bind_eq_bind, Option.bind_some,
    hfields]
  rfl

/-! ### What is lost -/

/-- No value of a string field has a NUL in it. -/
def NulFree (tlvs : List Tlv) : Prop :=
  ∀ t ∈ tlvs, ∀ field ∈ TLV_FIELD_TABLE, field.tag = t.tag → field.type = .STRING → 0 ∉ t.value

/-- Where no known tag comes twice, a known tag finds its value. -/
theorem find_of_once {tlvs : List Tlv} (honce : Once tlvs) {t : Tlv} (ht : t ∈ tlvs)
    (hknown : t.Known) : (tlvs.find? (·.tag == t.tag)) = some t := by
  induction tlvs with
  | nil => cases ht
  | cons t' more ih =>
    obtain ⟨hdistinct, hmore⟩ := List.pairwise_cons.mp honce
    rw [List.find?_cons]
    rcases List.mem_cons.mp ht with rfl | ht
    · rw [beq_self_eq_true]
    · have hne : t'.tag ≠ t.tag := by
        intro htag
        have hknown' : t'.Known := by
          rw [Tlv.Known, htag]
          exact hknown
        exact hdistinct t ht hknown' htag
      rw [beq_eq_false_iff_ne.mpr hne]
      exact ih hmore ht

theorem cStr_eq_iff {value : Bytes} : cStr value = value ↔ 0 ∉ value :=
  ⟨fun h => h ▸ zero_notMem_cStr value, cStr_of_zero_notMem⟩

/-- What is shown is what was sent, exactly when no string has a NUL in it. -/
theorem shownReport_eq_iff {header : DeviceEventHeader} {tlvs : List Tlv} (honce : Once tlvs) :
    shownReport header tlvs = eventReport header tlvs ↔ NulFree tlvs := by
  constructor
  · intro h t ht field hfield htag htype
    obtain ⟨i, rfl⟩ := List.mem_iff_get.mp hfield
    have hat := congrFun (congrArg EventReport.fields h) i
    unfold shownReport eventReport at hat
    dsimp only at hat
    rw [htag, find_of_once honce ht ⟨_, hfield, htag⟩, Option.map_some, Option.map_some,
      Option.some.injEq, htype] at hat
    exact cStr_eq_iff.mp (FieldValue.text.inj hat)
  · intro h
    refine EventReport.ext rfl rfl rfl rfl (funext fun i => ?_)
    unfold shownReport eventReport
    dsimp only
    cases hfind : tlvs.find? (·.tag == (TLV_FIELD_TABLE.get i).tag) with
    | none => rfl
    | some t =>
      rw [Option.map_some, Option.map_some, Option.some.injEq]
      have hbeq := List.find?_some hfind
      have htag : (TLV_FIELD_TABLE.get i).tag = t.tag := (beq_iff_eq.mp hbeq).symm
      cases htype : (TLV_FIELD_TABLE.get i).type with
      | STRING =>
        have hnul := h t (List.mem_of_find?_eq_some hfind) _ (List.get_mem ..) htag htype
        rw [TlvValueType.shown, cStr_eq_iff.mpr hnul]
      | UINT64 => rfl
      | INT64 => rfl
      | UINT32 => rfl
      | INT32 => rfl

theorem tiled_unique {payload : Bytes} {tlvs tlvs' : List Tlv} (h : Tiled payload tlvs)
    (h' : Tiled payload tlvs') : tlvs = tlvs' := by
  induction h generalizing tlvs' with
  | nil => exact (tiled_nil_iff.mp h').symm
  | @cons raw value rest more hraw hvalue hrest ih =>
    have hne : raw ++ value ++ rest ≠ [] := by
      intro hnil
      have hlen := congrArg List.length hnil
      simp only [List.length_append, hraw, TLV_HEADER_LENGTH, List.length_nil] at hlen
      omega
    have hsplit := (tiled_iff hne).mp h'
    rw [take_tlvHeader hraw, drop_tlvHeader hraw, ← hvalue, List.take_left, List.drop_left] at hsplit
    obtain ⟨-, -, more', rfl, hmore⟩ := hsplit
    rw [ih hmore]

/-- An event the parser accepts, the values its payload is made of, and its text, which the
library's parser reads back to the tree that was printed. -/
structure Shown (cJSON_PrintUnformatted : Json → Bytes) (cJSON_Parse : Bytes → Option Json)
    (data : Bytes) (tlvs : List Tlv) (text : Bytes) : Prop where
  tiled : Tiled (eventPayload data) tlvs
  accepted : ∃ jsonOutput parser, TlvEventParser.parseEvent cJSON_PrintUnformatted data data.length
    jsonOutput = some ⟨.DONE, parser, text⟩
  inverse : cJSON_Parse (cStr (cJSON_PrintUnformatted (eventTree data tlvs))) =
    some (eventTree data tlvs)

section
variable {cJSON_PrintUnformatted : Json → Bytes} {cJSON_Parse : Bytes → Option Json}
  {data data' text text' : Bytes} {tlvs tlvs' : List Tlv}

/-- What is accepted is well-formed, and its text is the printed tree. -/
theorem wellFormed_of_done {jsonOutput : Bytes} {parser : TlvEventParser}
    (h : TlvEventParser.parseEvent cJSON_PrintUnformatted data data.length jsonOutput =
      some ⟨.DONE, parser, text⟩) :
    ∃ tlvs, WellFormed cJSON_PrintUnformatted data tlvs ∧
      text = eventText cJSON_PrintUnformatted data tlvs := by
  by_cases hvalid : FrameValid data
  · rw [parseEvent_of_valid (Or.inl rfl) _ _ hvalid] at h
    by_cases hwell : ∃ tlvs, WellFormed cJSON_PrintUnformatted data tlvs
    · obtain ⟨tlvs, hwell⟩ := hwell
      rw [outcomeOf_of_wellFormed hwell, Option.some.injEq, ParseOutcome.mk.injEq] at h
      exact ⟨tlvs, hwell, h.2.2.symm⟩
    · obtain ⟨error, heq⟩ := outcomeOf_of_not_wellFormed hvalid hwell jsonOutput
      rw [heq, Option.some.injEq, ParseOutcome.mk.injEq] at h
      cases h.1
  · rw [parseEvent_of_not_valid (Or.inl rfl) _ _ hvalid, Option.some.injEq,
      ParseOutcome.mk.injEq] at h
    cases h.1

theorem Shown.once (h : Shown cJSON_PrintUnformatted cJSON_Parse data tlvs text) :
    Once tlvs ∧ text = cStr (cJSON_PrintUnformatted (eventTree data tlvs)) := by
  obtain ⟨jsonOutput, parser, hdone⟩ := h.accepted
  obtain ⟨tlvs', hwell, htext⟩ := wellFormed_of_done hdone
  obtain rfl := tiled_unique hwell.tiled h.tiled
  exact ⟨hwell.once, htext⟩

/-- What an app reads. -/
theorem Shown.read (h : Shown cJSON_PrintUnformatted cJSON_Parse data tlvs text) :
    (cJSON_Parse text).bind readEvent = some (shownReport (eventHeader data) tlvs) := by
  rw [h.once.2, h.inverse, Option.bind_some, readEvent_eventTree]

/-- **An event is read back as it was sent exactly when no string of it has a NUL.** Two such
events with the same text say the same. -/
theorem readEvent_eq_iff (h : Shown cJSON_PrintUnformatted cJSON_Parse data tlvs text)
    (h' : Shown cJSON_PrintUnformatted cJSON_Parse data' tlvs' text') :
    ((cJSON_Parse text).bind readEvent = some (eventReport (eventHeader data) tlvs) ↔
        NulFree tlvs) ∧
      (NulFree tlvs → NulFree tlvs' → text = text' →
        eventReport (eventHeader data) tlvs = eventReport (eventHeader data') tlvs') := by
  refine ⟨?_, fun hnul hnul' htext => ?_⟩
  · rw [h.read, Option.some.injEq]
    exact shownReport_eq_iff h.once.1
  · have hread := h.read
    rw [htext, h'.read, Option.some.injEq, (shownReport_eq_iff h.once.1).mpr hnul,
      (shownReport_eq_iff h'.once.1).mpr hnul'] at hread
    exact hread.symm

end

/-! ### An event with a path -/

/-- Event 7 of class 2 and type 3, on the file at a path of four bytes. -/
def fileEvent (path : Bytes) : Bytes :=
  [1, 0, 0, 0, 2, 0, 0, 0, 3, 0, 0, 0, 8, 0, 0, 0, 7, 0, 0, 0, 0, 0, 0, 0, 3, 1, 4, 0] ++ path

/-- The text of such an event. -/
def fileEventText (path : Bytes) : Bytes :=
  bytes "\x7b\"context\":\x7b\"file_path\":\"" ++ cStr path ++
    bytes "\"\x7d,\"version\":1,\"event_class\":2,\"event_type\":3,\"val_len\":8,\"event_id\":\"7\"\x7d"

theorem fileEvent_header {path : Bytes} (h : path.length = 4) :
    eventHeader (fileEvent path) = ⟨1, 2, 3, 8, 7⟩ ∧ eventPayload (fileEvent path) = [3, 1, 4, 0] ++ path := by
  have hheader : eventHeader (fileEvent path) = ⟨1, 2, 3, 8, 7⟩ := by
    unfold eventHeader fileEvent
    rw [List.take_append_of_le_length (by decide)]
    decide +kernel
  refine ⟨hheader, ?_⟩
  rw [eventPayload, hheader]
  exact List.take_of_length_le (by simp [fileEvent, DEVICE_EVENT_HEADER_LENGTH, h])

theorem fileEvent_wellFormed {path : Bytes} (h : path.length = 4)
    (cJSON_PrintUnformatted : Json → Bytes)
    (hprinted : ∀ tree, (cStr (cJSON_PrintUnformatted tree)).length ≤ MAX_BODY_LENGTH) :
    WellFormed cJSON_PrintUnformatted (fileEvent path) [⟨259, path⟩] := by
  obtain ⟨hheader, hpayload⟩ := fileEvent_header h
  have htag : (TlvHeader.decode [3, 1, 4, 0]).tag = 259 := by decide +kernel
  have hraw : ([3, 1, 4, 0] : Bytes).length = TLV_HEADER_LENGTH := rfl
  have htiled := Tiled.cons hraw h Tiled.nil
  refine ⟨by simp [fileEvent, DEVICE_EVENT_HEADER_LENGTH], by rw [hheader]; rfl, ?_, ?_, ?_, ?_, ?_,
    hprinted _⟩
  · rw [hheader]
    decide +kernel
  · rw [declaredEnd, hheader]
    simp [fileEvent, DEVICE_EVENT_HEADER_LENGTH, h]
  · rw [hpayload]
    simpa [htag] using htiled
  · exact List.pairwise_singleton _ _
  · intro t ht field hfield htag
    obtain rfl := List.mem_singleton.mp ht
    have hrow : ∀ field ∈ TLV_FIELD_TABLE, field.tag = 259 →
        4 ≤ field.maxLength.toNat ∧ field.type = .STRING := by decide +kernel
    obtain ⟨hmax, htype⟩ := hrow field hfield htag
    rw [h, htype]
    exact ⟨hmax, trivial⟩

/-- A printer and a parser that do on the event what the library does. -/
def fileEventPrint (path : Bytes) : Json → Bytes := fun _ => fileEventText path

def fileEventParse (path : Bytes) : Bytes → Option Json := fun text =>
  if text = fileEventText path then some (eventTree (fileEvent path) [⟨259, path⟩]) else none

theorem fileEvent_shown {path : Bytes} (h : path.length = 4) {print : Json → Bytes}
    {parse : Bytes → Option Json} {text : Bytes} (hprint : ∀ tree, print tree = text)
    (hcStr : cStr text = text) (hlong : text.length ≤ MAX_BODY_LENGTH)
    (hparse : parse text = some (eventTree (fileEvent path) [⟨259, path⟩])) :
    Shown print parse (fileEvent path) [⟨259, path⟩] text := by
  have hwell := fileEvent_wellFormed h print fun tree => by rw [hprint, hcStr]; exact hlong
  refine ⟨hwell.tiled, ⟨[], { header := eventHeader (fileEvent path) }, ?_⟩, by rw [hprint, hcStr, hparse]⟩
  have htext : eventText print (fileEvent path) [⟨259, path⟩] = text := by
    rw [eventText, hprint, hcStr]
  rw [parseEvent_of_valid (Or.inl rfl) _ _ (wellFormed_iff.mp hwell).1, outcomeOf_of_wellFormed hwell,
    htext]

/-- The path without a NUL is read back. -/
theorem readEvent_fileEvent :
    ((fileEventParse (bytes "/abc") (fileEventText (bytes "/abc"))).bind readEvent =
        some (eventReport (eventHeader (fileEvent (bytes "/abc"))) [⟨259, bytes "/abc"⟩]) ↔
      NulFree [⟨259, bytes "/abc"⟩]) ∧
    (NulFree [⟨259, bytes "/abc"⟩] → NulFree [⟨259, bytes "/abc"⟩] →
      fileEventText (bytes "/abc") = fileEventText (bytes "/abc") →
      eventReport (eventHeader (fileEvent (bytes "/abc"))) [⟨259, bytes "/abc"⟩] =
        eventReport (eventHeader (fileEvent (bytes "/abc"))) [⟨259, bytes "/abc"⟩]) := by
  have h : Shown (fileEventPrint (bytes "/abc")) (fileEventParse (bytes "/abc"))
      (fileEvent (bytes "/abc")) [⟨259, bytes "/abc"⟩] (fileEventText (bytes "/abc")) :=
    fileEvent_shown rfl (fun _ => rfl) (by decide +kernel) (by decide +kernel) (if_pos rfl)
  exact readEvent_eq_iff h h

/-- Two paths that differ after a NUL have the same text. -/
theorem fileEvent_ambiguous :
    let path := [47, 97, 0, 98]
    let path' := [47, 97, 0, 99]
    let print := fileEventPrint path
    let parse := fileEventParse path
    Shown print parse (fileEvent path) [⟨259, path⟩] (fileEventText path) ∧
      Shown print parse (fileEvent path') [⟨259, path'⟩] (fileEventText path) ∧
      eventReport (eventHeader (fileEvent path)) [⟨259, path⟩] ≠
        eventReport (eventHeader (fileEvent path')) [⟨259, path'⟩] ∧
      (parse (fileEventText path)).bind readEvent ≠
        some (eventReport (eventHeader (fileEvent path)) [⟨259, path⟩]) := by
  intro path path' print parse
  have hsame : eventTree (fileEvent path') [⟨259, path'⟩] = eventTree (fileEvent path) [⟨259, path⟩] := by
    unfold eventTree
    rw [(fileEvent_header rfl).1, (fileEvent_header rfl).1]
    rfl
  have hparse : parse (fileEventText path) = some (eventTree (fileEvent path) [⟨259, path⟩]) :=
    if_pos rfl
  have hcStr : cStr (fileEventText path) = fileEventText path := by decide +kernel
  have hlong : (fileEventText path).length ≤ MAX_BODY_LENGTH := by decide +kernel
  have hshown : Shown print parse (fileEvent path) [⟨259, path⟩] (fileEventText path) :=
    fileEvent_shown rfl (fun _ => rfl) hcStr hlong hparse
  refine ⟨hshown, fileEvent_shown rfl (fun _ => rfl) hcStr hlong (hsame ▸ hparse), fun h => ?_,
    fun h => ?_⟩
  · have hpath := congrFun (congrArg EventReport.fields h) ⟨10, by decide⟩
    have hpath : some (FieldValue.text path) = some (FieldValue.text path') := hpath
    exact absurd (FieldValue.text.inj (Option.some.inj hpath)) (by decide)
  · rw [hshown.read, Option.some.injEq, shownReport_eq_iff hshown.once.1] at h
    have hnul := h _ (List.mem_singleton_self _) _ (List.get_mem TLV_FIELD_TABLE ⟨10, by decide⟩) rfl rfl
    exact hnul (by decide)

end SandboxManager.Claw.DeviceEvent
