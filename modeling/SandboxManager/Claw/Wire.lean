import SandboxManager.Claw.Response
import SandboxManager.Library.Framing

/-! Messages on the monitor socket (`sandbox_socket.h`).

A message is a packed header of forty bytes and a body whose length the header states.
`received` is what a peer can read of a stream of such messages, and
`received_encodeAll` that it reads what was written. -/
namespace SandboxManager.Claw
open Library

def SANDBOX_SOCKET_MAGIC : UInt32 := 0x53424F58
def SANDBOX_SOCKET_VERSION : UInt32 := 1
def SOCKET_MSG_ADD_POLICY : UInt32 := 1
def SOCKET_MSG_EVENT_ANSWER : UInt32 := 2
def SOCKET_MSG_EVENT_REPORT : UInt32 := 3
def SOCKET_MSG_RESPONSE : UInt32 := 4
def MAX_BODY_LENGTH : Nat := 100 * 1024
def SOCKET_HEADER_LENGTH : Nat := 40
def MAX_TX_BUFFER_SIZE : Nat := MAX_BODY_LENGTH + SOCKET_HEADER_LENGTH

/-! ### The wire format -/

/-- The four bytes of a little-endian word. -/
def toLe32 (n : UInt32) : Bytes :=
  [UInt8.ofNat n.toNat, UInt8.ofNat (n.toNat / 256), UInt8.ofNat (n.toNat / 65536),
    UInt8.ofNat (n.toNat / 16777216)]

def ofLe32 (word : Bytes) : UInt32 :=
  UInt32.ofNat (word.foldr (fun b n => b.toNat + 256 * n) 0)

theorem ofLe32_toLe32 (n : UInt32) : ofLe32 (toLe32 n) = n := by
  have hn := n.toNat_lt
  apply UInt32.toNat_inj.mp
  simp only [ofLe32, toLe32, List.foldr, UInt8.toNat_ofNat', UInt32.toNat_ofNat']
  omega

structure MessageHeader where
  magic : UInt32
  version : UInt32
  bodyLength : UInt32
  msgType : UInt32
  requestId : UInt32
  result : Int32
  reserved : Bytes
deriving DecidableEq, Repr

/-- The packed struct, with sixteen reserved bytes. -/
def MessageHeader.encode (h : MessageHeader) : Bytes :=
  toLe32 h.magic ++ toLe32 h.version ++ toLe32 h.bodyLength ++ toLe32 h.msgType ++
    toLe32 h.requestId ++ toLe32 h.result.toUInt32 ++ h.reserved

/-- The struct lying in the first forty bytes. -/
def MessageHeader.decode (raw : Bytes) : MessageHeader where
  magic := ofLe32 (raw.take 4)
  version := ofLe32 ((raw.drop 4).take 4)
  bodyLength := ofLe32 ((raw.drop 8).take 4)
  msgType := ofLe32 ((raw.drop 12).take 4)
  requestId := ofLe32 ((raw.drop 16).take 4)
  result := (ofLe32 ((raw.drop 20).take 4)).toInt32
  reserved := (raw.drop 24).take 16

/-- A message the monitor writes. -/
structure Frame where
  msgType : UInt32
  requestId : UInt32
  result : Int32
  body : Bytes
deriving DecidableEq, Repr

def Frame.header (f : Frame) : MessageHeader where
  magic := SANDBOX_SOCKET_MAGIC
  version := SANDBOX_SOCKET_VERSION
  bodyLength := UInt32.ofNat f.body.length
  msgType := f.msgType
  requestId := f.requestId
  result := f.result
  reserved := List.replicate 16 0

def Frame.encode (f : Frame) : Bytes := f.header.encode ++ f.body

def Frame.decode (frame : Bytes) : Frame where
  msgType := (MessageHeader.decode frame).msgType
  requestId := (MessageHeader.decode frame).requestId
  result := (MessageHeader.decode frame).result
  body := frame.drop SOCKET_HEADER_LENGTH

/-- How a stream of messages is cut: `bodyLength` stands at offset eight. -/
def framing : Framing UInt8 where
  headerLength := SOCKET_HEADER_LENGTH
  bodyLength := fun header => (MessageHeader.decode header).bodyLength.toNat
  headerLength_pos := by decide

/-- The messages a peer has received completely, given the bytes it has been sent. -/
def received (wire : Bytes) : List Frame := (framing.split wire).map Frame.decode

def encodeAll (frames : List Frame) : Bytes := (frames.map Frame.encode).flatten

theorem encodeAll_append (a b : List Frame) : encodeAll (a ++ b) = encodeAll a ++ encodeAll b := by
  simp [encodeAll]

@[simp] theorem encodeAll_singleton (f : Frame) : encodeAll [f] = f.encode := by
  simp [encodeAll]

theorem MessageHeader.decode_encode {h : MessageHeader} (hreserved : h.reserved.length = 16)
    (rest : Bytes) : MessageHeader.decode (h.encode ++ rest) = h := by
  have htail : (h.reserved ++ rest).take 16 = h.reserved := by
    rw [← hreserved, List.take_left]
  have hraw : MessageHeader.decode (h.encode ++ rest) =
      ⟨ofLe32 (toLe32 h.magic), ofLe32 (toLe32 h.version), ofLe32 (toLe32 h.bodyLength),
        ofLe32 (toLe32 h.msgType), ofLe32 (toLe32 h.requestId),
        (ofLe32 (toLe32 h.result.toUInt32)).toInt32, (h.reserved ++ rest).take 16⟩ := rfl
  rw [hraw, htail]
  simp only [ofLe32_toLe32, Int32.toInt32_toUInt32]

theorem Frame.length_header (f : Frame) : f.header.encode.length = SOCKET_HEADER_LENGTH := rfl

theorem Frame.length_encode (f : Frame) :
    f.encode.length = SOCKET_HEADER_LENGTH + f.body.length := by
  rw [Frame.encode, List.length_append, f.length_header]

theorem Frame.decode_header (f : Frame) : MessageHeader.decode f.encode = f.header :=
  MessageHeader.decode_encode rfl f.body

theorem Frame.decode_encode (f : Frame) : Frame.decode f.encode = f := by
  have hbody : f.encode.drop SOCKET_HEADER_LENGTH = f.body := rfl
  unfold Frame.decode
  rw [f.decode_header, hbody]
  rfl

/-- The header announces the body, as long as the body's length fits its field. -/
theorem Frame.isFrame_encode {f : Frame} (h : f.body.length ≤ MAX_BODY_LENGTH) :
    framing.IsFrame f.encode := by
  have hheader : f.encode.take SOCKET_HEADER_LENGTH = f.header.encode := rfl
  have hdecode : MessageHeader.decode f.header.encode = f.header := by
    have := MessageHeader.decode_encode (h := f.header) rfl []
    rwa [List.append_nil] at this
  have hbody : f.header.bodyLength.toNat = f.body.length := by
    show (UInt32.ofNat f.body.length).toNat = f.body.length
    rw [UInt32.toNat_ofNat']
    unfold MAX_BODY_LENGTH at h
    omega
  refine ⟨?_, ?_⟩
  · rw [f.length_encode]
    exact Nat.le_add_right _ _
  · show SOCKET_HEADER_LENGTH +
      (MessageHeader.decode (f.encode.take SOCKET_HEADER_LENGTH)).bodyLength.toNat = _
    rw [hheader, hdecode, hbody, f.length_encode]

/-- **A peer receives the messages that were written**, then whatever it can make of the
rest. -/
theorem received_encodeAll {frames : List Frame}
    (h : ∀ f ∈ frames, f.body.length ≤ MAX_BODY_LENGTH) (rest : Bytes) :
    received (encodeAll frames ++ rest) = frames ++ received rest := by
  have hframes : ∀ frame ∈ frames.map Frame.encode, framing.IsFrame frame := by
    intro frame hmem
    obtain ⟨f, hf, rfl⟩ := List.mem_map.mp hmem
    exact f.isFrame_encode (h f hf)
  unfold received encodeAll
  rw [Framing.split_flatten hframes, List.map_append, List.map_map]
  congr 1
  exact (List.map_congr_left fun f _ => Frame.decode_encode f).trans (List.map_id _)

@[simp] theorem received_nil : received [] = [] := by
  simp [received]

/-- A message sent in part is not received. -/
theorem received_partial {f : Frame} {sent rest : Bytes} (h : f.body.length ≤ MAX_BODY_LENGTH)
    (hsplit : f.encode = sent ++ rest) (hrest : rest ≠ []) : received sent = [] := by
  unfold received
  rw [Framing.split_partial (hsplit ▸ f.isFrame_encode h) hrest, List.map_nil]

end SandboxManager.Claw
