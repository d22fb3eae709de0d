import Mathlib.Data.List.Infix

/-! Length-prefixed frames on a stream.

A frame is a header of a fixed length and a body whose length the header states.
`split` reads the complete frames off a stream; what it leaves behind is less than a
frame. A stream that was written frame by frame reads back as those frames, however
far the last of them has got (`split_flatten`, `split_partial`). -/
namespace Library

/-- How long a header is, and what body length it announces. -/
structure Framing (α : Type*) where
  headerLength : Nat
  bodyLength : List α → Nat
  headerLength_pos : 0 < headerLength

namespace Framing
variable {α : Type*} (F : Framing α)

/-- The length of the frame a stream begins with. -/
def frameLength (stream : List α) : Nat :=
  F.headerLength + F.bodyLength (stream.take F.headerLength)

/-- One whole frame and nothing else. -/
structure IsFrame (frame : List α) : Prop where
  header : F.headerLength ≤ frame.length
  length : F.frameLength frame = frame.length

/-- A stream begins with a whole frame. -/
def Begins (stream : List α) : Prop :=
  F.headerLength ≤ stream.length ∧ F.frameLength stream ≤ stream.length

instance (stream : List α) : Decidable (F.Begins stream) :=
  inferInstanceAs (Decidable (_ ∧ _))

/-- The complete frames of a stream, in order. -/
def split (stream : List α) : List (List α) :=
  if F.Begins stream then
    stream.take (F.frameLength stream) :: split (stream.drop (F.frameLength stream))
  else []
termination_by stream.length
decreasing_by
  have hpos := F.headerLength_pos
  rename_i h
  have := h.1
  rw [List.length_drop]
  unfold frameLength
  omega

variable {F}

theorem split_of_not_begins {stream : List α} (h : ¬ F.Begins stream) : F.split stream = [] := by
  rw [split, if_neg h]

theorem split_short {stream : List α} (h : stream.length < F.headerLength) :
    F.split stream = [] :=
  split_of_not_begins fun hb => absurd hb.1 (by omega)

@[simp] theorem split_nil : F.split [] = [] :=
  split_short F.headerLength_pos

/-- Only the header says how long a frame is. -/
theorem frameLength_append {stream : List α} (h : F.headerLength ≤ stream.length)
    (rest : List α) : F.frameLength (stream ++ rest) = F.frameLength stream := by
  unfold frameLength
  rw [List.take_append_of_le_length h]

theorem split_append {frame : List α} (h : F.IsFrame frame) (rest : List α) :
    F.split (frame ++ rest) = frame :: F.split rest := by
  have hlen : F.frameLength (frame ++ rest) = frame.length := by
    rw [frameLength_append h.header, h.length]
  have hbegins : F.Begins (frame ++ rest) := by
    refine ⟨?_, ?_⟩
    · rw [List.length_append]
      exact Nat.le_trans h.header (Nat.le_add_right _ _)
    · rw [hlen, List.length_append]
      exact Nat.le_add_right _ _
  rw [split, if_pos hbegins, hlen, List.take_left, List.drop_left]

/-- **Frames written one after another are read back**, whatever follows them. -/
theorem split_flatten {frames : List (List α)} (h : ∀ frame ∈ frames, F.IsFrame frame)
    (rest : List α) : F.split (frames.flatten ++ rest) = frames ++ F.split rest := by
  induction frames with
  | nil => rfl
  | cons frame frames ih =>
    have hframe := h frame (List.mem_cons_self ..)
    have hframes : ∀ f ∈ frames, F.IsFrame f := fun f hf => h f (List.mem_cons_of_mem _ hf)
    rw [List.flatten_cons, List.append_assoc, split_append hframe, ih hframes, List.cons_append]

/-- A frame that has not been written to its end is not read. -/
theorem split_partial {sent rest : List α} (h : F.IsFrame (sent ++ rest)) (hrest : rest ≠ []) :
    F.split sent = [] := by
  apply split_of_not_begins
  intro hb
  have hlen := h.length
  rw [frameLength_append hb.1, List.length_append] at hlen
  have hpos := List.length_pos_iff.mpr hrest
  have := hb.2
  omega

end Framing

end Library
