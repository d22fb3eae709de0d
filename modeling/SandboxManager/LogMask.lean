import Mathlib.Data.List.Basic
import SandboxManager.Bytes

/-! Masking of paths in the log.

`MaskRealPath` walks over a copy of the path with the start of the current component in
hand, and `SanitizeName` overwrites the middle of each component it meets. A write past the
end of the string is undefined in the source; here it gives no result, so that the result
being there (`maskRealPath_masks`) says that no such write is made. -/
namespace SandboxManager.LogMask

def asterisk : UInt8 := 42

def MAX_SANITIZE_KEEP : Nat := 6

/-- `std::fill` on `[first, first + count)` of the string. -/
def fill (str : Bytes) (first count : Nat) (value : UInt8) : Option Bytes :=
  if first + count ≤ str.length then
    some (str.take first ++ List.replicate count value ++ str.drop (first + count))
  else none

def maskLength (length : Nat) : Nat :=
  if MAX_SANITIZE_KEEP * 2 ≤ length then length - MAX_SANITIZE_KEEP else (length + 1) / 2

def keepLength (length : Nat) : Nat := length - maskLength length

def maskStart (offset length : Nat) : Nat := offset + (keepLength length + 1) / 2

def sanitizeName (str : Bytes) (offset length : Nat) : Option Bytes :=
  fill str (maskStart offset length) (maskLength length) asterisk

/-- One round of the loop, on the string and the start of the current component. -/
def maskStep (state : Bytes × Nat) (pos : Nat) : Option (Bytes × Nat) :=
  if state.1[pos]? = some slash then
    if state.2 < pos then
      (sanitizeName state.1 state.2 (pos - state.2)).map fun result => (result, pos + 1)
    else some (state.1, pos + 1)
  else some state

def maskRealPath (path : Bytes) : Option Bytes :=
  ((List.range path.length).foldlM maskStep (path, 0)).bind fun state =>
    if state.2 < path.length then sanitizeName state.1 state.2 (path.length - state.2)
    else some state.1

/-! ### One component -/

theorem keepLength_eq (length : Nat) : keepLength length = min 6 (length / 2) := by
  unfold keepLength maskLength MAX_SANITIZE_KEEP
  by_cases h : 6 * 2 ≤ length
  · rw [if_pos h]
    omega
  · rw [if_neg h]
    omega

theorem maskLength_add_keepLength (length : Nat) : maskLength length + keepLength length = length := by
  have hle : maskLength length ≤ length := by
    unfold maskLength MAX_SANITIZE_KEEP
    by_cases h : 6 * 2 ≤ length
    · rw [if_pos h]
      omega
    · rw [if_neg h]
      omega
  rw [keepLength, Nat.add_sub_cancel' hle]

/-- What is overwritten lies in the component. -/
theorem maskStart_within (offset length : Nat) :
    offset ≤ maskStart offset length ∧
      maskStart offset length + maskLength length ≤ offset + length := by
  have hsum := maskLength_add_keepLength length
  unfold maskStart
  omega

theorem fill_eq {str : Bytes} {first count : Nat} {value : UInt8}
    (h : first + count ≤ str.length) : ∃ out, fill str first count value = some out ∧
      out.length = str.length ∧
      ∀ i : Nat, out[i]? = if first ≤ i ∧ i < first + count then some value else str[i]? := by
  refine ⟨_, if_pos h, ?_, fun i => ?_⟩
  · simp only [List.length_append, List.length_take, List.length_replicate, List.length_drop]
    omega
  · have htake : (str.take first).length = first := List.length_take_of_le (by omega)
    have hfront : (str.take first ++ List.replicate count value).length = first + count := by
      rw [List.length_append, htake, List.length_replicate]
    by_cases hi : i < first + count
    · rw [List.getElem?_append_left (by omega)]
      by_cases hfirst : first ≤ i
      · rw [if_pos ⟨hfirst, hi⟩, List.getElem?_append_right (by omega), htake,
          List.getElem?_replicate_of_lt (by omega)]
      · rw [if_neg (by omega), List.getElem?_append_left (by omega),
          List.getElem?_take_of_lt (by omega)]
    · rw [if_neg (by omega), List.getElem?_append_right (by omega), hfront, List.getElem?_drop]
      congr 1
      omega

/-- A component of the string is overwritten in its middle, and nothing else is. -/
theorem sanitizeName_eq {str : Bytes} {offset length : Nat} (h : offset + length ≤ str.length) :
    ∃ out, sanitizeName str offset length = some out ∧ out.length = str.length ∧
      ∀ i : Nat, out[i]? = if maskStart offset length ≤ i ∧
        i < maskStart offset length + maskLength length then some asterisk else str[i]? :=
  fill_eq (Nat.le_trans (maskStart_within offset length).2 h)

/-! ### The whole path -/

/-- A longest stretch without a slash, of `n` characters from `start` on. -/
structure MaximalRun (path : Bytes) (start n : Nat) : Prop where
  pos : 0 < n
  inside : start + n ≤ path.length
  plain : ∀ i, start ≤ i → i < start + n → path[i]? ≠ some slash
  before : start = 0 ∨ path[start - 1]? = some slash
  after : start + n = path.length ∨ path[start + n]? = some slash

/-- The run keeps `front` characters at its start and `back` at its end, and the rest of it
is asterisks. -/
def KeepsEnds (path out : Bytes) (start n front back : Nat) : Prop :=
  ∀ i, i < n → out[start + i]? =
    if i < front ∨ n - back ≤ i then path[start + i]? else some asterisk

/-- The run is masked but for at most `min 6 (n / 2)` characters, split between its ends. -/
def MaskedRun (path out : Bytes) (start n : Nat) : Prop :=
  ∃ front back, front + back ≤ min 6 (n / 2) ∧ back ≤ front ∧ front ≤ back + 1 ∧
    KeepsEnds path out start n front back

/-- What holds of the string and the current component before a position is looked at. -/
structure MaskedUpTo (path : Bytes) (pos : Nat) (state : Bytes × Nat) : Prop where
  length : state.1.length = path.length
  start_le : state.2 ≤ pos
  current : ∀ i, state.2 ≤ i → i < pos → path[i]? ≠ some slash
  before : state.2 = 0 ∨ path[state.2 - 1]? = some slash
  ahead : ∀ i : Nat, state.2 ≤ i → state.1[i]? = path[i]?
  slashes : ∀ i : Nat, state.1[i]? = some slash ↔ path[i]? = some slash
  masked : ∀ start n, MaximalRun path start n → start + n ≤ state.2 →
    MaskedRun path state.1 start n

theorem maskedUpTo_zero (path : Bytes) : MaskedUpTo path 0 (path, 0) where
  length := rfl
  start_le := Nat.le_refl 0
  current := fun i _ hi => absurd hi (Nat.not_lt_zero i)
  before := Or.inl rfl
  ahead := fun _ _ => rfl
  slashes := fun _ => Iff.rfl
  masked := fun start n hrun hle => by
    have hpos := hrun.pos
    have hle : start + n ≤ 0 := hle
    omega

section Step
variable {path : Bytes} {pos : Nat} {state : Bytes × Nat}

/-- A run that ends after the start of the current component and not after its end is the
component. -/
theorem MaskedUpTo.run_eq (h : MaskedUpTo path pos state) {start n : Nat}
    (hrun : MaximalRun path start n) (hlo : state.2 < start + n) (hhi : start + n ≤ pos)
    (hend : pos = path.length ∨ path[pos]? = some slash) :
    start = state.2 ∧ start + n = pos := by
  have hpos := hrun.pos
  have hge : state.2 ≤ start := by
    by_contra hlt
    rcases h.before with hzero | hslash
    · omega
    · exact hrun.plain (state.2 - 1) (by omega) (by omega) hslash
  have hle : start ≤ state.2 := by
    by_contra hlt
    rcases hrun.before with hzero | hslash
    · omega
    · exact h.current (start - 1) (by omega) (by omega) hslash
  refine ⟨by omega, ?_⟩
  by_contra hne
  rcases hrun.after with hlen | hslash
  · have := hrun.inside
    rcases hend with hpos' | hpos'
    · omega
    · have := (List.getElem?_eq_some_iff.mp hpos').1
      omega
  · exact h.current (start + n) (by omega) (by omega) hslash

/-- Overwriting the middle of the current component masks it and keeps the rest. -/
theorem MaskedUpTo.sanitize (h : MaskedUpTo path pos state) (hpos : pos ≤ path.length)
    (hend : pos = path.length ∨ path[pos]? = some slash) :
    ∃ out, sanitizeName state.1 state.2 (pos - state.2) = some out ∧
      out.length = path.length ∧ (∀ i : Nat, pos ≤ i → out[i]? = path[i]?) ∧
      (∀ i : Nat, out[i]? = some slash ↔ path[i]? = some slash) ∧
      ∀ start n, MaximalRun path start n → start + n ≤ pos → MaskedRun path out start n := by
  have hstart := h.start_le
  have hfits : state.2 + (pos - state.2) ≤ state.1.length := by
    rw [h.length]
    omega
  obtain ⟨out, hout, hlen, hget⟩ := sanitizeName_eq hfits
  have hwithin := maskStart_within state.2 (pos - state.2)
  refine ⟨out, hout, hlen.trans h.length, fun i hi => ?_, fun i => ?_, fun start n hrun hle => ?_⟩
  · rw [hget, if_neg (by omega)]
    exact h.ahead i (by omega)
  · rw [hget]
    by_cases hi : maskStart state.2 (pos - state.2) ≤ i ∧
        i < maskStart state.2 (pos - state.2) + maskLength (pos - state.2)
    · rw [if_pos hi]
      have hplain := h.current i (by omega) (by omega)
      exact ⟨fun hs => absurd (Option.some.inj hs) (by decide), fun hs => absurd hs hplain⟩
    · rw [if_neg hi]
      exact h.slashes i
  · by_cases hlo : start + n ≤ state.2
    · -- an earlier run lies before the current component
      obtain ⟨front, back, hsum, hback, hfront, hkeeps⟩ := h.masked start n hrun hlo
      refine ⟨front, back, hsum, hback, hfront, fun i hi => ?_⟩
      rw [hget, if_neg (by omega)]
      exact hkeeps i hi
    · obtain ⟨rfl, hn⟩ := h.run_eq hrun (by omega) hle hend
      have hn : n = pos - state.2 := by omega
      have hsum := maskLength_add_keepLength n
      have hkeep := keepLength_eq n
      refine ⟨(keepLength n + 1) / 2, keepLength n / 2, by omega, by omega, by omega, fun i hi => ?_⟩
      rw [hget, ← hn, maskStart]
      by_cases hi' : i < (keepLength n + 1) / 2 ∨ n - keepLength n / 2 ≤ i
      · rw [if_pos hi', if_neg (by omega)]
        exact h.ahead (state.2 + i) (by omega)
      · rw [if_neg hi', if_pos (by omega)]

theorem maskStep_keeps (h : MaskedUpTo path pos state) (hpos : pos < path.length) :
    ∃ state', maskStep state pos = some state' ∧ MaskedUpTo path (pos + 1) state' := by
  have hahead := h.ahead pos h.start_le
  by_cases hslash : path[pos]? = some slash
  · have hbefore : pos + 1 = 0 ∨ path[pos + 1 - 1]? = some slash := Or.inr hslash
    by_cases hlt : state.2 < pos
    · obtain ⟨out, hout, hlen, hrest, hslashes, hmasked⟩ :=
        h.sanitize (Nat.le_of_lt hpos) (Or.inr hslash)
      refine ⟨(out, pos + 1), ?_, hlen, Nat.le_refl _, fun i hi hi' => ?_, hbefore,
        fun i hi => hrest i (by exact Nat.le_of_succ_le hi), hslashes, fun start n hrun hle => ?_⟩
      · rw [maskStep, if_pos (hahead.trans hslash), if_pos hlt, hout]
        rfl
      · exact absurd hi (by simpa using hi')
      · refine hmasked start n hrun ?_
        have hle : start + n ≤ pos + 1 := hle
        by_contra hgt
        exact hrun.plain pos (by have := hrun.pos; omega) (by omega) hslash
    · refine ⟨(state.1, pos + 1), ?_, h.length, Nat.le_refl _, fun i hi hi' => ?_, hbefore,
        fun i hi => h.ahead i ?_, h.slashes, fun start n hrun hle => h.masked start n hrun ?_⟩
      · rw [maskStep, if_pos (hahead.trans hslash), if_neg hlt]
      · exact absurd hi (by simpa using hi')
      · have hi : pos + 1 ≤ i := hi
        have := h.start_le
        omega
      · have hle : start + n ≤ pos + 1 := hle
        have := h.start_le
        by_contra hgt
        exact hrun.plain pos (by have := hrun.pos; omega) (by omega) hslash
  · refine ⟨state, ?_, h.length, Nat.le_succ_of_le h.start_le, fun i hi hi' => ?_, h.before,
      h.ahead, h.slashes, h.masked⟩
    · rw [maskStep, if_neg (by rw [hahead]; exact hslash)]
    · by_cases heq : i = pos
      · rw [heq]
        exact hslash
      · exact h.current i hi (by omega)

end Step

theorem foldlM_maskStep (path : Bytes) (pos : Nat) (hpos : pos ≤ path.length) :
    ∃ state, (List.range pos).foldlM maskStep (path, 0) = some state ∧ MaskedUpTo path pos state := by
  induction pos with
  | zero => exact ⟨(path, 0), rfl, maskedUpTo_zero path⟩
  | succ pos ih =>
    obtain ⟨state, hrun, hstate⟩ := ih (by omega)
    obtain ⟨state', hstep, hstate'⟩ := maskStep_keeps hstate hpos
    refine ⟨state', ?_, hstate'⟩
    simp [List.range_succ, List.foldlM_append, hrun, hstep]

/-- **Masking stays within the components and hides their middles.** -/
theorem maskRealPath_masks :
    (∀ path : Bytes, ∃ out, maskRealPath path = some out ∧ out.length = path.length ∧
      (∀ i : Nat, out[i]? = some slash ↔ path[i]? = some slash) ∧
      ∀ start n, MaximalRun path start n → MaskedRun path out start n) ∧
    ∀ (str : Bytes) (offset length : Nat),
      (offset ≤ maskStart offset length ∧
        maskStart offset length + maskLength length ≤ offset + length) ∧
      (offset + length ≤ str.length → ∃ out, sanitizeName str offset length = some out ∧
        out.length = str.length ∧
        ∀ i : Nat, i < offset ∨ offset + length ≤ i → out[i]? = str[i]?) := by
  refine ⟨fun path => ?_, fun str offset length => ⟨maskStart_within offset length, fun h => ?_⟩⟩
  · obtain ⟨state, hrun, hstate⟩ := foldlM_maskStep path path.length (Nat.le_refl _)
    rw [maskRealPath, hrun, Option.bind_some]
    by_cases hlt : state.2 < path.length
    · obtain ⟨out, hout, hlen, _, hslashes, hmasked⟩ :=
        hstate.sanitize (Nat.le_refl _) (Or.inl rfl)
      exact ⟨out, by rw [if_pos hlt, hout], hlen, hslashes,
        fun start n hr => hmasked start n hr hr.inside⟩
    · have hstart := hstate.start_le
      exact ⟨state.1, if_neg hlt, hstate.length, hstate.slashes,
        fun start n hr => hstate.masked start n hr (by have := hr.inside; omega)⟩
  · obtain ⟨out, hout, hlen, hget⟩ := sanitizeName_eq h
    have hwithin := maskStart_within offset length
    refine ⟨out, hout, hlen, fun i hi => ?_⟩
    rw [hget, if_neg (by omega)]

example : maskRealPath (bytes "//data/documents.txt/") = some (bytes "//d**a/doc*******txt/") := by
  decide

end SandboxManager.LogMask
