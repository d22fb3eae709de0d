import Mathlib.Data.List.TakeWhile
import SandboxManager.Library.Segments

/-! Byte strings.

A `std::string` is a list of bytes. Path components are split at `/`, and letter
case is folded as `std::tolower` and `strcasecmp` fold it in the "C" locale: the
twenty-six ASCII capitals and nothing else. -/
namespace SandboxManager
open Library

abbrev Bytes := List UInt8

/-- A literal of the source: one byte a character. -/
def bytes (s : String) : Bytes := s.toList.map fun c => UInt8.ofNat c.toNat

def slash : UInt8 := 47

def tolower (c : UInt8) : UInt8 := if 65 ≤ c ∧ c ≤ 90 then c + 32 else c

def toLowerCase (str : Bytes) : Bytes := str.map tolower

/-- What a C string function sees of a `std::string`: nothing from the first NUL on. -/
def cStr (str : Bytes) : Bytes := str.takeWhile (· ≠ 0)

theorem zero_notMem_cStr (str : Bytes) : 0 ∉ cStr str := by
  intro h
  have h' := List.mem_takeWhile_imp h
  simp at h'

theorem cStr_of_zero_notMem {str : Bytes} (h : 0 ∉ str) : cStr str = str := by
  rw [cStr, List.takeWhile_eq_self_iff]
  intro c hc
  have hne : c ≠ 0 := fun h0 => h (h0 ▸ hc)
  simpa using hne

/-- `strcasecmp(a, b) == 0`. -/
def strcasecmpEq (a b : Bytes) : Bool := toLowerCase (cStr a) == toLowerCase (cStr b)

/-- Folding neither makes nor removes a separator. -/
theorem tolower_eq_slash (c : UInt8) : tolower c = slash ↔ c = slash := by
  unfold tolower slash
  by_cases h : 65 ≤ c ∧ c ≤ 90
  · rw [if_pos h]
    simp only [UInt8.le_iff_toNat_le, ← UInt8.toNat_inj, UInt8.toNat_add, UInt8.reduceToNat] at h ⊢
    omega
  · rw [if_neg h]

end SandboxManager
