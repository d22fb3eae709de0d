import Mathlib
import SandboxManager.Bytes

/-! Numbers as text.

`strtol` and `strtoul` pass over blanks, take a sign and then digits, and tell where they stopped.
A number that was rendered in decimal is read back to its end. -/
namespace SandboxManager

def isspace (c : UInt8) : Bool := c = 32 || (9 ≤ c && c ≤ 13)

def isdigit (c : UInt8) : Bool := 48 ≤ c && c ≤ 57

def digitsValue (digits : Bytes) : Nat := digits.foldl (fun n c => 10 * n + (c.toNat - 48)) 0

/-- Whether there is a minus, and what follows the sign. -/
def sign (text : Bytes) : Bool × Bytes :=
  if text.head? = some 45 then (true, text.tail)
  else if text.head? = some 43 then (false, text.tail)
  else (false, text)

/-- The number at the beginning of a text, of any size, and where it ends. Without digits the
text ends where it began. -/
def leadingInteger (text : Bytes) : Int × Bytes :=
  let signed := sign (text.dropWhile isspace)
  let digits := signed.2.takeWhile isdigit
  if digits = [] then (0, text)
  else
    (if signed.1 then -(digitsValue digits : Int) else digitsValue digits,
      signed.2.dropWhile isdigit)

def LONG_MIN : Int := -9223372036854775808
def LONG_MAX : Int := 9223372036854775807
def ULONG_MAX : Nat := 18446744073709551615

def decimal (n : Nat) : Bytes :=
  if n = 0 then [48] else (Nat.digits 10 n).reverse.map fun d => UInt8.ofNat (48 + d)

/-- An integer in decimal, with a minus if it is negative. -/
def toDecimal (n : Int) : Bytes := if n < 0 then 45 :: decimal n.natAbs else decimal n.natAbs

theorem isdigit_ofNat {d : Nat} (h : d < 10) : isdigit (UInt8.ofNat (48 + d)) = true := by
  interval_cases d <;> rfl

theorem isdigit_decimal (n : Nat) : ∀ c ∈ decimal n, isdigit c = true := by
  intro c hc
  unfold decimal at hc
  split at hc
  · obtain rfl := List.mem_singleton.mp hc
    rfl
  · obtain ⟨d, hd, rfl⟩ := List.mem_map.mp hc
    exact isdigit_ofNat (Nat.digits_lt_base (by decide) (List.mem_reverse.mp hd))

theorem decimal_ne_nil (n : Nat) : decimal n ≠ [] := by
  unfold decimal
  split
  case isTrue => exact List.cons_ne_nil _ _
  case isFalse h =>
    intro hnil
    rw [List.map_eq_nil_iff, List.reverse_eq_nil_iff] at hnil
    exact h (Nat.digits_eq_nil_iff_eq_zero.mp hnil)

theorem digitsValue_decimal (n : Nat) : digitsValue (decimal n) = n := by
  unfold decimal
  split
  case isTrue h => exact h.symm
  case isFalse =>
    rw [digitsValue, List.foldl_map, List.foldl_reverse]
    calc (Nat.digits 10 n).foldr (fun d m => 10 * m + ((UInt8.ofNat (48 + d)).toNat - 48)) 0
        = (Nat.digits 10 n).foldr (fun d m => d + 10 * m) 0 := by
          apply List.foldr_ext
          intro d hd m
          have hlt : d < 10 := Nat.digits_lt_base (by decide) hd
          have hbyte : (UInt8.ofNat (48 + d)).toNat = 48 + d := by
            rw [UInt8.toNat_ofNat']
            exact Nat.mod_eq_of_lt (by omega)
          rw [hbyte]
          omega
      _ = Nat.ofDigits 10 (Nat.digits 10 n) := (Nat.ofDigits_eq_foldr 10 _).symm
      _ = n := Nat.ofDigits_digits 10 n

theorem takeWhile_decimal (n : Nat) : (decimal n).takeWhile isdigit = decimal n :=
  List.takeWhile_eq_self_iff.mpr (isdigit_decimal n)

theorem dropWhile_decimal (n : Nat) : (decimal n).dropWhile isdigit = [] :=
  List.dropWhile_eq_nil_iff.mpr (isdigit_decimal n)

theorem isspace_of_isdigit {c : UInt8} (h : isdigit c = true) : isspace c = false := by
  simp only [isdigit, isspace, UInt8.le_iff_toNat_le, ← UInt8.toNat_inj, Bool.and_eq_true,
    Bool.or_eq_false_iff, Bool.and_eq_false_iff, decide_eq_true_eq, decide_eq_false_iff_not,
    UInt8.reduceToNat] at h ⊢
  omega

/-- A digit is neither a blank nor a sign. -/
theorem sign_decimal (n : Nat) : sign ((decimal n).dropWhile isspace) = (false, decimal n) := by
  cases h : decimal n with
  | nil => exact absurd h (decimal_ne_nil n)
  | cons c rest =>
    have hc : isdigit c = true := isdigit_decimal n c (h ▸ List.mem_cons_self ..)
    have hminus : c ≠ 45 := by
      rintro rfl
      cases hc
    have hplus : c ≠ 43 := by
      rintro rfl
      cases hc
    rw [List.dropWhile_cons, isspace_of_isdigit hc, if_neg Bool.false_ne_true, sign, List.head?_cons,
      if_neg fun heq => hminus (Option.some.inj heq), if_neg fun heq => hplus (Option.some.inj heq)]

/-- What was rendered is read back. -/
theorem leadingInteger_toDecimal (n : Int) : leadingInteger (toDecimal n) = (n, []) := by
  unfold toDecimal
  split
  case isTrue h =>
    have hsign : sign ((45 :: decimal n.natAbs).dropWhile isspace) = (true, decimal n.natAbs) := rfl
    rw [leadingInteger, hsign, takeWhile_decimal, dropWhile_decimal, digitsValue_decimal,
      if_neg (decimal_ne_nil _)]
    exact congrArg (·, []) (by rw [if_pos rfl, Int.ofNat_natAbs_of_nonpos h.le, Int.neg_neg])
  case isFalse h =>
    rw [leadingInteger, sign_decimal, takeWhile_decimal, dropWhile_decimal, digitsValue_decimal,
      if_neg (decimal_ne_nil _)]
    exact congrArg (·, []) (Int.natAbs_of_nonneg (not_lt.mp h))

/-- A rendered number is a C string. -/
theorem cStr_toDecimal (n : Int) : cStr (toDecimal n) = toDecimal n := by
  have hdecimal : ∀ m, 0 ∉ decimal m := by
    intro m h0
    cases isdigit_decimal m 0 h0
  apply cStr_of_zero_notMem
  unfold toDecimal
  split
  · rw [List.mem_cons, not_or]
    exact ⟨by decide, hdecimal _⟩
  · exact hdecimal _

theorem toDecimal_ne_nil (n : Int) : toDecimal n ≠ [] := by
  unfold toDecimal
  split
  · exact List.cons_ne_nil _ _
  · exact decimal_ne_nil _

end SandboxManager
