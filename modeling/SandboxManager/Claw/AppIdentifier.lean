import SandboxManager.Number

/-! The number that names an application.

`ParseU64Strict` turns away a leading minus and what `strtoull` does not read to its end. In
base 0 `strtoull` itself passes over blanks, takes a sign and reads digits after a zero in base
eight, and it sees the text only up to a NUL. `parseU64Strict_eq_some_iff` says what is
accepted, and `parseU64Strict_exact_iff` which texts are read as they are written. -/
namespace SandboxManager.Claw.AppIdentifier

/-- The value of a hexadecimal digit; 16 for anything else. -/
def digitVal (c : UInt8) : Nat :=
  if 48 ≤ c ∧ c ≤ 57 then c.toNat - 48
  else if 97 ≤ c ∧ c ≤ 102 then c.toNat - 87
  else if 65 ≤ c ∧ c ≤ 70 then c.toNat - 55
  else 16

def valueIn (base : Nat) (digits : Bytes) : Nat :=
  digits.foldl (fun n c => base * n + digitVal c) 0

/-- The base that base 0 stands for, and where the digits begin. -/
def radix (body : Bytes) : Nat × Bytes :=
  if body.head? = some 48 then
    if (body.tail.head? = some 120 ∨ body.tail.head? = some 88) ∧
        (body.drop 2).head?.any (digitVal · < 16) then
      (16, body.drop 2)
    else (8, body)
  else (10, body)

/-- `strtoull(text, &end, 0)`: the value, whether `errno` is `ERANGE`, and what stands at
`end`. A minus negates in 64 bits. -/
def strtoull (text : Bytes) : Nat × Bool × Bytes :=
  let signed := sign (text.dropWhile SandboxManager.isspace)
  let base := (radix signed.2).1
  let digits := (radix signed.2).2.takeWhile (digitVal · < base)
  let rest := (radix signed.2).2.dropWhile (digitVal · < base)
  if digits = [] then (0, false, text)
  else if 2 ^ 64 ≤ valueIn base digits then (2 ^ 64 - 1, true, rest)
  else
    (if signed.1 then (2 ^ 64 - valueIn base digits) % 2 ^ 64 else valueIn base digits, false, rest)

def parseU64Strict (text : Bytes) : Option Nat :=
  if text = [] ∨ text.head? = some 45 then none
  else
    let parsed := strtoull (cStr text)
    if parsed.2.1 = true ∨ parsed.2.2 = cStr text ∨ parsed.2.2 ≠ [] then none else some parsed.1

/-! ### Digits -/

def Digits (base : Nat) (digits : Bytes) : Prop := ∀ c ∈ digits, digitVal c < base

instance (base : Nat) (digits : Bytes) : Decidable (Digits base digits) :=
  inferInstanceAs (Decidable (∀ c ∈ digits, digitVal c < base))

/-- An unsigned numeral, in decimal or after `0x` in hexadecimal. -/
inductive Numeral : Bytes → Nat → Prop where
  | decimal {digits : Bytes} : digits ≠ [] → Digits 10 digits → Numeral digits (valueIn 10 digits)
  | hexadecimal {x : UInt8} {digits : Bytes} : x = 120 ∨ x = 88 → digits ≠ [] → Digits 16 digits →
      Numeral (48 :: x :: digits) (valueIn 16 digits)

/-- What `strtoull` takes for an unsigned number: a zero in front means base eight. -/
inductive Literal : Bytes → Nat → Prop where
  | decimal {digits : Bytes} : digits ≠ [] → digits.head? ≠ some 48 → Digits 10 digits →
      Literal digits (valueIn 10 digits)
  | octal {digits : Bytes} : Digits 8 digits → Literal (48 :: digits) (valueIn 8 digits)
  | hexadecimal {x : UInt8} {digits : Bytes} : x = 120 ∨ x = 88 → digits ≠ [] → Digits 16 digits →
      Literal (48 :: x :: digits) (valueIn 16 digits)

/-- What is left of the text when the NUL and what follows it, the blanks in front and the sign
are gone. -/
def body (text : Bytes) : Bytes := (sign ((cStr text).dropWhile SandboxManager.isspace)).2

def negative (text : Bytes) : Bool := (sign ((cStr text).dropWhile SandboxManager.isspace)).1

section
variable {text digits : Bytes} {base : Nat} {c : UInt8}

theorem Digits.mono (h : Digits base digits) {base' : Nat} (hle : base ≤ base') :
    Digits base' digits :=
  fun c hc => Nat.lt_of_lt_of_le (h c hc) hle

/-- A digit is no blank, no sign and no NUL, and it does not announce hexadecimal. -/
theorem digitVal_not (h : digitVal c < 16) :
    SandboxManager.isspace c = false ∧ c ≠ 45 ∧ c ≠ 43 ∧ c ≠ 0 ∧ c ≠ 120 ∧ c ≠ 88 := by
  have hne : ∀ b : UInt8, digitVal b = 16 → c ≠ b := by
    intro b hb heq
    rw [heq, hb] at h
    exact Nat.lt_irrefl 16 h
  refine ⟨?_, hne 45 rfl, hne 43 rfl, hne 0 rfl, hne 120 rfl, hne 88 rfl⟩
  have hspace := hne 32 rfl
  unfold digitVal at h
  simp only [SandboxManager.isspace, UInt8.le_iff_toNat_le, Bool.or_eq_false_iff,
    Bool.and_eq_false_iff, decide_eq_false_iff_not, UInt8.reduceToNat] at h ⊢
  grind

theorem valueIn_zero_cons : valueIn base (48 :: digits) = valueIn base digits := by
  rw [valueIn, List.foldl_cons, Nat.mul_zero]
  rfl

theorem valueIn_le {base' : Nat} (h : base ≤ base') : valueIn base digits ≤ valueIn base' digits := by
  have hfold : ∀ m n, m ≤ n → digits.foldl (fun n c => base * n + digitVal c) m ≤
      digits.foldl (fun n c => base' * n + digitVal c) n := by
    induction digits with
    | nil => exact fun m n hmn => hmn
    | cons c digits ih =>
      intro m n hmn
      exact ih _ _ (Nat.add_le_add_right (Nat.mul_le_mul h hmn) _)
  exact hfold 0 0 (Nat.le_refl 0)

/-- A literal, as the base and the digits it is read with. -/
theorem literal_iff {m : Nat} :
    Literal text m ↔ (radix text).2 ≠ [] ∧ Digits (radix text).1 (radix text).2 ∧
      m = valueIn (radix text).1 (radix text).2 := by
  constructor
  · intro h
    cases h with
    | decimal hne hhead hdigits =>
      rw [radix, if_neg hhead]
      exact ⟨hne, hdigits, rfl⟩
    | @octal digits hdigits =>
      have hx : ¬ ((digits.head? = some 120 ∨ digits.head? = some 88) ∧
          (digits.drop 1).head?.any (digitVal · < 16) = true) := by
        rintro ⟨hx, -⟩
        rcases hx with hx | hx
        · exact absurd (hdigits _ (List.mem_of_head? hx)) (by decide)
        · exact absurd (hdigits _ (List.mem_of_head? hx)) (by decide)
      have hradix : radix (48 :: digits) = (8, 48 :: digits) := by
        rw [radix, List.head?_cons, if_pos rfl]
        exact if_neg hx
      rw [hradix]
      refine ⟨List.cons_ne_nil _ _, fun c hc => ?_, valueIn_zero_cons.symm⟩
      rcases List.mem_cons.mp hc with rfl | hc
      · exact (by decide : digitVal 48 < 8)
      · exact hdigits c hc
    | @hexadecimal x digits hx hne hdigits =>
      obtain ⟨d, rest, rfl⟩ := List.exists_cons_of_ne_nil hne
      have hd : digitVal d < 16 := hdigits d (List.mem_cons_self ..)
      have hradix : radix (48 :: x :: d :: rest) = (16, d :: rest) := by
        rw [radix, List.head?_cons, if_pos rfl]
        exact if_pos ⟨by simpa using hx, by simpa using hd⟩
      rw [hradix]
      exact ⟨hne, hdigits, rfl⟩
  · rintro ⟨hne, hdigits, rfl⟩
    unfold radix at hne hdigits ⊢
    by_cases hzero : text.head? = some 48
    · obtain ⟨rest, rfl⟩ := List.head?_eq_some_iff.mp hzero
      rw [if_pos hzero] at hne hdigits ⊢
      split at hdigits
      case isTrue hx =>
        rw [if_pos hx] at hne ⊢
        cases rest with
        | nil => simp at hx
        | cons x digits => exact Literal.hexadecimal (by simpa using hx.1) hne hdigits
      case isFalse hx =>
        rw [if_neg hx] at hne ⊢
        rw [valueIn_zero_cons]
        exact Literal.octal fun c hc => hdigits c (List.mem_cons_of_mem 48 hc)
    · rw [if_neg hzero] at hne hdigits ⊢
      exact Literal.decimal hne hzero hdigits

/-! ### What is accepted -/

theorem Literal.ne_nil {m : Nat} (h : Literal text m) : text ≠ [] := by
  cases h with
  | decimal hne => exact hne
  | octal => exact List.cons_ne_nil _ _
  | hexadecimal => exact List.cons_ne_nil _ _

/-- A literal is read to its end, unless it is too large. -/
theorem strtoull_literal {m : Nat} (h : Literal (body text) m) :
    strtoull (cStr text) =
      if 2 ^ 64 ≤ m then (2 ^ 64 - 1, true, [])
      else (if negative text then (2 ^ 64 - m) % 2 ^ 64 else m, false, []) := by
  obtain ⟨hne, hdigits, rfl⟩ := literal_iff.mp h
  unfold body at hne hdigits
  have htake := List.takeWhile_eq_self_iff.mpr fun c hc => decide_eq_true (hdigits c hc)
  have hdrop := List.dropWhile_eq_nil_iff.mpr fun c hc => decide_eq_true (hdigits c hc)
  simp only [strtoull, htake, hdrop, if_neg hne, body, negative]
  rfl

/-- What is read to its end, past where it began, is a literal. -/
theorem literal_of_strtoull (hne : (strtoull (cStr text)).2.2 ≠ cStr text)
    (hend : (strtoull (cStr text)).2.2 = []) : ∃ m, Literal (body text) m := by
  simp only [strtoull] at hne hend
  split at hend
  case isTrue hnil => simp [hnil] at hne
  case isFalse hdigits =>
    have hdrop : (radix (body text)).2.dropWhile (digitVal · < (radix (body text)).1) = [] := by
      split at hend
      · exact hend
      · exact hend
    have hall : Digits (radix (body text)).1 (radix (body text)).2 :=
      fun c hc => of_decide_eq_true (List.dropWhile_eq_nil_iff.mp hdrop c hc)
    refine ⟨_, literal_iff.mpr ⟨fun hnil => hdigits ?_, hall, rfl⟩⟩
    unfold body at hnil
    rw [hnil, List.takeWhile_nil]

/-- **Accepted is every literal below `2 ^ 64`, whatever stands around it**, but for a minus at
the very front. -/
theorem parseU64Strict_eq_some_iff {n : Nat} :
    parseU64Strict text = some n ↔ text.head? ≠ some 45 ∧ ∃ m, Literal (body text) m ∧ m < 2 ^ 64 ∧
      n = if negative text then (2 ^ 64 - m) % 2 ^ 64 else m := by
  have hnil : text = [] → ∀ m, ¬ Literal (body text) m := by
    rintro rfl m h
    exact h.ne_nil rfl
  unfold parseU64Strict
  constructor
  · intro h
    split at h
    · cases h
    case isFalse hfront =>
      rw [not_or] at hfront
      dsimp only at h
      split at h
      · cases h
      case isFalse hread =>
        rw [not_or, not_or, not_not] at hread
        obtain ⟨m, hm⟩ := literal_of_strtoull hread.2.1 hread.2.2
        rw [strtoull_literal hm] at h hread
        by_cases hlarge : 2 ^ 64 ≤ m
        · rw [if_pos hlarge] at hread
          exact absurd rfl hread.1
        · rw [if_neg hlarge] at h
          exact ⟨hfront.2, m, hm, Nat.lt_of_not_le hlarge, (Option.some.inj h).symm⟩
  · rintro ⟨hminus, m, hm, hlt, rfl⟩
    have hcStr : cStr text ≠ [] := by
      intro hc
      have hbody : body text = [] := by
        rw [body, hc]
        rfl
      exact hm.ne_nil hbody
    rw [if_neg (not_or.mpr ⟨fun h => hnil h m hm, hminus⟩), strtoull_literal hm,
      if_neg (Nat.not_le_of_lt hlt)]
    exact if_neg (not_or.mpr ⟨Bool.false_ne_true, not_or.mpr ⟨hcStr.symm, not_not.mpr rfl⟩⟩)

/-! ### What is read as written -/

/-- The text begins with a digit. -/
theorem Numeral.head {n : Nat} (h : Numeral text n) :
    ∃ c rest, text = c :: rest ∧ digitVal c < 16 ∧ 0 ∉ text := by
  have hnul : ∀ {digits : Bytes}, Digits 16 digits → 0 ∉ digits :=
    fun hdigits h0 => (digitVal_not (hdigits 0 h0)).2.2.2.1 rfl
  cases h with
  | decimal hne hdigits =>
    obtain ⟨c, rest, rfl⟩ := List.exists_cons_of_ne_nil hne
    have hdigits := hdigits.mono (by decide : 10 ≤ 16)
    exact ⟨c, rest, rfl, hdigits c (List.mem_cons_self ..), hnul hdigits⟩
  | @hexadecimal x digits hx hne hdigits =>
    refine ⟨48, x :: digits, rfl, by decide, ?_⟩
    refine List.not_mem_cons_of_ne_of_not_mem (by decide) (List.not_mem_cons_of_ne_of_not_mem ?_
      (hnul hdigits))
    rintro rfl
    simp at hx

theorem Numeral.undecorated {n : Nat} (h : Numeral text n) :
    body text = text ∧ negative text = false ∧ text.head? ≠ some 45 := by
  obtain ⟨c, rest, rfl, hc, hnul⟩ := h.head
  obtain ⟨hspace, hminus, hplus, -⟩ := digitVal_not hc
  have hdrop : (c :: rest).dropWhile SandboxManager.isspace = c :: rest := by
    rw [List.dropWhile_cons, hspace, if_neg Bool.false_ne_true]
  have hsign : sign (c :: rest) = (false, c :: rest) := by
    rw [sign, List.head?_cons, if_neg fun h => hminus (Option.some.inj h),
      if_neg fun h => hplus (Option.some.inj h)]
  rw [body, negative, cStr_of_zero_notMem hnul, hdrop, hsign]
  exact ⟨rfl, rfl, fun h => hminus (Option.some.inj h)⟩

theorem negative_of_body (h : body text = text) : negative text = false := by
  unfold body negative at *
  by_contra hneg
  have hlen := congrArg List.length h
  have hcut : ((cStr text).dropWhile SandboxManager.isspace).length ≤ text.length :=
    (List.Sublist.length_le ((List.dropWhile_sublist _).trans (List.takeWhile_sublist _)))
  unfold sign at hneg hlen
  by_cases hminus : ((cStr text).dropWhile SandboxManager.isspace).head? = some 45
  · obtain ⟨rest, hrest⟩ := List.head?_eq_some_iff.mp hminus
    rw [if_pos hminus] at hlen
    rw [hrest] at hlen hcut
    simp only [List.tail_cons, List.length_cons] at hlen hcut
    omega
  · rw [if_neg hminus] at hneg
    split at hneg
    · exact hneg rfl
    · exact hneg rfl

/-- The digits after a zero say the same in base eight as in base ten, or nothing that fits. -/
def ZeroHarmless (digits : Bytes) : Prop :=
  if Digits 8 digits then valueIn 8 digits = valueIn 10 digits ∨ 2 ^ 64 ≤ valueIn 8 digits
  else 2 ^ 64 ≤ valueIn 10 digits

/-- Nothing stands around a literal that would be accepted, and a decimal numeral that begins
with a zero is harmless. -/
structure Straight (text : Bytes) : Prop where
  undecorated : ∀ m, Literal (body text) m → m < 2 ^ 64 → text.head? ≠ some 45 → body text = text
  zero : ∀ digits, text = 48 :: digits → Digits 10 digits → ZeroHarmless digits

/-- No decimal digit announces hexadecimal. -/
theorem not_announces {x : UInt8} (h : digitVal x < 10) : ¬ (x = 120 ∨ x = 88) := by
  have hnot := digitVal_not (Nat.lt_trans h (by decide : 10 < 16))
  exact not_or.mpr ⟨hnot.2.2.2.2.1, hnot.2.2.2.2.2⟩

/-- A decimal numeral is read in one way. -/
theorem Numeral.eq_decimal {n : Nat} (h : Numeral text n) (hdigits : Digits 10 text) :
    n = valueIn 10 text := by
  cases h with
  | decimal => rfl
  | @hexadecimal x digits hx hne hall =>
    have hten := hdigits x (List.mem_cons_of_mem 48 (List.mem_cons_self ..))
    exact absurd hx (not_announces hten)

theorem digits_zero_cons (h : Digits 10 digits) : Digits 10 (48 :: digits) := by
  intro c hc
  rcases List.mem_cons.mp hc with rfl | hc
  · decide
  · exact h c hc

theorem numeral_zero_cons (h : Digits 10 digits) : Numeral (48 :: digits) (valueIn 10 digits) := by
  rw [← valueIn_zero_cons]
  exact Numeral.decimal (List.cons_ne_nil _ _) (digits_zero_cons h)

/-- Where a numeral with a zero in front is read as written, the zero is harmless. -/
theorem zeroHarmless_of_exact (hdigits : Digits 10 digits)
    (h : ∀ n, parseU64Strict (48 :: digits) = some n ↔ Numeral (48 :: digits) n ∧ n < 2 ^ 64) :
    ZeroHarmless digits := by
  have hten := numeral_zero_cons hdigits
  obtain ⟨hbody, hneg, hminus⟩ := hten.undecorated
  unfold ZeroHarmless
  by_cases hoctal : Digits 8 digits
  · rw [if_pos hoctal]
    by_contra hnot
    rw [not_or, Nat.not_le] at hnot
    have hliteral : Literal (body (48 :: digits)) (valueIn 8 digits) := by
      rw [hbody]
      exact Literal.octal hoctal
    have hread := parseU64Strict_eq_some_iff.mpr
      ⟨hminus, _, hliteral, hnot.2, by rw [hneg, if_neg Bool.false_ne_true]⟩
    have heq := ((h _).mp hread).1.eq_decimal (digits_zero_cons hdigits)
    rw [valueIn_zero_cons] at heq
    exact hnot.1 heq
  · rw [if_neg hoctal]
    by_contra hlt
    obtain ⟨-, m, hm, -, -⟩ := parseU64Strict_eq_some_iff.mp
      ((h _).mpr ⟨hten, Nat.lt_of_not_le hlt⟩)
    rw [hbody] at hm
    cases hm with
    | decimal _ hhead => exact hhead rfl
    | octal hall => exact hoctal hall
    | @hexadecimal x _ hx => exact absurd hx (not_announces (hdigits x (List.mem_cons_self ..)))

/-- A literal that is read from a straight text is the numeral that the text spells. -/
theorem Straight.numeral (h : Straight text) {m : Nat} (hm : Literal text m) (hlt : m < 2 ^ 64) :
    Numeral text m := by
  cases hm with
  | decimal hne _ hdigits => exact Numeral.decimal hne hdigits
  | hexadecimal hx hne hdigits => exact Numeral.hexadecimal hx hne hdigits
  | @octal digits hdigits =>
    have hten := hdigits.mono (by decide : 8 ≤ 10)
    have hharmless := h.zero digits rfl hten
    rw [ZeroHarmless, if_pos hdigits] at hharmless
    rw [hharmless.resolve_right (Nat.not_le_of_lt hlt)]
    exact numeral_zero_cons hten

theorem Straight.literal (h : Straight text) {n : Nat} (hn : Numeral text n) (hlt : n < 2 ^ 64) :
    Literal text n := by
  cases hn with
  | hexadecimal hx hne hdigits => exact Literal.hexadecimal hx hne hdigits
  | decimal hne hdigits =>
    by_cases hzero : text.head? = some 48
    · obtain ⟨digits, rfl⟩ := List.head?_eq_some_iff.mp hzero
      have hten : Digits 10 digits := fun c hc => hdigits c (List.mem_cons_of_mem 48 hc)
      have hharmless := h.zero digits rfl hten
      rw [valueIn_zero_cons] at hlt ⊢
      unfold ZeroHarmless at hharmless
      by_cases hoctal : Digits 8 digits
      · rw [if_pos hoctal] at hharmless
        have hle : valueIn 8 digits ≤ valueIn 10 digits := valueIn_le (by decide)
        rw [← hharmless.resolve_right (by omega)]
        exact Literal.octal hoctal
      · rw [if_neg hoctal] at hharmless
        omega
    · exact Literal.decimal hne hzero hdigits

/-- **A text is read as written exactly when it is straight.** -/
theorem parseU64Strict_exact_iff (text : Bytes) :
    (∀ n, parseU64Strict text = some n ↔ Numeral text n ∧ n < 2 ^ 64) ↔ Straight text := by
  constructor
  · intro h
    refine ⟨fun m hm hlt hminus => ?_, fun digits htext hdigits => ?_⟩
    · exact ((h _).mp (parseU64Strict_eq_some_iff.mpr ⟨hminus, m, hm, hlt, rfl⟩)).1.undecorated.1
    · subst htext
      exact zeroHarmless_of_exact hdigits h
  · intro h n
    rw [parseU64Strict_eq_some_iff]
    constructor
    · rintro ⟨hminus, m, hm, hlt, rfl⟩
      have hbody := h.undecorated m hm hlt hminus
      rw [negative_of_body hbody, if_neg Bool.false_ne_true]
      rw [hbody] at hm
      exact ⟨h.numeral hm hlt, hlt⟩
    · rintro ⟨hnumeral, hlt⟩
      obtain ⟨hbody, hneg, hminus⟩ := hnumeral.undecorated
      refine ⟨hminus, n, ?_, hlt, by rw [hneg, if_neg Bool.false_ne_true]⟩
      rw [hbody]
      exact h.literal hnumeral hlt

/-- Blanks hide a minus from the test in front of `strtoull`, and a zero in front changes the
base. -/
theorem parseU64Strict_misreads :
    parseU64Strict (bytes "010") = some 8 ∧ ¬ Numeral (bytes "010") 8 ∧
      parseU64Strict (bytes " -1") = some (2 ^ 64 - 1) ∧ ¬ Numeral (bytes " -1") (2 ^ 64 - 1) := by
  refine ⟨by decide, fun h => ?_, by decide +kernel, fun h => ?_⟩
  · exact absurd (h.eq_decimal (by decide +kernel)) (by decide)
  · exact absurd h.undecorated.1 (by decide)

end
end SandboxManager.Claw.AppIdentifier
