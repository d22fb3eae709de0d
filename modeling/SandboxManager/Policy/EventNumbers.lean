import SandboxManager.Policy.PackageEvents

/-! Which numbers of an event are read as what they say.

`GetDemandReasonValue` checks a number against the range of `unsigned long` or `long` and stores 32 bits of it.
`strtoul` and `strtol` also pass over blanks, and only see the text up to a NUL. So of
the texts that are accepted some are no numerals, and some are numerals of another number
(`eventNumber_exact_iff`). -/
namespace SandboxManager.Policy

/-! ### Numerals -/

/-- A numeral in decimal: perhaps a sign, then digits and nothing else. -/
inductive Numeral : Bytes → Int → Prop where
  | unsigned {digits : Bytes} : digits ≠ [] → (∀ c ∈ digits, isdigit c = true) →
      Numeral digits (digitsValue digits)
  | plus {digits : Bytes} : digits ≠ [] → (∀ c ∈ digits, isdigit c = true) →
      Numeral (43 :: digits) (digitsValue digits)
  | minus {digits : Bytes} : digits ≠ [] → (∀ c ∈ digits, isdigit c = true) →
      Numeral (45 :: digits) (-(digitsValue digits : Int))

/-- A text that the conversion reads to its end, to a number in its range. -/
def ReadWhole (inRange : Int → Bool) (value : Bytes) : Prop :=
  value ≠ [] ∧ inRange (leadingInteger (cStr value)).1 = true ∧ (leadingInteger (cStr value)).2 = []

/-- A text that stands for its number, and the number fits. -/
structure Exact (lo hi : Int) (value : Bytes) : Prop where
  noBlank : ∀ c ∈ value.head?, isspace c = false
  noNul : 0 ∉ value
  fits : lo ≤ (leadingInteger value).1 ∧ (leadingInteger value).1 < hi

section
variable {value digits : Bytes} {n : Int}

theorem isdigit_not (c : UInt8) (h : isdigit c = true) :
    isspace c = false ∧ c ≠ 45 ∧ c ≠ 43 ∧ c ≠ 0 := by
  have hne : ∀ b : UInt8, isdigit b = false → c ≠ b := by
    intro b hb heq
    rw [heq, hb] at h
    exact Bool.false_ne_true h
  exact ⟨isspace_of_isdigit h, hne 45 rfl, hne 43 rfl, hne 0 rfl⟩

/-- Digits after a sign, or none, are read to their end. -/
theorem leadingInteger_signed (hne : digits ≠ []) (hdigits : ∀ c ∈ digits, isdigit c = true)
    {text : Bytes} (hspace : text.dropWhile isspace = text) {negative : Bool}
    (hsign : sign text = (negative, digits)) :
    leadingInteger text =
      (if negative then -(digitsValue digits : Int) else digitsValue digits, []) := by
  have htake : digits.takeWhile isdigit = digits := List.takeWhile_eq_self_iff.mpr hdigits
  have hdrop : digits.dropWhile isdigit = [] := List.dropWhile_eq_nil_iff.mpr hdigits
  rw [leadingInteger, hspace, hsign, htake, hdrop, if_neg hne]

theorem sign_digits (hne : digits ≠ []) (hdigits : ∀ c ∈ digits, isdigit c = true) :
    digits.dropWhile isspace = digits ∧ sign digits = (false, digits) := by
  obtain ⟨c, rest, rfl⟩ := List.exists_cons_of_ne_nil hne
  obtain ⟨hspace, hminus, hplus, -⟩ := isdigit_not c (hdigits c (List.mem_cons_self ..))
  refine ⟨by rw [List.dropWhile_cons, hspace, if_neg Bool.false_ne_true], ?_⟩
  rw [sign, List.head?_cons, if_neg fun h => hminus (Option.some.inj h),
    if_neg fun h => hplus (Option.some.inj h)]

/-- A numeral is read as its number, and it has no blank before it and no NUL in it. -/
theorem Numeral.read (h : Numeral value n) :
    leadingInteger value = (n, []) ∧ (∀ c ∈ value.head?, isspace c = false) ∧ 0 ∉ value := by
  have hnul : ∀ {digits : Bytes}, (∀ c ∈ digits, isdigit c = true) → 0 ∉ digits :=
    fun hdigits h0 => (isdigit_not 0 (hdigits 0 h0)).2.2.2 rfl
  cases h with
  | unsigned hne hdigits =>
    obtain ⟨hspace, hsign⟩ := sign_digits hne hdigits
    refine ⟨leadingInteger_signed hne hdigits hspace hsign, fun c hc => ?_, hnul hdigits⟩
    exact (isdigit_not c (hdigits c (List.mem_of_head? hc))).1
  | @plus digits hne hdigits =>
    have hsign : sign (43 :: digits) = (false, digits) := rfl
    refine ⟨leadingInteger_signed hne hdigits rfl hsign, fun c hc => ?_, ?_⟩
    · obtain rfl : 43 = c := by simpa using hc
      rfl
    · exact List.not_mem_cons_of_ne_of_not_mem (by decide) (hnul hdigits)
  | @minus digits hne hdigits =>
    have hsign : sign (45 :: digits) = (true, digits) := rfl
    refine ⟨leadingInteger_signed hne hdigits rfl hsign, fun c hc => ?_, ?_⟩
    · obtain rfl : 45 = c := by simpa using hc
      rfl
    · exact List.not_mem_cons_of_ne_of_not_mem (by decide) (hnul hdigits)

theorem dropWhile_of_head? (h : ∀ c ∈ value.head?, isspace c = false) :
    value.dropWhile isspace = value := by
  cases value with
  | nil => rfl
  | cons c rest => rw [List.dropWhile_cons, h c rfl, if_neg Bool.false_ne_true]

/-- What is read to its end without a blank before it is a numeral. -/
theorem numeral_of_read (hne : value ≠ []) (hblank : ∀ c ∈ value.head?, isspace c = false)
    (hend : (leadingInteger value).2 = []) : Numeral value (leadingInteger value).1 := by
  unfold leadingInteger at hend ⊢
  simp only [dropWhile_of_head? hblank] at hend ⊢
  split at hend
  · exact absurd hend hne
  case isFalse hdigits =>
    rw [if_neg hdigits]
    have hall : ∀ c ∈ (sign value).2, isdigit c = true := List.dropWhile_eq_nil_iff.mp hend
    rw [List.takeWhile_eq_self_iff.mpr hall] at hdigits ⊢
    unfold sign at hall hdigits ⊢
    by_cases hminus : value.head? = some 45
    · obtain ⟨rest, rfl⟩ := List.head?_eq_some_iff.mp hminus
      exact Numeral.minus hdigits hall
    · rw [if_neg hminus] at hall hdigits ⊢
      by_cases hplus : value.head? = some 43
      · obtain ⟨rest, rfl⟩ := List.head?_eq_some_iff.mp hplus
        exact Numeral.plus hdigits hall
      · rw [if_neg hplus] at hall hdigits ⊢
        exact Numeral.unsigned hdigits hall

/-! ### Reading -/

section
variable {α : Type} {inRange : Int → Bool} {cast : Int → α} {x : α}

theorem getDemandReasonValue_eq_some_iff :
    getDemandReasonValue inRange cast value = some x ↔
      ReadWhole inRange value ∧ cast (leadingInteger (cStr value)).1 = x := by
  unfold getDemandReasonValue ReadWhole
  by_cases hnil : value = []
  · simp [hnil]
  · simp only [hnil, if_false, ne_eq, not_false_eq_true, true_and]
    cases inRange (leadingInteger (cStr value)).1 with
    | false => simp
    | true =>
      by_cases hend : (leadingInteger (cStr value)).2 = []
      · simp [hend]
      · simp [hend]

/-- A number is read exactly when its text is exact, for a cast that keeps what fits and cannot
give anything else. -/
theorem getDemandReasonValue_exact_iff {toInt : α → Int} {lo hi : Int}
    (hkeeps : ∀ n, lo ≤ n → n < hi → toInt (cast n) = n)
    (hbounds : ∀ x, lo ≤ toInt x ∧ toInt x < hi) :
    (∀ x, getDemandReasonValue inRange cast value = some x → Numeral value (toInt x)) ↔
      (ReadWhole inRange value → Exact lo hi value) := by
  simp only [getDemandReasonValue_eq_some_iff]
  constructor
  · intro h hread
    have hnumeral := h _ ⟨hread, rfl⟩
    obtain ⟨hvalue, hblank, hnul⟩ := hnumeral.read
    refine ⟨hblank, hnul, ?_⟩
    rw [hvalue]
    exact hbounds _
  · intro h x hx
    obtain ⟨hread, rfl⟩ := hx
    have hexact := h hread
    have hcstr := cStr_of_zero_notMem hexact.noNul
    have hend := hread.2.2
    rw [hcstr] at hend ⊢
    rw [hkeeps _ hexact.fits.1 hexact.fits.2]
    exact numeral_of_read hread.1 hexact.noBlank hend

end

theorem toNat_ofInt_of_fits {n : Int} (h0 : 0 ≤ n) (h : n < 2 ^ 32) :
    ((UInt32.ofInt n).toNat : Int) = n := by
  have hmod : n % 2 ^ 32 = n := Int.emod_eq_of_lt h0 h
  rw [UInt32.ofInt, hmod, UInt32.toNat_ofNat_of_lt' (by have : UInt32.size = 2 ^ 32 := rfl; omega)]
  exact Int.toNat_of_nonneg h0

/-- **Event numbers are read exactly** when a text that is read to its end has no blank before it and
no NUL in it, and its number fits into 32 bits. -/
theorem eventNumber_exact_iff (value : Bytes) :
    ((∀ data, getDemandReasonUInt32 value = some data → Numeral value data.toNat) ↔
        (ReadWhole (fun n => n.natAbs ≤ ULONG_MAX) value → Exact 0 (2 ^ 32) value)) ∧
      ((∀ data, getDemandReasonInt32 value = some data → Numeral value data.toInt) ↔
        (ReadWhole (fun n => LONG_MIN ≤ n && n ≤ LONG_MAX) value →
          Exact (-2 ^ 31) (2 ^ 31) value)) := by
  refine ⟨getDemandReasonValue_exact_iff (fun n h0 h => toNat_ofInt_of_fits h0 h) fun x => ?_,
    getDemandReasonValue_exact_iff (fun n h0 h => Int32.toInt_ofInt_of_le h0 h) fun x => ?_⟩
  · have := x.toNat_lt
    exact ⟨Int.natCast_nonneg _, by exact_mod_cast this⟩
  · exact ⟨x.le_toInt, x.toInt_lt⟩

/-- A token number that is one too long for its type addresses the token of the number one. -/
theorem eventNumber_not_exact :
    ¬ ∀ value : Bytes,
      (∀ data, getDemandReasonUInt32 value = some data → Numeral value data.toNat) ∧
        (∀ data, getDemandReasonInt32 value = some data → Numeral value data.toInt) := by
  intro h
  have hread : getDemandReasonUInt32 (bytes "4294967297") = some 1 := by decide +kernel
  have hnumeral := ((h (bytes "4294967297")).1 1 hread).read.1
  exact absurd hnumeral (by decide +kernel)

end

end SandboxManager.Policy
