import SandboxManager.Library.JsonNesting

/-! The parser of the format.

`strict` reads the scalars and the strings of the format and no others, so that the recursive
descent over it is a parser of the format: it reads every text to its end, and has as many
brackets open on the way as the text is deep (`parseText_strict`). -/
namespace Library.JsonText

/-! ### The lexical level -/

/-- What a function passes over is plain. -/
def Takes (f : Chars → Option Chars) : Prop :=
  ∀ input rest, f input = some rest → ∃ token, input = token ++ rest ∧ AllPlain token

theorem Takes.bind {f g : Chars → Option Chars} (hf : Takes f) (hg : Takes g) :
    Takes fun input => (f input).bind g := by
  intro input rest h
  obtain ⟨mid, hmid, hrest⟩ := Option.bind_eq_some_iff.mp h
  obtain ⟨token, rfl, htoken⟩ := hf _ _ hmid
  obtain ⟨token', rfl, htoken'⟩ := hg _ _ hrest
  exact ⟨token ++ token', (List.append_assoc ..).symm, htoken.append htoken'⟩

/-- A plain byte may stand in front. -/
theorem Takes.cons {f : Chars → Option Chars} (hf : Takes f) {c : UInt8} (hc : Plain c)
    {input rest : Chars} (hhead : input.head? = some c) (h : f input.tail = some rest) :
    ∃ token, input = token ++ rest ∧ AllPlain token := by
  obtain ⟨tail, rfl⟩ := List.head?_eq_some_iff.mp hhead
  rw [List.tail_cons] at h
  obtain ⟨token, rfl, htoken⟩ := hf _ _ h
  exact ⟨c :: token, rfl, htoken.cons hc⟩

theorem digitsEnd_takes : Takes digitsEnd := by
  intro input rest h
  unfold digitsEnd at h
  split at h
  · cases h
  · obtain rfl := Option.some.inj h
    exact ⟨input.takeWhile isDigit, List.takeWhile_append_dropWhile.symm,
      fun c hc => plain_of_isDigit (List.mem_takeWhile_imp hc)⟩

theorem some_takes : Takes some := by
  intro input rest h
  obtain rfl := Option.some.inj h
  exact ⟨[], rfl, allPlain_nil⟩

theorem wholeEnd_takes : Takes wholeEnd := by
  intro input rest h
  unfold wholeEnd at h
  split at h
  case isTrue hzero => exact some_takes.cons (by decide) hzero h
  case isFalse => exact digitsEnd_takes _ _ h

theorem fractionEnd_takes : Takes fractionEnd := by
  intro input rest h
  unfold fractionEnd at h
  split at h
  case isTrue hpoint => exact digitsEnd_takes.cons (by decide) hpoint h
  case isFalse => exact some_takes _ _ h

theorem exponentEnd_takes : Takes exponentEnd := by
  have hsigned : Takes fun input =>
      digitsEnd (if input.head? = some 43 ∨ input.head? = some 45 then input.tail else input) := by
    intro input rest h
    dsimp only at h
    split at h
    case isTrue hsign =>
      rcases hsign with hsign | hsign
      · exact digitsEnd_takes.cons (by decide) hsign h
      · exact digitsEnd_takes.cons (by decide) hsign h
    case isFalse => exact digitsEnd_takes _ _ h
  intro input rest h
  unfold exponentEnd at h
  split at h
  case isTrue he =>
    rcases he with he | he
    · exact hsigned.cons (by decide) he h
    · exact hsigned.cons (by decide) he h
  case isFalse => exact some_takes _ _ h

theorem numberEnd_takes : Takes numberEnd := by
  have hunsigned : Takes fun input => ((wholeEnd input).bind fractionEnd).bind exponentEnd :=
    (wholeEnd_takes.bind fractionEnd_takes).bind exponentEnd_takes
  intro input rest h
  unfold numberEnd at h
  split at h
  case isTrue hsign => exact hunsigned.cons (by decide) hsign h
  case isFalse => exact hunsigned _ _ h

theorem scalarEnd_takes : Takes scalarEnd := by
  intro input rest h
  unfold scalarEnd at h
  split at h
  case h_1 v hfind =>
    have hstarts := List.find?_some hfind
    obtain ⟨tail, rfl⟩ : v <+: input := List.isPrefixOf_iff_prefix.mp hstarts
    obtain rfl := Option.some.inj h
    rw [List.drop_left]
    exact ⟨v, rfl, plain_of_mem_literals v (List.mem_of_find?_eq_some hfind)⟩
  case h_2 => exact numberEnd_takes _ _ h

/-- What is passed over from a state on, up to the end of the string. -/
def StringState.Closed : StringState → Chars → Prop
  | .escape, body => JsonText.Closed (backslash :: body)
  | .char, body => JsonText.Closed body
  | .hex _, body => JsonText.Closed body

theorem hex_closed {state : StringState} {c : UInt8} {body : Chars} (hc : isHex c = true)
    (hstate : state ≠ .escape) (h : state.Closed body) : Closed (c :: body) := by
  have hnot := isHex_not hc
  cases state with
  | char => exact .char hnot.1 hnot.2 h
  | escape => exact absurd rfl hstate
  | hex n => exact .char hnot.1 hnot.2 h

/-- A string ends at a quote, and what it passes over is closed. -/
theorem stringEnd_closed (input rest : Chars) : ∀ state, stringEnd state input = some rest →
    ∃ body, input = body ++ quote :: rest ∧ state.Closed body := by
  induction input with
  | nil =>
    intro state h
    rw [stringEnd] at h
    cases h
  | cons c input ih =>
    -- the rest of the string is read from the next state on
    have hnext : ∀ state' state : StringState, stringEnd state' input = some rest →
        (∀ body, state'.Closed body → state.Closed (c :: body)) →
          ∃ body, c :: input = body ++ quote :: rest ∧ state.Closed body := by
      intro state' state h hclosed
      obtain ⟨body, rfl, hbody⟩ := ih state' h
      exact ⟨c :: body, rfl, hclosed body hbody⟩
    intro state h
    cases state with
    | char =>
      rw [stringEnd] at h
      split at h
      case isTrue hquote =>
        obtain rfl := Option.some.inj h
        exact ⟨[], by rw [hquote]; rfl, .nil⟩
      case isFalse hquote =>
        split at h
        case isTrue hbackslash => exact hnext .escape .char h fun body hbody => hbackslash ▸ hbody
        case isFalse hbackslash =>
          split at h
          · exact hnext .char .char h fun body hbody => .char hquote hbackslash hbody
          · cases h
    | escape =>
      rw [stringEnd] at h
      split at h
      · exact hnext (.hex 3) .escape h fun body hbody => .escape hbody
      · split at h
        · exact hnext .char .escape h fun body hbody => .escape hbody
        · cases h
    | hex n =>
      cases n with
      | zero =>
        rw [stringEnd] at h
        split at h
        case isTrue hc =>
          exact hnext .char (.hex 0) h fun body hbody => hex_closed hc (by simp) hbody
        case isFalse => cases h
      | succ n =>
        rw [stringEnd] at h
        split at h
        case isTrue hc =>
          exact hnext (.hex n) (.hex (n + 1)) h fun body hbody => hex_closed hc (by simp) hbody
        case isFalse => cases h

/-- The lexical level of the format. -/
def strict : Lexis where
  blank := isBlank
  scalar := scalarEnd
  string := stringEnd .char
  blank_plain := fun _ => plain_of_isBlank
  scalar_plain := scalarEnd_takes
  string_closed := fun input rest h => stringEnd_closed input rest .char h

/-! ### Scalars and strings of the format are read to their ends -/

theorem stringEnd_body {s : Chars} (h : StringBody s) (rest : Chars) :
    stringEnd .char (s ++ quote :: rest) = some rest := by
  induction h with
  | nil => rw [List.nil_append, stringEnd, if_pos rfl]
  | char hprintable hquote hbackslash _ ih =>
    rw [List.cons_append, stringEnd, if_neg hquote, if_neg hbackslash, if_pos hprintable, ih]
  | @escape c _ hescape _ ih =>
    have hnot : c ≠ 117 := by
      rintro rfl
      cases hescape
    rw [List.cons_append, List.cons_append, stringEnd, if_neg (by decide), if_pos rfl, stringEnd,
      if_neg hnot, if_pos hescape, ih]
  | unicode ha hb hc hd _ ih =>
    simp only [List.cons_append]
    rw [stringEnd, if_neg (by decide), if_pos rfl, stringEnd, if_pos rfl, stringEnd, if_pos ha,
      stringEnd, if_pos hb, stringEnd, if_pos hc, stringEnd, if_pos hd, ih]

/-- The rest does not begin with such a byte. -/
def NotAhead (p : UInt8 → Bool) (rest : Chars) : Prop := ∀ c ∈ rest.head?, p c = false

theorem NotAhead.cons {p : UInt8 → Bool} {c : UInt8} {rest : Chars} (h : p c = false) :
    NotAhead p (c :: rest) := by
  intro b hb
  obtain rfl : c = b := by simpa using hb
  exact h

theorem takeWhile_append {p : UInt8 → Bool} {v rest : Chars} (hv : ∀ c ∈ v, p c = true)
    (hrest : NotAhead p rest) :
    (v ++ rest).takeWhile p = v ∧ (v ++ rest).dropWhile p = rest := by
  have hnil : rest.takeWhile p = [] ∧ rest.dropWhile p = rest := by
    cases rest with
    | nil => exact ⟨rfl, rfl⟩
    | cons c rest =>
      have hc := hrest c rfl
      simp [hc]
  rw [List.takeWhile_append_of_pos hv, List.dropWhile_append_of_pos hv, hnil.1, hnil.2,
    List.append_nil]
  exact ⟨rfl, rfl⟩

theorem digitsEnd_digits {ds rest : Chars} (h : Digits ds) (hrest : NotAhead isDigit rest) :
    digitsEnd (ds ++ rest) = some rest := by
  obtain ⟨htake, hdrop⟩ := takeWhile_append h.2 hrest
  rw [digitsEnd, htake, if_neg h.1, hdrop]

theorem Digits.head {ds : Chars} (h : Digits ds) (rest : Chars) :
    ∃ c, (ds ++ rest).head? = some c ∧ isDigit c = true := by
  obtain ⟨c, ds, rfl⟩ := List.exists_cons_of_ne_nil h.1
  exact ⟨c, rfl, h.2 c (List.mem_cons_self ..)⟩

/-- A byte that is no digit is not the first of digits. -/
theorem Digits.head_ne {ds : Chars} (h : Digits ds) (rest : Chars) {b : UInt8}
    (hb : isDigit b = false) : (ds ++ rest).head? ≠ some b := by
  obtain ⟨c, hc, hdigit⟩ := h.head rest
  rw [hc]
  rintro heq
  rw [Option.some.inj heq, hb] at hdigit
  cases hdigit

/-- What goes on with a number: a digit, a point or an exponent. -/
def isNumeric (c : UInt8) : Bool := isDigit c || c = 46 || c = 101 || c = 69

theorem isNumeric_false {c : UInt8} (h : isNumeric c = false) :
    isDigit c = false ∧ c ≠ 46 ∧ c ≠ 101 ∧ c ≠ 69 := by
  simpa [isNumeric, and_assoc] using h

theorem NotAhead.ne {p : UInt8 → Bool} {rest : Chars} (h : NotAhead p rest) {b : UInt8}
    (hb : p b = true) : rest.head? ≠ some b := by
  intro hhead
  rw [h b hhead] at hb
  cases hb

theorem NotAhead.digit {rest : Chars} (h : NotAhead isNumeric rest) : NotAhead isDigit rest :=
  fun c hc => (isNumeric_false (h c hc)).1

theorem wholeEnd_whole {whole rest : Chars} (h : Whole whole) (hrest : NotAhead isDigit rest) :
    wholeEnd (whole ++ rest) = some rest := by
  cases h with
  | zero => exact if_pos rfl
  | digits hdigits hhead =>
    have hzero : (whole ++ rest).head? ≠ some 48 := by
      obtain ⟨c, ds, rfl⟩ := List.exists_cons_of_ne_nil hdigits.1
      exact hhead
    rw [wholeEnd, if_neg hzero, digitsEnd_digits hdigits hrest]

theorem fractionEnd_fraction {fraction rest : Chars} (h : Fraction fraction)
    (hrest : NotAhead isDigit rest) (hpoint : rest.head? ≠ some 46) :
    fractionEnd (fraction ++ rest) = some rest := by
  cases h with
  | absent => exact if_neg hpoint
  | digits hdigits =>
    rw [List.cons_append, fractionEnd, List.head?_cons, if_pos rfl]
    exact digitsEnd_digits hdigits hrest

theorem exponentEnd_exponent {exponent rest : Chars} (h : Exponent exponent)
    (hrest : NotAhead isNumeric rest) : exponentEnd (exponent ++ rest) = some rest := by
  cases h with
  | absent =>
    have he : ¬ (rest.head? = some 101 ∨ rest.head? = some 69) :=
      not_or.mpr ⟨hrest.ne rfl, hrest.ne rfl⟩
    rw [List.nil_append, exponentEnd, if_neg he]
  | @digits e sign ds he hsign hdigits =>
    have he' : (e :: (sign ++ ds) ++ rest).head? = some 101 ∨
        (e :: (sign ++ ds) ++ rest).head? = some 69 := by
      rcases he with rfl | rfl
      · exact Or.inl rfl
      · exact Or.inr rfl
    rw [exponentEnd, if_pos he', List.cons_append, List.tail_cons, List.append_assoc]
    simp only [List.mem_cons, List.not_mem_nil, or_false] at hsign
    rcases hsign with rfl | rfl | rfl
    · rw [List.nil_append, if_neg (not_or.mpr ⟨hdigits.head_ne rest rfl, hdigits.head_ne rest rfl⟩)]
      exact digitsEnd_digits hdigits hrest.digit
    · rw [List.singleton_append, List.head?_cons, if_pos (Or.inl rfl), List.tail_cons]
      exact digitsEnd_digits hdigits hrest.digit
    · rw [List.singleton_append, List.head?_cons, if_pos (Or.inr rfl), List.tail_cons]
      exact digitsEnd_digits hdigits hrest.digit

/-- What may come after a part of a number. -/
theorem Exponent.notAhead {exponent rest : Chars} (h : Exponent exponent)
    (hrest : NotAhead isNumeric rest) :
    NotAhead isDigit (exponent ++ rest) ∧ (exponent ++ rest).head? ≠ some 46 := by
  cases h with
  | absent => exact ⟨hrest.digit, hrest.ne rfl⟩
  | digits he =>
    rcases he with rfl | rfl
    · exact ⟨NotAhead.cons rfl, by simp⟩
    · exact ⟨NotAhead.cons rfl, by simp⟩

theorem Fraction.notAhead {fraction rest : Chars} (h : Fraction fraction)
    (hrest : NotAhead isDigit rest) : NotAhead isDigit (fraction ++ rest) := by
  cases h with
  | absent => exact hrest
  | digits => exact NotAhead.cons rfl

theorem Whole.head {whole : Chars} (h : Whole whole) (rest : Chars) :
    ∃ c, (whole ++ rest).head? = some c ∧ isDigit c = true := by
  cases h with
  | zero => exact ⟨48, rfl, rfl⟩
  | digits hdigits => exact hdigits.head rest

theorem numberEnd_number {v rest : Chars} (h : Number v) (hrest : NotAhead isNumeric rest) :
    numberEnd (v ++ rest) = some rest := by
  cases h with
  | @mk sign whole fraction exponent hsign hwhole hfraction hexponent =>
    obtain ⟨hdigit, hpoint⟩ := hexponent.notAhead hrest
    have hparts : ((wholeEnd (whole ++ (fraction ++ (exponent ++ rest)))).bind fractionEnd).bind
        exponentEnd = some rest := by
      rw [wholeEnd_whole hwhole (hfraction.notAhead hdigit), Option.bind_some,
        fractionEnd_fraction hfraction hdigit hpoint, Option.bind_some,
        exponentEnd_exponent hexponent hrest]
    have hunsigned : (whole ++ (fraction ++ (exponent ++ rest))).head? ≠ some 45 := by
      obtain ⟨c, hc, hdigit⟩ := hwhole.head (fraction ++ (exponent ++ rest))
      rw [hc]
      rintro heq
      rw [Option.some.inj heq] at hdigit
      cases hdigit
    have hassoc : sign ++ (whole ++ (fraction ++ exponent)) ++ rest =
        sign ++ (whole ++ (fraction ++ (exponent ++ rest))) := by simp
    rw [hassoc, numberEnd]
    simp only [List.mem_cons, List.not_mem_nil, or_false] at hsign
    rcases hsign with rfl | rfl
    · rw [List.nil_append, if_neg hunsigned, hparts]
    · rw [List.singleton_append, List.head?_cons, if_pos rfl, List.tail_cons, hparts]

/-- A number begins with a digit or a minus. -/
theorem Number.head {v : Chars} (h : Number v) (rest : Chars) :
    ∃ c, (v ++ rest).head? = some c ∧ (isDigit c = true ∨ c = 45) := by
  cases h with
  | @mk sign whole fraction exponent hsign hwhole hfraction hexponent =>
    simp only [List.mem_cons, List.not_mem_nil, or_false] at hsign
    rcases hsign with rfl | rfl
    · obtain ⟨c, hc, hdigit⟩ := hwhole.head (fraction ++ exponent ++ rest)
      exact ⟨c, by simpa using hc, Or.inl hdigit⟩
    · exact ⟨45, rfl, Or.inr rfl⟩

theorem scalarEnd_number {v rest : Chars} (h : Number v) (hrest : NotAhead isNumeric rest) :
    scalarEnd (v ++ rest) = some rest := by
  obtain ⟨c, hc, hfirst⟩ := h.head rest
  obtain ⟨tail, htail⟩ := List.head?_eq_some_iff.mp hc
  have hletter : ∀ b ∈ ([110, 116, 102] : Chars), (b == c) = false := by
    intro b hb
    have hb' : isDigit b = false ∧ b ≠ 45 := by
      revert b
      decide +kernel
    rw [beq_eq_false_iff_ne]
    rintro rfl
    rcases hfirst with hdigit | hminus
    · rw [hb'.1] at hdigit
      cases hdigit
    · exact hb'.2 hminus
  have hnone : literals.find? (·.isPrefixOf (v ++ rest)) = none := by
    rw [htail]
    simp [literals, List.isPrefixOf, hletter]
  rw [scalarEnd, hnone]
  exact numberEnd_number h hrest

theorem scalarEnd_literal {v : Chars} (h : v ∈ literals) (rest : Chars) :
    scalarEnd (v ++ rest) = some rest := by
  simp only [literals, List.mem_cons, List.not_mem_nil, or_false] at h
  rcases h with rfl | rfl | rfl
  · simp [scalarEnd, literals, List.isPrefixOf]
  · simp [scalarEnd, literals, List.isPrefixOf]
  · simp [scalarEnd, literals, List.isPrefixOf]

/-! ### Texts are read to their ends -/

/-- What comes after an item: the end, a comma or a closing bracket. -/
def Ends (rest : Chars) : Prop :=
  ∀ c ∈ rest.head?, c = comma ∨ c = closeBracket ∨ c = closeBrace

theorem Ends.cons {c : UInt8} {rest : Chars} (h : c = comma ∨ c = closeBracket ∨ c = closeBrace) :
    Ends (c :: rest) := by
  intro b hb
  obtain rfl : c = b := by simpa using hb
  exact h

/-- After a value neither a blank nor an end goes on with it. -/
theorem Ends.notAhead {w rest : Chars} (hw : Blanks w) (h : Ends rest) :
    NotAhead isNumeric (w ++ rest) := by
  cases w with
  | nil =>
    intro c hc
    rcases h c hc with rfl | rfl | rfl
    · rfl
    · rfl
    · rfl
  | cons c w =>
    have hc := hw c (List.mem_cons_self ..)
    simp only [isBlank, Bool.or_eq_true, decide_eq_true_eq] at hc
    refine NotAhead.cons ?_
    rcases hc with ((rfl | rfl) | rfl) | rfl
    · rfl
    · rfl
    · rfl
    · rfl

theorem skip_blanks {w rest : Chars} (hw : Blanks w) (hrest : NotAhead isBlank rest) :
    skip strict (w ++ rest) = rest :=
  (takeWhile_append hw hrest).2

theorem Ends.skip {w rest : Chars} (hw : Blanks w) (h : Ends rest) :
    skip strict (w ++ rest) = rest := by
  refine skip_blanks hw fun c hc => ?_
  rcases h c hc with rfl | rfl | rfl
  · rfl
  · rfl
  · rfl

theorem exists_succ {n fuel : Nat} (h : n + 1 ≤ fuel) : ∃ fuel', fuel = fuel' + 1 ∧ n ≤ fuel' :=
  ⟨fuel - 1, by omega, by omega⟩

/-- The item is read, at its depth, up to the blanks before what comes after it. -/
def ReadsItem (kind : Kind) (v : Chars) (k : Nat) : Prop :=
  ∀ nest rest, Ends rest → ∃ enough, ∀ fuel, enough ≤ fuel →
    ∃ left, parse strict fuel kind nest (v ++ rest) = ⟨some left, nest + k⟩ ∧ skip strict left = rest

/-- The items are read at their depth, up to the closing bracket and with it. -/
def ReadsItems (kind : Kind) (close : UInt8) (v : Chars) (k : Nat) : Prop :=
  ∀ nest rest, ∃ enough, ∀ fuel, enough ≤ fuel →
    parse strict fuel kind nest (v ++ close :: rest) = ⟨some rest, nest + k⟩

/-- Past the blanks, the text does not begin with that byte. -/
def StartsOther (close : UInt8) (v : Chars) : Prop :=
  ∀ rest, (skip strict (v ++ rest)).head? ≠ some close

/-- What the parser makes of a text of a kind. -/
def Reads : Kind → Chars → Nat → Prop
  | .value, v, k =>
    (∀ nest rest, NotAhead isNumeric rest → ∃ enough, ∀ fuel, enough ≤ fuel →
      parse strict fuel .value nest (v ++ rest) = ⟨some rest, nest + k⟩) ∧
    ∀ rest, ∃ c, (v ++ rest).head? = some c ∧ isBlank c = false ∧ c ≠ closeBracket
  | .element, v, k => ReadsItem .element v k ∧ StartsOther closeBracket v
  | .elements, v, k => ReadsItems .elements closeBracket v k ∧ StartsOther closeBracket v
  | .member, v, k => ReadsItem .member v k ∧ StartsOther closeBrace v
  | .members, v, k => ReadsItems .members closeBrace v k ∧ StartsOther closeBrace v

theorem StartsOther.append {close : UInt8} {v : Chars} (h : StartsOther close v) (w : Chars) :
    StartsOther close (v ++ w) := by
  intro rest
  rw [List.append_assoc]
  exact h _

theorem afterItem_close {again : Chars → Visit} {close : UInt8} {nest : Nat} {left rest : Chars}
    (hleft : skip strict left = close :: rest) (hclose : close ≠ comma) :
    afterItem strict again close nest left = ⟨some rest, nest⟩ := by
  rw [afterItem, hleft, List.head?_cons, if_neg fun h => hclose (Option.some.inj h), if_pos rfl,
    List.tail_cons]

theorem afterItem_comma {again : Chars → Visit} {close : UInt8} {nest : Nat} {left rest : Chars}
    (hleft : skip strict left = comma :: rest) :
    afterItem strict again close nest left = again rest := by
  rw [afterItem, hleft, List.head?_cons, if_pos rfl, List.tail_cons]

section
variable {item items : Kind} {close : UInt8} (hclose : close = closeBracket ∨ close = closeBrace)
  (hparse : ∀ fuel nest input, parse strict (fuel + 1) items nest input =
    (parse strict fuel item nest input).andThen
      (afterItem strict (parse strict fuel items nest) close nest))
include hclose hparse

/-- The last item before the closing bracket. -/
theorem readsItems_last {v : Chars} {k : Nat} (h : ReadsItem item v k) :
    ReadsItems items close v k := by
  intro nest rest
  obtain ⟨enough, hread⟩ := h nest (close :: rest) (Ends.cons (Or.inr hclose))
  refine ⟨enough + 1, fun fuel hfuel => ?_⟩
  obtain ⟨fuel, rfl, hle⟩ := exists_succ hfuel
  obtain ⟨left, hleft, hskip⟩ := hread fuel hle
  have hcomma : close ≠ comma := by
    rcases hclose with rfl | rfl
    · decide
    · decide
  rw [hparse, hleft]
  unfold Visit.andThen
  dsimp only
  rw [afterItem_close hskip hcomma, Nat.max_eq_left (Nat.le_add_right nest k)]

omit hclose in
/-- An item, a comma and more items. -/
theorem readsItems_more {v vs : Chars} {k k' : Nat} (h : ReadsItem item v k)
    (hmore : ReadsItems items close vs k') :
    ReadsItems items close (v ++ comma :: vs) (max k k') := by
  intro nest rest
  obtain ⟨enough, hread⟩ := h nest (comma :: (vs ++ close :: rest)) (Ends.cons (Or.inl rfl))
  obtain ⟨enough', hrest⟩ := hmore nest rest
  refine ⟨max enough enough' + 1, fun fuel hfuel => ?_⟩
  obtain ⟨fuel, rfl, hle⟩ := exists_succ hfuel
  obtain ⟨left, hleft, hskip⟩ := hread fuel (by omega)
  have hassoc : v ++ comma :: vs ++ close :: rest = v ++ comma :: (vs ++ close :: rest) := by simp
  rw [hassoc, hparse, hleft]
  unfold Visit.andThen
  dsimp only
  rw [afterItem_comma hskip, hrest fuel (by omega)]
  have hmax : max (nest + k) (nest + k') = nest + max k k' := by omega
  rw [hmax]

end

/-- The inside of brackets, at its depth. -/
theorem readsBrackets {o close : UInt8} {items : Kind} {vs : Chars} {k : Nat}
    (hparse : ∀ fuel nest input, parse strict (fuel + 1) .value nest (o :: input) =
      if (skip strict input).head? = some close then ⟨some (skip strict input).tail, nest + 1⟩
      else parse strict fuel items (nest + 1) input)
    (h : ReadsItems items close vs k) (hstart : StartsOther close vs) (nest : Nat) (rest : Chars) :
    ∃ enough, ∀ fuel, enough ≤ fuel →
      parse strict fuel .value nest (o :: (vs ++ [close]) ++ rest) = ⟨some rest, nest + (k + 1)⟩ := by
  obtain ⟨enough, hread⟩ := h (nest + 1) rest
  refine ⟨enough + 1, fun fuel hfuel => ?_⟩
  obtain ⟨fuel, rfl, hle⟩ := exists_succ hfuel
  have hassoc : o :: (vs ++ [close]) ++ rest = o :: (vs ++ close :: rest) := by simp
  rw [hassoc, hparse, if_neg (hstart _), hread fuel hle]
  have hsum : nest + 1 + k = nest + (k + 1) := by omega
  rw [hsum]

/-- Brackets with nothing but blanks in them. -/
theorem readsEmpty {o close : UInt8} {items : Kind} {w : Chars}
    (hparse : ∀ fuel nest input, parse strict (fuel + 1) .value nest (o :: input) =
      if (skip strict input).head? = some close then ⟨some (skip strict input).tail, nest + 1⟩
      else parse strict fuel items (nest + 1) input)
    (hw : Blanks w) (hclose : close = closeBracket ∨ close = closeBrace) (nest : Nat) (rest : Chars) :
    ∃ enough, ∀ fuel, enough ≤ fuel →
      parse strict fuel .value nest (o :: (w ++ [close]) ++ rest) = ⟨some rest, nest + 1⟩ := by
  refine ⟨1, fun fuel hfuel => ?_⟩
  obtain ⟨fuel, rfl, hle⟩ := exists_succ hfuel
  have hassoc : o :: (w ++ [close]) ++ rest = o :: (w ++ close :: rest) := by simp
  rw [hassoc, hparse, Ends.skip hw (Ends.cons (Or.inr hclose)), List.head?_cons, if_pos rfl,
    List.tail_cons]

theorem parse_openBracket (fuel nest : Nat) (input : Chars) :
    parse strict (fuel + 1) .value nest (openBracket :: input) =
      if (skip strict input).head? = some closeBracket then ⟨some (skip strict input).tail, nest + 1⟩
      else parse strict fuel .elements (nest + 1) input := by
  rw [parse, List.head?_cons, if_neg (by decide), if_pos rfl, List.tail_cons]

theorem parse_openBrace (fuel nest : Nat) (input : Chars) :
    parse strict (fuel + 1) .value nest (openBrace :: input) =
      if (skip strict input).head? = some closeBrace then ⟨some (skip strict input).tail, nest + 1⟩
      else parse strict fuel .members (nest + 1) input := by
  rw [parse, List.head?_cons, if_neg (by decide), if_neg (by decide), if_pos rfl, List.tail_cons]

/-- A value that is read at once, from a first byte that opens nothing. -/
theorem reads_scalar {v : Chars} {c : UInt8} (hhead : ∀ rest, (v ++ rest).head? = some c)
    (hc : isBlank c = false ∧ Plain c)
    (hread : ∀ rest, NotAhead isNumeric rest → scalarEnd (v ++ rest) = some rest) :
    Reads .value v 0 := by
  obtain ⟨hblank, hquote, hbracket, hclose, hbrace, -⟩ := hc
  refine ⟨fun nest rest hrest => ⟨1, fun fuel hfuel => ?_⟩, fun rest => ⟨c, hhead rest, hblank, hclose⟩⟩
  obtain ⟨fuel, rfl, -⟩ := exists_succ hfuel
  rw [parse, hhead, if_neg fun h => hquote (Option.some.inj h),
    if_neg fun h => hbracket (Option.some.inj h), if_neg fun h => hbrace (Option.some.inj h)]
  show Visit.mk (scalarEnd (v ++ rest)) nest = _
  rw [hread rest hrest, Nat.add_zero]

theorem reads_literal {v : Chars} (h : v ∈ literals) : Reads .value v 0 := by
  have hread := fun rest (_ : NotAhead isNumeric rest) => scalarEnd_literal h rest
  simp only [literals, List.mem_cons, List.not_mem_nil, or_false] at h
  rcases h with rfl | rfl | rfl
  · exact reads_scalar (fun rest => rfl) (by decide) hread
  · exact reads_scalar (fun rest => rfl) (by decide) hread
  · exact reads_scalar (fun rest => rfl) (by decide) hread

theorem reads_number {v : Chars} (h : Number v) : Reads .value v 0 := by
  obtain ⟨c, hc, hfirst⟩ := h.head []
  rw [List.append_nil] at hc
  obtain ⟨tail, rfl⟩ := List.head?_eq_some_iff.mp hc
  have hplain : isBlank c = false ∧ Plain c := by
    rcases hfirst with hdigit | rfl
    · refine ⟨?_, plain_of_isDigit hdigit⟩
      simp only [isBlank, isDigit, UInt8.le_iff_toNat_le, ← UInt8.toNat_inj, Bool.and_eq_true,
        Bool.or_eq_false_iff, decide_eq_true_eq, decide_eq_false_iff_not, UInt8.reduceToNat]
        at hdigit ⊢
      omega
    · decide
  exact reads_scalar (fun rest => rfl) hplain fun rest => scalarEnd_number h

theorem reads_string {s : Chars} (h : StringBody s) : Reads .value (quote :: (s ++ [quote])) 0 := by
  refine ⟨fun nest rest _ => ⟨1, fun fuel hfuel => ?_⟩, fun rest => ⟨quote, rfl, by decide⟩⟩
  obtain ⟨fuel, rfl, -⟩ := exists_succ hfuel
  have hassoc : quote :: (s ++ [quote]) ++ rest = quote :: (s ++ quote :: rest) := by simp
  rw [hassoc, parse, List.head?_cons, if_pos rfl, List.tail_cons]
  show Visit.mk (stringEnd .char (s ++ quote :: rest)) nest = _
  rw [stringEnd_body h, Nat.add_zero]

theorem reads_element {w v w' : Chars} {k : Nat} (hw : Blanks w) (hw' : Blanks w')
    (h : Reads .value v k) : Reads .element (w ++ (v ++ w')) k := by
  obtain ⟨hread, hhead⟩ := h
  have hskip : ∀ rest, skip strict (w ++ (v ++ w') ++ rest) = v ++ (w' ++ rest) := by
    intro rest
    rw [List.append_assoc, List.append_assoc]
    refine skip_blanks hw fun c hc => ?_
    obtain ⟨b, hb, hblank, -⟩ := hhead (w' ++ rest)
    rw [hb] at hc
    obtain rfl : b = c := by simpa using hc
    exact hblank
  refine ⟨fun nest rest hrest => ?_, fun rest hclose => ?_⟩
  · obtain ⟨enough, hvalue⟩ := hread nest (w' ++ rest) (hrest.notAhead hw')
    refine ⟨enough + 1, fun fuel hfuel => ⟨w' ++ rest, ?_, hrest.skip hw'⟩⟩
    obtain ⟨fuel, rfl, hle⟩ := exists_succ hfuel
    rw [parse, hskip, hvalue fuel hle]
  · obtain ⟨c, hc, -, hne⟩ := hhead (w' ++ rest)
    rw [hskip, hc] at hclose
    exact hne (Option.some.inj hclose)

theorem reads_member {w s w' e : Chars} {k : Nat} (hw : Blanks w) (hs : StringBody s)
    (hw' : Blanks w') (h : Reads .element e k) :
    Reads .member (w ++ quote :: (s ++ quote :: (w' ++ colon :: e))) k := by
  have hskip : ∀ rest, skip strict (w ++ quote :: (s ++ quote :: (w' ++ colon :: e)) ++ rest) =
      quote :: (s ++ quote :: (w' ++ colon :: (e ++ rest))) := by
    intro rest
    have hassoc : w ++ quote :: (s ++ quote :: (w' ++ colon :: e)) ++ rest =
        w ++ quote :: (s ++ quote :: (w' ++ colon :: (e ++ rest))) := by simp
    rw [hassoc]
    exact skip_blanks hw (NotAhead.cons rfl)
  refine ⟨fun nest rest hrest => ?_, fun rest hclose => ?_⟩
  · obtain ⟨enough, helement⟩ := h.1 nest rest hrest
    refine ⟨enough + 1, fun fuel hfuel => ?_⟩
    obtain ⟨fuel, rfl, hle⟩ := exists_succ hfuel
    obtain ⟨left, hleft, hend⟩ := helement fuel hle
    refine ⟨left, ?_, hend⟩
    have hstring : strict.string (s ++ quote :: (w' ++ colon :: (e ++ rest))) =
        some (w' ++ colon :: (e ++ rest)) := stringEnd_body hs _
    have hcolon : skip strict (w' ++ colon :: (e ++ rest)) = colon :: (e ++ rest) :=
      skip_blanks hw' (NotAhead.cons rfl)
    rw [parse, hskip, List.head?_cons, if_pos rfl, List.tail_cons, hstring]
    unfold Visit.andThen
    dsimp only
    rw [hcolon, List.head?_cons, if_pos rfl, List.tail_cons, hleft,
      Nat.max_eq_right (Nat.le_add_right nest k)]
  · rw [hskip, List.head?_cons] at hclose
    exact absurd (Option.some.inj hclose) (by decide)

theorem reads_text {kind : Kind} {v : Chars} {k : Nat} (h : Text kind v k) : Reads kind v k := by
  induction h with
  | literal hv => exact reads_literal hv
  | number hv => exact reads_number hv
  | string hs => exact reads_string hs
  | emptyArray hw =>
    exact ⟨fun nest rest _ => readsEmpty parse_openBracket hw (Or.inl rfl) nest rest,
      fun rest => ⟨openBracket, rfl, by decide⟩⟩
  | array _ ih =>
    exact ⟨fun nest rest _ => readsBrackets parse_openBracket ih.1 ih.2 nest rest,
      fun rest => ⟨openBracket, rfl, by decide⟩⟩
  | emptyObject hw =>
    exact ⟨fun nest rest _ => readsEmpty parse_openBrace hw (Or.inr rfl) nest rest,
      fun rest => ⟨openBrace, rfl, by decide⟩⟩
  | object _ ih =>
    exact ⟨fun nest rest _ => readsBrackets parse_openBrace ih.1 ih.2 nest rest,
      fun rest => ⟨openBrace, rfl, by decide⟩⟩
  | element hw _ hw' ih => exact reads_element hw hw' ih
  | lastElement _ ih =>
    exact ⟨readsItems_last (Or.inl rfl) (fun _ _ _ => by rw [parse]) ih.1, ih.2⟩
  | elements _ _ ih ih' =>
    exact ⟨readsItems_more (fun _ _ _ => by rw [parse]) ih.1 ih'.1, ih.2.append _⟩
  | member hw hs hw' _ ih => exact reads_member hw hs hw' ih
  | lastMember _ ih =>
    exact ⟨readsItems_last (Or.inr rfl) (fun _ _ _ => by rw [parse]) ih.1, ih.2⟩
  | members _ _ ih ih' =>
    exact ⟨readsItems_more (fun _ _ _ => by rw [parse]) ih.1 ih'.1, ih.2.append _⟩

/-- **Every text is read to its end, with as many brackets open as it is deep.** -/
theorem parseText_strict {text : Chars} {k : Nat} (h : IsText text k) :
    ∃ enough, ∀ fuel, enough ≤ fuel → parseText strict fuel text = ⟨some [], k⟩ := by
  obtain ⟨hread, -⟩ := reads_text h
  have hend : Ends [] := fun c hc => by cases hc
  obtain ⟨enough, helement⟩ := hread 0 [] hend
  refine ⟨enough, fun fuel hfuel => ?_⟩
  obtain ⟨left, hleft, hskip⟩ := helement fuel hfuel
  rw [List.append_nil, Nat.zero_add] at hleft
  rw [parseText, hleft]
  unfold Visit.andThen
  dsimp only
  rw [hskip, if_pos rfl, Nat.max_eq_left (Nat.zero_le k)]

end Library.JsonText
