import SandboxManager.Library.JsonText

/-! Guards against deep nesting.

A guard looks at the bytes of a text one after another and keeps the number of open brackets;
what it asks of the bytes to come is `Guard`. On a text of the format a guard says exactly
whether the depth is within its limit (`Guard.text_iff`), and a parser whose input a guard has
passed stays within the limit, whatever the input is (`Guard.parse_within`). -/
namespace Library.JsonText

/-- `ok d rest`: with `d` brackets open, and outside a string, nothing in the rest goes beyond
the limit. -/
structure Guard (limit : Nat) (ok : Nat → Chars → Prop) : Prop where
  nil : ∀ d, ok d []
  plain : ∀ d c rest, Plain c → (ok d (c :: rest) ↔ ok d rest)
  string : ∀ d body rest, Closed body → (ok d (quote :: (body ++ quote :: rest)) ↔ ok d rest)
  opening : ∀ d c rest, c = openBracket ∨ c = openBrace →
    (ok d (c :: rest) ↔ d + 1 ≤ limit ∧ ok (d + 1) rest)
  closing : ∀ d c rest, c = closeBracket ∨ c = closeBrace → (ok (d + 1) (c :: rest) ↔ ok d rest)

/-! ### What is plain -/

theorem plain_of_isBlank {c : UInt8} (h : isBlank c = true) : Plain c := by
  simp only [isBlank, Bool.or_eq_true, decide_eq_true_eq] at h
  rcases h with ((rfl | rfl) | rfl) | rfl
  · decide
  · decide
  · decide
  · decide

theorem plain_of_isDigit {c : UInt8} (h : isDigit c = true) : Plain c := by
  have hne : ∀ b : UInt8, isDigit b = false → c ≠ b := by
    intro b hb heq
    rw [heq, hb] at h
    cases h
  exact ⟨hne _ rfl, hne _ rfl, hne _ rfl, hne _ rfl, hne _ rfl⟩

theorem isHex_not {c : UInt8} (h : isHex c = true) : c ≠ quote ∧ c ≠ backslash := by
  have hne : ∀ b : UInt8, isHex b = false → c ≠ b := by
    intro b hb heq
    rw [heq, hb] at h
    cases h
  exact ⟨hne _ rfl, hne _ rfl⟩

/-- All of the bytes are plain. -/
def AllPlain (w : Chars) : Prop := ∀ c ∈ w, Plain c

theorem AllPlain.append {v w : Chars} (hv : AllPlain v) (hw : AllPlain w) : AllPlain (v ++ w) := by
  intro c hc
  rcases List.mem_append.mp hc with hc | hc
  · exact hv c hc
  · exact hw c hc

theorem AllPlain.cons {c : UInt8} {w : Chars} (hc : Plain c) (hw : AllPlain w) :
    AllPlain (c :: w) :=
  List.forall_mem_cons.mpr ⟨hc, hw⟩

theorem allPlain_nil : AllPlain [] := List.forall_mem_nil _

theorem Blanks.plain {w : Chars} (h : Blanks w) : AllPlain w := fun c hc => plain_of_isBlank (h c hc)

theorem Digits.plain {ds : Chars} (h : Digits ds) : AllPlain ds :=
  fun c hc => plain_of_isDigit (h.2 c hc)

theorem Number.plain {v : Chars} (h : Number v) : AllPlain v := by
  cases h with
  | mk hsign hwhole hfraction hexponent =>
    have hsigns : ∀ sign : Chars, sign ∈ [[], [43], [45]] → AllPlain sign := by
      intro sign hsign
      simp only [List.mem_cons, List.not_mem_nil, or_false] at hsign
      rcases hsign with rfl | rfl | rfl
      · exact allPlain_nil
      · exact AllPlain.cons (by decide) allPlain_nil
      · exact AllPlain.cons (by decide) allPlain_nil
    refine AllPlain.append (hsigns _ ?_) (AllPlain.append ?_ (AllPlain.append ?_ ?_))
    · simp only [List.mem_cons, List.not_mem_nil, or_false] at hsign ⊢
      exact hsign.imp_right Or.inr
    · cases hwhole with
      | zero => exact AllPlain.cons (by decide) allPlain_nil
      | digits hdigits => exact hdigits.plain
    · cases hfraction with
      | absent => exact allPlain_nil
      | digits hdigits => exact AllPlain.cons (by decide) hdigits.plain
    · cases hexponent with
      | absent => exact allPlain_nil
      | digits he hsign hdigits =>
        refine AllPlain.cons ?_ ((hsigns _ hsign).append hdigits.plain)
        rcases he with rfl | rfl
        · decide
        · decide

theorem plain_of_mem_literals : ∀ v ∈ literals, AllPlain v := by
  unfold AllPlain
  decide +kernel

/-- A string of the format is delimited as every parser delimits it. -/
theorem StringBody.closed {s : Chars} (h : StringBody s) : Closed s := by
  induction h with
  | nil => exact .nil
  | char _ hquote hbackslash _ ih => exact .char hquote hbackslash ih
  | escape _ _ ih => exact .escape ih
  | unicode ha hb hc hd _ ih =>
    refine .escape ?_
    exact .char (isHex_not ha).1 (isHex_not ha).2 (.char (isHex_not hb).1 (isHex_not hb).2
      (.char (isHex_not hc).1 (isHex_not hc).2 (.char (isHex_not hd).1 (isHex_not hd).2 ih)))

section
variable {limit : Nat} {ok : Nat → Chars → Prop} (G : Guard limit ok)
include G

theorem Guard.allPlain {d : Nat} {w rest : Chars} (hw : AllPlain w) : ok d (w ++ rest) ↔ ok d rest := by
  induction w with
  | nil => rfl
  | cons c w ih =>
    rw [List.cons_append, G.plain d c _ (hw c (List.mem_cons_self ..))]
    exact ih fun b hb => hw b (List.mem_cons_of_mem c hb)

/-- What stands in brackets. -/
theorem Guard.brackets {d k : Nat} {o c : UInt8} {inner rest : Chars}
    (ho : o = openBracket ∨ o = openBrace) (hc : c = closeBracket ∨ c = closeBrace)
    (hinner : ∀ rest, d + 1 ≤ limit → (ok (d + 1) (inner ++ rest) ↔ d + 1 + k ≤ limit ∧ ok (d + 1) rest)) :
    ok d ((o :: (inner ++ [c])) ++ rest) ↔ d + (k + 1) ≤ limit ∧ ok d rest := by
  have hsplit : (o :: (inner ++ [c])) ++ rest = o :: (inner ++ c :: rest) := by simp
  rw [hsplit, G.opening d o _ ho]
  constructor
  · rintro ⟨hlimit, hrest⟩
    rw [hinner _ hlimit, G.closing d c _ hc] at hrest
    exact ⟨by omega, hrest.2⟩
  · rintro ⟨hlimit, hrest⟩
    have hlimit' : d + 1 ≤ limit := by omega
    refine ⟨hlimit', ?_⟩
    rw [hinner _ hlimit', G.closing d c _ hc]
    exact ⟨by omega, hrest⟩

/-- Two texts with a comma between them. -/
theorem Guard.comma_iff {d k k' : Nat} {a b rest : Chars}
    (ha : ∀ rest, ok d (a ++ rest) ↔ d + k ≤ limit ∧ ok d rest)
    (hb : ∀ rest, ok d (b ++ rest) ↔ d + k' ≤ limit ∧ ok d rest) :
    ok d ((a ++ comma :: b) ++ rest) ↔ d + max k k' ≤ limit ∧ ok d rest := by
  have hsplit : (a ++ comma :: b) ++ rest = a ++ comma :: (b ++ rest) := by simp
  have hmax : d + max k k' ≤ limit ↔ d + k ≤ limit ∧ d + k' ≤ limit := by omega
  rw [hsplit, ha, G.plain d comma _ (by decide), hb, hmax, and_assoc]

/-- **On a text of the format a guard is exact.** -/
theorem Guard.text_iff {kind : Kind} {v : Chars} {k : Nat} (h : Text kind v k) :
    ∀ d rest, d ≤ limit → (ok d (v ++ rest) ↔ d + k ≤ limit ∧ ok d rest) := by
  induction h with
  | literal hv =>
    intro d rest hd
    rw [G.allPlain (plain_of_mem_literals _ hv)]
    exact (and_iff_right hd).symm
  | number hv =>
    intro d rest hd
    rw [G.allPlain hv.plain]
    exact (and_iff_right hd).symm
  | @string s hs =>
    intro d rest hd
    have hsplit : (quote :: (s ++ [quote])) ++ rest = quote :: (s ++ quote :: rest) := by simp
    rw [hsplit, G.string d s rest hs.closed]
    exact (and_iff_right hd).symm
  | emptyArray hw =>
    intro d rest _
    refine G.brackets (Or.inl rfl) (Or.inl rfl) fun rest hd => ?_
    rw [G.allPlain hw.plain]
    exact (and_iff_right hd).symm
  | array _ ih =>
    intro d rest _
    exact G.brackets (Or.inl rfl) (Or.inl rfl) fun rest hd => ih (d + 1) rest hd
  | emptyObject hw =>
    intro d rest _
    refine G.brackets (Or.inr rfl) (Or.inr rfl) fun rest hd => ?_
    rw [G.allPlain hw.plain]
    exact (and_iff_right hd).symm
  | object _ ih =>
    intro d rest _
    exact G.brackets (Or.inr rfl) (Or.inr rfl) fun rest hd => ih (d + 1) rest hd
  | element hw _ hw' ih =>
    intro d rest hd
    rw [List.append_assoc, List.append_assoc, G.allPlain hw.plain, ih _ _ hd, G.allPlain hw'.plain]
  | lastElement _ ih => exact ih
  | elements _ _ ih ih' =>
    intro d rest hd
    exact G.comma_iff (fun rest => ih d rest hd) fun rest => ih' d rest hd
  | @member w s w' e k hw hs hw' _ ih =>
    intro d rest hd
    have hsplit : (w ++ quote :: (s ++ quote :: (w' ++ colon :: e))) ++ rest =
        w ++ (quote :: (s ++ quote :: (w' ++ (colon :: (e ++ rest))))) := by simp
    rw [hsplit, G.allPlain hw.plain, G.string d s _ hs.closed, G.allPlain hw'.plain,
      G.plain d colon _ (by decide), ih _ _ hd]
  | lastMember _ ih => exact ih
  | members _ _ ih ih' =>
    intro d rest hd
    exact G.comma_iff (fun rest => ih d rest hd) fun rest => ih' d rest hd

/-! ### Parsers -/

/-- What a parsing function does within a guard: it stays within the limit, and what it leaves
is still passed, with so many brackets open. -/
structure Within (limit : Nat) (ok : Nat → Chars → Prop) (left : Nat) (v : Visit) : Prop where
  deepest : v.deepest ≤ limit
  rest : ∀ rest, v.rest = some rest → ok left rest

omit G in
theorem Within.error {left d : Nat} (h : d ≤ limit) : Within limit ok left ⟨none, d⟩ where
  deepest := h
  rest := fun rest hrest => by cases hrest

omit G in
theorem Within.done {left d : Nat} {rest : Chars} (h : d ≤ limit) (hrest : ok left rest) :
    Within limit ok left ⟨some rest, d⟩ where
  deepest := h
  rest := fun _ hsome => Option.some.inj hsome ▸ hrest

omit G in
theorem Within.andThen {mid left : Nat} {v : Visit} {next : Chars → Visit}
    (h : Within limit ok mid v) (hnext : ∀ rest, ok mid rest → Within limit ok left (next rest)) :
    Within limit ok left (v.andThen next) := by
  unfold Visit.andThen
  cases hv : v.rest with
  | none => exact ⟨h.deepest, fun rest hrest => by rw [hv] at hrest; cases hrest⟩
  | some rest =>
    have hthen := hnext rest (h.rest rest hv)
    exact ⟨Nat.max_le.mpr ⟨h.deepest, hthen.deepest⟩, hthen.rest⟩

variable (L : Lexis)

theorem Guard.skip_iff {d : Nat} {input : Chars} : ok d (skip L input) ↔ ok d input := by
  have hplain : AllPlain (input.takeWhile L.blank) := fun c hc =>
    L.blank_plain c (List.mem_takeWhile_imp hc)
  have hsplit : ok d (input.takeWhile L.blank ++ skip L input) ↔ ok d (skip L input) :=
    G.allPlain hplain
  rw [skip, List.takeWhile_append_dropWhile] at hsplit
  exact hsplit.symm

omit G in
/-- The first byte is the one looked for. -/
theorem ok_tail {d d' : Nat} {input : Chars} {c : UInt8}
    (hstep : ∀ rest, ok d (c :: rest) → ok d' rest) (h : ok d input) (hc : input.head? = some c) :
    ok d' input.tail := by
  obtain ⟨rest, rfl⟩ := List.head?_eq_some_iff.mp hc
  exact hstep rest h

theorem Guard.closed {d : Nat} {c : UInt8} {input : Chars} (hc : c = closeBracket ∨ c = closeBrace)
    (h : ok (d + 1) input) (hhead : input.head? = some c) : ok d input.tail :=
  ok_tail (fun rest => (G.closing d c rest hc).mp) h hhead

theorem Guard.afterItem_within {again : Chars → Visit} {close : UInt8} {d : Nat} {input : Chars}
    (hclose : close = closeBracket ∨ close = closeBrace) (hd : d + 1 ≤ limit) (h : ok (d + 1) input)
    (hagain : ∀ rest, ok (d + 1) rest → Within limit ok d (again rest)) :
    Within limit ok d (afterItem L again close (d + 1) input) := by
  have hskip := (G.skip_iff L).mpr h
  unfold afterItem
  split
  case isTrue hcomma =>
    exact hagain _ (ok_tail (fun rest => (G.plain _ comma rest (by decide)).mp) hskip hcomma)
  case isFalse =>
    split
    case isTrue hend => exact .done hd (G.closed hclose hskip hend)
    case isFalse => exact .error hd

/-- The number of brackets open when a text of the kind has been read. -/
def Kind.left : Kind → Nat → Nat
  | .elements, d => d - 1
  | .members, d => d - 1
  | _, d => d

/-- Elements and members are read where a bracket is open. -/
def Kind.Inner : Kind → Nat → Prop
  | .elements, d => 0 < d
  | .members, d => 0 < d
  | _, _ => True

theorem Guard.stringRest {d : Nat} {input rest : Chars} (h : ok d input)
    (hquote : input.head? = some quote) (hend : L.string input.tail = some rest) : ok d rest := by
  obtain ⟨input, rfl⟩ := List.head?_eq_some_iff.mp hquote
  obtain ⟨body, hbody, hclosed⟩ := L.string_closed _ _ hend
  rw [List.tail_cons] at hbody
  rw [hbody, G.string d body rest hclosed] at h
  exact h

/-- The inside of brackets that were just opened. -/
theorem Guard.inside {inner : Chars → Visit} {o close : UInt8} {d : Nat} {input : Chars}
    (ho : o = openBracket ∨ o = openBrace) (hclose : close = closeBracket ∨ close = closeBrace)
    (h : ok d input) (hopen : input.head? = some o)
    (hinner : ∀ rest, d + 1 ≤ limit → ok (d + 1) rest → Within limit ok d (inner rest)) :
    Within limit ok d
      (if (skip L input.tail).head? = some close then
        ⟨some (skip L input.tail).tail, d + 1⟩
      else inner input.tail) := by
  obtain ⟨input, rfl⟩ := List.head?_eq_some_iff.mp hopen
  obtain ⟨hd, hrest⟩ := (G.opening d o _ ho).mp h
  rw [List.tail_cons]
  split
  case isTrue hend => exact .done hd (G.closed hclose ((G.skip_iff L).mpr hrest) hend)
  case isFalse => exact hinner _ hd hrest

/-- **Past a guard no parser goes beyond the limit**, however far it gets. -/
theorem Guard.parse_within (fuel : Nat) : ∀ kind : Kind, ∀ d input, d ≤ limit → kind.Inner d →
    ok d input → Within limit ok (kind.left d) (parse L fuel kind d input) := by
  induction fuel with
  | zero => exact fun kind d input hd _ _ => .error hd
  | succ fuel ih =>
    intro kind d input hd hinner h
    have hskip := (G.skip_iff L).mpr h
    cases kind with
    | value =>
      rw [parse]
      split
      case isTrue hquote => exact ⟨hd, fun rest hrest => G.stringRest L h hquote hrest⟩
      case isFalse =>
        split
        case isTrue hopen =>
          exact G.inside L (Or.inl rfl) (Or.inl rfl) h hopen fun rest hd hrest =>
            ih .elements (d + 1) rest hd (Nat.succ_pos d) hrest
        case isFalse =>
          split
          case isTrue hopen =>
            exact G.inside L (Or.inr rfl) (Or.inr rfl) h hopen fun rest hd hrest =>
              ih .members (d + 1) rest hd (Nat.succ_pos d) hrest
          case isFalse =>
            refine ⟨hd, fun rest hrest => ?_⟩
            obtain ⟨token, htoken, hplain⟩ := L.scalar_plain _ _ hrest
            rw [htoken, G.allPlain hplain] at h
            exact h
    | element =>
      rw [parse]
      exact ih .value d _ hd trivial hskip
    | elements =>
      obtain ⟨d, rfl⟩ := Nat.exists_eq_succ_of_ne_zero (Nat.ne_of_gt hinner)
      rw [parse]
      refine (ih .element (d + 1) input hd trivial h).andThen fun rest hrest => ?_
      exact G.afterItem_within L (Or.inl rfl) hd hrest fun rest hrest =>
        ih .elements (d + 1) rest hd hinner hrest
    | member =>
      rw [parse]
      split
      case isFalse => exact .error hd
      case isTrue hquote =>
        have hkey : Within limit ok d ⟨L.string (skip L input).tail, d⟩ :=
          ⟨hd, fun rest hrest => G.stringRest L hskip hquote hrest⟩
        refine hkey.andThen fun rest hrest => ?_
        split
        case isFalse => exact .error hd
        case isTrue hcolon =>
          exact ih .element d _ hd trivial (ok_tail (fun rest => (G.plain _ colon rest (by decide)).mp)
            ((G.skip_iff L).mpr hrest) hcolon)
    | members =>
      obtain ⟨d, rfl⟩ := Nat.exists_eq_succ_of_ne_zero (Nat.ne_of_gt hinner)
      rw [parse]
      refine (ih .member (d + 1) input hd trivial h).andThen fun rest hrest => ?_
      exact G.afterItem_within L (Or.inr rfl) hd hrest fun rest hrest =>
        ih .members (d + 1) rest hd hinner hrest

theorem Guard.parseText_within (fuel : Nat) {input : Chars} (h : ok 0 input) :
    (parseText L fuel input).deepest ≤ limit := by
  have helement := G.parse_within L fuel .element 0 input (Nat.zero_le _) trivial h
  have hfirst : Within limit (fun _ _ => True) 0 (parse L fuel .element 0 input) :=
    ⟨helement.deepest, fun _ _ => trivial⟩
  have hall : Within limit (fun _ _ => True) 0 (parseText L fuel input) :=
    hfirst.andThen fun rest _ => ⟨Nat.zero_le _, fun _ _ => trivial⟩
  exact hall.deepest

end
end Library.JsonText
