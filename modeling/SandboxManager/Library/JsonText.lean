import Mathlib.Data.List.TakeWhile

/-! JSON texts, their depth, and parsers that descend into them.

`Text` derives the texts of the format, each with its depth: the greatest number of brackets and
braces that are open at once. `parse` is the recursive descent with the number of open
brackets in hand, over any lexical level (`Lexis`): what is asked of that level is only that
neither blanks nor scalars contain a quote, a bracket or a brace, and that a string ends
at its first quote that is not escaped. `strict` is the level of the format itself. -/
namespace Library.JsonText

abbrev Chars := List UInt8

def quote : UInt8 := 34
def backslash : UInt8 := 92
def comma : UInt8 := 44
def colon : UInt8 := 58
def openBracket : UInt8 := 91
def closeBracket : UInt8 := 93
def openBrace : UInt8 := 123
def closeBrace : UInt8 := 125

/-- No quote, bracket or brace. -/
def Plain (c : UInt8) : Prop :=
  c ≠ quote ∧ c ≠ openBracket ∧ c ≠ closeBracket ∧ c ≠ openBrace ∧ c ≠ closeBrace

instance (c : UInt8) : Decidable (Plain c) := inferInstanceAs (Decidable (_ ∧ _))

/-! ### The format -/

def isBlank (c : UInt8) : Bool := c = 32 || c = 9 || c = 10 || c = 13

def isDigit (c : UInt8) : Bool := 48 ≤ c && c ≤ 57

def isHex (c : UInt8) : Bool := isDigit c || (65 ≤ c && c ≤ 70) || (97 ≤ c && c ≤ 102)

/-- What may stand after a backslash, but for a code point. -/
def isEscape (c : UInt8) : Bool :=
  c = quote || c = backslash || c = 47 || c = 98 || c = 102 || c = 110 || c = 114 || c = 116

def Blanks (w : Chars) : Prop := ∀ c ∈ w, isBlank c = true

def Digits (ds : Chars) : Prop := ds ≠ [] ∧ ∀ c ∈ ds, isDigit c = true

/-- `null`, `true` and `false`. -/
def literals : List Chars := [[110, 117, 108, 108], [116, 114, 117, 101], [102, 97, 108, 115, 101]]

/-- The whole part of a number: a zero, or digits that do not begin with one. -/
inductive Whole : Chars → Prop
  | zero : Whole [48]
  | digits {ds : Chars} : Digits ds → ds.head? ≠ some 48 → Whole ds

inductive Fraction : Chars → Prop
  | absent : Fraction []
  | digits {ds : Chars} : Digits ds → Fraction (46 :: ds)

inductive Exponent : Chars → Prop
  | absent : Exponent []
  | digits {e : UInt8} {sign ds : Chars} : e = 101 ∨ e = 69 → sign ∈ [[], [43], [45]] → Digits ds →
      Exponent (e :: (sign ++ ds))

inductive Number : Chars → Prop
  | mk {sign whole fraction exponent : Chars} : sign ∈ [[], [45]] → Whole whole →
      Fraction fraction → Exponent exponent → Number (sign ++ (whole ++ (fraction ++ exponent)))

/-- What stands between the quotes of a string. -/
inductive StringBody : Chars → Prop
  | nil : StringBody []
  | char {c : UInt8} {rest : Chars} : 32 ≤ c → c ≠ quote → c ≠ backslash → StringBody rest →
      StringBody (c :: rest)
  | escape {c : UInt8} {rest : Chars} : isEscape c = true → StringBody rest →
      StringBody (backslash :: c :: rest)
  | unicode {a b c d : UInt8} {rest : Chars} : isHex a = true → isHex b = true → isHex c = true →
      isHex d = true → StringBody rest → StringBody (backslash :: 117 :: a :: b :: c :: d :: rest)

/-- What a text can be. An element and a member have blanks around them; elements and members
are those of an array and of an object that is not empty. -/
inductive Kind where
  | value
  | element
  | elements
  | member
  | members
deriving DecidableEq

/-- The texts of a kind, with their depth. -/
inductive Text : Kind → Chars → Nat → Prop
  | literal {v : Chars} : v ∈ literals → Text .value v 0
  | number {v : Chars} : Number v → Text .value v 0
  | string {s : Chars} : StringBody s → Text .value (quote :: (s ++ [quote])) 0
  | emptyArray {w : Chars} : Blanks w → Text .value (openBracket :: (w ++ [closeBracket])) 1
  | array {es : Chars} {k : Nat} : Text .elements es k →
      Text .value (openBracket :: (es ++ [closeBracket])) (k + 1)
  | emptyObject {w : Chars} : Blanks w → Text .value (openBrace :: (w ++ [closeBrace])) 1
  | object {ms : Chars} {k : Nat} : Text .members ms k →
      Text .value (openBrace :: (ms ++ [closeBrace])) (k + 1)
  | element {w v w' : Chars} {k : Nat} : Blanks w → Text .value v k → Blanks w' →
      Text .element (w ++ (v ++ w')) k
  | lastElement {e : Chars} {k : Nat} : Text .element e k → Text .elements e k
  | elements {e es : Chars} {k k' : Nat} : Text .element e k → Text .elements es k' →
      Text .elements (e ++ comma :: es) (max k k')
  | member {w s w' e : Chars} {k : Nat} : Blanks w → StringBody s → Blanks w' →
      Text .element e k → Text .member (w ++ quote :: (s ++ quote :: (w' ++ colon :: e))) k
  | lastMember {m : Chars} {k : Nat} : Text .member m k → Text .members m k
  | members {m ms : Chars} {k k' : Nat} : Text .member m k → Text .members ms k' →
      Text .members (m ++ comma :: ms) (max k k')

/-- A whole text. -/
def IsText (text : Chars) (depth : Nat) : Prop := Text .element text depth

/-! ### The lexical level of a parser -/

/-- Between the quotes of a string as every parser delimits it: no quote but after a backslash,
and no backslash at the end but after another. -/
inductive Closed : Chars → Prop
  | nil : Closed []
  | char {c : UInt8} {rest : Chars} : c ≠ quote → c ≠ backslash → Closed rest → Closed (c :: rest)
  | escape {c : UInt8} {rest : Chars} : Closed rest → Closed (backslash :: c :: rest)

/-- Which bytes a parser passes over, and where it finds the end of a scalar and, after the quote
in front, of a string. -/
structure Lexis where
  blank : UInt8 → Bool
  scalar : Chars → Option Chars
  string : Chars → Option Chars
  blank_plain : ∀ c, blank c = true → Plain c
  scalar_plain : ∀ input rest, scalar input = some rest →
    ∃ token, input = token ++ rest ∧ ∀ c ∈ token, Plain c
  string_closed : ∀ input rest, string input = some rest →
    ∃ body, input = body ++ quote :: rest ∧ Closed body

/-! ### Recursive descent -/

/-- How a parsing function ends: with what is left, or at a syntax error; and the greatest
number of brackets it had open. -/
structure Visit where
  rest : Option Chars
  deepest : Nat
deriving DecidableEq

/-- The function that comes after another, if that one ended well. -/
def Visit.andThen (v : Visit) (next : Chars → Visit) : Visit :=
  match v.rest with
  | none => v
  | some rest => ⟨(next rest).rest, max v.deepest (next rest).deepest⟩

section
variable (L : Lexis)

def skip (input : Chars) : Chars := input.dropWhile L.blank

/-- After a value in an array or an object: another one, or the end. -/
def afterItem (again : Chars → Visit) (close : UInt8) (nest : Nat) (input : Chars) : Visit :=
  if (skip L input).head? = some comma then again (skip L input).tail
  else if (skip L input).head? = some close then ⟨some (skip L input).tail, nest⟩
  else ⟨none, nest⟩

/-- The parsing functions, one for each kind, calling one another so many times at most.
Elements and members are read up to the bracket that closes them, and with it. -/
def parse : Nat → Kind → Nat → Chars → Visit
  | 0, _, nest, _ => ⟨none, nest⟩
  | fuel + 1, .value, nest, input =>
    if input.head? = some quote then ⟨L.string input.tail, nest⟩
    else if input.head? = some openBracket then
      if (skip L input.tail).head? = some closeBracket then ⟨some (skip L input.tail).tail, nest + 1⟩
      else parse fuel .elements (nest + 1) input.tail
    else if input.head? = some openBrace then
      if (skip L input.tail).head? = some closeBrace then ⟨some (skip L input.tail).tail, nest + 1⟩
      else parse fuel .members (nest + 1) input.tail
    else ⟨L.scalar input, nest⟩
  | fuel + 1, .element, nest, input => parse fuel .value nest (skip L input)
  | fuel + 1, .elements, nest, input =>
    (parse fuel .element nest input).andThen
      (afterItem L (parse fuel .elements nest) closeBracket nest)
  | fuel + 1, .member, nest, input =>
    if (skip L input).head? = some quote then
      Visit.andThen ⟨L.string (skip L input).tail, nest⟩ fun rest =>
        if (skip L rest).head? = some colon then parse fuel .element nest (skip L rest).tail
        else ⟨none, nest⟩
    else ⟨none, nest⟩
  | fuel + 1, .members, nest, input =>
    (parse fuel .member nest input).andThen
      (afterItem L (parse fuel .members nest) closeBrace nest)

/-- A whole text, blanks around it. -/
def parseText (fuel : Nat) (input : Chars) : Visit :=
  (parse L fuel .element 0 input).andThen fun rest =>
    ⟨if skip L rest = [] then some [] else none, 0⟩

end

/-! ### The lexical level of the format -/

/-- Where in a string a parser is: `hex n` is before `n + 1` digits of a code point. -/
inductive StringState where
  | char
  | escape
  | hex (n : Nat)
deriving DecidableEq

/-- The end of a string. -/
def stringEnd : StringState → Chars → Option Chars
  | _, [] => none
  | .char, c :: rest =>
    if c = quote then some rest
    else if c = backslash then stringEnd .escape rest
    else if 32 ≤ c then stringEnd .char rest
    else none
  | .escape, c :: rest =>
    if c = 117 then stringEnd (.hex 3) rest
    else if isEscape c then stringEnd .char rest
    else none
  | .hex 0, c :: rest => if isHex c then stringEnd .char rest else none
  | .hex (n + 1), c :: rest => if isHex c then stringEnd (.hex n) rest else none

/-- The end of digits, of which there must be one. -/
def digitsEnd (input : Chars) : Option Chars :=
  if input.takeWhile isDigit = [] then none else some (input.dropWhile isDigit)

def wholeEnd (input : Chars) : Option Chars :=
  if input.head? = some 48 then some input.tail else digitsEnd input

def fractionEnd (input : Chars) : Option Chars :=
  if input.head? = some 46 then digitsEnd input.tail else some input

def exponentEnd (input : Chars) : Option Chars :=
  if input.head? = some 101 ∨ input.head? = some 69 then
    digitsEnd (if input.tail.head? = some 43 ∨ input.tail.head? = some 45 then input.tail.tail
      else input.tail)
  else some input

def numberEnd (input : Chars) : Option Chars :=
  ((wholeEnd (if input.head? = some 45 then input.tail else input)).bind fractionEnd).bind exponentEnd

/-- The end of a literal or a number. -/
def scalarEnd (input : Chars) : Option Chars :=
  match literals.find? (·.isPrefixOf input) with
  | some v => some (input.drop v.length)
  | none => numberEnd input

end Library.JsonText
