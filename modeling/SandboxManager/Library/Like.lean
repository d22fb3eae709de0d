import Mathlib.Data.List.Infix

/-! The LIKE operator with an escape character.

A pattern is read once, left to right: the escape character makes a literal of what follows it,
and of the rest one symbol stands for any list and one for any element. Letters are compared up
to a folding. A text that is escaped stands for itself, up to the folding (`like_escape_any`). -/
namespace Library

variable {α : Type*} [DecidableEq α]

/-- The symbols of a pattern, and when two elements are the same. -/
structure LikeSyntax (α : Type*) where
  any : α
  one : α
  esc : α
  fold : α → α

inductive LikeToken (α : Type*) where
  | literal (a : α)
  | any
  | one
  /-- An escape character with nothing after it. -/
  | dangling

namespace LikeSyntax
variable (σ : LikeSyntax α)

def tokens : List α → List (LikeToken α)
  | [] => []
  | [c] => if c = σ.esc then [.dangling] else [plain c]
  | c :: c' :: rest =>
    if c = σ.esc then .literal c' :: tokens rest else plain c :: tokens (c' :: rest)
where
  plain (c : α) : LikeToken α := if c = σ.any then .any else if c = σ.one then .one else .literal c

def accepts : List (LikeToken α) → List α → Bool
  | [], text => text.isEmpty
  | .literal a :: rest, text =>
    match text with
    | [] => false
    | b :: text => σ.fold a = σ.fold b && accepts rest text
  | .any :: rest, text => text.tails.any (accepts rest)
  | .one :: rest, text =>
    match text with
    | [] => false
    | _ :: text => accepts rest text
  | .dangling :: _, _ => false

def like (pattern text : List α) : Bool := σ.accepts (σ.tokens pattern) text

/-- Puts the escape character before every symbol. -/
def escape (text : List α) : List α :=
  text.flatMap fun c => if c = σ.any ∨ c = σ.one ∨ c = σ.esc then [σ.esc, c] else [c]

theorem tokens_cons_plain {c : α} (h : c ≠ σ.esc) (rest : List α) :
    σ.tokens (c :: rest) = tokens.plain σ c :: σ.tokens rest := by
  cases rest with
  | nil => simp only [tokens, if_neg h]
  | cons c' rest => simp only [tokens, if_neg h]

theorem tokens_cons_escaped (c : α) (rest : List α) :
    σ.tokens (σ.esc :: c :: rest) = .literal c :: σ.tokens rest := by
  rw [tokens, if_pos rfl]

/-- An escaped text is read as its own literals. -/
theorem tokens_escape_append (text rest : List α) :
    σ.tokens (σ.escape text ++ rest) = text.map .literal ++ σ.tokens rest := by
  induction text with
  | nil => rfl
  | cons c text ih =>
    have hcons : σ.escape (c :: text) ++ rest =
        (if c = σ.any ∨ c = σ.one ∨ c = σ.esc then [σ.esc, c] else [c]) ++
          (σ.escape text ++ rest) := by
      rw [escape, List.flatMap_cons, List.append_assoc]
      rfl
    rw [hcons, List.map_cons, List.cons_append, ← ih]
    by_cases h : c = σ.any ∨ c = σ.one ∨ c = σ.esc
    · rw [if_pos h]
      exact σ.tokens_cons_escaped c _
    · obtain ⟨hany, hone, hesc⟩ : c ≠ σ.any ∧ c ≠ σ.one ∧ c ≠ σ.esc :=
        ⟨fun hc => h (.inl hc), fun hc => h (.inr (.inl hc)), fun hc => h (.inr (.inr hc))⟩
      rw [if_neg h]
      refine (σ.tokens_cons_plain hesc _).trans ?_
      rw [tokens.plain, if_neg hany, if_neg hone]
      rfl

/-- Literals match what folds alike, and leave the rest to the rest. -/
theorem accepts_literals_append (w : List α) (ts : List (LikeToken α)) (text : List α) :
    σ.accepts (w.map .literal ++ ts) text = true ↔
      ∃ v u, text = v ++ u ∧ v.map σ.fold = w.map σ.fold ∧ σ.accepts ts u = true := by
  induction w generalizing text with
  | nil =>
    constructor
    · exact fun h => ⟨[], text, rfl, rfl, h⟩
    · rintro ⟨v, u, rfl, hv, h⟩
      rw [List.map_eq_nil_iff.mp hv]
      exact h
  | cons a w ih =>
    rw [List.map_cons, List.cons_append]
    cases text with
    | nil =>
      refine ⟨nofun, fun ⟨v, u, htext, hv, _⟩ => ?_⟩
      rw [(List.append_eq_nil_iff.mp htext.symm).1] at hv
      cases hv
    | cons b text =>
      rw [accepts, Bool.and_eq_true, decide_eq_true_eq, ih]
      constructor
      · rintro ⟨hfold, v, u, rfl, hv, h⟩
        exact ⟨b :: v, u, rfl, by rw [List.map_cons, List.map_cons, hv, hfold], h⟩
      · rintro ⟨v, u, htext, hv, h⟩
        cases v with
        | nil => cases hv
        | cons c v =>
          obtain ⟨rfl, rfl⟩ := List.cons.inj htext
          obtain ⟨hfold, hv⟩ := List.cons.inj hv
          exact ⟨hfold.symm, v, u, rfl, hv, h⟩

/-- **An escaped text, a plain one and the symbol for any list match what begins with both.** -/
theorem like_escape_any (text : List α) {c : α} (hplain : c ≠ σ.any ∧ c ≠ σ.one ∧ c ≠ σ.esc)
    (hesc : σ.any ≠ σ.esc) (path : List α) :
    σ.like (σ.escape text ++ [c, σ.any]) path = true ↔
      (text ++ [c]).map σ.fold <+: path.map σ.fold := by
  have htokens : σ.tokens [c, σ.any] = [.literal c, .any] := by
    rw [σ.tokens_cons_plain hplain.2.2, σ.tokens_cons_plain hesc, tokens.plain,
      if_neg hplain.1, if_neg hplain.2.1, tokens.plain, if_pos rfl]
    rfl
  have hany : ∀ u : List α, σ.accepts [.any] u = true := by
    intro u
    rw [accepts, List.any_eq_true]
    exact ⟨[], (List.mem_tails [] u).mpr List.nil_suffix, rfl⟩
  have hpattern : (text.map LikeToken.literal ++ [.literal c, .any] : List (LikeToken α)) =
      (text ++ [c]).map .literal ++ [.any] := by
    rw [List.map_append, List.append_assoc]
    rfl
  rw [like, tokens_escape_append, htokens, hpattern, accepts_literals_append]
  constructor
  · rintro ⟨v, u, rfl, hv, -⟩
    rw [← hv, List.map_append]
    exact List.prefix_append _ _
  · rintro ⟨u, hu⟩
    obtain ⟨v, rest, hpath, hv, -⟩ := List.map_eq_append_iff.mp hu.symm
    exact ⟨v, rest, hpath, hv, hany rest⟩

end LikeSyntax

end Library
