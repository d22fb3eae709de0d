import SandboxManager.Claw.Response
import SandboxManager.Library.JsonStrict

/-! The depth of a JSON text, before it is parsed.

`CheckJsonDepth` runs over the bytes of a text with the number of open brackets in hand, passes
over what is in quotes, and lets a closing bracket too many go by. It is a guard in the sense of
the library (`checkFrom_guard`), so that on a text of the format it is exact, and no parser that
descends into a text it accepted goes deeper than the limit. -/
namespace SandboxManager.Claw.JsonDepth
open Library.JsonText

def MAX_JSON_DEPTH : Nat := 10

/-- The loop of `CheckJsonDepth`, on what is left of the string. -/
def checkFrom : Bool → Nat → Bytes → SandboxError
  | _, _, [] => .SUCCESS
  | true, depth, c :: rest =>
    -- an escaped byte is skipped with its backslash
    if c = backslash ∧ rest ≠ [] then checkFrom true depth rest.tail
    else if c = quote then checkFrom false depth rest
    else checkFrom true depth rest
  | false, depth, c :: rest =>
    if c = quote then checkFrom true depth rest
    else if c = openBrace ∨ c = openBracket then
      if MAX_JSON_DEPTH < depth + 1 then .ERR_CONFIG_INVALID else checkFrom false (depth + 1) rest
    else if c = closeBrace ∨ c = closeBracket then checkFrom false (if 0 < depth then depth - 1 else depth) rest
    else checkFrom false depth rest
termination_by _ _ text => text.length
decreasing_by
  all_goals
    simp only [List.length_cons, List.length_tail]
    omega

def checkJsonDepth (jsonStr : Bytes) : SandboxError := checkFrom false 0 jsonStr

/-- The rest of the text is accepted, with so many brackets open and outside a string. -/
def Accepts (depth : Nat) (rest : Bytes) : Prop := checkFrom false depth rest = .SUCCESS

/-- A string is passed over up to its quote. -/
theorem checkFrom_string {body : Bytes} (h : Closed body) (depth : Nat) (rest : Bytes) :
    checkFrom true depth (body ++ quote :: rest) = checkFrom false depth rest := by
  induction h with
  | nil => rw [List.nil_append, checkFrom, if_neg fun h => absurd h.1 (by decide), if_pos rfl]
  | char hquote hbackslash _ ih =>
    rw [List.cons_append, checkFrom, if_neg fun h => hbackslash h.1, if_neg hquote, ih]
  | escape _ ih =>
    rw [List.cons_append, List.cons_append, checkFrom, if_pos ⟨rfl, List.cons_ne_nil _ _⟩,
      List.tail_cons, ih]

theorem checkFrom_guard : Guard MAX_JSON_DEPTH Accepts where
  nil := fun d => by rw [Accepts, checkFrom]
  plain := fun d c rest h => by
    obtain ⟨hquote, hbracket, hbracket', hbrace, hbrace'⟩ := h
    rw [Accepts, checkFrom, if_neg hquote, if_neg (not_or.mpr ⟨hbrace, hbracket⟩),
      if_neg (not_or.mpr ⟨hbrace', hbracket'⟩), Accepts]
  string := fun d body rest h => by
    rw [Accepts, checkFrom, if_pos rfl, checkFrom_string h, Accepts]
  opening := fun d c rest h => by
    have hc : c ≠ quote ∧ (c = openBrace ∨ c = openBracket) := by
      rcases h with rfl | rfl
      · decide
      · decide
    rw [Accepts, checkFrom, if_neg hc.1, if_pos hc.2, Accepts]
    by_cases hd : MAX_JSON_DEPTH < d + 1
    · rw [if_pos hd]
      exact ⟨fun h => (by cases h), fun h => absurd h.1 (by omega)⟩
    · rw [if_neg hd]
      exact (and_iff_right (Nat.le_of_not_lt hd)).symm
  closing := fun d c rest h => by
    have hc : c ≠ quote ∧ ¬ (c = openBrace ∨ c = openBracket) ∧
        (c = closeBrace ∨ c = closeBracket) := by
      rcases h with rfl | rfl
      · decide
      · decide
    rw [Accepts, checkFrom, if_neg hc.1, if_neg hc.2.1, if_pos hc.2.2, if_pos (Nat.succ_pos d),
      Nat.add_sub_cancel, Accepts]

/-- What is accepted is accepted as far as it goes, wherever it is cut. -/
theorem checkFrom_take (text rest : Bytes) : ∀ inString depth,
    checkFrom inString depth (text ++ rest) = .SUCCESS → checkFrom inString depth text = .SUCCESS := by
  induction hlength : text.length using Nat.strong_induction_on generalizing text with
  | h length ih =>
    subst hlength
    intro inString depth h
    cases text with
    | nil => rw [checkFrom]
    | cons c text =>
      have hshorter : text.length < (c :: text).length := Nat.lt_succ_self _
      have hnext := ih text.length hshorter text rfl
      rw [List.cons_append] at h
      cases inString with
      | true =>
        rw [checkFrom] at h ⊢
        by_cases hc : c = backslash
        · cases text with
          | nil =>
            rw [if_neg (by simp), if_neg (by rw [hc]; decide)]
            rw [checkFrom]
          | cons e text =>
            have htail : text.length < (c :: e :: text).length := by
              simp only [List.length_cons]
              omega
            rw [if_pos ⟨hc, List.cons_ne_nil _ _⟩] at h ⊢
            exact ih text.length htail text rfl true depth h
        · rw [if_neg fun h => hc h.1] at h ⊢
          by_cases hquote : c = quote
          · rw [if_pos hquote] at h ⊢
            exact hnext false depth h
          · rw [if_neg hquote] at h ⊢
            exact hnext true depth h
      | false =>
        rw [checkFrom] at h ⊢
        by_cases hquote : c = quote
        · rw [if_pos hquote] at h ⊢
          exact hnext true depth h
        rw [if_neg hquote] at h ⊢
        by_cases hopen : c = openBrace ∨ c = openBracket
        · rw [if_pos hopen] at h ⊢
          by_cases hdeep : MAX_JSON_DEPTH < depth + 1
          · rw [if_pos hdeep] at h
            cases h
          · rw [if_neg hdeep] at h ⊢
            exact hnext false (depth + 1) h
        rw [if_neg hopen] at h ⊢
        by_cases hclose : c = closeBrace ∨ c = closeBracket
        · rw [if_pos hclose] at h ⊢
          exact hnext false _ h
        · rw [if_neg hclose] at h ⊢
          exact hnext false depth h

/-- **The guard is exact on the texts of the format, and keeps every parser within the limit**,
also one that sees the text only up to some byte. One such parser is the format's own, which reads
every text to its end and goes as deep as the text does. -/
theorem checkJsonDepth_exact :
    (∀ text depth, IsText text depth →
      (checkJsonDepth text = .SUCCESS ↔ depth ≤ MAX_JSON_DEPTH)) ∧
    (∀ (L : Lexis) (fuel : Nat) (text seen : Bytes), checkJsonDepth text = .SUCCESS →
      seen <+: text → (parseText L fuel seen).deepest ≤ MAX_JSON_DEPTH) ∧
    ∀ text depth, IsText text depth →
      ∃ enough, ∀ fuel, enough ≤ fuel → parseText strict fuel text = ⟨some [], depth⟩ := by
  refine ⟨fun text depth h => ?_, fun L fuel text seen h hseen => ?_, fun _ _ => parseText_strict⟩
  · have hexact := checkFrom_guard.text_iff h 0 [] (Nat.zero_le _)
    rw [List.append_nil, Nat.zero_add] at hexact
    exact hexact.trans (and_iff_left (checkFrom_guard.nil 0))
  · obtain ⟨rest, rfl⟩ := hseen
    exact checkFrom_guard.parseText_within L fuel (checkFrom_take seen rest false 0 h)

example : checkJsonDepth (bytes "[[[[[[[[[[\"]\\\"[\"]]]]]]]]]]") = .SUCCESS ∧
    checkJsonDepth (bytes "]]]\x7b[[[[[[[[[[") = .ERR_CONFIG_INVALID := by
  decide +kernel

end SandboxManager.Claw.JsonDepth
