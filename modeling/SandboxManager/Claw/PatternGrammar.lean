import SandboxManager.Claw.FilePattern
import SandboxManager.PlainPath

/-! What the file pattern parser accepts.

The parser looks for texts in the pattern, one check after the other. Taken together the checks
are a grammar, `LegalPattern`, and nothing about a pattern is lost but whether a bare `*` followed
`**/` (`parseFilePattern_grammar`). -/
namespace SandboxManager.Claw
open Library

/-! ### The grammar -/

/-- The text stands at a place of the path. -/
def StandsAt (text path : Bytes) (i : Nat) : Prop := text <+: path.drop i

structure LegalPattern (pattern : Bytes) (start : Nat) : Prop where
  absolute : pattern.head? = some slash
  /-- Exactly one `**`. -/
  single : ∀ i, StandsAt globStar pattern i ↔ i = start
  precededBySlash : 0 < start ∧ pattern[start - 1]? = some slash
  followedBySlash : pattern.drop (start + 2) = [] ∨ (pattern.drop (start + 2)).head? = some slash
  noTrailingSlash : pattern.getLast? ≠ some slash
  noMetaChars : ∀ c ∈ bytes "?[]\x7b\x7d\\", c ∉ pattern
  /-- Any other star leads the final component, which follows `**/`. -/
  otherStar : ∀ i, pattern[i]? = some star →
    i = start ∨ i = start + 1 ∨ (i = start + 3 ∧ slash ∉ pattern.drop (start + 4))
  plainPrefix : ∀ w ∈ (components (pattern.take start)).dropLast, PlainName w
  plainTail : pattern[start + 3]? ≠ some star →
    ∀ w ∈ components (pattern.drop (start + 2)), PlainName w

/-- `ParseFilePattern` with its output argument. -/
def parseFilePatternInto (pattern : Bytes) (out : FilePattern) : Except Bytes Unit × FilePattern :=
  match parseFilePattern pattern with
  | .ok parsed => (.ok (), parsed)
  | .error why => (.error why, out)

/-- The pattern a result is read from. A suffix that begins with a slash is a path. -/
def patternOf (parsed : FilePattern) : Bytes :=
  parsed.pfx ++ globStar ++
    if parsed.suffix = [] ∨ parsed.suffix.head? = some slash then parsed.suffix
    else slash :: star :: parsed.suffix

/-- What a bare star adds to a pattern that ends in `**`. -/
def bareStar : Bytes := [slash, star]

/-! ### Finding a text -/

section
variable {text path : Bytes}

theorem findText_eq_none_iff : findText text path = none ↔ ∀ i, ¬ StandsAt text path i := by
  rw [findText, List.findIdx?_eq_none_iff]
  simp only [List.mem_tails, List.isPrefixOf_iff_prefix, Bool.eq_false_iff, ne_eq, StandsAt]
  exact ⟨fun h i => h _ (List.drop_suffix i path), fun h tail htail => by
    obtain ⟨init, rfl⟩ := htail
    simpa using h init.length⟩

theorem findText_eq_some_iff (htext : text ≠ []) {i : Nat} :
    findText text path = some i ↔
      StandsAt text path i ∧ ∀ j < i, ¬ StandsAt text path j := by
  rw [findText, List.findIdx?_eq_some_iff_getElem]
  simp only [List.getElem_tails, List.isPrefixOf_iff_prefix, List.length_tails, StandsAt]
  refine ⟨fun ⟨_, hi, hj⟩ => ⟨hi, hj⟩, fun ⟨hi, hj⟩ => ⟨?_, hi, hj⟩⟩
  have hlength := hi.length_le
  have hpos := List.length_pos_iff.mpr htext
  rw [List.length_drop] at hlength
  omega

theorem standsAt_drop {n i : Nat} : StandsAt text (path.drop n) i ↔ StandsAt text path (n + i) := by
  rw [StandsAt, StandsAt, List.drop_drop]

theorem exists_standsAt_iff : (∃ i, StandsAt text path i) ↔ text <:+: path := by
  refine ⟨fun ⟨i, h⟩ => h.isInfix.trans (List.drop_suffix i path).isInfix, fun ⟨init, rest, h⟩ => ?_⟩
  refine ⟨init.length, ?_⟩
  rw [StandsAt, ← h, List.append_assoc, List.drop_left]
  exact List.prefix_append text rest

theorem standsAt_globStar_iff {i : Nat} :
    StandsAt globStar path i ↔ path[i]? = some star ∧ path[i + 1]? = some star := by
  have hhead : (path.drop i)[0]? = path[i]? := by rw [List.getElem?_drop, Nat.add_zero]
  have hnext : (path.drop i)[1]? = path[i + 1]? := by rw [List.getElem?_drop]
  rw [StandsAt, globStar, ← hhead, ← hnext]
  rcases path.drop i with _ | ⟨a, _ | ⟨b, rest⟩⟩
  · simp
  · simp
  · simp [List.cons_prefix_cons, eq_comm]

end

/-! ### The checks -/

section
variable {pattern path suffix : Bytes}

theorem except_bind_eq_ok_iff {ε α β : Type} {x : Except ε α} {f : α → Except ε β} {b : β} :
    x >>= f = .ok b ↔ ∃ a, x = .ok a ∧ f a = .ok b := by
  cases x with
  | error e => simp [bind, Except.bind]
  | ok a => simp [bind, Except.bind]

theorem except_guard_eq_ok_iff {ε : Type} {p : Prop} [Decidable p] {why : ε} :
    (if p then Except.error why else Except.ok ()) = Except.ok () ↔ ¬ p := by
  split <;> simp_all

theorem checkPatternAbsolute_eq_ok_iff :
    checkPatternAbsolute pattern = .ok () ↔ pattern.head? = some slash := by
  rw [checkPatternAbsolute, except_guard_eq_ok_iff, not_not]

theorem findSingleGlobStar_eq_ok_iff {start : Nat} :
    findSingleGlobStar pattern = .ok start ↔
      StandsAt globStar pattern start ∧ (∀ j < start, ¬ StandsAt globStar pattern j) ∧
        ∀ j, ¬ StandsAt globStar pattern (start + 2 + j) := by
  rw [← and_assoc, ← findText_eq_some_iff (by decide : globStar ≠ [])]
  unfold findSingleGlobStar
  cases hfind : findText globStar pattern with
  | none => simp
  | some first =>
    have hsecond : (findText globStar (pattern.drop (first + GLOB_STAR_LEN))).isSome = false ↔
        ∀ j, ¬ StandsAt globStar pattern (first + 2 + j) := by
      simp only [Option.isSome_eq_false_iff, Option.isNone_iff_eq_none, findText_eq_none_iff,
        standsAt_drop]
      rfl
    by_cases hsome : (findText globStar (pattern.drop (first + GLOB_STAR_LEN))).isSome = true
    · have hno : ¬ ∀ j, ¬ StandsAt globStar pattern (first + 2 + j) := fun h => by
        rw [hsecond.mpr h] at hsome
        exact Bool.false_ne_true hsome
      simp only [if_pos hsome]
      refine iff_of_false (by simp) fun h => ?_
      cases h.1
      exact hno h.2
    · have hnone := hsecond.mp (Bool.not_eq_true _ ▸ hsome)
      simp only [if_neg hsome]
      refine ⟨fun h => ?_, fun h => congrArg _ (Option.some.inj h.1)⟩
      cases h
      exact ⟨rfl, hnone⟩

theorem checkGlobStarBoundaries_eq_ok_iff {start : Nat} :
    checkGlobStarBoundaries pattern start = .ok () ↔
      (0 < start ∧ pattern[start - 1]? = some slash) ∧
        (pattern.drop (start + 2) = [] ∨ (pattern.drop (start + 2)).head? = some slash) := by
  have hafter : pattern.drop (start + GLOB_STAR_LEN) = pattern.drop (start + 2) := rfl
  simp only [checkGlobStarBoundaries, hafter]
  by_cases hbefore : start = 0 ∨ pattern[start - 1]? ≠ some slash
  · rw [if_pos hbefore]
    refine iff_of_false (by simp) fun h => ?_
    exact hbefore.elim (fun h0 => absurd h.1.1 (by omega)) fun hne => hne h.1.2
  · rw [if_neg hbefore, except_guard_eq_ok_iff]
    have hstart : 0 < start ∧ pattern[start - 1]? = some slash := by
      rw [not_or, not_not] at hbefore
      exact ⟨Nat.pos_of_ne_zero hbefore.1, hbefore.2⟩
    simp only [hstart, true_and, not_and_or, not_not, ne_eq]

theorem checkNoTrailingSlash_eq_ok_iff :
    checkNoTrailingSlash pattern = .ok () ↔ pattern.getLast? ≠ some slash := by
  rw [checkNoTrailingSlash, except_guard_eq_ok_iff]

theorem checkNoUnsupportedMetaChars_eq_ok_iff :
    checkNoUnsupportedMetaChars pattern = .ok () ↔
      ∀ c ∈ bytes "?[]\x7b\x7d\\", c ∉ pattern := by
  have hchars : bytes "?[]\x7b\x7d\\" = bytes "?[]\x7b\x7d" ++ [92] := by decide
  have hsplit : (∀ c ∈ bytes "?[]\x7b\x7d\\", c ∉ pattern) ↔
      (∀ c ∈ pattern, c ∉ bytes "?[]\x7b\x7d") ∧ 92 ∉ pattern := by
    rw [hchars]
    simp only [List.mem_append, List.mem_singleton, or_imp, forall_and, forall_eq]
    exact and_congr_left' ⟨fun h c hc hmem => h c hmem hc, fun h c hmem hc => h c hc hmem⟩
  rw [hsplit, checkNoUnsupportedMetaChars]
  cases hfind : pattern.find? fun c => (bytes "?[]\x7b\x7d").contains c with
  | some c =>
    have hc : c ∈ bytes "?[]\x7b\x7d" := List.contains_iff_mem.mp (List.find?_some hfind)
    exact iff_of_false (by simp) fun h => h.1 c (List.mem_of_find?_eq_some hfind) hc
  | none =>
    have hnone : ∀ c ∈ pattern, c ∉ bytes "?[]\x7b\x7d" := by
      intro c hc hmem
      exact List.find?_eq_none.mp hfind c hc (List.contains_iff_mem.mpr hmem)
    simp only [except_guard_eq_ok_iff, List.contains_iff_mem]
    exact (and_iff_right hnone).symm

/-- No component is empty but perhaps the last, and none is `.` or `..`. -/
theorem checkNoSpecialComponents_eq_ok_iff (hpath : path = [] ∨ path.head? = some slash) :
    checkNoSpecialComponents path = .ok () ↔
      [] ∉ (components path).dropLast ∧
        ∀ w ∈ components path, w ≠ bytes "." ∧ w ≠ bytes ".." := by
  have hempty : (findText [slash, slash] path).isSome = true ↔ [] ∈ (components path).dropLast := by
    rw [components, nil_mem_dropLast_pieces, ← exists_standsAt_iff, Option.isSome_iff_ne_none, ne_eq,
      findText_eq_none_iff]
    simp
  have hspecial : ((segments slash path).any fun component =>
      component == bytes "." || component == bytes "..") = true ↔
        ¬ ∀ w ∈ components path, w ≠ bytes "." ∧ w ≠ bytes ".." := by
    have hne : ∀ w, w = bytes "." ∨ w = bytes ".." → w ≠ [] := by
      intro w hw
      rcases hw with rfl | rfl <;> decide
    simp only [List.any_eq_true, mem_segments_iff slash hpath, Bool.or_eq_true, beq_iff_eq, components,
      not_forall, not_and_or, not_not, exists_prop]
    exact exists_congr fun w => ⟨fun h => ⟨h.1.1, h.2⟩, fun h => ⟨⟨h.1, hne w h.2⟩, h.2⟩⟩
  unfold checkNoSpecialComponents
  by_cases h : (findText [slash, slash] path).isSome = true
  · rw [if_pos h]
    exact iff_of_false (by simp) fun hno => hno.1 (hempty.mp h)
  · rw [if_neg h, except_guard_eq_ok_iff, hspecial, not_not]
    exact (and_iff_right (mt hempty.mpr h)).symm

/-- What stands before the `**` ends in a slash. -/
theorem checkPatternPrefix_eq_ok_iff {l : Bytes} (hpath : (l ++ [slash]).head? = some slash) :
    checkPatternPrefix (l ++ [slash]) = .ok () ↔
      star ∉ l ++ [slash] ∧ ∀ w ∈ (components (l ++ [slash])).dropLast, PlainName w := by
  have hlast : components (l ++ [slash]) = components l ++ [[]] := pieces_concat_sep slash l
  have hnil : ([] : Bytes) ≠ bytes "." ∧ ([] : Bytes) ≠ bytes ".." := by decide
  unfold checkPatternPrefix
  by_cases hstar : (l ++ [slash]).contains star = true
  · rw [if_pos hstar]
    exact iff_of_false (by simp) fun h => h.1 (List.contains_iff_mem.mp hstar)
  · rw [if_neg hstar, checkNoSpecialComponents_eq_ok_iff (Or.inr hpath), hlast, List.dropLast_concat,
      and_iff_right (mt List.contains_iff_mem.mpr hstar)]
    refine ⟨fun h w hw => ⟨fun hw0 => h.1 (hw0 ▸ hw), h.2 w (List.mem_append_left _ hw)⟩,
      fun h => ⟨fun hmem => (h [] hmem).1 rfl, fun w hw => ?_⟩⟩
    rcases List.mem_append.mp hw with hw | hw
    · exact (h w hw).2
    · exact List.mem_singleton.mp hw ▸ hnil

theorem checkNoSpecialComponents_eq_ok_iff_plain (hpath : path = [] ∨ path.head? = some slash)
    (hlast : path.getLast? ≠ some slash) :
    checkNoSpecialComponents path = .ok () ↔ ∀ w ∈ components path, PlainName w := by
  rw [checkNoSpecialComponents_eq_ok_iff hpath]
  refine ⟨fun h w hw => ⟨fun hw0 => ?_, h.2 w hw⟩,
    fun h => ⟨fun hmem => (h [] (List.mem_of_mem_dropLast hmem)).1 rfl, fun w hw => (h w hw).2⟩⟩
  -- an empty component is not the last one
  have hne := List.ne_nil_of_mem hw
  have hlast' : (components path).getLast hne ≠ [] := fun h0 =>
    getLast?_pieces_ne slash hpath hlast (h0 ▸ List.getLast?_eq_some_getLast hne)
  rw [hw0, ← List.dropLast_append_getLast hne, List.mem_append, List.mem_singleton] at hw
  exact hw.elim h.1 fun h0 => hlast' h0.symm

theorem checkPatternSuffix_eq_ok_iff {starLed : Bool}
    (hpath : suffix = [] ∨ suffix.head? = some slash) (hlast : suffix.getLast? ≠ some slash) :
    checkPatternSuffix suffix = .ok starLed ↔
      (starLed = false ∧ star ∉ suffix ∧ ∀ w ∈ components suffix, PlainName w) ∨
        (starLed = true ∧ suffix[1]? = some star ∧ slash ∉ suffix.drop 2 ∧ star ∉ suffix.drop 2) := by
  unfold checkPatternSuffix
  by_cases hnil : suffix = []
  · rw [if_pos hnil, hnil]
    simp [components, eq_comm]
  rw [if_neg hnil]
  by_cases hlead : suffix[1]? = some star
  · have hmem : star ∈ suffix := List.mem_of_getElem? hlead
    simp only [STAR_TAIL_LEAD_LEN, hlead, hmem, true_and, not_true_eq_false, false_and,
      and_false, false_or, List.contains_iff_mem]
    by_cases hslash : slash ∈ suffix.drop 2
    · simp [hslash]
    · by_cases hstar : star ∈ suffix.drop 2
      · simp [hslash, hstar]
      · simp [hslash, hstar, eq_comm]
  · simp only [STAR_TAIL_LEAD_LEN, hlead, false_and, and_false, or_false,
      List.contains_iff_mem]
    by_cases hstar : star ∈ suffix
    · simp [hstar]
    · have hplain := checkNoSpecialComponents_eq_ok_iff_plain hpath hlast
      simp only [hstar, if_false, not_false_eq_true, true_and, ← hplain]
      cases checkNoSpecialComponents suffix <;> simp [eq_comm]

/-- The parser is its checks. -/
theorem parseFilePattern_eq_ok_iff {parsed : FilePattern} :
    parseFilePattern pattern = .ok parsed ↔ ∃ start starLed,
      (checkPatternAbsolute pattern = .ok () ∧ findSingleGlobStar pattern = .ok start ∧
        checkGlobStarBoundaries pattern start = .ok () ∧ checkNoTrailingSlash pattern = .ok () ∧
        checkPatternSuffix (pattern.drop (start + 2)) = .ok starLed ∧
        checkNoUnsupportedMetaChars pattern = .ok () ∧
        checkPatternPrefix (pattern.take start) = .ok ()) ∧
      parsed = ⟨pattern.take start,
        if starLed then (pattern.drop (start + 2)).drop 2 else pattern.drop (start + 2)⟩ := by
  simp only [parseFilePattern, except_bind_eq_ok_iff, GLOB_STAR_LEN, STAR_TAIL_LEAD_LEN, pure,
    Except.pure, Except.ok.injEq]
  constructor
  · intro h
    obtain ⟨_, habs, start, hstart, _, hbounds, _, htrail, starLed, hsuffix, _, hmeta, _, hpfx, heq⟩ := h
    exact ⟨start, starLed, ⟨habs, hstart, hbounds, htrail, hsuffix, hmeta, hpfx⟩, heq.symm⟩
  · intro h
    obtain ⟨start, starLed, ⟨habs, hstart, hbounds, htrail, hsuffix, hmeta, hpfx⟩, heq⟩ := h
    exact ⟨(), habs, start, hstart, (), hbounds, (), htrail, starLed, hsuffix, (), hmeta, (), hpfx,
      heq.symm⟩

/-! ### The checks together -/

variable {start : Nat}

/-- With a slash or nothing after it a `**` is the only one if none stands before or after. -/
theorem single_globStar_iff
    (hafter : pattern.drop (start + 2) = [] ∨ (pattern.drop (start + 2)).head? = some slash) :
    (StandsAt globStar pattern start ∧ (∀ j < start, ¬ StandsAt globStar pattern j) ∧
        ∀ j, ¬ StandsAt globStar pattern (start + 2 + j)) ↔
      ∀ i, StandsAt globStar pattern i ↔ i = start := by
  have hnext : ¬ StandsAt globStar pattern (start + 1) := by
    intro h
    have hstar : (pattern.drop (start + 2)).head? = some star := by
      rw [List.head?_drop]
      exact (standsAt_globStar_iff.mp h).2
    rcases hafter with hnil | hslash
    · simp [hnil] at hstar
    · rw [hslash] at hstar
      exact absurd hstar (by decide)
  constructor
  · intro h i
    obtain ⟨hstart, hbefore, hlater⟩ := h
    refine ⟨fun hi => ?_, fun hi => hi ▸ hstart⟩
    rcases Nat.lt_trichotomy i start with hlt | heq | hgt
    · exact absurd hi (hbefore i hlt)
    · exact heq
    · obtain ⟨k, rfl⟩ := Nat.exists_eq_add_of_lt hgt
      cases k with
      | zero => exact absurd hi hnext
      | succ k => exact absurd hi (by rw [show start + (k + 1) + 1 = start + 2 + k by omega]; exact hlater k)
  · intro h
    exact ⟨(h start).mpr rfl, fun j hj hstand => absurd ((h j).mp hstand) (by omega),
      fun j hstand => absurd ((h _).mp hstand) (by omega)⟩

theorem take_eq_concat_slash (hbefore : 0 < start ∧ pattern[start - 1]? = some slash) :
    pattern.take start = pattern.take (start - 1) ++ [slash] := by
  obtain ⟨k, rfl⟩ := Nat.exists_eq_add_of_lt hbefore.1
  have hk : pattern[k]? = some slash := by simpa using hbefore.2
  simp [List.take_add_one, hk]

/-- A star of the pattern stands before the `**`, in it, or in the tail. -/
theorem star_cases (start : Nat) {i : Nat} (hi : pattern[i]? = some star) :
    star ∈ pattern.take start ∨ i = start ∨ i = start + 1 ∨
      ∃ k, i = start + 2 + k ∧ (pattern.drop (start + 2))[k]? = some star := by
  by_cases hlt : i < start
  · exact Or.inl (List.mem_of_getElem? ((List.getElem?_take_of_lt hlt).trans hi))
  by_cases hge : start + 2 ≤ i
  · obtain ⟨k, rfl⟩ := Nat.exists_eq_add_of_le hge
    exact Or.inr (Or.inr (Or.inr ⟨k, rfl, by rw [List.getElem?_drop]; exact hi⟩))
  · exact Or.inr (by omega)

/-- Which stars there are, said of the parts. -/
theorem otherStar_iff
    (hafter : pattern.drop (start + 2) = [] ∨ (pattern.drop (start + 2)).head? = some slash) :
    (∀ i, pattern[i]? = some star →
        i = start ∨ i = start + 1 ∨ (i = start + 3 ∧ slash ∉ pattern.drop (start + 4))) ↔
      star ∉ pattern.take start ∧
        (star ∉ pattern.drop (start + 2) ∨
          (pattern.drop (start + 2))[1]? = some star ∧ slash ∉ (pattern.drop (start + 2)).drop 2 ∧
            star ∉ (pattern.drop (start + 2)).drop 2) := by
  have hdrop : (pattern.drop (start + 2)).drop 2 = pattern.drop (start + 4) := by
    rw [List.drop_drop]
  have hzero : (pattern.drop (start + 2))[0]? ≠ some star := by
    rw [← List.head?_eq_getElem?]
    rcases hafter with hnil | hslash
    · simp [hnil]
    · rw [hslash]
      decide
  rw [hdrop]
  constructor
  · intro h
    refine ⟨fun hmem => ?_, ?_⟩
    · obtain ⟨i, hlt, hi⟩ := List.mem_iff_getElem.mp hmem
      rw [List.getElem_take] at hi
      have hlt' : i < start ∧ i < pattern.length := by
        rw [List.length_take] at hlt
        exact Nat.lt_min.mp hlt
      have := h i (List.getElem?_eq_some_iff.mpr ⟨hlt'.2, hi⟩)
      omega
    · by_cases hmem : star ∈ pattern.drop (start + 2)
      · obtain ⟨k, hk⟩ := List.mem_iff_getElem?.mp hmem
        have hk' : pattern[start + 2 + k]? = some star := by rw [← List.getElem?_drop]; exact hk
        have hcase := h _ hk'
        have hone : k = 1 ∧ slash ∉ pattern.drop (start + 4) := by
          rcases hcase with h1 | h1 | h1
          · omega
          · omega
          · exact ⟨by omega, h1.2⟩
        refine Or.inr ⟨hone.1 ▸ hk, hone.2, fun hlater => ?_⟩
        obtain ⟨m, hm⟩ := List.mem_iff_getElem?.mp hlater
        have hm' : pattern[start + 4 + m]? = some star := by rw [← List.getElem?_drop]; exact hm
        have := h _ hm'
        omega
      · exact Or.inl hmem
  · intro h i hi
    rcases star_cases start hi with hmem | heq | heq | ⟨k, heq, hk⟩
    · exact absurd hmem h.1
    · exact Or.inl heq
    · exact Or.inr (Or.inl heq)
    · have hled := h.2.resolve_left fun hno => hno (List.mem_of_getElem? hk)
      rcases k with _ | _ | k
      · exact absurd hk hzero
      · exact Or.inr (Or.inr ⟨by omega, hled.2.1⟩)
      · refine absurd (List.mem_of_getElem? (i := k) ?_) hled.2.2
        rw [List.getElem?_drop, show start + 4 + k = start + 2 + (k + 2) by omega, ← List.getElem?_drop]
        exact hk

theorem getLast?_drop_ne (h : pattern.getLast? ≠ some slash) (n : Nat) :
    (pattern.drop n).getLast? ≠ some slash := by
  rw [List.getLast?_drop]
  split
  · simp
  · exact h

/-- **The checks are the grammar.** -/
theorem checks_iff_legalPattern :
    (∃ starLed, checkPatternAbsolute pattern = .ok () ∧ findSingleGlobStar pattern = .ok start ∧
        checkGlobStarBoundaries pattern start = .ok () ∧ checkNoTrailingSlash pattern = .ok () ∧
        checkPatternSuffix (pattern.drop (start + 2)) = .ok starLed ∧
        checkNoUnsupportedMetaChars pattern = .ok () ∧
        checkPatternPrefix (pattern.take start) = .ok ()) ↔
      LegalPattern pattern start := by
  rw [checkPatternAbsolute_eq_ok_iff, findSingleGlobStar_eq_ok_iff, checkGlobStarBoundaries_eq_ok_iff,
    checkNoTrailingSlash_eq_ok_iff, checkNoUnsupportedMetaChars_eq_ok_iff]
  have hled : (pattern.drop (start + 2))[1]? = pattern[start + 3]? := by rw [List.getElem?_drop]
  constructor
  · intro h
    obtain ⟨starLed, habs, hsingle, ⟨hbefore, hafter⟩, htrail, hsuffix, hmeta, hpfx⟩ := h
    rw [checkPatternSuffix_eq_ok_iff hafter (getLast?_drop_ne htrail _), hled] at hsuffix
    have htake := take_eq_concat_slash hbefore
    have hhead : (pattern.take start).head? = some slash := by
      rw [List.head?_take, if_neg (by omega)]
      exact habs
    rw [htake] at hhead hpfx
    rw [checkPatternPrefix_eq_ok_iff hhead, ← htake] at hpfx
    refine ⟨habs, (single_globStar_iff hafter).mp hsingle, hbefore, hafter, htrail, hmeta,
      (otherStar_iff hafter).mpr ⟨hpfx.1, ?_⟩, hpfx.2, fun hno => ?_⟩
    · rw [hled]
      exact hsuffix.imp (fun h => h.2.1) fun h => h.2
    · exact (hsuffix.resolve_right fun h => hno h.2.1).2.2
  · intro h
    have htake := take_eq_concat_slash h.precededBySlash
    have hhead : (pattern.take start).head? = some slash := by
      rw [List.head?_take, if_neg (by have := h.precededBySlash.1; omega)]
      exact h.absolute
    obtain ⟨hpfx, hsuffix⟩ := (otherStar_iff h.followedBySlash).mp h.otherStar
    refine ⟨decide (pattern[start + 3]? = some star), h.absolute,
      (single_globStar_iff h.followedBySlash).mpr h.single, ⟨h.precededBySlash, h.followedBySlash⟩,
      h.noTrailingSlash, ?_, h.noMetaChars, ?_⟩
    · rw [checkPatternSuffix_eq_ok_iff h.followedBySlash (getLast?_drop_ne h.noTrailingSlash _), hled]
      rw [hled] at hsuffix
      by_cases hstar : pattern[start + 3]? = some star
      · have hmem : star ∈ pattern.drop (start + 2) := List.mem_of_getElem? (hled.trans hstar)
        exact Or.inr ⟨decide_eq_true hstar, hsuffix.resolve_left fun hno => hno hmem⟩
      · exact Or.inl ⟨decide_eq_false hstar, hsuffix.resolve_right fun hyes => hstar hyes.1,
          h.plainTail hstar⟩
    · have hplain := h.plainPrefix
      rw [htake] at hhead hpfx hplain ⊢
      exact (checkPatternPrefix_eq_ok_iff hhead).mpr ⟨hpfx, hplain⟩

/-! ### Recovering the pattern -/

theorem eq_take_globStar_drop (hstand : StandsAt globStar pattern start) :
    pattern = pattern.take start ++ globStar ++ pattern.drop (start + 2) := by
  obtain ⟨rest, hrest⟩ := hstand
  have hdrop : pattern.drop (start + 2) = rest := by
    rw [← List.drop_drop, ← hrest]
    rfl
  rw [hdrop, List.append_assoc, hrest, List.take_append_drop]

/-- A pattern is read back from its result, but for a bare star. -/
theorem eq_patternOf {parsed : FilePattern} (h : parseFilePattern pattern = .ok parsed) :
    pattern = patternOf parsed ∨ parsed.suffix = [] ∧ pattern = patternOf parsed ++ bareStar := by
  obtain ⟨start, starLed, hchecks, rfl⟩ := parseFilePattern_eq_ok_iff.mp h
  have hlegal := checks_iff_legalPattern.mp ⟨starLed, hchecks⟩
  have hpattern := eq_take_globStar_drop ((hlegal.single start).mpr rfl)
  have hsuffix := hchecks.2.2.2.2.1
  rw [checkPatternSuffix_eq_ok_iff hlegal.followedBySlash
    (getLast?_drop_ne hlegal.noTrailingSlash _)] at hsuffix
  rcases hsuffix with ⟨rfl, -, -⟩ | ⟨rfl, hstar, hslash, -⟩
  · refine Or.inl ?_
    simp only [patternOf, Bool.false_eq_true, if_false, if_pos hlegal.followedBySlash]
    exact hpattern
  · -- the tail is a slash, a star and a literal
    have htail : pattern.drop (start + 2) = bareStar ++ (pattern.drop (start + 2)).drop 2 := by
      have hslash' := hlegal.followedBySlash
      rcases htail : pattern.drop (start + 2) with _ | ⟨a, _ | ⟨b, literal⟩⟩
      · simp [htail] at hstar
      · simp [htail] at hstar
      · rw [htail] at hslash' hstar
        have ha : a = slash := by simpa using hslash'
        have hb : b = star := by simpa using hstar
        rw [ha, hb]
        rfl
    by_cases hnil : (pattern.drop (start + 2)).drop 2 = []
    · refine Or.inr ⟨hnil, ?_⟩
      rw [hnil, List.append_nil] at htail
      simp only [patternOf, if_true, hnil, true_or, List.append_nil]
      rw [← htail]
      exact hpattern
    · have hhead : ((pattern.drop (start + 2)).drop 2).head? ≠ some slash := fun h0 =>
        hslash (List.mem_of_head? h0)
      refine Or.inl ?_
      simp only [patternOf, if_true, hnil, hhead, or_self, if_false]
      conv_lhs => rw [hpattern, htail]
      rfl

/-- Two patterns with one result differ at most by a bare star. -/
theorem eq_or_bareStar {other : Bytes} {parsed : FilePattern}
    (h : parseFilePattern pattern = .ok parsed) (hother : parseFilePattern other = .ok parsed) :
    pattern = other ∨ ∃ p, (pattern = p ++ globStar ∧ other = p ++ globStar ++ bareStar) ∨
      (other = p ++ globStar ∧ pattern = p ++ globStar ++ bareStar) := by
  have hbare : parsed.suffix = [] → patternOf parsed = parsed.pfx ++ globStar := by
    intro hnil
    simp [patternOf, hnil]
  rcases eq_patternOf h with heq | ⟨hnil, heq⟩
  · rcases eq_patternOf hother with heq' | ⟨hnil, heq'⟩
    · exact Or.inl (heq.trans heq'.symm)
    · rw [hbare hnil] at heq heq'
      exact Or.inr ⟨parsed.pfx, Or.inl ⟨heq, heq'⟩⟩
  · rcases eq_patternOf hother with heq' | ⟨-, heq'⟩
    · rw [hbare hnil] at heq heq'
      exact Or.inr ⟨parsed.pfx, Or.inr ⟨heq', heq⟩⟩
    · exact Or.inl (heq.trans heq'.symm)

/-- **The parser accepts exactly the grammar.** Refusing leaves the output alone, and what is
accepted can be read back up to a bare star. -/
theorem parseFilePattern_grammar (pattern : Bytes) (out : FilePattern) :
    ((parseFilePatternInto pattern out).1 = .ok () ↔ ∃ start, LegalPattern pattern start) ∧
      ((parseFilePatternInto pattern out).1 ≠ .ok () →
        (parseFilePatternInto pattern out).2 = out) ∧
      (∀ parsed, parseFilePattern pattern = .ok parsed →
        (pattern = patternOf parsed ∨
          parsed.suffix = [] ∧ pattern = patternOf parsed ++ bareStar) ∧
        ∀ other, parseFilePattern other = .ok parsed →
          pattern = other ∨ ∃ p, (pattern = p ++ globStar ∧ other = p ++ globStar ++ bareStar) ∨
            (other = p ++ globStar ∧ pattern = p ++ globStar ++ bareStar)) := by
  have hlegal : (∃ parsed, parseFilePattern pattern = .ok parsed) ↔
      ∃ start, LegalPattern pattern start := by
    simp only [parseFilePattern_eq_ok_iff, ← checks_iff_legalPattern]
    exact ⟨fun h => by
        obtain ⟨_, start, starLed, hchecks, -⟩ := h
        exact ⟨start, starLed, hchecks⟩,
      fun h => by
        obtain ⟨start, starLed, hchecks⟩ := h
        exact ⟨_, start, starLed, hchecks, rfl⟩⟩
  refine ⟨?_, ?_, fun parsed h => ⟨eq_patternOf h, fun other hother => eq_or_bareStar h hother⟩⟩
  · rw [← hlegal, parseFilePatternInto]
    cases parseFilePattern pattern <;> simp
  · rw [parseFilePatternInto]
    cases parseFilePattern pattern <;> simp

example : parseFilePattern (bytes "/data/**/*.jpg") = .ok ⟨bytes "/data/", bytes ".jpg"⟩ := by decide

end

end SandboxManager.Claw
