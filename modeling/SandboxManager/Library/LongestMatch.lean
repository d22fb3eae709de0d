import Mathlib.Data.List.Infix

/-! Longest match.

Entries of a table are found by a key, a list; an entry applies to every list that its key
is a prefix of. Among the entries that apply, the one with the longest key decides, and of
several with that key the one last put in (`longest`). Putting entries in can then only
matter where they are put: whether a property of the deciding entry survives everywhere is
settled at the keys of the new entries (`survives_iff`). -/
namespace Library.LongestMatch

variable {κ ε : Type*} [DecidableEq κ] (key : ε → List κ)

/-- The newer of two entries, unless the key of the older one is longer. -/
def longer : Option ε → Option ε → Option ε
  | some old, some new => if (key new).length < (key old).length then some old else some new
  | some old, none => some old
  | none, newer => newer

/-- The deciding entry of a table in the order in which it was filled. -/
def longest (p : List κ) : List ε → Option ε
  | [] => none
  | e :: rest => longer key (if key e <+: p then some e else none) (longest p rest)

/-- What applies before the deciding entry has no longer key, what applies after it a shorter one. -/
structure Splits (p : List κ) (before : List ε) (e : ε) (after : List ε) : Prop where
  applies : key e <+: p
  before : ∀ e' ∈ before, key e' <+: p → (key e').length ≤ (key e).length
  after : ∀ e' ∈ after, key e' <+: p → (key e').length < (key e).length

variable {key} {p q : List κ} {table new : List ε} {e : ε}

omit [DecidableEq κ] in
@[simp] theorem longer_none (older : Option ε) : longer key older none = older := by
  cases older <;> rfl

omit [DecidableEq κ] in
@[simp] theorem none_longer (newer : Option ε) : longer key none newer = newer := by
  cases newer <;> rfl

omit [DecidableEq κ] in
theorem longer_some (old new : ε) : longer key (some old) (some new) =
    if (key new).length < (key old).length then some old else some new := rfl

omit [DecidableEq κ] in
theorem longer_eq_none_iff {older newer : Option ε} :
    longer key older newer = none ↔ older = none ∧ newer = none := by
  cases older with
  | none => simp
  | some old =>
    cases newer with
    | none => simp
    | some new =>
      rw [longer_some]
      split <;> simp

omit [DecidableEq κ] in
theorem longer_assoc (a b c : Option ε) :
    longer key (longer key a b) c = longer key a (longer key b c) := by
  cases a with
  | none => simp
  | some a =>
    cases b with
    | none => simp
    | some b =>
      cases c with
      | none => simp
      | some c =>
        simp only [longer_some]
        grind [longer_some]

theorem longest_eq_none_iff : longest key p table = none ↔ ∀ e ∈ table, ¬ key e <+: p := by
  induction table with
  | nil => simp [longest]
  | cons e rest ih =>
    rw [longest, longer_eq_none_iff, ih]
    simp

theorem applies_of_longest (h : longest key p table = some e) : e ∈ table ∧ key e <+: p := by
  induction table with
  | nil => simp [longest] at h
  | cons first rest ih =>
    have hrest : longest key p rest = some e → e ∈ first :: rest ∧ key e <+: p := fun h =>
      ⟨List.mem_cons_of_mem _ (ih h).1, (ih h).2⟩
    rw [longest] at h
    by_cases happ : key first <+: p
    · rw [if_pos happ] at h
      cases hbest : longest key p rest with
      | none =>
        rw [hbest, longer_none, Option.some.injEq] at h
        exact h ▸ ⟨List.mem_cons_self .., happ⟩
      | some best =>
        rw [hbest, longer_some] at h
        split at h
        · rw [Option.some.injEq] at h
          exact h ▸ ⟨List.mem_cons_self .., happ⟩
        · exact hrest (hbest.trans h)
    · rw [if_neg happ, none_longer] at h
      exact hrest h

/-- The later part of a table decides unless the earlier one has a longer key. -/
theorem longest_append :
    longest key p (table ++ new) = longer key (longest key p table) (longest key p new) := by
  induction table with
  | nil => simp [longest]
  | cons e rest ih => rw [List.cons_append, longest, longest, ih, longer_assoc]

theorem Splits.longest_eq {before after : List ε} (h : Splits key p before e after) :
    longest key p (before ++ e :: after) = some e := by
  have hafter : longer key (some e) (longest key p after) = some e := by
    cases hn : longest key p after with
    | none => rfl
    | some n =>
      obtain ⟨hmem, happ⟩ := applies_of_longest hn
      rw [longer_some, if_pos (h.after n hmem happ)]
  rw [longest_append, longest, if_pos h.applies, hafter]
  cases hb : longest key p before with
  | none => rfl
  | some b =>
    obtain ⟨hmem, happ⟩ := applies_of_longest hb
    rw [longer_some, if_neg (Nat.not_lt_of_le (h.before b hmem happ))]

theorem splits_of_longest (h : longest key p table = some e) :
    ∃ before after, table = before ++ e :: after ∧ Splits key p before e after := by
  induction table generalizing e with
  | nil => simp [longest] at h
  | cons first rest ih =>
    have hlater : ∀ best, longest key p rest = some best →
        (key first <+: p → (key first).length ≤ (key best).length) →
        ∃ before after, first :: rest = before ++ best :: after ∧
          Splits key p before best after := by
      intro best hbest hfirst
      obtain ⟨before, after, rfl, happ, hbefore, hafter⟩ := ih hbest
      exact ⟨first :: before, after, rfl, happ, List.forall_mem_cons.mpr ⟨hfirst, hbefore⟩, hafter⟩
    have hhere : key first <+: p → (∀ e' ∈ rest, key e' <+: p → (key e').length < (key first).length) →
        ∃ before after, first :: rest = before ++ first :: after ∧
          Splits key p before first after :=
      fun happ hafter => ⟨[], rest, rfl, happ, fun _ he' => absurd he' List.not_mem_nil, hafter⟩
    rw [longest] at h
    by_cases happ : key first <+: p
    · rw [if_pos happ] at h
      cases hrest : longest key p rest with
      | none =>
        rw [hrest, longer_none, Option.some.injEq] at h
        have hnone := longest_eq_none_iff.mp hrest
        exact h ▸ hhere happ fun e' he' happ' => absurd happ' (hnone e' he')
      | some best =>
        rw [hrest, longer_some] at h
        by_cases hlt : (key best).length < (key first).length
        · rw [if_pos hlt, Option.some.injEq] at h
          obtain ⟨before, after, rfl, _, hbefore, hafter⟩ := ih hrest
          refine h ▸ hhere happ fun e' he' happ' => ?_
          rcases List.mem_append.mp he' with he' | he'
          · exact Nat.lt_of_le_of_lt (hbefore e' he' happ') hlt
          · rcases List.mem_cons.mp he' with rfl | he'
            · exact hlt
            · exact Nat.lt_trans (hafter e' he' happ') hlt
        · rw [if_neg hlt, Option.some.injEq] at h
          exact hlater e (h ▸ hrest) fun _ => h ▸ Nat.le_of_not_lt hlt
    · rw [if_neg happ, none_longer] at h
      exact hlater e h fun happ' => absurd happ' happ

/-- No entry that applies has a longer key than the deciding one. -/
theorem length_le_of_longest (h : longest key p table = some e) {e' : ε} (he' : e' ∈ table)
    (happ : key e' <+: p) : (key e').length ≤ (key e).length := by
  obtain ⟨before, after, rfl, hsplits⟩ := splits_of_longest h
  rcases List.mem_append.mp he' with he' | he'
  · exact hsplits.before e' he' happ
  · rcases List.mem_cons.mp he' with rfl | he'
    · exact Nat.le_refl _
    · exact Nat.le_of_lt (hsplits.after e' he' happ)

/-- Some entry decides where one applies, with a key at least as long. -/
theorem exists_longest (he : e ∈ table) (happ : key e <+: p) :
    ∃ best, longest key p table = some best ∧ (key e).length ≤ (key best).length := by
  cases h : longest key p table with
  | none => exact absurd happ (longest_eq_none_iff.mp h e he)
  | some best => exact ⟨best, rfl, length_le_of_longest h he happ⟩

/-- Any entry is met first in some order. -/
theorem exists_perm_find? {q : ε → Bool} (he : e ∈ table) (hq : q e = true) :
    ∃ order : List ε, order.Perm table ∧ order.find? q = some e := by
  obtain ⟨before, after, rfl⟩ := List.append_of_mem he
  exact ⟨e :: (before ++ after), List.perm_middle.symm, List.find?_cons_of_pos hq⟩

/-- Where the entries that apply say the same, the one met first says what the longest says. -/
theorem map_find?_eq_longest {ν : Type*} {value : ε → ν}
    (h : ∀ e ∈ table, ∀ e' ∈ table, key e <+: p → key e' <+: p → value e = value e')
    {order : List ε} (horder : order.Perm table) :
    (order.find? fun e => decide (key e <+: p)).map value = (longest key p table).map value := by
  cases hfound : order.find? fun e => decide (key e <+: p) with
  | none =>
    have hnone : longest key p table = none := by
      rw [longest_eq_none_iff]
      intro e he happ
      have hnot := List.find?_eq_none.mp hfound e (horder.mem_iff.mpr he)
      exact hnot (decide_eq_true happ)
    rw [hnone, Option.map_none]
  | some first =>
    have happ : key first <+: p := by simpa using List.find?_some hfound
    have hmem : first ∈ table := horder.mem_iff.mp (List.mem_of_find?_eq_some hfound)
    obtain ⟨best, hbest, -⟩ := exists_longest hmem happ
    obtain ⟨hbestmem, hbestapp⟩ := applies_of_longest hbest
    rw [hbest, Option.map_some, Option.map_some, h first hmem best hbestmem happ hbestapp]

/-- Only the entries that apply are looked at. -/
theorem longest_congr (h : ∀ e ∈ table, key e <+: p ↔ key e <+: q) :
    longest key p table = longest key q table := by
  induction table with
  | nil => rfl
  | cons e rest ih =>
    have hrest := ih fun e' he' => h e' (List.mem_cons_of_mem _ he')
    have he := h e (List.mem_cons_self ..)
    simp only [longest, hrest, he]

/-- The entry that decides for a list decides for all between its key and the list. -/
theorem longest_between (h : longest key p table = some e) (hq : key e <+: q) (hqp : q <+: p) :
    longest key q table = some e := by
  obtain ⟨_, happ⟩ := applies_of_longest h
  rw [← h]
  refine (longest_congr fun e' he' => ⟨fun happ' => ?_, fun hapq => hapq.trans hqp⟩).symm
  have hle := length_le_of_longest h he' happ'
  exact (List.prefix_of_prefix_length_le happ' happ hle).trans hq

theorem longest_key (h : longest key p table = some e) : longest key (key e) table = some e :=
  longest_between h (List.prefix_refl _) (applies_of_longest h).2

/-- Where an entry's own key is looked up, what came before that entry no longer decides. -/
theorem longest_append_of_key (he : e ∈ new) (table : List ε) :
    longest key (key e) (table ++ new) = longest key (key e) new := by
  obtain ⟨best, hbest, hle⟩ := exists_longest he (List.prefix_refl (key e))
  rw [longest_append, hbest]
  cases ht : longest key (key e) table with
  | none => rfl
  | some t =>
    have hshort := (applies_of_longest ht).2.length_le
    rw [longer_some, if_neg (by omega)]

/-- A deciding entry goes on deciding when others are taken out. -/
theorem longest_filter {keep : ε → Bool} (h : longest key p table = some e)
    (he : keep e = true) : longest key p (table.filter keep) = some e := by
  obtain ⟨before, after, rfl, happ, hbefore, hafter⟩ := splits_of_longest h
  rw [List.filter_append, List.filter_cons_of_pos he]
  apply Splits.longest_eq
  exact ⟨happ, fun e' he' => hbefore e' (List.mem_of_mem_filter he'),
    fun e' he' => hafter e' (List.mem_of_mem_filter he')⟩

/-- Replacing the last entry with a key by another with that key decides as adding that one. -/
theorem longest_replace {before after : List ε} {e' : ε} (hkey : key e' = key e)
    (hlast : ∀ x ∈ after, key x ≠ key e) (p : List κ) :
    longest key p (before ++ e' :: after) = longest key p (before ++ e :: after ++ [e']) := by
  simp only [longest_append, longest, longer_none, hkey]
  by_cases happ : key e <+: p
  · rw [if_pos happ, if_pos happ]
    have hlen : (key e').length = (key e).length := congrArg List.length hkey
    have hne : ∀ a, longest key p after = some a → (key a).length ≠ (key e).length := by
      intro a ha heq
      obtain ⟨hmem, happa⟩ := applies_of_longest ha
      have hpre := List.prefix_of_prefix_length_le happa happ (Nat.le_of_eq heq)
      exact hlast a hmem (hpre.eq_of_length heq)
    cases ha : longest key p after with
    | none =>
      cases longest key p before with
      | none => simp [longer_some, hlen]
      | some b =>
        simp only [longer_none, longer_some, hlen]
        grind [longer_some]
    | some a =>
      have := hne a ha
      cases longest key p before with
      | none =>
        simp only [none_longer, longer_some, hlen]
        grind [longer_some]
      | some b =>
        simp only [longer_some, hlen]
        grind [longer_some]
  · rw [if_neg happ, if_neg happ, none_longer, longer_none]

/-- Entries whose keys have another prefix put in front of them decide as they did before. -/
theorem longest_map {move : ε → ε} {a b : List κ} (rest : List κ)
    (h : ∀ e ∈ table, ∃ k, key e = a ++ k ∧ key (move e) = b ++ k) :
    longest key (b ++ rest) (table.map move) = (longest key (a ++ rest) table).map move := by
  induction table with
  | nil => rfl
  | cons e tail ih =>
    have htail := ih fun e' he' => h e' (List.mem_cons_of_mem _ he')
    obtain ⟨k, hk, hmove⟩ := h e (List.mem_cons_self ..)
    have happ : key (move e) <+: b ++ rest ↔ key e <+: a ++ rest := by
      rw [hk, hmove, List.prefix_append_right_inj, List.prefix_append_right_inj]
    rw [List.map_cons, longest, longest, htail]
    by_cases he : key e <+: a ++ rest
    · rw [if_pos he, if_pos (happ.mpr he)]
      cases hbest : longest key (a ++ rest) tail with
      | none => rfl
      | some best =>
        obtain ⟨k', hk', hmove'⟩ := h best
          (List.mem_cons_of_mem _ (applies_of_longest hbest).1)
        have hlen : (key (move best)).length < (key (move e)).length ↔
            (key best).length < (key e).length := by
          simp only [hk, hmove, hk', hmove', List.length_append]
          omega
        rw [Option.map_some, longer_some, longer_some]
        by_cases hlt : (key best).length < (key e).length
        · rw [if_pos hlt, if_pos (hlen.mpr hlt), Option.map_some]
        · rw [if_neg hlt, if_neg (hlen.not.mpr hlt), Option.map_some]
    · rw [if_neg he, if_neg (happ.not.mpr he), none_longer, none_longer]

/-- The deciding entry of an entry's key has that key. -/
theorem key_eq_of_longest {f : ε} (hf : f ∈ table) (h : longest key (key f) table = some e) :
    key e = key f := by
  have hle := length_le_of_longest h hf (List.prefix_refl _)
  exact (applies_of_longest h).2.eq_of_length_le hle

/-- **On the way to an entry, only places that hold an entry themselves are decided by one with
a given property, as soon as that is so directly above each entry.** -/
theorem occupied_iff {P : ε → Prop} :
    (∀ p f e, f ∈ table → p <+: key f → longest key p table = some e → P e → key e = p) ↔
      ∀ f ∈ table, ∀ e, longest key (key f).dropLast table = some e → P e →
        key e = (key f).dropLast := by
  refine ⟨fun h f hf e => h _ f e hf (List.dropLast_prefix _), fun h p f e hf hp he hPe => ?_⟩
  induction hn : (key f).length using Nat.strong_induction_on generalizing f with
  | h n ih =>
    by_cases heq : p = key f
    · subst heq
      exact key_eq_of_longest hf he
    · have hlt : p.length < (key f).length :=
        Nat.lt_of_le_of_ne hp.length_le fun hlen => heq (hp.eq_of_length hlen)
      have hdrop : p <+: (key f).dropLast :=
        List.prefix_of_prefix_length_le hp (List.dropLast_prefix _) (by
          rw [List.length_dropLast]
          omega)
      obtain ⟨hmem, happ⟩ := applies_of_longest he
      obtain ⟨above, habove, -⟩ := exists_longest hmem (happ.trans hdrop)
      obtain ⟨hmem', happ'⟩ := applies_of_longest habove
      rcases Nat.le_total (key above).length p.length with hle | hle
      · -- nothing stands between the place and the entry below it
        have hshort := List.prefix_of_prefix_length_le happ' hdrop hle
        rw [longest_between habove hshort hdrop, Option.some.injEq] at he
        subst he
        have hkey := h f hf above habove hPe
        exact (hkey ▸ hdrop).eq_of_length_le hshort.length_le |>.symm
      · have hlen := happ'.length_le
        rw [List.length_dropLast] at hlen
        exact ih _ (by omega) above hmem'
          (List.prefix_of_prefix_length_le hdrop happ' hle) rfl

/-! ### What survives -/

variable (key) in
/-- The deciding entry exists and has the property. -/
def Holds (P : ε → Prop) (table : List ε) (p : List κ) : Prop :=
  ∃ e, longest key p table = some e ∧ P e

/-- **Below an entry's key, a property survives new entries everywhere as soon as it survives at
the keys of the new entries.** -/
theorem survives_iff {P : ε → Prop} {root : List κ} (hroot : ∃ e ∈ table, key e = root) :
    (∀ p, root <+: p → Holds key P table p → Holds key P (table ++ new) p) ↔
      ∀ n ∈ new, root <+: key n → Holds key P table (key n) → Holds key P (table ++ new) (key n) := by
  refine ⟨fun h n _ => h (key n), fun h p hp hold => ?_⟩
  obtain ⟨t, ht, hPt⟩ := hold
  obtain ⟨hmemt, happt⟩ := applies_of_longest ht
  obtain ⟨e, he, _⟩ := exists_longest (List.mem_append_left new hmemt) happt
  refine ⟨e, he, ?_⟩
  have hlonger : longest key p (table ++ new) = _ := longest_append
  rw [ht, he] at hlonger
  cases hn : longest key p new with
  | none =>
    rw [hn, longer_none, Option.some.injEq] at hlonger
    exact hlonger ▸ hPt
  | some n =>
    rw [hn, longer_some] at hlonger
    by_cases hlt : (key n).length < (key t).length
    · rw [if_pos hlt, Option.some.injEq] at hlonger
      exact hlonger ▸ hPt
    · rw [if_neg hlt, Option.some.injEq] at hlonger
      subst hlonger
      -- the new entry takes over from `t`, so its key lies between the key of `t` and the list
      obtain ⟨hmem, happ⟩ := applies_of_longest hn
      have hbetween : key t <+: key e :=
        List.prefix_of_prefix_length_le happt happ (Nat.le_of_not_lt hlt)
      have hbelow : root <+: key e := by
        obtain ⟨r, hr, rfl⟩ := hroot
        have hle := length_le_of_longest ht hr hp
        exact (List.prefix_of_prefix_length_le hp happt hle).trans hbetween
      obtain ⟨e', he', hPe'⟩ := h e hmem hbelow ⟨t, longest_between ht hbetween happ, hPt⟩
      rw [longest_key he, Option.some.injEq] at he'
      exact he' ▸ hPe'

end Library.LongestMatch
