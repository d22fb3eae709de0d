import Mathlib.Data.List.Basic

/-! First match with resets.

A scan passes a list of levels. A level may carry a rule with a verdict, and may
reset the scan; the first rule met decides and later ones are ignored, until a
reset forgets the decision. So what decides is the first rule at or after the
last reset (`scan_from`): resets pick the level the list is read from
(`LastReset`), and from there only the first rule counts. -/
namespace Library.FirstMatch

variable {κ : Type*}

structure Level where
  reset : Bool
  rule : Option Bool

/-- The status after a level; `none` is undecided. -/
def step (status : Option Bool) (l : Level) : Option Bool :=
  (if l.reset then none else status).or l.rule

def scan (status : Option Bool) (ls : List Level) : Option Bool := ls.foldl step status

/-- The verdict of the first rule. -/
def first (ls : List Level) : Option Bool := ls.findSome? Level.rule

@[simp] theorem scan_nil (status : Option Bool) : scan status [] = status := rfl

theorem scan_cons (status : Option Bool) (l : Level) (ls : List Level) :
    scan status (l :: ls) = scan (step status l) ls := rfl

theorem scan_append (status : Option Bool) (a b : List Level) :
    scan status (a ++ b) = scan (scan status a) b := List.foldl_append

/-- Once decided, levels that do not reset change nothing. -/
theorem scan_decided (b : Bool) (ls : List Level) (h : ∀ l ∈ ls, l.reset = false) :
    scan (some b) ls = some b := by
  induction ls with
  | nil => rfl
  | cons l rest ih =>
    have hl := h l (List.mem_cons_self ..)
    have hrest := ih fun m hm => h m (List.mem_cons_of_mem l hm)
    simp only [scan_cons, step, hl, Bool.false_eq_true, if_false, Option.some_or, hrest]

/-- Undecided, and without resets ahead, the first rule decides. -/
theorem scan_none (ls : List Level) (h : ∀ l ∈ ls.tail, l.reset = false) :
    scan none ls = first ls := by
  induction ls with
  | nil => rfl
  | cons l rest ih =>
    have hstep : step none l = l.rule := by simp [step]
    rw [scan_cons, hstep]
    cases hr : l.rule with
    | none =>
      rw [ih fun m hm => h m (List.mem_of_mem_tail hm)]
      simp [first, hr]
    | some b =>
      rw [scan_decided b rest h]
      simp [first, hr]

/-- `d` is where the last reset stands, or the beginning when nothing after it resets. -/
structure LastReset (d : Nat) (ls : List Level) : Prop where
  here : d = 0 ∨ ∃ l, ls[d]? = some l ∧ l.reset = true
  after : ∀ j l, d < j → ls[j]? = some l → l.reset = false

/-- **What decides is the first rule from the last reset on.** -/
theorem scan_from {d : Nat} {ls : List Level} (h : LastReset d ls) :
    scan none ls = first (ls.drop d) := by
  have htail : ∀ l ∈ (ls.drop d).tail, l.reset = false := by
    intro l hl
    obtain ⟨i, hi⟩ := List.mem_iff_getElem?.mp hl
    rw [List.tail_drop, List.getElem?_drop] at hi
    exact h.after (d + 1 + i) l (by omega) hi
  rcases h.here with rfl | ⟨l, hl, hreset⟩
  · exact scan_none _ htail
  · obtain ⟨hlt, hget⟩ := List.getElem?_eq_some_iff.mp hl
    have hdrop : ls.drop d = l :: ls.drop (d + 1) := by
      rw [List.drop_eq_getElem_cons hlt, hget]
    have hsame : ∀ status, scan status (ls.drop d) = scan none (ls.drop d) := by
      intro status
      rw [hdrop, scan_cons, scan_cons]
      congr 1
      simp [step, hreset]
    calc scan none ls = scan (scan none (ls.take d)) (ls.drop d) := by
          rw [← scan_append, List.take_append_drop]
      _ = scan none (ls.drop d) := hsame _
      _ = first (ls.drop d) := scan_none _ htail

/-! ### Levels of a path

The levels met along a path are those of its non-empty prefixes. -/

/-- Level `i` belongs to the prefix of length `i + 1`. -/
def levels (level : List κ → Level) : List κ → List Level
  | [] => []
  | k :: a => level [k] :: levels (fun b => level (k :: b)) a

@[simp] theorem length_levels (level : List κ → Level) (a : List κ) :
    (levels level a).length = a.length := by
  induction a generalizing level with
  | nil => rfl
  | cons k a ih => simp [levels, ih]

theorem levels_getElem? (level : List κ → Level) (a : List κ) {i : Nat} (h : i < a.length) :
    (levels level a)[i]? = some (level (a.take (i + 1))) := by
  induction a generalizing level i with
  | nil => simp at h
  | cons k a ih =>
    cases i with
    | zero => rfl
    | succ i => exact ih (fun b => level (k :: b)) (Nat.lt_of_succ_lt_succ h)

/-- Levels without rules or resets leave any status alone. -/
theorem scan_levels_idle (level : List κ → Level) (h : ∀ a, level a = ⟨false, none⟩)
    (status : Option Bool) (a : List κ) : scan status (levels level a) = status := by
  induction a generalizing level status with
  | nil => rfl
  | cons k a ih =>
    rw [levels, scan_cons, ih (fun b => level (k :: b)) (fun b => h (k :: b)), h]
    simp [step]

/-- The first rule from `d` on stands at the shortest prefix longer than `d` that has one. -/
theorem first_levels_iff (level : List κ → Level) (a : List κ) (d : Nat) (b : Bool) :
    first ((levels level a).drop d) = some b ↔
      ∃ k, d < k ∧ k ≤ a.length ∧ (level (a.take k)).rule = some b ∧
        ∀ j, d < j → j < k → (level (a.take j)).rule = none := by
  have hget : ∀ i, d + i < a.length →
      ((levels level a).drop d)[i]? = some (level (a.take (d + i + 1))) := by
    intro i hi
    rw [List.getElem?_drop, levels_getElem? level a hi]
  constructor
  · intro h
    obtain ⟨l₁, l, l₂, heq, hrule, hbefore⟩ := List.findSome?_eq_some_iff.mp h
    have hlen := congrArg List.length heq
    simp only [List.length_drop, length_levels, List.length_append, List.length_cons] at hlen
    have hl : ((levels level a).drop d)[l₁.length]? = some l := by rw [heq]; simp
    have hlevel := hget l₁.length (by omega)
    rw [hl, Option.some.injEq] at hlevel
    refine ⟨d + l₁.length + 1, by omega, by omega, hlevel ▸ hrule, fun j hj hjk => ?_⟩
    obtain ⟨i, rfl⟩ : ∃ i, j = d + i + 1 := ⟨j - d - 1, by omega⟩
    have hi : i < l₁.length := by omega
    have hbelow := hget i (by omega)
    rw [heq, List.getElem?_append_left hi] at hbelow
    exact hbefore _ (List.mem_of_getElem? hbelow)
  · rintro ⟨k, hdk, hk, hrule, hbefore⟩
    obtain ⟨i, rfl⟩ : ∃ i, k = d + i + 1 := ⟨k - d - 1, by omega⟩
    have hi := hget i (by omega)
    obtain ⟨hlt, hgeti⟩ := List.getElem?_eq_some_iff.mp hi
    refine List.findSome?_eq_some_iff.mpr ⟨((levels level a).drop d).take i, level (a.take (d + i + 1)),
      ((levels level a).drop d).drop (i + 1), ?_, hrule, ?_⟩
    · rw [← hgeti, ← List.drop_eq_getElem_cons hlt, List.take_append_drop]
    · intro l hl
      obtain ⟨n, hn, hln⟩ := List.mem_take_iff_getElem.mp hl
      have hnlt : d + n < a.length := by
        simp only [List.length_drop, length_levels] at hn
        omega
      have hn' := hget n hnlt
      rw [List.getElem?_eq_getElem (by simp only [List.length_drop, length_levels]; omega),
        Option.some.injEq, hln] at hn'
      rw [hn']
      exact hbefore (d + n + 1) (by omega) (by omega)

end Library.FirstMatch
