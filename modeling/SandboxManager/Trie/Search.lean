import SandboxManager.Trie.Verdict

/-! What `FindMatchingPaths` finds.

The stack loop reports the marked ends of all the ways the query can be walked
(`findMatchingPaths_eq`); in a trie filled by `InsertPreservingCase` these ends
are the stored spellings that agree with the query wherever the directory, as
spelled in the stored path, is case-sensitive (`mem_findMatchingPaths`). The
folded trie compares in the directories of the canonical spelling instead. The
two readings of a directory's case setting are what the search gets right or
wrong (`findMatchingPaths_exact_iff`). -/
namespace SandboxManager.Trie
open Library KeyTree

/-! ### The loop and the ways of walking -/

/-- The addresses the search ends at, in the order it reports them. -/
def foundAt (mode : UInt64) : List Bytes → PolicyTrie → List (List Bytes)
  | [], t => if t.info.isEndOfPath ∧ mode ∈ t.info.modes then [[]] else []
  | segment :: rest, t => (searchChildren t segment).reverse.flatMap fun c =>
      (foundAt mode rest c.2).map (c.1 :: ·)

/-- The paths one state of the stack still leads to. -/
def SearchState.found (searchSegments : List Bytes) (mode : UInt64) (s : SearchState) :
    List Bytes :=
  (foundAt mode (searchSegments.drop s.currentIndex) s.node).map
    fun a => s.currentPath ++ absolute slash a

theorem buildPath_eq (basePath segment : Bytes) :
    buildPath basePath segment = basePath ++ slash :: segment := by
  unfold buildPath
  split
  case isTrue h => rw [h, List.nil_append]
  case isFalse => rfl

/-- A round reports a state's own find and leaves the rest to what it pushes. -/
theorem found_round (searchSegments : List Bytes) (mode : UInt64) (current : SearchState) :
    current.found searchSegments mode = searchFound searchSegments mode current ++
      (searchPushed searchSegments current).reverse.flatMap
        (SearchState.found searchSegments mode) := by
  unfold searchPushed searchFound SearchState.found
  cases h : searchSegments[current.currentIndex]? with
  | none =>
    have hge : current.currentIndex ≥ searchSegments.length := List.getElem?_eq_none_iff.mp h
    rw [List.drop_eq_nil_of_le hge, foundAt]
    by_cases hend : current.node.info.isEndOfPath ∧ mode ∈ current.node.info.modes
    · simp [hge, hend]
    · simp [hge, hend]
  | some segment =>
    have hnot : ¬ current.currentIndex ≥ searchSegments.length :=
      not_le.mpr (List.getElem?_eq_some_iff.mp h).1
    simp only [drop_currentIndex h, foundAt, hnot, false_and, if_false, List.nil_append, ← List.map_reverse,
      List.flatMap_map, List.map_flatMap, List.map_map]
    refine List.flatMap_congr fun c _ => List.map_congr_left fun a _ => ?_
    simp [buildPath_eq]

theorem searchLoop_eq (searchSegments : List Bytes) (mode : UInt64) (stack : List SearchState)
    (results : List Bytes) :
    searchLoop searchSegments mode stack results =
      results ++ stack.flatMap (SearchState.found searchSegments mode) := by
  induction stack, results using searchLoop.induct searchSegments mode with
  | case1 results => simp [searchLoop]
  | case2 results current stack ih =>
    rw [searchLoop, ih, List.flatMap_cons, found_round, List.flatMap_append, List.append_assoc,
      List.append_assoc]

theorem findMatchingPaths_eq (t : PolicyTrie) (path : Bytes) (mode : UInt64)
    (h : splitPath path ≠ []) :
    findMatchingPaths t path mode = (foundAt mode (splitPath path) t).map (absolute slash) := by
  simp [findMatchingPaths, h, searchLoop_eq, SearchState.found]

/-! ### Fields the search reads -/

/-- Whether a policy ends at an address, and the modes inserted there. -/
def marksAt (t : PolicyTrie) (a : List Bytes) : Bool × List UInt64 :=
  t.fieldAt (fun v => (v.isEndOfPath, v.modes)) (false, []) a

def bucketAt (t : PolicyTrie) (lower : Bytes) (a : List Bytes) : List Bytes :=
  t.fieldAt (indexBucket lower) [] a

/-- The search may go from `dir`, at segment `s`, into the child under `k`. -/
def Enters (t : PolicyTrie) (dir : List Bytes) (s k : Bytes) : Prop :=
  if flags t dir then k ∈ bucketAt t (toLowerCase s) dir else k = s

theorem mem_searchChildren {t c : PolicyTrie} {s k : Bytes} :
    (k, c) ∈ searchChildren t s ↔ Enters t [] s k ∧ t.child? k = some c := by
  have hflag : flags t [] = t.info.caseInsensitive := rfl
  have hbucket : bucketAt t (toLowerCase s) [] = indexBucket (toLowerCase s) t.info := rfl
  unfold searchChildren Enters
  rw [hflag, hbucket]
  by_cases h : t.info.caseInsensitive = true
  · rw [if_pos h, if_pos h, List.mem_filterMap]
    constructor
    · rintro ⟨k', hk', heq⟩
      obtain ⟨c', hc', heq⟩ := Option.map_eq_some_iff.mp heq
      obtain ⟨rfl, rfl⟩ := Prod.mk.inj heq
      exact ⟨hk', hc'⟩
    · rintro ⟨hk, hc⟩
      exact ⟨k, hk, by rw [hc]; rfl⟩
  · rw [if_neg h, if_neg h]
    cases hc : t.child? s with
    | none =>
      simp only [List.not_mem_nil, false_iff]
      rintro ⟨rfl, hk⟩
      rw [hc] at hk
      cases hk
    | some c' =>
      rw [List.mem_singleton, Prod.mk.injEq]
      constructor
      · rintro ⟨rfl, rfl⟩
        exact ⟨rfl, hc⟩
      · rintro ⟨rfl, hk⟩
        exact ⟨rfl, Option.some.inj (hk.symm.trans hc)⟩

/-- An address is found when it is marked with the mode and the search may walk there. -/
theorem mem_foundAt {mode : UInt64} {segs : List Bytes} {t : PolicyTrie} {a : List Bytes} :
    a ∈ foundAt mode segs t ↔
      ((marksAt t a).1 = true ∧ mode ∈ (marksAt t a).2) ∧ Follows (Enters t) segs a := by
  induction segs generalizing t a with
  | nil =>
    cases a with
    | nil =>
      by_cases h : t.info.isEndOfPath ∧ mode ∈ t.info.modes
      · simp [foundAt, Follows, marksAt, fieldAt, h]
      · simp [foundAt, Follows, marksAt, fieldAt, h]
    | cons k a => by_cases h : t.info.isEndOfPath ∧ mode ∈ t.info.modes <;> simp [foundAt, Follows, h]
  | cons s rest ih =>
    cases a with
    | nil => simp [foundAt, Follows]
    | cons k a =>
      have hbelow : ∀ c, t.child? k = some c → marksAt t (k :: a) = marksAt c a ∧
          (fun dir => Enters t (k :: dir)) = Enters c := by
        intro c hc
        refine ⟨by simp only [marksAt, fieldAt, hc], ?_⟩
        funext dir s' k'
        simp only [Enters, flags, reach, bucketAt, fieldAt, hc]
        rfl
      simp only [foundAt, List.mem_flatMap, List.mem_reverse, List.mem_map, List.cons.injEq, Follows]
      constructor
      · rintro ⟨⟨k', c⟩, hmem, a', ha', rfl, rfl⟩
        obtain ⟨hent, hc⟩ := mem_searchChildren.mp hmem
        obtain ⟨hmarks, hok⟩ := hbelow c hc
        rw [hmarks, hok]
        exact ⟨(ih.mp ha').1, hent, (ih.mp ha').2⟩
      · rintro ⟨hm, hent, hrest⟩
        cases hc : t.child? k with
        | none =>
          simp only [marksAt, fieldAt, hc, List.not_mem_nil, and_false] at hm
        | some c =>
          obtain ⟨hmarks, hok⟩ := hbelow c hc
          rw [hmarks] at hm
          rw [hok] at hrest
          exact ⟨(k, c), mem_searchChildren.mpr ⟨hent, hc⟩, a, ih.mpr ⟨hm, hrest⟩, rfl, rfl⟩

/-! ### A trie filled by `InsertPreservingCase` -/

def insertPathsPreserving (t : PolicyTrie) (rows : List (Bytes × UInt64)) : PolicyTrie :=
  rows.foldl (fun t row => insertPreservingCase t row.1 row.2) t

theorem mem_setInsert {α : Type} [DecidableEq α] {s : List α} {x y : α} :
    y ∈ setInsert s x ↔ y ∈ s ∨ y = x := by
  unfold setInsert
  split
  case isTrue h => exact ⟨Or.inl, fun hy => hy.elim id fun hy => hy ▸ h⟩
  case isFalse => rw [List.mem_append, List.mem_singleton]

theorem nodup_setInsert {α : Type} [DecidableEq α] {s : List α} {x : α} (h : s.Nodup) :
    (setInsert s x).Nodup := by
  unfold setInsert
  split
  case isTrue => exact h
  case isFalse hx => exact h.append (List.nodup_singleton x) (by simpa using hx)

theorem address_exact (φ : List Bytes → Bool) (segs : List Bytes) :
    address exactKey φ segs = segs := by
  induction segs generalizing φ with
  | nil => rfl
  | cons s rest ih => rw [address, ih]; rfl

theorem preserve_inherits (mode : UInt64) :
    Inherits NodeInfo.caseInsensitive noteSpelling inheritNode (markPolicy mode) := by
  refine ⟨fun v s => ?_, fun _ => rfl, fun _ => rfl⟩
  unfold noteSpelling
  split <;> rfl

theorem flags_insertPreservingCase (t : PolicyTrie) (path : Bytes) (mode : UInt64) :
    flags (insertPreservingCase t path mode) = flags t :=
  reach_grow (preserve_inherits mode) t (splitPath path)

theorem marksAt_insertPreservingCase (t : PolicyTrie) (path : Bytes) (mode : UInt64)
    (a : List Bytes) :
    marksAt (insertPreservingCase t path mode) a =
      if splitPath path = a then (true, setInsert (marksAt t a).2 mode) else marksAt t a := by
  have := fieldAt_grow_leaf exactKey (preserve_inherits mode)
    (f := fun v => (v.isEndOfPath, v.modes)) (d := (false, []))
    (g := fun x => (true, setInsert x.2 mode))
    (fun v s => by unfold noteSpelling; split <;> rfl) (fun _ => rfl) (fun _ => rfl) t
    (splitPath path) a
  rwa [address_exact] at this

theorem indexBucket_noteSpelling (lower : Bytes) (v : NodeInfo) (s : Bytes) :
    indexBucket lower (noteSpelling v s) =
      if v.caseInsensitive ∧ toLowerCase s = lower then setInsert (indexBucket lower v) s
      else indexBucket lower v := by
  unfold noteSpelling
  by_cases hv : v.caseInsensitive = true
  · by_cases hs : toLowerCase s = lower
    · simp [hv, hs, indexBucket]
    · simp [hv, hs, indexBucket, lookup_assign_of_ne _ _ (Ne.symm hs)]
  · simp [hv]

theorem bucketAt_insertPreservingCase (t : PolicyTrie) (path : Bytes) (mode : UInt64)
    (lower : Bytes) (a : List Bytes) :
    bucketAt (insertPreservingCase t path mode) lower a =
      if a <+: splitPath path then
        match (splitPath path)[a.length]? with
        | some s => if flags t a ∧ toLowerCase s = lower then setInsert (bucketAt t lower a) s
          else bucketAt t lower a
        | none => bucketAt t lower a
      else bucketAt t lower a := by
  have := fieldAt_grow exactKey (preserve_inherits mode) (f := indexBucket lower) (d := [])
    (T := fun b s x => if b = true ∧ toLowerCase s = lower then setInsert x s else x)
    (g := fun x => x) (indexBucket_noteSpelling lower) (fun _ => rfl) (fun _ => rfl) t
    (splitPath path) a
  rw [effect_eq, address_exact] at this
  refine Eq.trans this ?_
  by_cases hp : a <+: splitPath path
  · rw [if_pos hp, if_pos hp]
    cases (splitPath path)[a.length]? <;> rfl
  · rw [if_neg hp, if_neg hp]
    rfl

/-- A spelling is indexed where a stored path passes through it, in case-insensitive directories. -/
theorem mem_bucketAt_insertPreservingCase {t : PolicyTrie} {path : Bytes} {mode : UInt64}
    {lower k : Bytes} {a : List Bytes} :
    k ∈ bucketAt (insertPreservingCase t path mode) lower a ↔
      k ∈ bucketAt t lower a ∨
        (flags t a = true ∧ toLowerCase k = lower ∧ a ++ [k] <+: splitPath path) := by
  have hprefix : a ++ [k] <+: splitPath path ↔
      a <+: splitPath path ∧ (splitPath path)[a.length]? = some k := by
    constructor
    · rintro ⟨rest, hrest⟩
      rw [← hrest]
      simp
    · rintro ⟨⟨rest, hrest⟩, hk⟩
      rw [← hrest] at hk ⊢
      cases rest with
      | nil => simp at hk
      | cons s rest =>
        have : s = k := by simpa using hk
        exact ⟨rest, by simp [this]⟩
  rw [bucketAt_insertPreservingCase, hprefix]
  by_cases hp : a <+: splitPath path
  · cases hs : (splitPath path)[a.length]? with
    | none => simp [hp]
    | some s =>
      by_cases hc : flags t a = true ∧ toLowerCase s = lower
      · simp only [hp, hc, and_self, if_true, mem_setInsert, true_and, Option.some.injEq]
        refine or_congr_right ⟨fun h => ⟨h ▸ hc.2, h.symm⟩, fun h => h.2.symm⟩
      · simp only [hp, hc, if_true, if_false, true_and, Option.some.injEq]
        refine ⟨Or.inl, fun h => h.elim id ?_⟩
        rintro ⟨hf, hl, rfl⟩
        exact absurd ⟨hf, hl⟩ hc
  · simp [hp]

section Rows
variable (t : PolicyTrie) (rows : List (Bytes × UInt64))

theorem insertPathsPreserving_cons (row : Bytes × UInt64) :
    insertPathsPreserving t (row :: rows) =
      insertPathsPreserving (insertPreservingCase t row.1 row.2) rows := rfl

theorem flags_insertPathsPreserving : flags (insertPathsPreserving t rows) = flags t := by
  induction rows generalizing t with
  | nil => rfl
  | cons row rest ih => exact (ih _).trans (flags_insertPreservingCase t row.1 row.2)

theorem mem_bucketAt_insertPathsPreserving {lower k : Bytes} {a : List Bytes} :
    k ∈ bucketAt (insertPathsPreserving t rows) lower a ↔
      k ∈ bucketAt t lower a ∨ (flags t a = true ∧ toLowerCase k = lower ∧
        ∃ row ∈ rows, a ++ [k] <+: splitPath row.1) := by
  induction rows generalizing t with
  | nil => simp [insertPathsPreserving]
  | cons row rest ih =>
    rw [insertPathsPreserving_cons, ih, mem_bucketAt_insertPreservingCase, flags_insertPreservingCase, or_assoc,
      ← and_or_left, ← and_or_left]
    simp only [List.mem_cons, exists_eq_or_imp]

theorem nodup_bucketAt_insertPathsPreserving {lower : Bytes} {a : List Bytes}
    (h : (bucketAt t lower a).Nodup) :
    (bucketAt (insertPathsPreserving t rows) lower a).Nodup := by
  induction rows generalizing t with
  | nil => exact h
  | cons row rest ih =>
    refine ih (insertPreservingCase t row.1 row.2) ?_
    rw [bucketAt_insertPreservingCase]
    split
    case isTrue =>
      split
      · split
        · exact nodup_setInsert h
        · exact h
      · exact h
    case isFalse => exact h

theorem mem_modes_insertPathsPreserving {mode : UInt64} {a : List Bytes} :
    mode ∈ (marksAt (insertPathsPreserving t rows) a).2 ↔
      mode ∈ (marksAt t a).2 ∨ ∃ row ∈ rows, splitPath row.1 = a ∧ row.2 = mode := by
  induction rows generalizing t with
  | nil => simp [insertPathsPreserving]
  | cons row rest ih =>
    rw [insertPathsPreserving_cons, ih, marksAt_insertPreservingCase]
    by_cases h : splitPath row.1 = a
    · simp [h, mem_setInsert, or_assoc, eq_comm]
    · simp [h]

theorem end_insertPathsPreserving {a : List Bytes} :
    (marksAt (insertPathsPreserving t rows) a).1 = true ↔
      (marksAt t a).1 = true ∨ ∃ row ∈ rows, splitPath row.1 = a := by
  induction rows generalizing t with
  | nil => simp [insertPathsPreserving]
  | cons row rest ih =>
    rw [insertPathsPreserving_cons, ih, marksAt_insertPreservingCase]
    by_cases h : splitPath row.1 = a
    · simp [h]
    · simp [h]

end Rows

theorem Configured.marks {t : PolicyTrie} (h : Configured t) (a : List Bytes) :
    marksAt t a = (false, []) := by
  have := fieldAt_comp (fun v => (v.isEndOfPath, v.modes)) caseless {} t a
  rwa [h a] at this

theorem Configured.bucket {t : PolicyTrie} (h : Configured t) (lower : Bytes) (a : List Bytes) :
    bucketAt t lower a = [] := by
  have := fieldAt_comp (indexBucket lower) caseless {} t a
  rwa [h a] at this

/-- The stored spelling `a` and the searched one agree, up to letter case where the
directory is case-insensitive as `a` spells it. -/
def SpelledAs (φ : List Bytes → Bool) (a segs : List Bytes) : Prop :=
  Follows (fun dir s k => foldKey (φ dir) k = foldKey (φ dir) s) segs a

section Search
variable {t : PolicyTrie} (h : Configured t) {rows : List (Bytes × UInt64)}
include h

/-- On its own way a stored path is entered exactly where its spelling agrees. -/
theorem enters_iff {row : Bytes × UInt64} (hrow : row ∈ rows) {dir : List Bytes} {s k : Bytes}
    (hp : dir ++ [k] <+: splitPath row.1) :
    Enters (insertPathsPreserving t rows) dir s k ↔
      foldKey (flags t dir) k = foldKey (flags t dir) s := by
  unfold Enters foldKey
  rw [flags_insertPathsPreserving, mem_bucketAt_insertPathsPreserving, h.bucket]
  by_cases hf : flags t dir = true
  · simp only [hf, if_true, List.not_mem_nil, false_or, true_and]
    exact ⟨And.left, fun hl => ⟨hl, row, hrow, hp⟩⟩
  · simp only [hf, if_false, Bool.false_eq_true]

theorem mem_foundAt_insertPathsPreserving {mode : UInt64} {segs a : List Bytes} :
    a ∈ foundAt mode segs (insertPathsPreserving t rows) ↔
      ∃ row ∈ rows, splitPath row.1 = a ∧ row.2 = mode ∧ SpelledAs (flags t) a segs := by
  rw [mem_foundAt, end_insertPathsPreserving, mem_modes_insertPathsPreserving, h.marks]
  simp only [Bool.false_eq_true, false_or, List.not_mem_nil]
  constructor
  · rintro ⟨⟨-, row, hrow, rfl, hmode⟩, hfollows⟩
    exact ⟨row, hrow, rfl, hmode, (follows_congr fun _ _ _ => enters_iff h hrow).mp hfollows⟩
  · rintro ⟨row, hrow, rfl, hmode, hspelled⟩
    exact ⟨⟨⟨row, hrow, rfl⟩, row, hrow, rfl, hmode⟩,
      (follows_congr fun _ _ _ => enters_iff h hrow).mpr hspelled⟩

/-- **What the search finds**: rebuilt, the stored paths with the mode that are spelled as
the query. -/
theorem mem_findMatchingPaths {path p : Bytes} {mode : UInt64} (hpath : splitPath path ≠ []) :
    p ∈ findMatchingPaths (insertPathsPreserving t rows) path mode ↔
      ∃ row ∈ rows, row.2 = mode ∧ SpelledAs (flags t) (splitPath row.1) (splitPath path) ∧
        p = absolute slash (splitPath row.1) := by
  rw [findMatchingPaths_eq _ _ _ hpath, List.mem_map]
  constructor
  · rintro ⟨a, ha, rfl⟩
    obtain ⟨row, hrow, rfl, hmode, hs⟩ := (mem_foundAt_insertPathsPreserving h).mp ha
    exact ⟨row, hrow, hmode, hs, rfl⟩
  · rintro ⟨row, hrow, hmode, hs, rfl⟩
    exact ⟨splitPath row.1, (mem_foundAt_insertPathsPreserving h).mpr ⟨row, hrow, rfl, hmode, hs⟩,
      rfl⟩

end Search

/-! ### No path is found twice -/

theorem nodup_searchChildren {t : PolicyTrie} (h : ∀ lower, (bucketAt t lower []).Nodup)
    (s : Bytes) : ((searchChildren t s).map Prod.fst).Nodup := by
  unfold searchChildren
  split
  case isTrue =>
    have hsub : List.Sublist (((indexBucket (toLowerCase s) t.info).filterMap fun storedKey =>
        (t.child? storedKey).map fun c => (storedKey, c)).map Prod.fst)
        (indexBucket (toLowerCase s) t.info) := by
      induction indexBucket (toLowerCase s) t.info with
      | nil => exact List.Sublist.slnil
      | cons k rest ih =>
        cases hc : t.child? k with
        | none => simpa [hc] using ih.cons k
        | some c => simpa [hc] using ih.cons_cons k
    exact hsub.nodup (h (toLowerCase s))
  case isFalse =>
    split
    · exact List.nodup_singleton _
    · exact List.nodup_nil

theorem nodup_foundAt (mode : UInt64) (segs : List Bytes) {t : PolicyTrie}
    (h : ∀ lower a, (bucketAt t lower a).Nodup) : (foundAt mode segs t).Nodup := by
  induction segs generalizing t with
  | nil =>
    unfold foundAt
    split <;> simp
  | cons s rest ih =>
    have hkeys := nodup_searchChildren (fun lower => h lower []) s
    rw [foundAt, List.nodup_flatMap]
    refine ⟨fun c hc => ?_, ?_⟩
    · have hchild := (mem_searchChildren.mp (List.mem_reverse.mp hc)).2
      refine (ih fun lower a => ?_).map fun _ _ heq => (List.cons.inj heq).2
      have := h lower (c.1 :: a)
      simpa only [bucketAt, fieldAt, hchild] using this
    · refine List.pairwise_reverse.mpr (List.Pairwise.imp ?_ (List.pairwise_map.mp hkeys))
      rintro c c' hne a ha ha'
      obtain ⟨b, -, rfl⟩ := List.mem_map.mp ha
      obtain ⟨b', -, heq⟩ := List.mem_map.mp ha'
      exact hne (List.cons.inj heq).1

theorem nodup_findMatchingPaths {t : PolicyTrie} (h : Configured t) (rows : List (Bytes × UInt64))
    {path : Bytes} (mode : UInt64) (hpath : splitPath path ≠ []) :
    (findMatchingPaths (insertPathsPreserving t rows) path mode).Nodup := by
  have hseg : ∀ a ∈ foundAt mode (splitPath path) (insertPathsPreserving t rows),
      splitPath (absolute slash a) = a := by
    intro a ha
    obtain ⟨row, -, rfl, -, -⟩ := (mem_foundAt_insertPathsPreserving h).mp ha
    exact segments_absolute slash _ fun w hw => isSegment_of_mem slash hw
  rw [findMatchingPaths_eq _ _ _ hpath]
  refine List.Nodup.map_on (fun a ha b hb heq => ?_) (nodup_foundAt mode _ fun lower a => ?_)
  · rw [← hseg a ha, heq, hseg b hb]
  · refine nodup_bucketAt_insertPathsPreserving t rows ?_
    rw [h.bucket]
    exact List.nodup_nil

/-! ### The two readings of a directory -/

/-- A stored path as the callers write it: one slash in front of each component. -/
def Normalized (path : Bytes) : Prop := path = absolute slash (splitPath path)

instance (path : Bytes) : Decidable (Normalized path) := inferInstanceAs (Decidable (_ = _))

def SameLetters (a segs : List Bytes) : Prop := a.map toLowerCase = segs.map toLowerCase

/-- In the directory `dir` the two take components that are not the same bytes. -/
def DiffersIn (a segs dir : List Bytes) : Prop :=
  ∃ k s, dir ++ [k] <+: a ∧ segs[dir.length]? = some s ∧ k ≠ s

theorem differsIn_cons {k s : Bytes} {a segs dir : List Bytes} :
    DiffersIn (k :: a) (s :: segs) dir ↔
      (dir = [] ∧ k ≠ s) ∨ ∃ dir', dir = k :: dir' ∧ DiffersIn a segs dir' := by
  cases dir with
  | nil => simp [DiffersIn]
  | cons k' dir =>
    simp only [DiffersIn, List.cons_append, List.cons_prefix_cons, List.length_cons,
      List.getElem?_cons_succ, List.cons.injEq, reduceCtorEq, false_and, false_or]
    constructor
    · rintro ⟨l, s', ⟨rfl, hp⟩, hs, hne⟩
      exact ⟨dir, ⟨rfl, rfl⟩, l, s', hp, hs, hne⟩
    · rintro ⟨dir', ⟨rfl, rfl⟩, l, s', hp, hs, hne⟩
      exact ⟨l, s', ⟨rfl, hp⟩, hs, hne⟩

/-- Agreeing up to the case setting of each directory: the letters agree, and every
directory in which the bytes do not is case-insensitive. -/
theorem follows_foldKey_iff (ψ : List Bytes → Bool) (a segs : List Bytes) :
    Follows (fun dir s k => foldKey (ψ dir) k = foldKey (ψ dir) s) segs a ↔
      SameLetters a segs ∧ ∀ dir, DiffersIn a segs dir → ψ dir = true := by
  induction a generalizing segs ψ with
  | nil => cases segs <;> simp [Follows, SameLetters, DiffersIn]
  | cons k a ih =>
    cases segs with
    | nil => simp [Follows, SameLetters]
    | cons s segs =>
      have hhead : foldKey (ψ []) k = foldKey (ψ []) s ↔
          toLowerCase k = toLowerCase s ∧ (k ≠ s → ψ [] = true) := by
        unfold foldKey
        by_cases hψ : ψ [] = true
        · simp [hψ]
        · simp only [hψ, if_false, Bool.false_eq_true, imp_false, not_not]
          exact ⟨fun h => ⟨congrArg toLowerCase h, h⟩, And.right⟩
      have htail := ih (fun dir => ψ (k :: dir)) segs
      simp only [Follows, hhead, htail, SameLetters, List.map_cons, List.cons.injEq, differsIn_cons]
      constructor
      · rintro ⟨⟨hl, hne⟩, hls, hdirs⟩
        refine ⟨⟨hl, hls⟩, ?_⟩
        rintro dir (⟨rfl, hks⟩ | ⟨dir', rfl, hd⟩)
        · exact hne hks
        · exact hdirs dir' hd
      · rintro ⟨⟨hl, hls⟩, hdirs⟩
        exact ⟨⟨hl, fun hks => hdirs [] (Or.inl ⟨rfl, hks⟩)⟩, hls,
          fun dir hd => hdirs (k :: dir) (Or.inr ⟨dir, rfl, hd⟩)⟩

/-- The same node of the folded trie: the same address when every component is folded as
its directory says. -/
theorem canonicalAt_eq_iff (φ : List Bytes → Bool) (p path : Bytes) :
    canonicalAt φ p = canonicalAt φ path ↔
      SameLetters (splitPath p) (splitPath path) ∧
        ∀ dir, DiffersIn (splitPath p) (splitPath path) dir → φ (address foldKey φ dir) = true := by
  rw [canonicalAt, canonicalAt, address_eq_iff_follows]
  exact follows_foldKey_iff (fun dir => φ (address foldKey φ dir)) _ _

/-- **`FindMatchingPaths` is exact when both spellings of the directories agree on case.**
It finds, once each, the stored paths with the mode that share the query's node in the
folded trie, if and only if, for every such path with the query's letters, the
directories where the bytes differ are case-insensitive as spelled in the path
precisely when they are under their canonical spelling. -/
theorem findMatchingPaths_exact_iff (insens sens : List Bytes) (rows : List (Bytes × UInt64))
    (path : Bytes) (mode : UInt64) (hrows : ∀ row ∈ rows, Normalized row.1)
    (hpath : splitPath path ≠ []) :
    let t := initTrieWithCaseSensitivity insens sens
    let results := findMatchingPaths (insertPathsPreserving t rows) path mode
    let folded := insertPaths t rows
    (results.Nodup ∧ ∀ p, p ∈ results ↔
        (p, mode) ∈ rows ∧ canonicalAt (flags folded) p = canonicalAt (flags folded) path) ↔
      ∀ p, (p, mode) ∈ rows → SameLetters (splitPath p) (splitPath path) →
        ((∀ dir, DiffersIn (splitPath p) (splitPath path) dir → flags t dir = true) ↔
          ∀ dir, DiffersIn (splitPath p) (splitPath path) dir →
            flags t (address foldKey (flags t) dir) = true) := by
  intro t results folded
  have ht : Configured t := configured_init insens sens
  have hfound : ∀ p, p ∈ results ↔ (p, mode) ∈ rows ∧
      SpelledAs (flags t) (splitPath p) (splitPath path) := by
    intro p
    rw [mem_findMatchingPaths ht hpath]
    constructor
    · rintro ⟨row, hrow, rfl, hs, hp⟩
      have heq : p = row.1 := hp.trans (hrows row hrow).symm
      exact heq ▸ ⟨hrow, hs⟩
    · rintro ⟨hrow, hs⟩
      exact ⟨(p, mode), hrow, rfl, hs, hrows _ hrow⟩
  have hfolded : flags folded = flags t := flags_insertPaths t rows
  simp only [hfound, hfolded, SpelledAs, canonicalAt_eq_iff, follows_foldKey_iff]
  constructor
  · rintro ⟨-, h⟩ p hp hl
    have := h p
    simpa only [hp, hl, true_and] using this
  · intro h
    refine ⟨nodup_findMatchingPaths ht rows mode hpath, fun p => ?_⟩
    refine and_congr_right fun hp => and_congr_right fun hl => h p hp hl

theorem findMatchingPaths_exact_docs :
    let t := initTrieWithCaseSensitivity [CURRENT_USER] [APPDATA]
    let rows := [(bytes "/storage/Users/currentUser/Docs", 1), (bytes "/storage/media", 3)]
    let path := bytes "/storage/Users/currentUser/docs/"
    let results := findMatchingPaths (insertPathsPreserving t rows) path 1
    let folded := insertPaths t rows
    (results.Nodup ∧ ∀ p, p ∈ results ↔
        (p, 1) ∈ rows ∧ canonicalAt (flags folded) p = canonicalAt (flags folded) path) ↔
      ∀ p, (p, 1) ∈ rows → SameLetters (splitPath p) (splitPath path) →
        ((∀ dir, DiffersIn (splitPath p) (splitPath path) dir → flags t dir = true) ↔
          ∀ dir, DiffersIn (splitPath p) (splitPath path) dir →
            flags t (address foldKey (flags t) dir) = true) :=
  findMatchingPaths_exact_iff [CURRENT_USER] [APPDATA]
    [(bytes "/storage/Users/currentUser/Docs", 1), (bytes "/storage/media", 3)]
    (bytes "/storage/Users/currentUser/docs/") 1 (by decide) (by decide)

/-- Stored under `AppData`, a spelling the configuration does not know, a path is found
for a query that is another file to the folded trie. -/
theorem findMatchingPaths_not_exact :
    ¬ ∀ (insens sens : List Bytes) (rows : List (Bytes × UInt64)) (path : Bytes) (mode : UInt64),
      (∀ row ∈ rows, Normalized row.1) → splitPath path ≠ [] →
        let t := initTrieWithCaseSensitivity insens sens
        let results := findMatchingPaths (insertPathsPreserving t rows) path mode
        let folded := insertPaths t rows
        results.Nodup ∧ ∀ p, p ∈ results ↔
          (p, mode) ∈ rows ∧ canonicalAt (flags folded) p = canonicalAt (flags folded) path := by
  intro h
  have hiff := (h [CURRENT_USER] [APPDATA] [(bytes "/storage/Users/currentUser/AppData/Foo", 1)]
    (bytes "/storage/Users/currentUser/AppData/foo") 1 (by decide) (by decide)).2
    (bytes "/storage/Users/currentUser/AppData/Foo")
  rw [findMatchingPaths_eq _ _ _ (by decide)] at hiff
  revert hiff
  decide

end SandboxManager.Trie
