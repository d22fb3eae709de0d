import SandboxManager.Trie.PolicyTrie
import SandboxManager.Library.FirstMatch

/-! What the two matchers decide.

Inserting a policy and blocking a path both let created nodes inherit the case
flag, so the address a path leads to depends on the case configuration alone
(`flags_insertPath`, `flags_addDeniedPath`). A trie then answers for every
address what is stored there (`policyAt_insertPaths`) and whether inheritance is
blocked there (`deniedAt_addDeniedPaths`), and a matcher passes the levels of the
query's address: `CheckPathNew` is a first-match scan with resets
(`checkPathNew_scan`), `CheckPath` takes the first rule from a fixed level on
(`checkPath_first`). -/
namespace SandboxManager.Trie
open Library KeyTree FirstMatch

/-- The case setting met at each address. -/
def flags (t : PolicyTrie) : List Bytes → Bool := t.reach NodeInfo.caseInsensitive

/-- The components of a path, folded where `φ` says that the parent directory folds. -/
def canonicalAt (φ : List Bytes → Bool) (path : Bytes) : List Bytes :=
  address foldKey φ (splitPath path)

/-- Whether a policy ends at an address, and the merged mode there. -/
def policyAt (t : PolicyTrie) (a : List Bytes) : Bool × UInt64 :=
  t.fieldAt (fun v => (v.isEndOfPath, v.mode)) (false, 0) a

def deniedAt (t : PolicyTrie) (a : List Bytes) : Bool := t.fieldAt NodeInfo.denyInherit false a

def insertPaths (t : PolicyTrie) (rows : List (Bytes × UInt64)) : PolicyTrie :=
  rows.foldl (fun t row => insertPath t row.1 row.2) t

/-- The OR of the modes of the rows that satisfy `p`. -/
def mergedMode (p : Bytes → Bool) (rows : List (Bytes × UInt64)) : UInt64 :=
  ((rows.filter fun row => p row.1).map Prod.snd).foldl (· ||| ·) 0

/-! ### Writing a trie -/

theorem insert_inherits (mode : UInt64) :
    Inherits NodeInfo.caseInsensitive (fun v (_ : Bytes) => v) inheritNode (markPolicy mode) :=
  ⟨fun _ _ => rfl, fun _ => rfl, fun _ => rfl⟩

theorem deny_inherits :
    Inherits NodeInfo.caseInsensitive (fun v (_ : Bytes) => v) inheritNode
      (fun v => { v with denyInherit := true }) :=
  ⟨fun _ _ => rfl, fun _ => rfl, fun _ => rfl⟩

@[simp] theorem flags_insertPath (t : PolicyTrie) (path : Bytes) (mode : UInt64) :
    flags (insertPath t path mode) = flags t :=
  reach_grow (insert_inherits mode) t (splitPath path)

@[simp] theorem flags_addDeniedPath (t : PolicyTrie) (path : Bytes) :
    flags (addDeniedPath t path) = flags t :=
  reach_grow deny_inherits t (splitPath path)

theorem flags_insertPaths (t : PolicyTrie) (rows : List (Bytes × UInt64)) :
    flags (insertPaths t rows) = flags t := by
  induction rows generalizing t with
  | nil => rfl
  | cons row rest ih => exact (ih _).trans (flags_insertPath t row.1 row.2)

theorem flags_addDeniedPaths (t : PolicyTrie) (paths : List Bytes) :
    flags (addDeniedPaths t paths) = flags t := by
  induction paths generalizing t with
  | nil => rfl
  | cons path rest ih => exact (ih _).trans (flags_addDeniedPath t path)

theorem policyAt_insertPath (t : PolicyTrie) (path : Bytes) (mode : UInt64) (a : List Bytes) :
    policyAt (insertPath t path mode) a =
      if canonicalAt (flags t) path = a then (true, (policyAt t a).2 ||| mode) else policyAt t a :=
  fieldAt_grow_leaf foldKey (insert_inherits mode) (g := fun x => (true, x.2 ||| mode))
    (fun _ _ => rfl) (fun _ => rfl) (fun _ => rfl) t (splitPath path) a

@[simp] theorem deniedAt_insertPath (t : PolicyTrie) (path : Bytes) (mode : UInt64)
    (a : List Bytes) : deniedAt (insertPath t path mode) a = deniedAt t a := by
  refine fieldAt_grow_unmarked ?_ ?_ ?_ t (splitPath path) a <;> intros <;> rfl

@[simp] theorem policyAt_addDeniedPath (t : PolicyTrie) (path : Bytes) (a : List Bytes) :
    policyAt (addDeniedPath t path) a = policyAt t a := by
  refine fieldAt_grow_unmarked ?_ ?_ ?_ t (splitPath path) a <;> intros <;> rfl

theorem deniedAt_addDeniedPath (t : PolicyTrie) (path : Bytes) (a : List Bytes) :
    deniedAt (addDeniedPath t path) a =
      if canonicalAt (flags t) path = a then true else deniedAt t a :=
  fieldAt_grow_leaf foldKey deny_inherits (g := fun _ => true) (fun _ _ => rfl) (fun _ => rfl)
    (fun _ => rfl) t (splitPath path) a

theorem foldl_or (init : UInt64) (modes : List UInt64) :
    modes.foldl (· ||| ·) init = init ||| modes.foldl (· ||| ·) 0 := by
  induction modes generalizing init with
  | nil => simp
  | cons m rest ih =>
    rw [List.foldl_cons, ih, List.foldl_cons, ih (0 ||| m), UInt64.or_assoc, UInt64.zero_or]

theorem mergedMode_cons (f : Bytes → Bool) (row : Bytes × UInt64) (rows : List (Bytes × UInt64)) :
    mergedMode f (row :: rows) =
      if f row.1 then row.2 ||| mergedMode f rows else mergedMode f rows := by
  unfold mergedMode
  by_cases h : f row.1 = true
  · simp only [List.filter_cons, h, if_true, List.map_cons, List.foldl_cons, UInt64.zero_or]
    exact foldl_or row.2 _
  · simp only [List.filter_cons, h, if_false, Bool.false_eq_true]

/-- **What insertion stores**: at an address, the rows whose path leads there, modes merged. -/
theorem policyAt_insertPaths (t : PolicyTrie) (rows : List (Bytes × UInt64)) (a : List Bytes) :
    policyAt (insertPaths t rows) a =
      ((policyAt t a).1 || rows.any fun row => canonicalAt (flags t) row.1 = a,
        (policyAt t a).2 ||| mergedMode (fun path => canonicalAt (flags t) path = a) rows) := by
  induction rows generalizing t with
  | nil => simp [insertPaths, mergedMode]
  | cons row rest ih =>
    have hrest : insertPaths t (row :: rest) = insertPaths (insertPath t row.1 row.2) rest := rfl
    rw [hrest, ih, flags_insertPath, policyAt_insertPath]
    by_cases h : canonicalAt (flags t) row.1 = a
    · simp only [h, if_true, Bool.true_or, List.any_cons, decide_true, Bool.or_true, mergedMode_cons,
        UInt64.or_assoc]
    · simp only [h, if_false, List.any_cons, decide_false, Bool.false_or, mergedMode_cons,
        Bool.false_eq_true]

theorem deniedAt_insertPaths (t : PolicyTrie) (rows : List (Bytes × UInt64)) (a : List Bytes) :
    deniedAt (insertPaths t rows) a = deniedAt t a := by
  induction rows generalizing t with
  | nil => rfl
  | cons row rest ih => exact (ih _).trans (deniedAt_insertPath t row.1 row.2 a)

theorem policyAt_addDeniedPaths (t : PolicyTrie) (paths : List Bytes) (a : List Bytes) :
    policyAt (addDeniedPaths t paths) a = policyAt t a := by
  induction paths generalizing t with
  | nil => rfl
  | cons path rest ih => exact (ih _).trans (policyAt_addDeniedPath t path a)

/-- **Where inheritance is blocked**: at the addresses the blocked paths lead to. -/
theorem deniedAt_addDeniedPaths (t : PolicyTrie) (paths : List Bytes) (a : List Bytes) :
    deniedAt (addDeniedPaths t paths) a =
      (deniedAt t a || paths.any fun path => canonicalAt (flags t) path = a) := by
  induction paths generalizing t with
  | nil => simp [addDeniedPaths]
  | cons path rest ih =>
    have hrest : addDeniedPaths t (path :: rest) = addDeniedPaths (addDeniedPath t path) rest := rfl
    rw [hrest, ih, flags_addDeniedPath, deniedAt_addDeniedPath]
    by_cases h : canonicalAt (flags t) path = a
    · simp [h]
    · simp [h]

/-! ### Walking a trie -/

/-- What a matcher meets at an address: blocked inheritance, and the stored policy's verdict. -/
def levelAt (t : PolicyTrie) (mode : UInt64) (a : List Bytes) : Level where
  reset := deniedAt t a
  rule := if (policyAt t a).1 then some (isPolicyMatch (policyAt t a).2 mode) else none

theorem levelAt_child {t c : PolicyTrie} {k : Bytes} (h : t.child? k = some c) (mode : UInt64) :
    (fun a => levelAt t mode (k :: a)) = levelAt c mode := by
  funext a
  simp only [levelAt, deniedAt, policyAt, fieldAt, h]
  rfl

theorem levelAt_first {t c : PolicyTrie} {k : Bytes} (h : t.child? k = some c) (mode : UInt64) :
    levelAt t mode [k] = levelAt c mode [] :=
  congrFun (levelAt_child h mode) []

theorem flags_child {t c : PolicyTrie} {k : Bytes} (h : t.child? k = some c) :
    (fun a => flags t (k :: a)) = flags c :=
  reach_child h

theorem levelAt_missing {t : PolicyTrie} {k : Bytes} (h : t.child? k = none) (mode : UInt64)
    (a : List Bytes) : levelAt t mode (k :: a) = ⟨false, none⟩ := by
  simp only [levelAt, deniedAt, policyAt, fieldAt, h, Bool.false_eq_true, if_false]

theorem levelAt_root (t : PolicyTrie) (mode : UInt64) :
    levelAt t mode [] = ⟨t.info.denyInherit,
      if t.info.isEndOfPath then some (isPolicyMatch t.info.mode mode) else none⟩ := rfl

/-- The status as the library has it. -/
def CheckState.verdict : CheckState → Option Bool
  | .init => none
  | .allowed => some true
  | .notAllowed => some false

theorem CheckState.allowed_iff (s : CheckState) : (s == .allowed) = (s.verdict == some true) := by
  cases s <;> rfl

/-- The matcher's walk is the scan of the levels of the query's address. -/
theorem checkPathNewLoop_scan (mode : UInt64) (t : PolicyTrie) (s : CheckState)
    (segs : List Bytes) :
    checkPathNewLoop mode true t s segs =
      (scan s.verdict (levels (levelAt t mode) (address foldKey (flags t) segs)) == some true) := by
  induction segs generalizing t s with
  | nil => exact s.allowed_iff
  | cons segment rest ih =>
    have hroot : flags t [] = t.info.caseInsensitive := rfl
    simp only [checkPathNewLoop, address, levels, scan_cons, hroot]
    cases hc : t.child? (foldKey t.info.caseInsensitive segment) with
    | none =>
      rw [scan_levels_idle _ (fun a => levelAt_missing hc mode a), levelAt_missing hc]
      simpa [step] using s.allowed_iff
    | some c =>
      simp only [levelAt_child hc mode, levelAt_first hc mode, flags_child hc, levelAt_root, ih]
      by_cases hd : c.info.denyInherit <;> by_cases he : c.info.isEndOfPath <;>
        by_cases hm : isPolicyMatch c.info.mode mode <;> cases s <;>
        simp [step, CheckState.verdict, hd, he, hm]

theorem checkPathNew_scan (t : PolicyTrie) (path : Bytes) (mode : UInt64) :
    checkPathNew t path mode =
      (scan none (levels (levelAt t mode) (canonicalAt (flags t) path)) == some true) :=
  checkPathNewLoop_scan mode t .init (splitPath path)

/-- The older matcher takes the first policy it meets from its level on. -/
theorem checkPathLoop_first (need : Nat) (mode : UInt64) (t : PolicyTrie) (curLevel : Nat)
    (segs : List Bytes) :
    checkPathLoop need mode true t curLevel segs =
      (first ((levels (levelAt t mode) (address foldKey (flags t) segs)).drop (need - 1 - curLevel))
        == some true) := by
  induction segs generalizing t curLevel with
  | nil => simp [checkPathLoop, address, levels, first]
  | cons segment rest ih =>
    have hroot : flags t [] = t.info.caseInsensitive := rfl
    simp only [checkPathLoop, address, levels, hroot]
    cases hc : t.child? (foldKey t.info.caseInsensitive segment) with
    | none =>
      have hnone : ∀ (n : Nat) (a : List Bytes), first ((levels (fun b => levelAt t mode
          (foldKey t.info.caseInsensitive segment :: b)) a).drop n) = none := by
        intro n a
        refine List.findSome?_eq_none_iff.mpr fun l hl => ?_
        obtain ⟨i, hi⟩ := List.mem_iff_getElem?.mp (List.mem_of_mem_drop hl)
        have hlt := (List.getElem?_eq_some_iff.mp hi).1
        rw [length_levels] at hlt
        rw [levels_getElem? _ _ hlt, Option.some.injEq] at hi
        rw [← hi, levelAt_missing hc]
      cases hn : need - 1 - curLevel with
      | zero =>
        have := hnone 0 (address foldKey (fun a => flags t (foldKey t.info.caseInsensitive segment :: a)) rest)
        rw [List.drop_zero] at this ⊢
        have hhead : (levelAt t mode [foldKey t.info.caseInsensitive segment]).rule = none := by
          rw [levelAt_missing hc]
        rw [first, List.findSome?_cons, hhead]
        exact (congrArg (· == some true) this).symm
      | succ n =>
        rw [List.drop_succ_cons, hnone]
        rfl
    | some c =>
      simp only [levelAt_child hc mode, levelAt_first hc mode, flags_child hc, levelAt_root, ih]
      cases hn : need - 1 - curLevel with
      | zero =>
        have hge : curLevel + 1 ≥ need := by omega
        have hrest : need - 1 - (curLevel + 1) = 0 := by omega
        rw [hrest]
        by_cases he : c.info.isEndOfPath = true
        · simp [hge, he, first]
        · simp [he, first]
      | succ n =>
        have hlt : ¬ curLevel + 1 ≥ need := by omega
        have hrest : need - 1 - (curLevel + 1) = n := by omega
        rw [hrest, List.drop_succ_cons]
        simp [hlt]

theorem checkPath_first (t : PolicyTrie) (path : Bytes) (mode : UInt64) :
    checkPath t path mode =
      (first ((levels (levelAt t mode) (canonicalAt (flags t) path)).drop (needLevel path - 1))
        == some true) :=
  checkPathLoop_first (needLevel path) mode t 0 (splitPath path)

end SandboxManager.Trie
