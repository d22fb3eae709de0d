import Mathlib.Data.List.Basic

/-! Trees with keyed children, grown along paths.

A `KeyTree` is what a pointer trie with a map of children is once nothing is
shared: a node's own data and its children, each under a key. Two things happen
to such a trie. It is *grown* along a path (`grow`): the nodes on the way are
created where they are missing, each visited node may note the step it is left
by, and the last node is marked. And it is *walked* by looking children up.

The key a step looks up may depend on the node it leaves (`flag`). What makes
such a trie predictable is inheritance: a created node takes its flag from its
parent, and nothing else changes a flag. Then the flag a walk meets at an
address, extended to addresses that have no node (`reach`), is the same before
and after any growth (`reach_grow`), so the address a path leads to (`address`)
never depends on what was inserted before it. -/
namespace Library

variable {κ ν σ β X : Type*} {α : Type*} [DecidableEq κ]

/-- A map as a list of entries: the entry at `k` is replaced, or added last. -/
def assign : List (κ × α) → κ → α → List (κ × α)
  | [], k, v => [(k, v)]
  | (k', v') :: rest, k, v => if k' = k then (k, v) :: rest else (k', v') :: assign rest k v

@[simp] theorem lookup_assign_self [BEq κ] [LawfulBEq κ] (l : List (κ × α)) (k : κ) (v : α) :
    (assign l k v).lookup k = some v := by
  induction l with
  | nil => simp [assign]
  | cons entry rest ih =>
    obtain ⟨k', v'⟩ := entry
    by_cases h : k' = k
    · simp [assign, h]
    · have hne : (k == k') = false := by simpa using fun h' => h h'.symm
      simp [assign, h, List.lookup_cons, hne, ih]

theorem lookup_assign_of_ne [BEq κ] [LawfulBEq κ] (l : List (κ × α)) {k k₀ : κ} (v : α) (h : k₀ ≠ k) :
    (assign l k v).lookup k₀ = l.lookup k₀ := by
  have hne : (k₀ == k) = false := by simpa using h
  induction l with
  | nil => simp [assign, List.lookup_cons, hne]
  | cons entry rest ih =>
    obtain ⟨k', v'⟩ := entry
    by_cases h' : k' = k
    · subst h'
      simp [assign, List.lookup_cons, hne]
    · simp only [assign, h', if_false, List.lookup_cons, ih]

inductive KeyTree (κ ν : Type*) where
  | node (info : ν) (children : List (κ × KeyTree κ ν))

namespace KeyTree

def info : KeyTree κ ν → ν
  | node v _ => v

def children : KeyTree κ ν → List (κ × KeyTree κ ν)
  | node _ cs => cs

def child? (t : KeyTree κ ν) (k : κ) : Option (KeyTree κ ν) := t.children.lookup k

def setInfo (t : KeyTree κ ν) (v : ν) : KeyTree κ ν := node v t.children

def setChild (t : KeyTree κ ν) (k : κ) (c : KeyTree κ ν) : KeyTree κ ν :=
  node t.info (assign t.children k c)

omit [DecidableEq κ] in
@[simp] theorem info_setInfo (t : KeyTree κ ν) (v : ν) : (t.setInfo v).info = v := rfl

@[simp] theorem child?_setInfo (t : KeyTree κ ν) (v : ν) (k : κ) :
    (t.setInfo v).child? k = t.child? k := rfl

@[simp] theorem info_setChild (t : KeyTree κ ν) (k : κ) (c : KeyTree κ ν) :
    (t.setChild k c).info = t.info := rfl

@[simp] theorem child?_setChild_self (t : KeyTree κ ν) (k : κ) (c : KeyTree κ ν) :
    (t.setChild k c).child? k = some c := lookup_assign_self t.children k c

theorem child?_setChild_of_ne (t : KeyTree κ ν) {k k₀ : κ} (c : KeyTree κ ν) (h : k₀ ≠ k) :
    (t.setChild k c).child? k₀ = t.child? k₀ := lookup_assign_of_ne t.children c h

@[simp] theorem child?_node_nil (v : ν) (k : κ) : (node v [] : KeyTree κ ν).child? k = none := rfl

theorem child?_single (v : ν) (k : κ) (c : KeyTree κ ν) (k₀ : κ) :
    (node v [(k, c)]).child? k₀ = if k₀ = k then some c else none := by
  by_cases h : k₀ = k
  · simp [child?, children, h]
  · have hne : (k₀ == k) = false := by simpa using h
    simp only [child?, children, List.lookup_cons, hne, h, if_false, List.lookup_nil]

/-! ### What stands at an address -/

def infoAt : KeyTree κ ν → List κ → Option ν
  | t, [] => some t.info
  | t, k :: a => match t.child? k with
    | some c => infoAt c a
    | none => none

/-- A field of the node at an address, `d` where there is no node. -/
def fieldAt (f : ν → X) (d : X) : KeyTree κ ν → List κ → X
  | t, [] => f t.info
  | t, k :: a => match t.child? k with
    | some c => fieldAt f d c a
    | none => d

/-- The flag met at an address: the node's own, or that of the last node on the way there. -/
def reach (flag : ν → β) : KeyTree κ ν → List κ → β
  | t, [] => flag t.info
  | t, k :: a => match t.child? k with
    | some c => reach flag c a
    | none => flag t.info

/-- The address a path leads to when the flags on the way are given by `φ`. -/
def address (key : β → σ → κ) (φ : List κ → β) : List σ → List κ
  | [] => []
  | s :: rest => key (φ []) s :: address key (fun a => φ (key (φ []) s :: a)) rest

theorem fieldAt_eq (f : ν → X) (d : X) (t : KeyTree κ ν) (a : List κ) :
    fieldAt f d t a = ((infoAt t a).map f).getD d := by
  induction a generalizing t with
  | nil => rfl
  | cons k a ih =>
    simp only [fieldAt, infoAt]
    cases t.child? k with
    | none => rfl
    | some c => exact ih c

/-- A field read off another field. -/
theorem fieldAt_comp {Y : Type*} (g : X → Y) (f : ν → X) (d : X) (t : KeyTree κ ν) (a : List κ) :
    fieldAt (fun v => g (f v)) (g d) t a = g (fieldAt f d t a) := by
  induction a generalizing t with
  | nil => rfl
  | cons k a ih =>
    simp only [fieldAt]
    cases t.child? k with
    | none => rfl
    | some c => exact ih c

@[simp] theorem fieldAt_fresh (f : ν → X) (v : ν) (a : List κ) :
    fieldAt f (f v) (node v [] : KeyTree κ ν) a = f v := by
  cases a <;> rfl

@[simp] theorem reach_fresh (flag : ν → β) (v : ν) (a : List κ) :
    reach flag (node v [] : KeyTree κ ν) a = flag v := by
  cases a <;> rfl

/-- Below a child the flags are the child's. -/
theorem reach_child {flag : ν → β} {t c : KeyTree κ ν} {k : κ} (h : t.child? k = some c) :
    (fun a => reach flag t (k :: a)) = reach flag c := by
  funext a
  simp only [reach, h]

omit [DecidableEq κ] in
@[simp] theorem length_address (key : β → σ → κ) (φ : List κ → β) (segs : List σ) :
    (address key φ segs).length = segs.length := by
  induction segs generalizing φ with
  | nil => rfl
  | cons s rest ih => simp [address, ih]

omit [DecidableEq κ] in
theorem address_take (key : β → σ → κ) (φ : List κ → β) (segs : List σ) (n : Nat) :
    (address key φ segs).take n = address key φ (segs.take n) := by
  induction segs generalizing φ n with
  | nil => simp [address]
  | cons s rest ih =>
    cases n with
    | zero => rfl
    | succ n => simp only [address, List.take_succ_cons, ih]

omit [DecidableEq κ] in
theorem address_prefix (key : β → σ → κ) (φ : List κ → β) (segs rest : List σ) :
    address key φ segs <+: address key φ (segs ++ rest) := by
  rw [List.prefix_iff_eq_take, address_take, length_address, List.take_left]

/-- Step by step, `ok` lets a path enter the keys of an address; `ok dir s k` is about
the step `s` out of `dir` into the child under `k`. -/
def Follows (ok : List κ → σ → κ → Prop) : List σ → List κ → Prop
  | [], [] => True
  | s :: rest, k :: a => ok [] s k ∧ Follows (fun dir => ok (k :: dir)) rest a
  | _, _ => False

omit [DecidableEq κ] in
/-- Only the steps into prefixes of the address count. -/
theorem follows_congr {ok ok' : List κ → σ → κ → Prop} {segs : List σ} {a : List κ}
    (h : ∀ dir s k, dir ++ [k] <+: a → (ok dir s k ↔ ok' dir s k)) :
    Follows ok segs a ↔ Follows ok' segs a := by
  induction a generalizing ok ok' segs with
  | nil => cases segs <;> rfl
  | cons k a ih =>
    cases segs with
    | nil => rfl
    | cons s rest =>
      have hhead := h [] s k ((List.nil_append [k]).symm ▸ (List.prefix_append [k] a))
      have htail : Follows (fun dir => ok (k :: dir)) rest a ↔
          Follows (fun dir => ok' (k :: dir)) rest a :=
        ih fun dir s k' hp => h (k :: dir) s k' ((List.prefix_cons_inj k).mpr hp)
      exact and_congr hhead htail

omit [DecidableEq κ] in
theorem follows_self {ok : List κ → κ → κ → Prop} (h : ∀ dir k, ok dir k k) (a : List κ) :
    Follows ok a a := by
  induction a generalizing ok with
  | nil => trivial
  | cons k a ih => exact ⟨h [] k, ih fun dir => h (k :: dir)⟩

omit [DecidableEq κ] in
theorem Follows.length_eq {ok : List κ → σ → κ → Prop} {segs : List σ} {a : List κ}
    (h : Follows ok segs a) : segs.length = a.length := by
  induction segs generalizing ok a with
  | nil =>
    cases a with
    | nil => rfl
    | cons k a => cases h
  | cons s rest ih =>
    cases a with
    | nil => cases h
    | cons k a => exact congrArg (· + 1) (ih h.2)

omit [DecidableEq κ] in
/-- Two paths of keys lead to one address when they agree at every step, read in the
directories of that address. -/
theorem address_eq_iff_follows (key : β → κ → κ) (φ : List κ → β) (a segs : List κ) :
    address key φ a = address key φ segs ↔
      Follows (fun dir s k => key (φ (address key φ dir)) k = key (φ (address key φ dir)) s)
        segs a := by
  induction a generalizing φ segs with
  | nil => cases segs <;> simp [address, Follows]
  | cons k a ih =>
    cases segs with
    | nil => simp [address, Follows]
    | cons s rest =>
      simp only [address, Follows, List.cons.injEq]
      refine and_congr_right fun hk => ?_
      rw [← hk]
      exact ih _ rest

theorem reach_of_infoAt {flag : ν → β} {t : KeyTree κ ν} {a : List κ} {v : ν}
    (h : infoAt t a = some v) : reach flag t a = flag v := by
  induction a generalizing t with
  | nil =>
    simp only [infoAt, Option.some.injEq] at h
    exact congrArg flag h
  | cons k a ih =>
    simp only [infoAt] at h
    cases hc : t.child? k with
    | none => simp [hc] at h
    | some c =>
      simp only [hc] at h
      simp only [reach, hc]
      exact ih h

/-- The flag met at an address is that of the last node on the way there. -/
theorem exists_last_node (flag : ν → β) (t : KeyTree κ ν) (a : List κ) :
    ∃ b v, b <+: a ∧ infoAt t b = some v ∧ reach flag t a = flag v ∧
      ∀ c, c <+: a → (infoAt t c).isSome → c <+: b := by
  induction a generalizing t with
  | nil => exact ⟨[], t.info, List.nil_prefix, rfl, rfl, fun c hc _ => hc⟩
  | cons k a ih =>
    cases hchild : t.child? k with
    | none =>
      refine ⟨[], t.info, List.nil_prefix, rfl, by simp only [reach, hchild], fun c hc hsome => ?_⟩
      cases c with
      | nil => exact List.prefix_refl []
      | cons k' c =>
        obtain ⟨rfl, -⟩ := List.cons_prefix_cons.mp hc
        simp [infoAt, hchild] at hsome
    | some child =>
      obtain ⟨b, v, hb, hv, hreach, hlast⟩ := ih child
      refine ⟨k :: b, v, (List.prefix_cons_inj k).mpr hb, by simpa only [infoAt, hchild] using hv,
        by simpa only [reach, hchild] using hreach, fun c hc hsome => ?_⟩
      cases c with
      | nil => exact List.nil_prefix
      | cons k' c =>
        obtain ⟨rfl, htail⟩ := List.cons_prefix_cons.mp hc
        simp only [infoAt, hchild] at hsome
        exact (List.prefix_cons_inj k').mpr (hlast c htail hsome)

/-! ### Growth -/

section Grow
variable (flag : ν → β) (key : β → σ → κ) (touch : ν → σ → ν) (fresh leaf : ν → ν)

/-- Walk a path, creating what is missing, and mark the last node. -/
def grow : KeyTree κ ν → List σ → KeyTree κ ν
  | t, [] => t.setInfo (leaf t.info)
  | t, s :: rest =>
    let k := key (flag t.info) s
    let c := (t.child? k).getD (node (fresh t.info) [])
    (t.setInfo (touch t.info s)).setChild k (grow c rest)

/-- Created nodes take their parent's flag and nothing else changes one. -/
structure Inherits : Prop where
  touch : ∀ v s, flag (touch v s) = flag v
  fresh : ∀ v, flag (fresh v) = flag v
  leaf : ∀ v, flag (leaf v) = flag v

variable {flag key touch fresh leaf}

/-- The child a growth step enters has the flags the tree had below that key. -/
theorem reach_entered (h : Inherits flag touch fresh leaf) (t : KeyTree κ ν) (k : κ) :
    reach flag ((t.child? k).getD (node (fresh t.info) [])) = fun a => reach flag t (k :: a) := by
  funext a
  cases hc : t.child? k with
  | none => simp only [Option.getD_none, reach_fresh, h.fresh, reach, hc]
  | some c => simp only [Option.getD_some, reach, hc]

/-- It has the field the tree had there, if created nodes do not look at their parent. -/
theorem fieldAt_entered {f : ν → X} {d : X} (hd : ∀ v, f (fresh v) = d) (t : KeyTree κ ν) (k : κ) :
    fieldAt f d ((t.child? k).getD (node (fresh t.info) [])) = fun a => fieldAt f d t (k :: a) := by
  funext a
  cases hc : t.child? k with
  | none => simp only [Option.getD_none, ← hd t.info, fieldAt_fresh, fieldAt, hc]
  | some c => simp only [Option.getD_some, fieldAt, hc]

/-- **Growth with inheritance changes no flag at any address**, occupied or not. -/
theorem reach_grow (h : Inherits flag touch fresh leaf) (t : KeyTree κ ν) (segs : List σ) :
    reach flag (grow flag key touch fresh leaf t segs) = reach flag t := by
  induction segs generalizing t with
  | nil =>
    funext a
    cases a with
    | nil => exact h.leaf t.info
    | cons k a => simp only [grow, reach, child?_setInfo, info_setInfo, h.leaf]
  | cons s rest ih =>
    funext a
    cases a with
    | nil => exact h.touch t.info s
    | cons k a =>
      simp only [grow]
      by_cases hk : k = key (flag t.info) s
      · subst hk
        have hc := congrFun (reach_entered h t (key (flag t.info) s)) a
        simp only [reach, child?_setChild_self, ih] at hc ⊢
        exact hc
      · simp only [reach, child?_setChild_of_ne _ _ hk, child?_setInfo, info_setChild, info_setInfo,
          h.touch]

/-- What growing along a path does to a field at an address: `T` at a node the
path leaves by a step, `g` at the node it ends in, nothing anywhere else. -/
def effect (key : β → σ → κ) (T : β → σ → X → X) (g : X → X) :
    (List κ → β) → List σ → List κ → X → X
  | _, [], [], x => g x
  | _, [], _ :: _, x => x
  | φ, s :: _, [], x => T (φ []) s x
  | φ, s :: rest, k :: a, x =>
    if key (φ []) s = k then effect key T g (fun b => φ (k :: b)) rest a x else x

variable (key) in
/-- **Growth changes a field only along its own path.** -/
theorem fieldAt_grow (h : Inherits flag touch fresh leaf) {f : ν → X} {d : X} {T : β → σ → X → X}
    {g : X → X} (hT : ∀ v s, f (touch v s) = T (flag v) s (f v)) (hd : ∀ v, f (fresh v) = d)
    (hg : ∀ v, f (leaf v) = g (f v)) (t : KeyTree κ ν) (segs : List σ) (a : List κ) :
    fieldAt f d (grow flag key touch fresh leaf t segs) a =
      effect key T g (reach flag t) segs a (fieldAt f d t a) := by
  induction segs generalizing t a with
  | nil =>
    cases a with
    | nil => exact hg t.info
    | cons k a => simp only [grow, fieldAt, child?_setInfo, effect]
  | cons s rest ih =>
    cases a with
    | nil => exact hT t.info s
    | cons k a =>
      simp only [grow, effect, reach]
      by_cases hk : key (flag t.info) s = k
      · subst hk
        have hφ := reach_entered h t (key (flag t.info) s)
        simp only [fieldAt, child?_setChild_self, ih, if_true]
        rw [hφ]
        congr 1
        exact congrFun (fieldAt_entered hd t _) a
      · simp only [fieldAt, child?_setChild_of_ne _ _ (Ne.symm hk), child?_setInfo, hk, if_false]

/-- The effect on an address: a note where the path goes on, the mark where it ends. -/
theorem effect_eq (T : β → σ → X → X) (g : X → X) (φ : List κ → β) (segs : List σ) (a : List κ)
    (x : X) :
    effect key T g φ segs a x =
      if a <+: address key φ segs then
        match segs[a.length]? with
        | some s => T (φ a) s x
        | none => g x
      else x := by
  induction segs generalizing φ a with
  | nil => cases a <;> simp [effect, address]
  | cons s rest ih =>
    cases a with
    | nil => simp [effect]
    | cons k a =>
      simp only [effect, address, List.cons_prefix_cons, List.length_cons, List.getElem?_cons_succ]
      by_cases hk : key (φ []) s = k
      · subst hk
        simp only [if_true, true_and, ih]
      · simp only [hk, Ne.symm hk, if_false, false_and]

/-- Without a mark on the nodes passed through, only the end of the path changes. -/
theorem effect_leaf (g : X → X) (φ : List κ → β) (segs : List σ) (a : List κ) (x : X) :
    effect key (fun _ _ x => x) g φ segs a x = if address key φ segs = a then g x else x := by
  induction segs generalizing φ a with
  | nil => cases a <;> simp [effect, address]
  | cons s rest ih =>
    cases a with
    | nil => simp [effect, address]
    | cons k a =>
      by_cases hk : key (φ []) s = k
      · subst hk
        simp only [effect, address, if_true, ih, List.cons.injEq, true_and]
      · simp only [effect, address, hk, if_false, List.cons.injEq, false_and]

variable (key) in
/-- A field untouched on the way is marked at the path's address. -/
theorem fieldAt_grow_leaf (h : Inherits flag touch fresh leaf) {f : ν → X} {d : X} {g : X → X}
    (hT : ∀ v s, f (touch v s) = f v) (hd : ∀ v, f (fresh v) = d) (hg : ∀ v, f (leaf v) = g (f v))
    (t : KeyTree κ ν) (segs : List σ) (a : List κ) :
    fieldAt f d (grow flag key touch fresh leaf t segs) a =
      if address key (reach flag t) segs = a then g (fieldAt f d t a) else fieldAt f d t a := by
  rw [fieldAt_grow key h (T := fun _ _ x => x) hT hd hg, effect_leaf]

/-- A field no part of growth marks stays as it was, whatever happens to the flags. -/
theorem fieldAt_grow_unmarked {f : ν → X} {d : X} (hT : ∀ v s, f (touch v s) = f v)
    (hd : ∀ v, f (fresh v) = d) (hg : ∀ v, f (leaf v) = f v) (t : KeyTree κ ν) (segs : List σ)
    (a : List κ) : fieldAt f d (grow flag key touch fresh leaf t segs) a = fieldAt f d t a := by
  induction segs generalizing t a with
  | nil =>
    cases a with
    | nil => exact hg t.info
    | cons k a => simp only [grow, fieldAt, child?_setInfo]
  | cons s rest ih =>
    cases a with
    | nil => exact hT t.info s
    | cons k a =>
      simp only [grow]
      by_cases hk : k = key (flag t.info) s
      · subst hk
        simp only [fieldAt, child?_setChild_self, ih]
        exact congrFun (fieldAt_entered hd t _) a
      · simp only [fieldAt, child?_setChild_of_ne _ _ hk, child?_setInfo]

/-- The address a growth ends at, read off the tree as it is walked. -/
def trail (flag : ν → β) (key : β → σ → κ) (fresh : ν → ν) : KeyTree κ ν → List σ → List κ
  | _, [] => []
  | t, s :: rest =>
    let k := key (flag t.info) s
    k :: trail flag key fresh ((t.child? k).getD (node (fresh t.info) [])) rest

/-- **Growth adds the nodes of its own trail and takes none away.** -/
theorem isSome_infoAt_grow (t : KeyTree κ ν) (segs : List σ) (a : List κ) :
    (infoAt (grow flag key touch fresh leaf t segs) a).isSome ↔
      (infoAt t a).isSome ∨ a <+: trail flag key fresh t segs := by
  induction segs generalizing t a with
  | nil =>
    cases a with
    | nil => simp [grow, infoAt]
    | cons k a => simp [grow, trail, infoAt]
  | cons s rest ih =>
    cases a with
    | nil => simp [infoAt]
    | cons k a =>
      simp only [grow, trail, List.cons_prefix_cons]
      by_cases hk : k = key (flag t.info) s
      · subst hk
        simp only [infoAt, child?_setChild_self, ih, true_and]
        cases t.child? (key (flag t.info) s) with
        | none => cases a <;> simp [infoAt]
        | some c => simp
      · simp only [infoAt, child?_setChild_of_ne _ _ hk, child?_setInfo, hk, false_and, or_false]

section Default
variable {v₀ : ν} (hfresh : ∀ v, fresh v = v₀)
include hfresh

variable (key) in
/-- Without inheritance the trail is set by the flags of the nodes there are. -/
theorem trail_default (t : KeyTree κ ν) (segs : List σ) :
    trail flag key fresh t segs = address key (fieldAt flag (flag v₀) t) segs := by
  induction segs generalizing t with
  | nil => rfl
  | cons s rest ih => simp only [trail, address, ih, fieldAt_entered (fun v => congrArg flag (hfresh v)), fieldAt]

variable (key) in
/-- Without inheritance a field untouched on the way is marked where the trail ends. -/
theorem fieldAt_grow_default {f : ν → X} {g : X → X} (hT : ∀ v s, f (touch v s) = f v)
    (hg : ∀ v, f (leaf v) = g (f v)) (t : KeyTree κ ν) (segs : List σ) (a : List κ) :
    fieldAt f (f v₀) (grow flag key touch fresh leaf t segs) a =
      if trail flag key fresh t segs = a then g (fieldAt f (f v₀) t a)
      else fieldAt f (f v₀) t a := by
  induction segs generalizing t a with
  | nil =>
    cases a with
    | nil => exact hg t.info
    | cons k a => simp [grow, trail, fieldAt]
  | cons s rest ih =>
    cases a with
    | nil =>
      rw [if_neg (by simp [trail])]
      exact hT t.info s
    | cons k a =>
      simp only [grow, trail, List.cons.injEq]
      by_cases hk : k = key (flag t.info) s
      · subst hk
        simp only [fieldAt, child?_setChild_self, ih, true_and]
        rw [fieldAt_entered fun v => congrArg f (hfresh v)]
        simp only [fieldAt]
      · simp only [fieldAt, child?_setChild_of_ne _ _ hk, child?_setInfo, Ne.symm hk, false_and,
          if_false]

end Default

end Grow

end KeyTree

end Library
