import Mathlib.Data.List.Nodup

/-! Tables with a primary key.

A table is its rows together with the fact that no two of them share a key, so a
table that breaks its primary key cannot be built. The two ways to resolve a
conflict on insertion keep the stored row or replace it; deletion takes the rows
that satisfy a condition. What each does is said by membership. -/
namespace Library

variable {ρ κ : Type*} [DecidableEq κ] {key : ρ → κ}

structure KeyedTable (key : ρ → κ) where
  rows : List ρ
  unique : (rows.map key).Nodup

namespace KeyedTable

instance : Membership ρ (KeyedTable key) := ⟨fun t r => r ∈ t.rows⟩

omit [DecidableEq κ] in
theorem mem_iff {t : KeyedTable key} {r : ρ} : r ∈ t ↔ r ∈ t.rows := Iff.rfl

def empty : KeyedTable key := ⟨[], List.nodup_nil⟩

omit [DecidableEq κ] in
@[simp] theorem not_mem_empty (r : ρ) : r ∉ (empty : KeyedTable key) := List.not_mem_nil

omit [DecidableEq κ] in
/-- A row is determined by its key. -/
theorem eq_of_key_eq {t : KeyedTable key} {r r' : ρ} (hr : r ∈ t) (hr' : r' ∈ t)
    (h : key r = key r') : r = r' :=
  List.inj_on_of_nodup_map t.unique hr hr' h

omit [DecidableEq κ] in
theorem nodup_filter_map (t : KeyedTable key) (p : ρ → Bool) :
    ((t.rows.filter p).map key).Nodup :=
  (List.filter_sublist.map key).nodup t.unique

/-- The rows that do not satisfy `p` remain. -/
def delete (t : KeyedTable key) (p : ρ → Bool) : KeyedTable key :=
  ⟨t.rows.filter fun r => !p r, t.nodup_filter_map _⟩

omit [DecidableEq κ] in
@[simp] theorem mem_delete {t : KeyedTable key} {p : ρ → Bool} {r : ρ} :
    r ∈ t.delete p ↔ r ∈ t ∧ p r = false := by
  simp [mem_iff, delete]

omit [DecidableEq κ] in
theorem nodup_append_row {rows : List ρ} {r : ρ} (h : (rows.map key).Nodup)
    (hr : key r ∉ rows.map key) : ((rows ++ [r]).map key).Nodup := by
  rw [List.map_append, List.map_singleton]
  exact h.append (List.nodup_singleton _) (by simpa using hr)

/-- On conflict the stored row stays. -/
def insertIgnore (t : KeyedTable key) (r : ρ) : KeyedTable key :=
  if h : key r ∈ t.rows.map key then t else ⟨t.rows ++ [r], nodup_append_row t.unique h⟩

/-- On conflict the stored row goes. -/
def insertReplace (t : KeyedTable key) (r : ρ) : KeyedTable key :=
  ⟨(t.delete fun r' => key r' = key r).rows ++ [r],
    nodup_append_row (t.delete _).unique (by simp [delete])⟩

@[simp] theorem mem_insertIgnore {t : KeyedTable key} {r r' : ρ} :
    r' ∈ t.insertIgnore r ↔ r' ∈ t ∨ (r' = r ∧ ∀ s ∈ t, key s ≠ key r) := by
  unfold insertIgnore
  split
  case isTrue h =>
    obtain ⟨s, hs, hk⟩ := List.mem_map.mp h
    exact ⟨Or.inl, fun h => h.elim id fun h => absurd hk (h.2 s hs)⟩
  case isFalse h =>
    have hfree : ∀ s ∈ t, key s ≠ key r := fun s hs hk => h (List.mem_map.mpr ⟨s, hs, hk⟩)
    have happend : r' ∈ (⟨t.rows ++ [r], nodup_append_row t.unique h⟩ : KeyedTable key) ↔
        r' ∈ t ∨ r' = r := by simp [mem_iff]
    rw [happend]
    exact or_congr_right ⟨fun h => ⟨h, hfree⟩, And.left⟩

@[simp] theorem mem_insertReplace {t : KeyedTable key} {r r' : ρ} :
    r' ∈ t.insertReplace r ↔ r' = r ∨ (r' ∈ t ∧ key r' ≠ key r) := by
  simp [mem_iff, insertReplace, delete, or_comm]

/-- Replacing by many rows, when those of one key are the same. -/
theorem mem_foldl_insertReplace {t : KeyedTable key} {values : List ρ}
    (hsame : ∀ v ∈ values, ∀ w ∈ values, key v = key w → v = w) {r : ρ} :
    r ∈ values.foldl insertReplace t ↔ r ∈ values ∨ (r ∈ t ∧ ∀ v ∈ values, key v ≠ key r) := by
  induction values generalizing t with
  | nil => simp
  | cons v rest ih =>
    have hrest : ∀ w ∈ rest, ∀ w' ∈ rest, key w = key w' → w = w' := fun w hw w' hw' =>
      hsame w (List.mem_cons_of_mem v hw) w' (List.mem_cons_of_mem v hw')
    rw [List.foldl_cons, ih hrest, mem_insertReplace, List.mem_cons, List.forall_mem_cons]
    constructor
    · rintro (h | ⟨rfl | ⟨hr, hv⟩, hfree⟩)
      · exact Or.inl (Or.inr h)
      · exact Or.inl (Or.inl rfl)
      · exact Or.inr ⟨hr, Ne.symm hv, hfree⟩
    · rintro ((rfl | h) | ⟨hr, hv, hfree⟩)
      · by_cases hmem : r ∈ rest
        · exact Or.inl hmem
        · refine Or.inr ⟨Or.inl rfl, fun w hw hkey => hmem ?_⟩
          have hwr : w = r := hsame w (List.mem_cons_of_mem r hw) r (List.mem_cons_self ..) hkey
          exact hwr ▸ hw
      · exact Or.inl h
      · exact Or.inr ⟨Or.inr ⟨hr, Ne.symm hv⟩, hfree⟩

/-- The rows that satisfy `p` are changed, never in their keys. -/
def modify (t : KeyedTable key) (p : ρ → Bool) (f : ρ → ρ) (hf : ∀ r, key (f r) = key r) :
    KeyedTable key :=
  ⟨t.rows.map fun r => if p r then f r else r, by
    have hkeys : (key ∘ fun r => if p r then f r else r) = key := by
      funext r
      rw [Function.comp_apply, apply_ite key, hf, ite_self]
    rw [List.map_map, hkeys]
    exact t.unique⟩

omit [DecidableEq κ] in
@[simp] theorem mem_modify {t : KeyedTable key} {p : ρ → Bool} {f : ρ → ρ}
    {hf : ∀ r, key (f r) = key r} {r' : ρ} :
    r' ∈ t.modify p f hf ↔ ∃ r ∈ t, r' = if p r then f r else r := by
  simp only [mem_iff, modify, List.mem_map, eq_comm]

/-- The rows that satisfy `p` are changed, unless two rows would come to share a key. -/
def update? (t : KeyedTable key) (p : ρ → Bool) (f : ρ → ρ) : Option (KeyedTable key) :=
  if h : ((t.rows.map fun r => if p r then f r else r).map key).Nodup then
    some ⟨t.rows.map fun r => if p r then f r else r, h⟩
  else none

theorem mem_update? {t t' : KeyedTable key} {p : ρ → Bool} {f : ρ → ρ}
    (h : t.update? p f = some t') {r' : ρ} :
    r' ∈ t' ↔ ∃ r ∈ t, r' = if p r then f r else r := by
  unfold update? at h
  split at h
  · obtain rfl := Option.some.inj h
    simp only [mem_iff, List.mem_map, eq_comm]
  · cases h

/-- An update after which the keys still tell the rows apart. -/
theorem exists_update? {t : KeyedTable key} {p : ρ → Bool} {f : ρ → ρ}
    (h : ∀ r ∈ t, ∀ r' ∈ t, key (if p r then f r else r) = key (if p r' then f r' else r') → r = r') :
    ∃ t', t.update? p f = some t' := by
  have hrows : t.rows.Nodup := t.unique.of_map key
  have hkeys : ((t.rows.map fun r => if p r then f r else r).map key).Nodup := by
    rw [List.map_map]
    exact hrows.map_on h
  exact ⟨_, dif_pos hkeys⟩

/-! ### The row of a key -/

def row? (t : KeyedTable key) (k : κ) : Option ρ := t.rows.find? fun r => key r = k

theorem row?_eq_some_iff {t : KeyedTable key} {k : κ} {r : ρ} :
    t.row? k = some r ↔ r ∈ t ∧ key r = k := by
  apply Iff.intro
  · intro h
    have hk := List.find?_some h
    exact ⟨List.mem_of_find?_eq_some h, of_decide_eq_true hk⟩
  · intro h
    cases hfound : t.row? k with
    | none => exact absurd (decide_eq_true h.2) (List.find?_eq_none.mp hfound r h.1)
    | some r' =>
      have hk := List.find?_some hfound
      have hsame : key r' = key r := (of_decide_eq_true hk).trans h.2.symm
      rw [t.eq_of_key_eq (List.mem_of_find?_eq_some hfound) h.1 hsame]

@[simp] theorem row?_insertReplace (t : KeyedTable key) (r : ρ) (k : κ) :
    (t.insertReplace r).row? k = if key r = k then some r else t.row? k := by
  apply Option.ext
  intro r'
  rw [row?_eq_some_iff, mem_insertReplace]
  split
  case isTrue hk =>
    subst hk
    refine ⟨fun h => ?_, fun h => ?_⟩
    · rw [h.1.resolve_right fun hold => hold.2 h.2]
    · exact Option.some.inj h ▸ ⟨Or.inl rfl, rfl⟩
  case isFalse hk =>
    rw [row?_eq_some_iff]
    refine ⟨fun h => ?_, fun h => ⟨Or.inr ⟨h.1, fun hsame => hk (hsame ▸ h.2)⟩, h.2⟩⟩
    exact ⟨(h.1.resolve_left fun hr => hk (hr ▸ h.2)).1, h.2⟩

@[simp] theorem row?_delete_key (t : KeyedTable key) (k k' : κ) :
    (t.delete fun r => key r = k).row? k' = if k = k' then none else t.row? k' := by
  apply Option.ext
  intro r
  rw [row?_eq_some_iff, mem_delete, decide_eq_false_iff_not]
  split
  case isTrue hk => exact iff_of_false (fun h => h.1.2 (h.2.trans hk.symm)) (by simp)
  case isFalse hk =>
    rw [row?_eq_some_iff]
    exact ⟨fun h => ⟨h.1.1, h.2⟩, fun h => ⟨⟨h.1, fun hsame => hk (hsame.symm.trans h.2)⟩, h.2⟩⟩

/-- Either way some row with the inserted key is stored. -/
theorem exists_key_insertIgnore (t : KeyedTable key) (r : ρ) :
    ∃ r' ∈ t.insertIgnore r, key r' = key r := by
  by_cases h : ∃ s ∈ t, key s = key r
  · obtain ⟨s, hs, hk⟩ := h
    exact ⟨s, mem_insertIgnore.mpr (Or.inl hs), hk⟩
  · exact ⟨r, mem_insertIgnore.mpr (Or.inr ⟨rfl, fun s hs hk => h ⟨s, hs, hk⟩⟩), rfl⟩

end KeyedTable

end Library
