import SandboxManager.Claw.Mounts

/-! What a mount does to the places that are read-only.

A remount sets one flag, a bind mount puts one mount at its target and one for each mount below
its source; a place changes its flag only if it comes to belong to one of these. So whether the
read-only places below a root stay so is settled at the targets: by the flag before and the
flag put there (`remountTop_keeps_iff`, `bound_keeps_iff`). -/
namespace SandboxManager.Claw
open Library LongestMatch

theorem readOnlyAt_iff {mounts : List Mount} {place : Place} :
    readOnlyAt mounts place = true ↔ Holds Mount.place (fun m => m.readOnly = true) mounts place := by
  simp [readOnlyAt, Holds, Option.any_eq_true]

theorem readOnlyAt_of_longest {mounts : List Mount} {place : Place} {mount : Mount}
    (h : longest Mount.place place mounts = some mount) :
    readOnlyAt mounts place = mount.readOnly := by simp [readOnlyAt, h]

/-- What is read-only below the root stays read-only. -/
def KeepsReadOnly (root : Place) (mounts mounts' : List Mount) : Prop :=
  ∀ place, root <+: place → readOnlyAt mounts place = true → readOnlyAt mounts' place = true

namespace KeepsReadOnly
variable {root : Place} {mounts mounts' mounts'' : List Mount}

theorem refl (root : Place) (mounts : List Mount) : KeepsReadOnly root mounts mounts :=
  fun _ _ h => h

theorem trans (h : KeepsReadOnly root mounts mounts') (h' : KeepsReadOnly root mounts' mounts'') :
    KeepsReadOnly root mounts mounts'' :=
  fun place hroot hro => h' place hroot (h place hroot hro)

/-- It is enough to look at the places of new mounts. -/
theorem append_iff {new : List Mount} (hroot : ∃ m ∈ mounts, m.place = root) :
    KeepsReadOnly root mounts (mounts ++ new) ↔
      ∀ m ∈ new, root <+: m.place → readOnlyAt mounts m.place = true →
        readOnlyAt (mounts ++ new) m.place = true := by
  simp only [KeepsReadOnly, readOnlyAt_iff]
  exact survives_iff hroot

end KeepsReadOnly

section
variable {root place : Place} {readOnly : Bool} {mounts mounts' : List Mount}

/-! ### Remounting -/

theorem remountTop_eq_none_iff :
    remountTop place readOnly mounts = none ↔ ∀ m ∈ mounts, m.place ≠ place := by
  induction mounts with
  | nil => simp [remountTop]
  | cons mount rest ih =>
    rw [remountTop]
    cases h : remountTop place readOnly rest with
    | none =>
      have hrest := ih.mp h
      simp only [List.forall_mem_cons]
      by_cases hplace : mount.place = place
      · simp [hplace]
      · simpa [hplace] using hrest
    | some rest' =>
      have hrest : ¬ ∀ m ∈ rest, m.place ≠ place := fun hall => by simp [ih.mpr hall] at h
      simp only [List.forall_mem_cons, reduceCtorEq, false_iff]
      exact fun hall => hrest hall.2

/-- The last mount at the place gets the flag, and nothing else changes. -/
theorem remountTop_append {before after : List Mount} {mount : Mount}
    (hafter : ∀ m ∈ after, m.place ≠ mount.place) :
    remountTop mount.place readOnly (before ++ mount :: after) =
      some (before ++ { mount with readOnly } :: after) := by
  induction before with
  | nil =>
    rw [List.nil_append, remountTop, remountTop_eq_none_iff.mpr hafter]
    simp
  | cons first before ih => rw [List.cons_append, remountTop, ih, List.cons_append]

theorem exists_of_remountTop (h : remountTop place readOnly mounts = some mounts') :
    ∃ before mount after, mounts = before ++ mount :: after ∧ mount.place = place ∧
      (∀ m ∈ after, m.place ≠ mount.place) ∧ mounts' = before ++ { mount with readOnly } :: after := by
  induction mounts generalizing mounts' with
  | nil => simp [remountTop] at h
  | cons first rest ih =>
    rw [remountTop] at h
    cases hrest : remountTop place readOnly rest with
    | none =>
      rw [hrest] at h
      have hnone := remountTop_eq_none_iff.mp hrest
      by_cases hplace : first.place = place
      · simp only [hplace, if_true, Option.some.injEq] at h
        exact ⟨[], first, rest, rfl, hplace, hplace ▸ hnone, by simp [← h, hplace]⟩
      · simp [hplace] at h
    | some rest' =>
      simp only [hrest, Option.some.injEq] at h
      obtain ⟨before, mount, after, rfl, hplace, hafter, rfl⟩ := ih hrest
      exact ⟨first :: before, mount, after, rfl, hplace, hafter, h.symm⟩

/-- **A remount keeps what is read-only unless it makes a read-only place writable.** -/
theorem remountTop_keeps_iff (hroot : ∃ m ∈ mounts, m.place = root)
    (h : remountTop place readOnly mounts = some mounts') :
    KeepsReadOnly root mounts mounts' ↔
      (readOnly = false → root <+: place → readOnlyAt mounts place = false) := by
  obtain ⟨before, mount, after, rfl, rfl, hafter, rfl⟩ := exists_of_remountTop h
  -- setting the flag decides like one more mount at the place
  have hadd : KeepsReadOnly root (before ++ mount :: after)
        (before ++ { mount with readOnly } :: after) ↔
      KeepsReadOnly root (before ++ mount :: after)
        (before ++ mount :: after ++ [{ mount with readOnly }]) := by
    have hsame : ∀ place, readOnlyAt (before ++ { mount with readOnly } :: after) place =
        readOnlyAt (before ++ mount :: after ++ [{ mount with readOnly }]) place := by
      intro place
      have hlongest := @longest_replace _ _ _ Mount.place mount before after
        { mount with readOnly } rfl hafter place
      rw [readOnlyAt, readOnlyAt, hlongest]
    simp only [KeepsReadOnly, hsame]
  have hthere : readOnlyAt (before ++ mount :: after ++ [{ mount with readOnly }]) mount.place =
      readOnly := by
    have hkey : longest Mount.place mount.place
          (before ++ mount :: after ++ [{ mount with readOnly }]) =
        longest Mount.place mount.place [{ mount with readOnly }] :=
      longest_append_of_key (List.mem_singleton_self { mount with readOnly }) _
    rw [readOnlyAt, hkey]
    simp [longest]
  rw [hadd, KeepsReadOnly.append_iff hroot]
  simp only [List.forall_mem_singleton, hthere]
  cases readOnly with
  | true => simp
  | false => simp

theorem exists_mount_of_remountTop (h : remountTop place readOnly mounts = some mounts')
    (hroot : ∃ m ∈ mounts, m.place = root) : ∃ m ∈ mounts', m.place = root := by
  obtain ⟨before, mount, after, rfl, rfl, _, rfl⟩ := exists_of_remountTop h
  obtain ⟨m, hm, hplace⟩ := hroot
  simp only [List.mem_append, List.mem_cons] at hm ⊢
  rcases hm with hm | rfl | hm
  · exact ⟨m, Or.inl hm, hplace⟩
  · exact ⟨_, Or.inr (Or.inl rfl), hplace⟩
  · exact ⟨m, Or.inr (Or.inr hm), hplace⟩

end

/-! ### Bind mounts -/

/-- The mounts that a bind mount puts in place, the first one with the flag it has in the end. -/
def bound (columns : Place → Bytes × Bytes) (source target : Place) (readOnly : Bool)
    (mounts : List Mount) : List Mount :=
  ⟨target, readOnly, (columns target).1, (columns target).2⟩ ::
    (mounts.filter (below source)).map (repeated columns source target)

section
variable {columns : Place → Bytes × Bytes} {root source target rest : Place} {readOnly : Bool}
  {mounts : List Mount} {top mount : Mount}

theorem below_iff : below source mount = true ↔ ∃ rest, rest ≠ [] ∧ mount.place = source ++ rest := by
  simp only [below, decide_eq_true_eq]
  constructor
  · intro h
    obtain ⟨rest, hrest⟩ := h.1
    exact ⟨rest, fun hnil => h.2 (by simp [← hrest, hnil]), hrest.symm⟩
  · intro h
    obtain ⟨rest, hne, hrest⟩ := h
    simp [hrest, hne]

theorem place_repeated (h : mount.place = source ++ rest) :
    (repeated columns source target mount).place = target ++ rest := by
  simp [repeated, h]

theorem mem_bound {m : Mount} (h : m ∈ bound columns source target readOnly mounts) :
    ∃ rest, m.place = target ++ rest ∧ (rest = [] ∨ ∃ m ∈ mounts, m.place = source ++ rest) := by
  rcases List.mem_cons.mp h with rfl | h
  · exact ⟨[], (List.append_nil target).symm, Or.inl rfl⟩
  · obtain ⟨m', hm', rfl⟩ := List.mem_map.mp h
    obtain ⟨hmem, hbelow⟩ := List.mem_filter.mp hm'
    obtain ⟨rest, _, hrest⟩ := below_iff.mp hbelow
    exact ⟨rest, place_repeated hrest, Or.inr ⟨m', hmem, hrest⟩⟩

/-- What is repeated stands below the target, so the target belongs to the first of the mounts. -/
theorem readOnlyAt_bound_target :
    readOnlyAt (mounts ++ bound columns source target readOnly mounts) target = readOnly := by
  have hkey : longest Mount.place target (mounts ++ bound columns source target readOnly mounts) =
      longest Mount.place target (bound columns source target readOnly mounts) :=
    longest_append_of_key (e := ⟨target, readOnly, (columns target).1, (columns target).2⟩)
      (List.mem_cons_self ..) mounts
  have hnone : longest Mount.place target
      ((mounts.filter (below source)).map (repeated columns source target)) = none := by
    refine longest_eq_none_iff.mpr fun m hm hprefix => ?_
    obtain ⟨m', hm', rfl⟩ := List.mem_map.mp hm
    obtain ⟨rest, hne, hrest⟩ := below_iff.mp (List.mem_filter.mp hm').2
    have hlen := hprefix.length_le
    rw [place_repeated hrest, List.length_append] at hlen
    exact hne (List.length_eq_zero_iff.mp (by omega))
  rw [readOnlyAt, hkey, bound, longest, hnone]
  simp

/-- Where a mount below the source is repeated, the flag is the one below the source. -/
theorem readOnlyAt_bound_below (hmem : mount ∈ mounts) (hplace : mount.place = source ++ rest)
    (hne : rest ≠ []) :
    readOnlyAt (mounts ++ bound columns source target readOnly mounts) (target ++ rest) =
      readOnlyAt mounts (source ++ rest) := by
  obtain ⟨best, hbest, hle⟩ := exists_longest hmem (List.prefix_refl mount.place)
  rw [hplace] at hbest hle
  have hbelow : best.place = source ++ rest :=
    (applies_of_longest hbest).2.eq_of_length_le hle
  have hfilter : longest Mount.place (source ++ rest) (mounts.filter (below source)) = some best :=
    longest_filter hbest (below_iff.mpr ⟨rest, hne, hbelow⟩)
  have hmoved : longest Mount.place (target ++ rest)
      ((mounts.filter (below source)).map (repeated columns source target)) =
        some (repeated columns source target best) := by
    rw [longest_map (a := source) rest, hfilter, Option.map_some]
    intro m hm
    obtain ⟨k, _, hk⟩ := below_iff.mp (List.mem_filter.mp hm).2
    exact ⟨k, hk, place_repeated hk⟩
  have hthere := applies_of_longest hmoved
  have hkey : longest Mount.place (target ++ rest)
      (mounts ++ bound columns source target readOnly mounts) =
        some (repeated columns source target best) := by
    have happend : longest Mount.place _ _ = longest Mount.place _ _ :=
      longest_append_of_key hthere.1
        (mounts ++ [⟨target, readOnly, (columns target).1, (columns target).2⟩])
    rw [place_repeated hbelow, hmoved, List.append_assoc] at happend
    exact happend
  rw [readOnlyAt_of_longest hkey, readOnlyAt_of_longest hbest]
  rfl

/-- **A bind mount keeps what is read-only unless it puts a writable mount where it was not.** -/
theorem bound_keeps_iff (hroot : ∃ m ∈ mounts, m.place = root)
    (htop : longest Mount.place source mounts = some top) :
    KeepsReadOnly root mounts
        (mounts ++ bound columns source target (readOnly || top.readOnly) mounts) ↔
      ∀ rest, (rest = [] ∨ ∃ m ∈ mounts, m.place = source ++ rest) → root <+: target ++ rest →
        readOnlyAt mounts (target ++ rest) = true →
          readOnlyAt mounts (source ++ rest) = true ∨ rest = [] ∧ readOnly = true := by
  have hsource := readOnlyAt_of_longest htop
  -- the flag a place gets that one of the mounts is put at
  have hflag : ∀ rest, (rest = [] ∨ ∃ m ∈ mounts, m.place = source ++ rest) →
      (readOnlyAt (mounts ++ bound columns source target (readOnly || top.readOnly) mounts)
          (target ++ rest) = true ↔
        readOnlyAt mounts (source ++ rest) = true ∨ rest = [] ∧ readOnly = true) := by
    intro rest hrest
    by_cases hnil : rest = []
    · rw [hnil, List.append_nil, List.append_nil, readOnlyAt_bound_target, hsource]
      simp [or_comm]
    · obtain ⟨m, hm, hplace⟩ := hrest.resolve_left hnil
      rw [readOnlyAt_bound_below hm hplace hnil]
      simp [hnil]
  rw [KeepsReadOnly.append_iff hroot]
  constructor
  · intro h rest hrest hbelow hro
    obtain ⟨m, hm, hplace⟩ : ∃ m ∈ bound columns source target (readOnly || top.readOnly) mounts,
        m.place = target ++ rest := by
      by_cases hnil : rest = []
      · exact ⟨_, List.mem_cons_self .., by simp [hnil]⟩
      · obtain ⟨m, hm, hplace⟩ := hrest.resolve_left hnil
        have hfilter := List.mem_filter.mpr ⟨hm, below_iff.mpr ⟨rest, hnil, hplace⟩⟩
        exact ⟨_, List.mem_cons_of_mem _ (List.mem_map_of_mem hfilter), place_repeated hplace⟩
    have hkept := h m hm
    rw [hplace] at hkept
    exact (hflag rest hrest).mp (hkept hbelow hro)
  · intro h m hm hbelow hro
    obtain ⟨rest, hplace, hrest⟩ := mem_bound hm
    rw [hplace] at hbelow hro ⊢
    exact (hflag rest hrest).mpr (h rest hrest hbelow hro)

end

end SandboxManager.Claw
