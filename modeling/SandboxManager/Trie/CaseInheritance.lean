import SandboxManager.Trie.Search
import SandboxManager.Library.LongestMatch

/-! Which directories of a trie ignore case.

The configuration is two lists of directories, applied one call of `SetCasePolicy`
after the other. A call walks its path as the trie folds it at that moment and sets
the node it ends in, so what the calls do can be said without a trie: each adds a
setting to a table (`configure`), the directory being the path folded where the
settings so far say so. The nodes of the trie are then the directories on the way to
the table's, and a node has its own directory's setting, false when there is none
(`Records`): `SetCasePolicy` lets nothing inherit.

`InsertPath` does. Whether every node ends up with the setting of the nearest
configured directory above it therefore depends on the two lists only
(`flagsFollow_iff`). -/
namespace SandboxManager.Trie
open Library KeyTree LongestMatch

/-! ### The settings the two lists make -/

structure CaseSetting where
  dir : List Bytes
  caseInsensitive : Bool
deriving DecidableEq, Repr

/-- The setting of a directory itself: the last one put in. -/
def ownSetting (settings : List CaseSetting) (dir : List Bytes) : Option Bool :=
  (settings.reverse.find? fun s => s.dir == dir).map CaseSetting.caseInsensitive

/-- The setting of the nearest configured directory, the directory itself included. -/
def nearestSetting (settings : List CaseSetting) (dir : List Bytes) : Option Bool :=
  (longest CaseSetting.dir dir settings).map CaseSetting.caseInsensitive

/-- The directory a path names, folded inside the directories set to ignore case. -/
def configuredDir (settings : List CaseSetting) (path : Bytes) : List Bytes :=
  canonicalAt (fun dir => (ownSetting settings dir).getD false) path

def configure (settings : List CaseSetting) (call : Bytes × Bool) : List CaseSetting :=
  settings ++ [⟨configuredDir settings call.1, call.2⟩]

/-- The calls of `InitTrieWithCaseSensitivity`, in order. -/
def caseCalls (caseInsensitivePaths caseSensitivePaths : List Bytes) : List (Bytes × Bool) :=
  caseInsensitivePaths.map (·, true) ++ caseSensitivePaths.map (·, false)

def caseSettings (caseInsensitivePaths caseSensitivePaths : List Bytes) : List CaseSetting :=
  (caseCalls caseInsensitivePaths caseSensitivePaths).foldl configure []

/-- A configured directory whose nearest configured one above ignores case is its child. -/
def DirectlyBelow (settings : List CaseSetting) : Prop :=
  ∀ s ∈ settings, ∀ above ∈ longest CaseSetting.dir s.dir.dropLast settings,
    above.caseInsensitive = true → above.dir = s.dir.dropLast

instance (settings : List CaseSetting) : Decidable (DirectlyBelow settings) :=
  inferInstanceAs (Decidable (∀ s ∈ settings, ∀ above ∈ longest CaseSetting.dir _ settings, _ → _))

theorem ownSetting_append (settings : List CaseSetting) (s : CaseSetting) (dir : List Bytes) :
    ownSetting (settings ++ [s]) dir =
      if s.dir = dir then some s.caseInsensitive else ownSetting settings dir := by
  by_cases h : s.dir = dir
  · simp [ownSetting, h]
  · simp [ownSetting, h]

/-- A directory with a setting of its own is its nearest configured one. -/
theorem longest_of_ownSetting {settings : List CaseSetting} {dir : List Bytes} {b : Bool}
    (h : ownSetting settings dir = some b) :
    longest CaseSetting.dir dir settings = some ⟨dir, b⟩ := by
  induction settings using List.reverseRecOn with
  | nil => cases h
  | append_singleton settings s ih =>
    rw [ownSetting_append] at h
    by_cases hdir : s.dir = dir
    · rw [if_pos hdir, Option.some.injEq] at h
      subst hdir h
      rw [longest_append_of_key (List.mem_singleton_self s)]
      simp [longest]
    · rw [if_neg hdir] at h
      have hlonger : longer CaseSetting.dir (some ⟨dir, b⟩) (longest CaseSetting.dir dir [s]) =
          some ⟨dir, b⟩ := by
        rw [longest, longest, longer_none]
        by_cases happ : s.dir <+: dir
        · have hne : s.dir.length ≠ dir.length := fun hlen => hdir (happ.eq_of_length hlen)
          have hlt := Nat.lt_of_le_of_ne happ.length_le hne
          rw [if_pos happ, longer_some, if_pos hlt]
        · rw [if_neg happ, longer_none]
      rw [longest_append, ih h, hlonger]

theorem ownSetting_isSome {settings : List CaseSetting} {s : CaseSetting} (h : s ∈ settings) :
    ∃ b, ownSetting settings s.dir = some b := by
  cases hfind : settings.reverse.find? fun s' => s'.dir == s.dir with
  | none => simpa using List.find?_eq_none.mp hfind s (List.mem_reverse.mpr h)
  | some s' => exact ⟨s'.caseInsensitive, by rw [ownSetting, hfind, Option.map_some]⟩

/-! ### What the configured trie records -/

/-- A trie's nodes and their flags are those of a table of settings. -/
structure Records (settings : List CaseSetting) (t : PolicyTrie) : Prop where
  flag : t.fieldAt NodeInfo.caseInsensitive false =
    fun a => (ownSetting settings a).getD false
  node : ∀ a, (t.infoAt a).isSome ↔ a = [] ∨ ∃ s ∈ settings, a <+: s.dir

theorem records_empty : Records [] .empty where
  flag := funext fun a => fieldAt_fresh NodeInfo.caseInsensitive {} a
  node a := by cases a <;> simp [PolicyTrie.empty, infoAt]

/-- **A call of `SetCasePolicy` adds its setting.** -/
theorem Records.setCasePolicy {settings : List CaseSetting} {t : PolicyTrie} (h : Records settings t)
    (call : Bytes × Bool) :
    Records (configure settings call) (setCasePolicy t call.1 call.2) := by
  have hfresh : ∀ v : NodeInfo, (fun _ => ({} : NodeInfo)) v = {} := fun _ => rfl
  have htrail : trail NodeInfo.caseInsensitive foldKey (fun _ => {}) t (splitPath call.1) =
      configuredDir settings call.1 := by
    rw [trail_default foldKey hfresh]
    exact congrArg (address foldKey · (splitPath call.1)) h.flag
  refine ⟨funext fun a => ?_, fun a => ?_⟩
  · have hgrow : (Trie.setCasePolicy t call.1 call.2).fieldAt NodeInfo.caseInsensitive false a =
        if trail NodeInfo.caseInsensitive foldKey (fun _ => {}) t (splitPath call.1) = a
          then call.2 else t.fieldAt NodeInfo.caseInsensitive false a :=
      fieldAt_grow_default foldKey (g := fun _ => call.2) hfresh (fun _ _ => rfl) (fun _ => rfl) t
        (splitPath call.1) a
    rw [htrail] at hgrow
    rw [configure, ownSetting_append]
    refine hgrow.trans ?_
    split
    · rfl
    · exact congrFun h.flag a
  · rw [Trie.setCasePolicy, isSome_infoAt_grow, htrail, h.node, configure]
    simp [or_assoc]

theorem Records.foldl_setCasePolicy {settings : List CaseSetting} {t : PolicyTrie}
    (h : Records settings t) (calls : List (Bytes × Bool)) :
    Records (calls.foldl configure settings)
      (calls.foldl (fun t call => Trie.setCasePolicy t call.1 call.2) t) := by
  induction calls generalizing settings t with
  | nil => exact h
  | cons call rest ih => exact ih (h.setCasePolicy call)

theorem records_init (insens sens : List Bytes) :
    Records (caseSettings insens sens) (initTrieWithCaseSensitivity insens sens) := by
  have htrie : initTrieWithCaseSensitivity insens sens =
      (caseCalls insens sens).foldl (fun t call => setCasePolicy t call.1 call.2) .empty := by
    rw [caseCalls, List.foldl_append, List.foldl_map, List.foldl_map]
    rfl
  rw [htrie]
  exact records_empty.foldl_setCasePolicy (caseCalls insens sens)

/-! ### What insertions leave -/

/-- The arguments of one call of `InsertPath`. -/
structure InsertCall where
  path : Bytes
  mode : UInt64
  preserveCase : Bool := false

def insertCalls (t : PolicyTrie) (calls : List InsertCall) : PolicyTrie :=
  calls.foldl (fun t call => insertPath t call.path call.mode call.preserveCase) t

theorem flags_of_infoAt {t : PolicyTrie} {a : List Bytes} {v : NodeInfo} (h : t.infoAt a = some v) :
    flags t a = v.caseInsensitive := reach_of_infoAt h

theorem flags_insertCall (t : PolicyTrie) (call : InsertCall) :
    flags (insertPath t call.path call.mode call.preserveCase) = flags t := by
  cases call.preserveCase with
  | false => exact flags_insertPath t call.path call.mode
  | true => exact flags_insertPreservingCase t call.path call.mode

theorem flags_insertCalls (t : PolicyTrie) (calls : List InsertCall) :
    flags (insertCalls t calls) = flags t := by
  induction calls generalizing t with
  | nil => rfl
  | cons call rest ih => exact (ih _).trans (flags_insertCall t call)

theorem isSome_infoAt_insertCalls {t : PolicyTrie} {a : List Bytes} (h : (t.infoAt a).isSome)
    (calls : List InsertCall) : ((insertCalls t calls).infoAt a).isSome := by
  induction calls generalizing t with
  | nil => exact h
  | cons call rest ih =>
    refine ih ?_
    simp only [insertPath, insertSegments, insertSegmentsPreserving]
    split <;> exact (isSome_infoAt_grow ..).mpr (Or.inl h)

/-! ### When every node has the nearest setting -/

/-- Every node has the setting of the nearest configured directory, false without one. -/
def FlagsFollow (settings : List CaseSetting) (t : PolicyTrie) : Prop :=
  ∀ a v, t.infoAt a = some v → v.caseInsensitive = (nearestSetting settings a).getD false

variable {settings : List CaseSetting} {t : PolicyTrie}

/-- Insertions neither repair the flags nor break them. -/
theorem Records.flagsFollow_insertCalls (h : Records settings t) (calls : List InsertCall) :
    FlagsFollow settings (insertCalls t calls) ↔ FlagsFollow settings t := by
  refine ⟨fun hfollow a v hv => ?_, fun hfollow a v hv => ?_⟩
  · obtain ⟨v', hv'⟩ := Option.isSome_iff_exists.mp
      (isSome_infoAt_insertCalls (Option.isSome_of_eq_some hv) calls)
    rw [← hfollow a v' hv', ← flags_of_infoAt hv, ← flags_of_infoAt hv', flags_insertCalls]
  · -- a node that was inserted has the flag, and the nearest setting, of the last one before it
    obtain ⟨b, w, hb, hw, hreach, hlast⟩ := exists_last_node NodeInfo.caseInsensitive t a
    have hnearest : nearestSetting settings a = nearestSetting settings b := by
      refine congrArg (Option.map _) (longest_congr fun s hs => ⟨fun hsa => ?_, fun hsb => hsb.trans hb⟩)
      have hnode := (h.node s.dir).mpr (Or.inr ⟨s, hs, List.prefix_refl _⟩)
      exact hlast s.dir hsa hnode
    rw [hnearest, ← hfollow b w hw, ← flags_of_infoAt hv, flags_insertCalls]
    exact hreach

/-- The flags of a configured trie are the nearest settings where no directory without a
setting stands below one that ignores case. -/
theorem Records.flagsFollow_iff_directlyBelow (h : Records settings t) :
    FlagsFollow settings t ↔ DirectlyBelow settings := by
  have hflag : ∀ a v, t.infoAt a = some v → v.caseInsensitive = (ownSetting settings a).getD false := by
    intro a v hv
    rw [← congrFun h.flag a, fieldAt_eq, hv]
    rfl
  have hoccupied := @occupied_iff _ _ _ CaseSetting.dir settings
    fun s => s.caseInsensitive = true
  refine Iff.trans ⟨fun hfollow a f above hf ha habove htrue => ?_, fun hplaced a v hv => ?_⟩
    hoccupied
  · obtain ⟨v, hv⟩ := Option.isSome_iff_exists.mp ((h.node a).mpr (Or.inr ⟨f, hf, ha⟩))
    have hset := (hflag a v hv).symm.trans (hfollow a v hv)
    rw [nearestSetting, habove, Option.map_some, Option.getD_some, htrue] at hset
    cases hown : ownSetting settings a with
    | none => simp [hown] at hset
    | some b =>
      have hlongest := longest_of_ownSetting hown
      rw [habove, Option.some.injEq] at hlongest
      exact congrArg CaseSetting.dir hlongest
  · rw [hflag a v hv]
    cases hown : ownSetting settings a with
    | some b => rw [nearestSetting, longest_of_ownSetting hown]; rfl
    | none =>
      cases habove : longest CaseSetting.dir a settings with
      | none => rw [nearestSetting, habove]; rfl
      | some above =>
        rw [nearestSetting, habove, Option.map_some, Option.getD_some, Option.getD_none]
        obtain ⟨hmem, happ⟩ := applies_of_longest habove
        by_contra hne
        have htrue : above.caseInsensitive = true := by simpa using Ne.symm hne
        have hdir : above.dir = a := by
          rcases (h.node a).mp (Option.isSome_of_eq_some hv) with rfl | hbelow
          · exact List.prefix_nil.mp happ
          · obtain ⟨f, hf, ha⟩ := hbelow
            exact hplaced a f above hf ha habove htrue
        obtain ⟨b, hb⟩ := ownSetting_isSome hmem
        rw [hdir, hown] at hb
        cases hb

/-- **Every node of every trie filled from the two lists has its nearest setting exactly when
the lists leave no directory out below one that ignores case.** -/
theorem flagsFollow_iff (insens sens : List Bytes) (calls : List InsertCall) :
    FlagsFollow (caseSettings insens sens)
        (insertCalls (initTrieWithCaseSensitivity insens sens) calls) ↔
      DirectlyBelow (caseSettings insens sens) := by
  have h := records_init insens sens
  rw [h.flagsFollow_insertCalls calls, h.flagsFollow_iff_directlyBelow]

/-- `docs` has no setting of its own and is made case-sensitive below currentUser. -/
theorem flags_not_inherited : ¬ ∀ (insens sens : List Bytes) (calls : List InsertCall),
    FlagsFollow (caseSettings insens sens)
      (insertCalls (initTrieWithCaseSensitivity insens sens) calls) := by
  intro h
  have hdocs := h [CURRENT_USER] [APPDATA, bytes "/storage/Users/currentUser/docs/private"] []
    (currentUserDir ++ [bytes "docs"]) {} (by decide +kernel)
  exact absurd hdocs (by decide +kernel)

example : DirectlyBelow (caseSettings [CURRENT_USER] [APPDATA]) := by decide +kernel

end SandboxManager.Trie
