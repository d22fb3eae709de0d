import SandboxManager.Library.LongestMatch
import SandboxManager.Share.Isolation

/-! Which entry answers a lookup.

`FindPermission` takes the first entry that covers the path, in the order in which the
`unordered_map` is iterated. Configured directories may lie in one another; then the order shows,
unless the entries that cover the path share one mode (`orderFree_iff`). -/
namespace SandboxManager.Share
open Library LongestMatch

/-- What ends a configured path is a slash of the path or its end. -/
def configKey (entry : Bytes × UInt32) : Bytes := entry.1 ++ [slash]

/-- The mode of the longest configured path that is the path or followed by a slash in it. -/
def longestPermission (entries : List (Bytes × UInt32)) (path : Bytes) : UInt32 :=
  ((longest configKey (path ++ [slash]) entries).map Prod.snd).getD SHARE_PATH_UNSET

/-- The lookup answers so, however the entries are iterated. -/
def OrderFree (entries : PathPermissions) (path : Bytes) : Prop :=
  ∀ iterated : PathPermissions, iterated.rows.Perm entries.rows →
    ∀ (m : ShareMap) (bundleName : Bytes) (userId : UInt32), m bundleName userId = some iterated →
      findPermission m bundleName userId path = longestPermission entries.rows path

theorem coversString_iff (configPath path : Bytes) :
    Trie.coversString configPath path = true ↔ configPath ++ [slash] <+: path ++ [slash] := by
  rw [Trie.coversString, Bool.and_eq_true, Bool.or_eq_true, beq_iff_eq, beq_iff_eq,
    List.isPrefixOf_iff_prefix]
  apply Iff.intro
  · intro h
    obtain ⟨⟨rest, hrest⟩, hend⟩ := h
    subst hrest
    cases rest with
    | nil => rw [List.append_nil]
    | cons c rest =>
      have hslash : c = slash := by
        rcases hend with hlength | hc
        · rw [List.length_append, List.length_cons] at hlength
          omega
        · rw [List.getElem?_append_right (Nat.le_refl _), Nat.sub_self, List.getElem?_cons_zero] at hc
          exact Option.some.inj hc
      rw [hslash, List.append_assoc]
      exact (List.prefix_append_right_inj _).mpr ⟨rest ++ [slash], rfl⟩
  · intro hprefix
    rcases List.prefix_concat_iff.mp hprefix with heq | hshort
    · rw [List.append_cancel_right heq]
      exact ⟨List.prefix_refl _, Or.inl rfl⟩
    · obtain ⟨rest, rfl⟩ := hshort
      rw [List.append_assoc]
      refine ⟨List.prefix_append _ _, Or.inr ?_⟩
      rw [List.getElem?_append_right (Nat.le_refl _), Nat.sub_self]
      rfl

theorem covers_eq_applies (path : Bytes) :
    (fun entry : Bytes × UInt32 => Trie.coversString entry.1 path) =
      fun entry => decide (configKey entry <+: path ++ [slash]) := by
  funext entry
  rw [Bool.eq_iff_iff, coversString_iff, decide_eq_true_eq]
  rfl

theorem findPermission_eq {m : ShareMap} {bundleName : Bytes} {userId : UInt32}
    {iterated : PathPermissions} (h : m bundleName userId = some iterated) (path : Bytes) :
    findPermission m bundleName userId path =
      ((iterated.rows.find? fun entry => decide (configKey entry <+: path ++ [slash])).map
        Prod.snd).getD SHARE_PATH_UNSET := by
  simp only [findPermission, h, covers_eq_applies]
  cases iterated.rows.find? fun entry => decide (configKey entry <+: path ++ [slash]) with
  | none => rfl
  | some entry => rfl

/-- **A lookup does not depend on the order of the map** exactly where the entries that cover the
path are of one mode. -/
theorem orderFree_iff (entries : PathPermissions) (path : Bytes) :
    OrderFree entries path ↔
      ∀ e ∈ entries, ∀ e' ∈ entries, Trie.coversString e.1 path → Trie.coversString e'.1 path →
        e.2 = e'.2 := by
  simp only [coversString_iff]
  apply Iff.intro
  · intro hfree
    -- an entry that covers the path is met first in some order, and then it answers
    have hanswers : ∀ e ∈ entries, configKey e <+: path ++ [slash] →
        e.2 = longestPermission entries.rows path := by
      intro e he happ
      obtain ⟨order, horder, hfirst⟩ := exists_perm_find? (ε := Bytes × UInt32)
        (q := fun entry => decide (configKey entry <+: path ++ [slash])) he (decide_eq_true happ)
      have hunique : (order.map Prod.fst).Nodup := (horder.map Prod.fst).nodup_iff.mpr entries.unique
      have hanswer := hfree ⟨order, hunique⟩ horder (fun _ _ => some ⟨order, hunique⟩) [] 0 rfl
      rw [findPermission_eq rfl, hfirst] at hanswer
      exact hanswer
    intro e he e' he' happ happ'
    rw [hanswers e he happ, hanswers e' he' happ']
  · intro hsame iterated hperm m bundleName userId hm
    have hvalue : (iterated.rows.find? fun e => decide (configKey e <+: path ++ [slash])).map Prod.snd =
        (longest configKey (path ++ [slash]) entries.rows).map Prod.snd :=
      map_find?_eq_longest hsame hperm
    rw [findPermission_eq hm, longestPermission, hvalue]

/-! ### Nested directories -/

def scopeOf (path permission : String) : Json :=
  .object [(bytes "path", .string (bytes path)), (bytes "permission", .string (bytes permission))]

/-- A directory is shared for reading and one in it for writing too. -/
def nestedScopes : List Json := [scopeOf "/base/files" "r", scopeOf "/base/files/notes" "r+w"]

/-- What the profile leaves of the bundle for user 100, an entry going behind those there are. -/
def nestedEntries : PathPermissions :=
  ((scopeLoop silentEnv.order (bytes "com.notes") 100 nestedScopes 0 fun _ _ => none).1
    (bytes "com.notes") 100).getD KeyedTable.empty

def nestedFile : Bytes :=
  bytes "/storage/Users/currentUser/appdata/el2/base/com.notes/files/notes/a"

/-- The outer directory is met first, and the file in the inner one is shared for reading only. -/
theorem nested_not_orderFree :
    ¬ ∀ (entries : PathPermissions) (path : Bytes), OrderFree entries path := by
  intro h
  have hanswer := h nestedEntries nestedFile nestedEntries (List.Perm.refl _)
    (fun _ _ => some nestedEntries) (bytes "com.notes") 100 rfl
  revert hanswer
  decide +kernel

end SandboxManager.Share
