import SandboxManager.Bytes
import SandboxManager.Library.Pieces

/-! Plain paths: absolute, and without an empty, `.` or `..` component. -/
namespace SandboxManager
open Library

def PlainName (w : Bytes) : Prop := w ≠ [] ∧ w ≠ bytes "." ∧ w ≠ bytes ".."

instance (w : Bytes) : Decidable (PlainName w) := inferInstanceAs (Decidable (_ ∧ _))

/-- The components of an absolute path: what stands after each slash. -/
def components (path : Bytes) : List Bytes := pieces slash path

structure PlainPath (path : Bytes) : Prop where
  absolute : path.head? = some slash
  plain : ∀ w ∈ components path, PlainName w

theorem PlainPath.segments_eq {path : Bytes} (h : PlainPath path) :
    segments slash path = components path :=
  segments_eq_pieces slash h.absolute fun w hw => (h.plain w hw).1

theorem PlainPath.eq_absolute {path : Bytes} (h : PlainPath path) :
    Library.absolute slash (components path) = path :=
  absolute_pieces slash h.absolute

theorem components_absolute {ws : List Bytes} (hws : ∀ w ∈ ws, slash ∉ w) :
    components (Library.absolute slash ws) = ws :=
  pieces_absolute slash hws

/-- A plain path does not end in a slash. -/
theorem PlainPath.getLast?_ne {path : Bytes} (h : PlainPath path) :
    path.getLast? ≠ some slash := by
  intro hlast
  obtain ⟨init, rfl⟩ := List.getLast?_eq_some_iff.mp hlast
  have hnil : [] ∈ components (init ++ [slash]) := by
    rw [components, pieces_concat_sep]
    simp
  exact (h.plain [] hnil).1 rfl

theorem components_ne_nil {path : Bytes} (h : path.head? = some slash) : components path ≠ [] := by
  obtain ⟨rest, rfl⟩ := List.head?_eq_some_iff.mp h
  rw [components, pieces_sep_cons]
  exact List.splitOn_ne_nil slash rest

/-- The components of a path after a prefix of it, from a slash on. -/
theorem components_append {path : Bytes} (h : path = [] ∨ path.head? = some slash) (pfx : Bytes) :
    components (pfx ++ path) = components pfx ++ components path :=
  pieces_append_of_head? slash h pfx

/-- Plain names are the components of a plain path. -/
theorem plainPath_absolute {ws : List Bytes} (hne : ws ≠ []) (hws : ∀ w ∈ ws, PlainName w ∧ slash ∉ w) :
    PlainPath (Library.absolute slash ws) := by
  refine ⟨?_, fun w hw => ?_⟩
  · obtain ⟨w, rest, rfl⟩ := List.exists_cons_of_ne_nil hne
    rfl
  · rw [components_absolute fun v hv => (hws v hv).2] at hw
    exact (hws w hw).1

end SandboxManager
