import SandboxManager.Claw.LegalPolicy
import SandboxManager.Claw.Template

/-! What a template that loads says, and what is wrong with one that does not.

A template loads exactly where its strict sections are of the right types (`LegalTemplate`), and
then says what stands in it (`templateOf`). Where it does not load, the line that is printed names
a place of the tree, found again by following the names and numbers in it (`Located`), and what
stands there is not what the line says it must be (`Mistyped`). -/
namespace SandboxManager.Claw
open Library MountPhase

/-! ### Places -/

/-- Where a path of the form `a.b[2].c` leads from the root. -/
inductive Located (root : Json) : Bytes → Json → Prop
  | top {name : Bytes} {item : Json} (h : root.getObjectItem name = some item) :
      Located root name item
  | member {path name : Bytes} {node item : Json} (hpath : Located root path node)
      (h : node.getObjectItem name = some item) : Located root (memberField path name) item
  | item {path : Bytes} {items : List Json} {i : Nat} {item : Json}
      (hpath : Located root path (.array items)) (h : items[i]? = some item) :
      Located root (itemField path i) item

inductive Kind where
  | object
  | array
  | string
  | boolean
  | nonEmptyString

def Kind.words : Kind → Bytes
  | .object => bytes "an object"
  | .array => bytes "an array"
  | .string => bytes "a string"
  | .boolean => bytes "a boolean"
  | .nonEmptyString => bytes "a non-empty string"

def Kind.Fits : Kind → Json → Prop
  | .object, item => item.isObject = true
  | .array, item => ∃ items, item = .array items
  | .string, item => ∃ text, textOfItem item = some text
  | .boolean, item => ∃ value, item = .bool value
  | .nonEmptyString, item => ∃ text, textOfItem item = some text ∧ text ≠ []

/-- The field that is blamed is there and is not what it must be. -/
def Mistyped (root : Json) (error : TemplateError) : Prop :=
  ∃ kind item, error.expected = Kind.words kind ∧ Located root error.field item ∧ ¬ kind.Fits item

theorem mistyped {root item : Json} {field : Bytes} (kind : Kind) (h : Located root field item)
    (hfits : ¬ kind.Fits item) : Mistyped root ⟨field, kind.words⟩ := ⟨kind, item, rfl, h, hfits⟩

/-! ### Fields -/

section
variable {root node item : Json} {field path : Bytes}

/-- Each item is read, and the first that is not is blamed by its number. -/
theorem parseItems_checks {α : Type} (field expected : Bytes) (read : Json → Option α) (i : Nat)
    (items : List Json) :
    Checks (parseItems field expected read i items) (∀ item ∈ items, (read item).isSome)
      (items.filterMap read) := by
  induction items generalizing i with
  | nil => exact (Checks.ok []).iff (by simp)
  | cons item items ih =>
    rw [parseItems, List.forall_mem_cons, List.filterMap_cons]
    cases read item with
    | none => exact Checks.error _ (by simp) _
    | some value => exact ((ih (i + 1)).map fun values => value :: values).iff (by simp)

theorem parseItems_blames {α : Type} {read : Json → Option α} {kind : Kind}
    (hkind : ∀ item, read item = none → ¬ kind.Fits item) {items : List Json}
    (h : Located root field (.array items)) (i : Nat) {left : List Json} (hleft : items.drop i = left) :
    Blames (Mistyped root) (parseItems field kind.words read i left) := by
  induction left generalizing i with
  | nil => exact Blames.ok []
  | cons item left ih =>
    have hitem : items[i]? = some item := by
      rw [← List.head?_drop, hleft, List.head?_cons]
    rw [parseItems]
    cases hread : read item with
    | none => exact Blames.error (mistyped kind (h.item hitem) (hkind item hread))
    | some value =>
      refine (ih (i + 1) ?_).bind fun values _ => Blames.ok _
      rw [← List.drop_drop, hleft, List.drop_succ_cons, List.drop_zero]

theorem textOfItem_eq_none (item : Json) (h : textOfItem item = none) : ¬ Kind.string.Fits item :=
  fun hfits => by
    obtain ⟨text, htext⟩ := hfits
    rw [h] at htext
    cases htext

theorem parseTemplateStringArray_blames (h : Located root field node) :
    Blames (Mistyped root) (parseTemplateStringArray node field) := by
  cases node with
  | array items => exact parseItems_blames textOfItem_eq_none h 0 rfl
  | _ => exact Blames.error (mistyped .array h fun hfits => by
      obtain ⟨_, hfits⟩ := hfits
      cases hfits)

/-- An array of texts at a member that may be absent. -/
theorem optionalArray_checks (item : Json) (key field : Bytes) :
    Checks (match item.getObjectItem key with
        | none => Except.ok []
        | some node => parseTemplateStringArray node field)
      (TextsAt (fun _ => True) item key) (stringsAt item key) := by
  unfold TextsAt stringsAt
  cases item.getObjectItem key with
  | none => exact (Checks.ok []).iff (by simp)
  | some node =>
    cases node with
    | array items =>
      refine (parseItems_checks field _ textOfItem 0 items).iff ?_
      simp [textOfItem, Option.isSome_iff_exists]
    | _ => exact Checks.error _ (by simp) _

theorem parseOptionalTemplateArray_blames (h : Located root path item) (field : Bytes) :
    Blames (Mistyped root) (parseOptionalTemplateArray item field path) := by
  unfold parseOptionalTemplateArray
  cases hnode : item.getObjectItem field with
  | none => exact Blames.ok []
  | some node => exact parseTemplateStringArray_blames (h.member hnode)

/-- The field is absent, or a text. -/
def TextAt (item : Json) (field : Bytes) : Prop :=
  ∀ node, item.getObjectItem field = some node → ∃ text, textOfItem node = some text

def fieldText (item : Json) (field : Bytes) : Bytes :=
  ((item.getObjectItem field).bind textOfItem).getD []

theorem parseOptionalTemplateString_checks (item : Json) (field path : Bytes) :
    Checks (parseOptionalTemplateString item field path) (TextAt item field) (fieldText item field) := by
  unfold parseOptionalTemplateString TextAt fieldText
  cases item.getObjectItem field with
  | none => exact (Checks.ok []).iff (by simp)
  | some node =>
    rw [Option.bind_some]
    dsimp only
    cases htext : textOfItem node with
    | none => exact Checks.error _ (by simp [htext]) _
    | some text => exact (Checks.ok text).iff (by simp [htext])

theorem parseOptionalTemplateString_blames (h : Located root path item) (field : Bytes) :
    Blames (Mistyped root) (parseOptionalTemplateString item field path) := by
  unfold parseOptionalTemplateString
  cases hnode : item.getObjectItem field with
  | none => exact Blames.ok []
  | some node =>
    dsimp only
    cases htext : textOfItem node with
    | none => exact Blames.error (mistyped .string (h.member hnode) (textOfItem_eq_none node htext))
    | some text => exact Blames.ok text

/-- The field is absent, or true or false. -/
def BoolAt (item : Json) (field : Bytes) : Prop :=
  ∀ node, item.getObjectItem field = some node → ∃ value, node = .bool value

def boolAt (item : Json) (field : Bytes) (value : Bool) : Bool :=
  match item.getObjectItem field with
  | some (.bool value) => value
  | _ => value

theorem parseOptionalTemplateBool_checks (item : Json) (field path : Bytes) (value : Bool) :
    Checks (parseOptionalTemplateBool item field path value) (BoolAt item field)
      (boolAt item field value) := by
  unfold parseOptionalTemplateBool BoolAt boolAt
  cases item.getObjectItem field with
  | none => exact (Checks.ok value).iff (by simp)
  | some node =>
    cases node with
    | bool value => exact (Checks.ok value).iff (by simp)
    | _ => exact Checks.error _ (by simp) _

theorem parseOptionalTemplateBool_blames (h : Located root path item) (field : Bytes) (value : Bool) :
    Blames (Mistyped root) (parseOptionalTemplateBool item field path value) := by
  unfold parseOptionalTemplateBool
  cases hnode : item.getObjectItem field with
  | none => exact Blames.ok value
  | some node =>
    cases node with
    | bool value => exact Blames.ok value
    | _ => exact Blames.error (mistyped .boolean (h.member hnode) fun hfits => by
        obtain ⟨_, hfits⟩ := hfits
        cases hfits)

/-! ### Conditional rules -/

structure LegalRule (item : Json) : Prop where
  object : item.isObject = true
  target : TextAt item (bytes "target")
  source : TextAt item (bytes "source")
  mountFlags : TextsAt (fun _ => True) item (bytes "mount-flags")
  permissions : TextsAt (fun _ => True) item (bytes "permissions")
  checkExists : BoolAt item (bytes "check-exists")

/-- A rule that does not say otherwise checks that its source exists. -/
def templateRuleOf (item : Json) : TemplateRule where
  source := fieldText item (bytes "source")
  target := fieldText item (bytes "target")
  permissions := stringsAt item (bytes "permissions")
  mountFlags := stringsAt item (bytes "mount-flags")
  checkExists := boolAt item (bytes "check-exists") true

theorem parseConditionalRule_checks (item : Json) (path : Bytes) (hobject : item.isObject = true) :
    Checks (parseConditionalRule item path) (LegalRule item) (templateRuleOf item) := by
  have h : Checks (parseConditionalRule item path) _ (templateRuleOf item) :=
    (parseOptionalTemplateString_checks item (bytes "target") path).bind fun _ =>
      (parseOptionalTemplateString_checks item (bytes "source") path).bind fun _ =>
        (optionalArray_checks item (bytes "mount-flags") _).bind fun _ =>
          (optionalArray_checks item (bytes "permissions") _).bind fun _ =>
            (parseOptionalTemplateBool_checks item (bytes "check-exists") path true).map fun _ => _
  refine h.iff ⟨fun h => ?_, fun h => ⟨h.target, h.source, h.mountFlags, h.permissions,
    h.checkExists⟩⟩
  obtain ⟨htarget, hsource, hflags, hpermissions, hexists⟩ := h
  exact ⟨hobject, htarget, hsource, hflags, hpermissions, hexists⟩

theorem parseConditionalRule_blames (h : Located root path item) :
    Blames (Mistyped root) (parseConditionalRule item path) :=
  (parseOptionalTemplateString_blames h _).bind fun _ _ =>
    (parseOptionalTemplateString_blames h _).bind fun _ _ =>
      (parseOptionalTemplateArray_blames h _).bind fun _ _ =>
        (parseOptionalTemplateArray_blames h _).bind fun _ _ =>
          (parseOptionalTemplateBool_blames h _ _).bind fun _ _ => Blames.ok _

theorem parseConditionalItems_checks (i : Nat) (items : List Json) :
    Checks (parseConditionalItems i items) (∀ item ∈ items, LegalRule item)
      (items.map templateRuleOf) := by
  induction items generalizing i with
  | nil => exact (Checks.ok []).iff (by simp)
  | cons item items ih =>
    rw [parseConditionalItems, List.forall_mem_cons, List.map_cons]
    refine Checks.iff (Checks.guard _ fun hobject =>
      (parseConditionalRule_checks item _ (by simpa using hobject)).bind fun _ =>
        (ih (i + 1)).map fun rules => templateRuleOf item :: rules) ?_
    exact ⟨And.right, fun h => ⟨by simp [h.1.object], h⟩⟩

theorem parseConditionalItems_blames {items : List Json}
    (h : Located root (bytes "conditional") (.array items)) (i : Nat) {left : List Json}
    (hleft : items.drop i = left) : Blames (Mistyped root) (parseConditionalItems i left) := by
  induction left generalizing i with
  | nil => exact Blames.ok []
  | cons item left ih =>
    have hitem : items[i]? = some item := by
      rw [← List.head?_drop, hleft, List.head?_cons]
    rw [parseConditionalItems]
    split
    · exact Blames.error (mistyped .object (h.item hitem) (by simp [Kind.Fits, *]))
    · refine (parseConditionalRule_blames (h.item hitem)).bind fun rule _ =>
        (ih (i + 1) ?_).bind fun rules _ => Blames.ok _
      rw [← List.drop_drop, hleft, List.drop_succ_cons, List.drop_zero]

end

end SandboxManager.Claw
