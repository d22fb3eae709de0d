import SandboxManager.Claw.PatternGrammar
import SandboxManager.Claw.OperationControl
import SandboxManager.Library.Recorded
import Mathlib.Data.List.Nodup

/-! Which rule groups are converted.

The kernel tells two objects apart by a key: the inode a path is bound to, its spelling where
there is no such file, and the suffix of a pattern (`KernelKey`). A group is to be converted when
its patterns are legal and no key of one operation comes with two actions (`Convertible`), and
its policy then has one rule an entry.

The parser compares keys as texts. A text is read back to its key but for one kind: the spelling
of a path and a suffix are joined by a line that either may contain, so two keys can be written
alike (`SpelledAlike`). -/
namespace SandboxManager.Claw
open Library Recorded

/-! ### Kernel keys -/

inductive KernelKey where
  | inode (st : Inode) (suffix : Bytes)
  | path (boundPath suffix : Bytes)
  | command (name : Bytes)
deriving DecidableEq

/-- The path an object binds and the suffix sent with it; a literal path has none. -/
def boundPattern (object : Bytes) : Option FilePattern :=
  if isWildcardPattern object then (parseFilePattern object).toOption else some ⟨object, []⟩

def kernelKey (lstat : Bytes → Option Inode) (object : Bytes) (itemType : PolicyItemType) :
    Option KernelKey :=
  if itemType ≠ .PATH then some (.command object)
  else (boundPattern object).map fun bound =>
    match lstat bound.pfx with
    | some st => .inode st bound.suffix
    | none => .path bound.pfx bound.suffix

def suffixLine : Bytes := bytes "\nsuffix:"

def KernelKey.text : KernelKey → Bytes
  | .inode st suffix =>
    bytes "inode:" ++ bytes (toString st.dev) ++ bytes ":" ++ bytes (toString st.ino) ++
      (suffixLine ++ suffix)
  | .path boundPath suffix => bytes "path:" ++ boundPath ++ (suffixLine ++ suffix)
  | .command name => bytes "cmd:" ++ name

/-- Two keys of files that do not exist, different but joined to one text. -/
def SpelledAlike (k k' : KernelKey) : Prop :=
  ∃ p s p' s', k = .path p s ∧ k' = .path p' s' ∧ k ≠ k' ∧
    p ++ (suffixLine ++ s) = p' ++ (suffixLine ++ s')

theorem objectIdentity_eq (lstat : Bytes → Option Inode) (object : Bytes)
    (itemType : PolicyItemType) :
    objectIdentity lstat object itemType = (kernelKey lstat object itemType).map KernelKey.text := by
  unfold objectIdentity kernelKey boundPattern
  by_cases hpath : itemType ≠ .PATH
  · rw [if_pos hpath, if_pos hpath]
    rfl
  · rw [if_neg hpath, if_neg hpath]
    by_cases hwildcard : isWildcardPattern object
    · simp only [if_pos hwildcard]
      cases (parseFilePattern object).toOption with
      | none => rfl
      | some bound =>
        simp only [Option.bind_eq_bind, Option.bind_some, Option.map_some]
        cases lstat bound.pfx <;> rfl
    · simp only [if_neg hwildcard, Option.bind_eq_bind, Option.bind_some, Option.map_some]
      cases lstat object <;> rfl

/-! ### The text of a key -/

theorem toNat_digit {n : Nat} {c : Char} (hc : c ∈ (toString n).toList) :
    48 ≤ c.toNat ∧ c.toNat ≤ 57 := by
  rw [Nat.toString_eq_repr, Nat.toList_repr] at hc
  exact Char.isDigit_iff_toNat.mp (Nat.isDigit_of_mem_toDigits (by decide) (by decide) hc)

/-- A number holds neither the end of a line nor a colon. -/
theorem notMem_bytes_toString {b : UInt8} (hb : b = 10 ∨ b = 58) (n : Nat) :
    b ∉ bytes (toString n) := by
  intro h
  obtain ⟨c, hc, rfl⟩ := List.mem_map.mp h
  have hdigit := toNat_digit hc
  simp only [← UInt8.toNat_inj, UInt8.toNat_ofNat', UInt8.reduceToNat] at hb
  omega

theorem toList_of_bytes (n : Nat) :
    (bytes (toString n)).map (fun b => Char.ofNat b.toNat) = (toString n).toList := by
  rw [bytes, List.map_map]
  refine (List.map_congr_left fun c hc => ?_).trans (List.map_id _)
  have hdigit := toNat_digit hc
  have hbyte : c.toNat % 2 ^ 8 = c.toNat := Nat.mod_eq_of_lt (by omega)
  simp only [Function.comp_apply, UInt8.toNat_ofNat', hbyte, id]
  exact Char.ofNat_toNat c

theorem bytes_toString_inj {m n : Nat} (h : bytes (toString m) = bytes (toString n)) : m = n := by
  have hlist := congrArg (List.map fun b : UInt8 => Char.ofNat b.toNat) h
  rw [toList_of_bytes, toList_of_bytes, Nat.toString_eq_repr, Nat.toString_eq_repr, Nat.toList_repr,
    Nat.toList_repr] at hlist
  simpa using congrArg (fun digits => Nat.ofDigitChars 10 digits 0) hlist

theorem inode_text_inj {st st' : Inode} {s s' : Bytes}
    (h : (KernelKey.inode st s).text = (KernelKey.inode st' s').text) : st = st' ∧ s = s' := by
  have hcolon : bytes ":" = [58] := by decide
  have hline : suffixLine = 10 :: bytes "suffix:" := by decide
  simp only [KernelKey.text, hcolon, hline, List.append_assoc, List.cons_append, List.nil_append,
    List.append_cancel_left_eq] at h
  obtain ⟨hdev, h⟩ := (append_sep_inj (notMem_bytes_toString (Or.inr rfl) st.dev.toNat)
    (notMem_bytes_toString (Or.inr rfl) st'.dev.toNat)).mp h
  obtain ⟨hino, h⟩ := (append_sep_inj (notMem_bytes_toString (Or.inl rfl) st.ino.toNat)
    (notMem_bytes_toString (Or.inl rfl) st'.ino.toNat)).mp h
  have hst : st = st' := by
    cases st
    cases st'
    simp only [Inode.mk.injEq]
    exact ⟨UInt64.toNat_inj.mp (bytes_toString_inj hdev), UInt64.toNat_inj.mp (bytes_toString_inj hino)⟩
  exact ⟨hst, List.append_cancel_left h⟩

/-- **Keys with one text are one key, but for those spelled alike.** -/
theorem text_eq_iff (k k' : KernelKey) : k.text = k'.text ↔ k = k' ∨ SpelledAlike k k' := by
  have hinode : bytes "inode:" = 105 :: bytes "node:" := by decide
  have hpath : bytes "path:" = 112 :: bytes "ath:" := by decide
  have hcmd : bytes "cmd:" = 99 :: bytes "md:" := by decide
  refine ⟨fun h => ?_, fun h => ?_⟩
  · cases k with
    | inode st s =>
      cases k' with
      | inode st' s' =>
        obtain ⟨rfl, rfl⟩ := inode_text_inj h
        exact Or.inl rfl
      | path p' s' => simp [KernelKey.text, hinode, hpath] at h
      | command name' => simp [KernelKey.text, hinode, hcmd] at h
    | path p s =>
      cases k' with
      | inode st' s' => simp [KernelKey.text, hinode, hpath] at h
      | path p' s' =>
        by_cases heq : KernelKey.path p s = .path p' s'
        · exact Or.inl heq
        · simp only [KernelKey.text, List.append_assoc, List.append_cancel_left_eq] at h
          exact Or.inr ⟨p, s, p', s', rfl, rfl, heq, h⟩
      | command name' => simp [KernelKey.text, hpath, hcmd] at h
    | command name =>
      cases k' with
      | inode st' s' => simp [KernelKey.text, hinode, hcmd] at h
      | path p' s' => simp [KernelKey.text, hpath, hcmd] at h
      | command name' => exact Or.inl (congrArg KernelKey.command (List.append_cancel_left h))
  · rcases h with rfl | h
    · rfl
    · obtain ⟨p, s, p', s', rfl, rfl, -, h⟩ := h
      simp only [KernelKey.text, List.append_assoc, h]

/-! ### Entries and their rules -/

/-- An operation's objects in order, each with its action. -/
def OperationActionSets.entries (op : OperationActionSets) : List (Bytes × PolicyAction) :=
  op.actionArrays.flatMap fun actionArray => actionArray.1.map (·, actionArray.2)

/-- No key comes with two actions. -/
def OperationActionSets.Agreed (lstat : Bytes → Option Inode) (op : OperationActionSets) : Prop :=
  ∀ x ∈ op.entries, ∀ y ∈ op.entries, ∀ k, kernelKey lstat x.1 op.itemType = some k →
    kernelKey lstat y.1 op.itemType = some k → x.2 = y.2

/-- Two entries under different actions have keys spelled alike. -/
def OperationActionSets.Confusable (lstat : Bytes → Option Inode) (op : OperationActionSets) : Prop :=
  ∃ x ∈ op.entries, ∃ y ∈ op.entries, x.2 ≠ y.2 ∧ ∃ k k', kernelKey lstat x.1 op.itemType = some k ∧
    kernelKey lstat y.1 op.itemType = some k' ∧ SpelledAlike k k'

structure RuleEntry where
  eventType : UInt32
  itemType : PolicyItemType
  object : Bytes
  action : PolicyAction

def OperationActionSets.ruleEntries (op : OperationActionSets) (eventType : UInt32) :
    List RuleEntry :=
  op.entries.map fun entry => ⟨eventType, op.itemType, entry.1, entry.2⟩

/-- A pattern among the paths is one the parser accepts. -/
def RuleEntry.Legal (entry : RuleEntry) : Prop :=
  entry.itemType = .PATH → isWildcardPattern entry.object = true →
    ∃ parsed, parseFilePattern entry.object = .ok parsed

instance (lstat : Bytes → Option Inode) (op : OperationActionSets) : Decidable (op.Agreed lstat) :=
  inferInstanceAs (Decidable (∀ x ∈ op.entries, ∀ y ∈ op.entries,
    ∀ k ∈ kernelKey lstat x.1 op.itemType, kernelKey lstat y.1 op.itemType = some k → x.2 = y.2))

instance (entry : RuleEntry) : Decidable entry.Legal :=
  decidable_of_iff (entry.itemType = .PATH → isWildcardPattern entry.object = true →
      (parseFilePattern entry.object).toOption.isSome) <| by
    unfold RuleEntry.Legal
    cases parseFilePattern entry.object <;> simp [Except.toOption]

/-- The rule of an entry: its action, its events, and its object as the kernel takes it. -/
inductive RuleFor : RuleEntry → PolicyRule → Prop
  | literal {eventType : UInt32} {action : PolicyAction} {path : Bytes}
      (h : isWildcardPattern path = false) :
      RuleFor ⟨eventType, .PATH, path, action⟩
        { action, eventType, objectRules := [[{ cmpType := .EQ, itemType := .PATH, path }]] }
  | pattern {eventType : UInt32} {action : PolicyAction} {path : Bytes} {parsed : FilePattern}
      (h : isWildcardPattern path = true) (hparsed : parseFilePattern path = .ok parsed) :
      RuleFor ⟨eventType, .PATH, path, action⟩
        { action, eventType
          objectRules := [[{ cmpType := .SUFFIX, itemType := .PATH, path := parsed.pfx
                             pathSuffix := parsed.suffix }]] }
  | command {eventType : UInt32} {action : PolicyAction} {cmd : Bytes} :
      RuleFor ⟨eventType, .CMD, cmd, action⟩
        { action, eventType, objectRules := [[{ cmpType := .EQ, itemType := .CMD, cmd }]] }

/-- A group's operations of a module, each with its events. -/
def PolicyRuleGroup.operations (group : PolicyRuleGroup) :
    PolicyOpType → List (OperationActionSets × UInt32)
  | .NETWORK => []
  | .FILE => group.fileRules.operations.map fun operation =>
      (operation.actionSets, operation.eventType)
  | .PROCESS => [(processActionSets group, POLICY_PROCESS_EVENT_EXEC)]

def PolicyRuleGroup.ruleEntries (group : PolicyRuleGroup) (module : PolicyOpType) :
    List RuleEntry :=
  (group.operations module).flatMap fun operation => operation.1.ruleEntries operation.2

def PolicyRuleGroup.defaultAction (group : PolicyRuleGroup) : PolicyOpType → PolicyAction
  | .NETWORK => group.networkRules.defaultAction
  | .FILE => group.fileRules.defaultAction
  | .PROCESS => group.processRules.defaultAction

/-- What a group is to be converted for. -/
structure PolicyRuleGroup.Acceptable (lstat : Bytes → Option Inode) (module : PolicyOpType)
    (group : PolicyRuleGroup) : Prop where
  legal : ∀ entry ∈ group.ruleEntries module, entry.Legal
  agreed : ∀ operation ∈ group.operations module, operation.1.Agreed lstat

/-- The policy of a group: its header, and one rule an entry in the order of the entries. -/
structure PolicyFor (module : PolicyOpType) (group : PolicyRuleGroup) (policy : OperationPolicy) :
    Prop where
  header : { policy with rules := [] } =
    { operationType := module, defaultAction := group.defaultAction module }
  rules : List.Forall₂ RuleFor (group.ruleEntries module) policy.rules

/-! ### The check of one operation -/

/-- The key text an entry is recorded under; an illegal pattern has none. -/
def keyedEntry (lstat : Bytes → Option Inode) (op : OperationActionSets)
    (entry : Bytes × PolicyAction) : Option (Bytes × PolicyAction) :=
  (objectIdentity lstat entry.1 op.itemType).map fun identity =>
    (op.opLabel ++ bytes ":" ++ identity, entry.2)

def OperationActionSets.keyed (lstat : Bytes → Option Inode) (op : OperationActionSets) :
    List (Bytes × PolicyAction) :=
  op.entries.filterMap (keyedEntry lstat op)

/-- A conflict was met exactly when the bindings seen are not consistent. -/
structure CheckedFor (bindings : List (Bytes × PolicyAction)) (check : ConflictCheck) : Prop where
  clash : check.conflicted = true → ¬ Consistent bindings
  table : check.conflicted = false → Represents check.objectAction bindings

section
variable (lstat : Bytes → Option Inode) (op : OperationActionSets)
  {bindings : List (Bytes × PolicyAction)} {check : ConflictCheck}

theorem CheckedFor.object (h : CheckedFor bindings check) (entry : Bytes × PolicyAction) :
    CheckedFor (bindings ++ (keyedEntry lstat op entry).toList)
      (checkObject lstat op entry.2 check entry.1) := by
  have hkeep : ∀ more, check.conflicted = true → ¬ Consistent (bindings ++ more) :=
    fun more hc hall => h.clash hc (hall.mono (List.subset_append_left bindings more))
  unfold checkObject keyedEntry
  cases objectIdentity lstat entry.1 op.itemType with
  | none => simpa using h
  | some identity =>
    simp only [Option.map_some, Option.toList_some]
    cases hlookup : check.objectAction.lookup (op.opLabel ++ bytes ":" ++ identity) with
    | none => exact ⟨hkeep _, fun hc => (h.table hc).learn hlookup entry.2⟩
    | some first =>
      by_cases hne : first ≠ entry.2
      · simp only [if_pos hne]
        refine ⟨fun _ => ?_, fun hc => absurd hc (by simp)⟩
        cases hc : check.conflicted with
        | true => exact hkeep _ hc
        | false => exact (h.table hc).clash hlookup hne
      · simp only [if_neg hne]
        obtain rfl := not_not.mp hne
        exact ⟨hkeep _, fun hc => (h.table hc).known hlookup⟩

theorem CheckedFor.objects (h : CheckedFor bindings check) (entries : List (Bytes × PolicyAction)) :
    CheckedFor (bindings ++ entries.filterMap (keyedEntry lstat op))
      (entries.foldl (fun check entry => checkObject lstat op entry.2 check entry.1) check) := by
  induction entries generalizing bindings check with
  | nil => simpa using h
  | cons entry rest ih =>
    have hrest := ih (h.object lstat op entry)
    rw [List.append_assoc] at hrest
    rw [List.foldl_cons, List.filterMap_cons]
    cases hkey : keyedEntry lstat op entry with
    | none => simpa [hkey] using hrest
    | some binding => simpa [hkey] using hrest

/-- The check of an operation on top of the ones before it. -/
theorem checkedFor_validate {objectAction : ObjectActions}
    (h : Represents objectAction bindings) (errors : List PolicyError) :
    CheckedFor (bindings ++ op.keyed lstat)
      (validateOperationActionConflict lstat op objectAction errors) := by
  have hstart : CheckedFor bindings { objectAction, errors } :=
    ⟨fun hc => absurd hc Bool.false_ne_true, fun _ => h⟩
  have hrun := hstart.objects lstat op op.entries
  rw [OperationActionSets.entries, List.foldl_flatMap] at hrun
  simp only [List.foldl_map] at hrun
  exact hrun

end

/-! ### The rules of one operation -/

/-- A step that adds the rules of some entries, or fails. -/
structure Appends (entries : List RuleEntry) (c c' : Conversion) : Prop where
  objectAction : c'.objectAction = c.objectAction
  ret : c'.ret = .SUCCESS ↔ c.ret = .SUCCESS ∧ ∀ entry ∈ entries, entry.Legal
  rules : c'.ret = .SUCCESS → ∃ rules, List.Forall₂ RuleFor entries rules ∧
    c'.policy = { c.policy with rules := c.policy.rules ++ rules }

namespace Appends
variable {entries more : List RuleEntry} {c c' c'' : Conversion}

theorem refl (c : Conversion) : Appends [] c c :=
  ⟨rfl, by simp, fun _ => ⟨[], List.Forall₂.nil, by rw [List.append_nil]⟩⟩

theorem trans (h : Appends entries c c') (h' : Appends more c' c'') :
    Appends (entries ++ more) c c'' := by
  refine ⟨h'.objectAction.trans h.objectAction, ?_, fun hret => ?_⟩
  · rw [h'.ret, h.ret, List.forall_mem_append, and_assoc]
  · obtain ⟨rules, hrules, hpolicy⟩ := h.rules (h'.ret.mp hret).1
    obtain ⟨rules', hrules', hpolicy'⟩ := h'.rules hret
    refine ⟨rules ++ rules', List.rel_append hrules hrules', ?_⟩
    rw [hpolicy', hpolicy, List.append_assoc]

theorem andThen {step : Conversion → Conversion} (h : Appends entries c (step c)) :
    Appends entries c (c.andThen step) := by
  unfold Conversion.andThen
  by_cases hret : c.ret = .SUCCESS
  · rwa [if_neg (not_not.mpr hret)]
  · rw [if_pos hret]
    exact ⟨rfl, by simp [hret], fun h => absurd h hret⟩

/-- Steps one after the other. -/
theorem foldl {ι : Type} {step : Conversion → ι → Conversion} {of : ι → List RuleEntry}
    (h : ∀ c i, Appends (of i) c (step c i)) (c : Conversion) (is : List ι) :
    Appends (is.flatMap of) c (is.foldl step c) := by
  induction is generalizing c with
  | nil => exact refl c
  | cons i rest ih => exact (h c i).trans (ih (step c i))

end Appends

theorem appends_fileRule (action : PolicyAction) (eventType : UInt32) (c : Conversion)
    (path : Bytes) :
    Appends [⟨eventType, .PATH, path, action⟩] c (convertFileRule action eventType c path) := by
  unfold convertFileRule buildFileRuleObject
  cases hwild : isWildcardPattern path with
  | false =>
    refine ⟨rfl, ?_, fun _ => ⟨_, .cons (.literal hwild) .nil, rfl⟩⟩
    simp [RuleEntry.Legal, hwild]
  | true =>
    cases hparse : parseFilePattern path with
    | error why =>
      refine ⟨rfl, ?_, fun h => absurd h (by simp)⟩
      simp [RuleEntry.Legal, hwild, hparse]
    | ok parsed =>
      refine ⟨rfl, ?_, fun _ => ⟨_, .cons (.pattern hwild hparse) .nil, rfl⟩⟩
      simp [RuleEntry.Legal, hparse]

/-- One array of paths under one action. -/
theorem appends_fileRules (paths : List Bytes) (action : PolicyAction) (eventType : UInt32)
    (c : Conversion) :
    Appends (paths.map fun path => ⟨eventType, .PATH, path, action⟩) c
      (convertFileRulesToTlv paths action eventType c) := by
  rw [List.map_eq_flatMap]
  exact Appends.foldl (appends_fileRule action eventType) c paths

theorem ruleEntries_eq (op : OperationActionSets) (eventType : UInt32) :
    op.ruleEntries eventType = op.actionArrays.flatMap fun actionArray =>
      actionArray.1.map fun object => ⟨eventType, op.itemType, object, actionArray.2⟩ := by
  simp only [OperationActionSets.ruleEntries, OperationActionSets.entries, List.map_flatMap,
    List.map_map, Function.comp_def]

theorem appends_fileArrays (operation : FileOperation) (c : Conversion) :
    Appends (operation.actionSets.ruleEntries operation.eventType) c
      (operation.actionSets.actionArrays.foldl (fun c entry =>
        c.andThen (convertFileRulesToTlv entry.1 entry.2 operation.eventType)) c) := by
  rw [ruleEntries_eq]
  exact Appends.foldl
    (fun c entry => (appends_fileRules entry.1 entry.2 operation.eventType c).andThen) c _

theorem appends_execRules (cmds : List Bytes) (action : PolicyAction) (c : Conversion) :
    Appends (cmds.map fun cmd => ⟨POLICY_PROCESS_EVENT_EXEC, .CMD, cmd, action⟩) c
      (convertProcessExecRulesToTlv cmds action c) := by
  refine ⟨rfl, ?_, fun _ => ⟨_, ?_, rfl⟩⟩
  · have hlegal : ∀ entry ∈ cmds.map fun cmd =>
        (⟨POLICY_PROCESS_EVENT_EXEC, .CMD, cmd, action⟩ : RuleEntry), entry.Legal := by
      intro entry hentry hpath
      obtain ⟨cmd, -, rfl⟩ := List.mem_map.mp hentry
      cases hpath
    exact (and_iff_left hlegal).symm
  · rw [List.forall₂_map_left_iff, List.forall₂_map_right_iff, List.forall₂_same]
    exact fun cmd _ => .command

theorem appends_execArrays (group : PolicyRuleGroup) (c : Conversion) :
    Appends ((processActionSets group).ruleEntries POLICY_PROCESS_EVENT_EXEC) c
      ((processActionSets group).actionArrays.foldl
        (fun c entry => convertProcessExecRulesToTlv entry.1 entry.2 c) c) := by
  rw [ruleEntries_eq]
  exact Appends.foldl (fun c entry => appends_execRules entry.1 entry.2 c) c _

/-! ### One group -/

/-- The bindings of several operations, one after the other. -/
def keyedAll (lstat : Bytes → Option Inode) (operations : List (OperationActionSets × UInt32)) :
    List (Bytes × PolicyAction) :=
  operations.flatMap fun operation => operation.1.keyed lstat

/-- Where the conversion of a group is after some operations. -/
structure Stands (lstat : Bytes → Option Inode) (header : OperationPolicy)
    (operations : List (OperationActionSets × UInt32)) (c : Conversion) : Prop where
  ret : c.ret = .SUCCESS ↔ Consistent (keyedAll lstat operations) ∧
    ∀ entry ∈ operations.flatMap fun operation => operation.1.ruleEntries operation.2, entry.Legal
  table : c.ret = .SUCCESS → Represents c.objectAction (keyedAll lstat operations)
  rules : c.ret = .SUCCESS → ∃ rules,
    List.Forall₂ RuleFor
      (operations.flatMap fun operation => operation.1.ruleEntries operation.2) rules ∧
    c.policy = { header with rules }

section
variable {lstat : Bytes → Option Inode} {header : OperationPolicy}
  {operations : List (OperationActionSets × UInt32)} {c : Conversion}

theorem stands_header (h : header.rules = []) : Stands lstat header [] { policy := header } := by
  refine ⟨?_, fun _ => represents_nil, fun _ => ⟨[], .nil, ?_⟩⟩
  · simp [keyedAll, Consistent]
  · rw [← h]

/-- **An operation checked and then turned into rules.** -/
theorem Stands.operation (h : Stands lstat header operations c) (op : OperationActionSets)
    (eventType : UInt32) {c' : Conversion}
    (happends : Appends (op.ruleEntries eventType) (c.checkConflicts lstat op) c') :
    Stands lstat header (operations ++ [(op, eventType)]) (if c.ret ≠ .SUCCESS then c else c') := by
  have hkeyed : keyedAll lstat (operations ++ [(op, eventType)]) =
      keyedAll lstat operations ++ op.keyed lstat := by
    simp [keyedAll]
  have hentries : (operations ++ [(op, eventType)]).flatMap
      (fun operation => operation.1.ruleEntries operation.2) =
      operations.flatMap (fun operation => operation.1.ruleEntries operation.2) ++
        op.ruleEntries eventType := by
    simp
  by_cases hret : c.ret = .SUCCESS
  · rw [if_neg (not_not.mpr hret)]
    obtain ⟨hconsistent, hlegal⟩ := h.ret.mp hret
    have hchecked := checkedFor_validate lstat op (h.table hret) c.errors
    have hclear : (c.checkConflicts lstat op).ret = .SUCCESS ↔
        (validateOperationActionConflict lstat op c.objectAction c.errors).conflicted = false := by
      simp only [Conversion.checkConflicts]
      cases (validateOperationActionConflict lstat op c.objectAction c.errors).conflicted <;> simp
    have hcheck : (c.checkConflicts lstat op).ret = .SUCCESS ↔
        Consistent (keyedAll lstat operations ++ op.keyed lstat) := by
      rw [hclear]
      refine ⟨fun hc => (hchecked.table hc).consistent, fun hall => ?_⟩
      exact Bool.eq_false_iff.mpr fun hc => hchecked.clash hc hall
    refine ⟨?_, fun hret' => ?_, fun hret' => ?_⟩
    · rw [happends.ret, hcheck, hkeyed, hentries, List.forall_mem_append, and_iff_right hlegal]
    · rw [hkeyed, happends.objectAction]
      exact hchecked.table (hclear.mp (happends.ret.mp hret').1)
    · obtain ⟨rules, hrules, hpolicy⟩ := h.rules hret
      obtain ⟨rules', hrules', hpolicy'⟩ := happends.rules hret'
      refine ⟨rules ++ rules', hentries ▸ List.rel_append hrules hrules', ?_⟩
      rw [hpolicy']
      simp only [Conversion.checkConflicts, hpolicy]
  · rw [if_pos hret]
    refine ⟨⟨fun h' => absurd h' hret, fun hall => absurd (h.ret.mpr ⟨?_, ?_⟩) hret⟩,
      fun h' => absurd h' hret, fun h' => absurd h' hret⟩
    · exact hall.1.mono (hkeyed ▸ List.subset_append_left _ _)
    · exact fun entry hentry => hall.2 entry (hentries ▸ List.mem_append_left _ hentry)

theorem Stands.fileOperations (h : Stands lstat header operations c)
    (fileOperations : List FileOperation) :
    Stands lstat header
      (operations ++ fileOperations.map fun operation => (operation.actionSets, operation.eventType))
      (fileOperations.foldl
        (fun c operation => c.andThen fun c => convertFileOperationToTlv lstat c operation) c) := by
  induction fileOperations generalizing operations c with
  | nil => simpa using h
  | cons operation rest ih =>
    have hstep := h.operation operation.actionSets operation.eventType
      (appends_fileArrays operation (c.checkConflicts lstat operation.actionSets))
    have hrest := ih hstep
    rwa [List.append_assoc] at hrest

end

/-- **A group that carries the module is converted operation by operation.** -/
theorem convertRuleGroup_stands {lstat : Bytes → Option Inode} {module : PolicyOpType}
    {group : PolicyRuleGroup} {c : Conversion} (h : convertRuleGroup lstat module group = some c) :
    Stands lstat { operationType := module, defaultAction := group.defaultAction module }
      (group.operations module) c := by
  have hstart : Stands lstat { operationType := module, defaultAction := group.defaultAction module }
      [] { policy := { operationType := module, defaultAction := group.defaultAction module } } :=
    stands_header rfl
  cases module with
  | NETWORK =>
    obtain ⟨-, h⟩ := Option.ite_none_right_eq_some.mp h
    rw [← Option.some.inj h]
    exact hstart
  | FILE =>
    obtain ⟨-, h⟩ := Option.ite_none_right_eq_some.mp h
    rw [← Option.some.inj h]
    exact hstart.fileOperations group.fileRules.operations
  | PROCESS =>
    obtain ⟨-, h⟩ := Option.ite_none_right_eq_some.mp h
    rw [← Option.some.inj h]
    exact hstart.operation (processActionSets group) POLICY_PROCESS_EVENT_EXEC
      (appends_execArrays group _).andThen

/-! ### Keys across operations -/

section
variable {lstat : Bytes → Option Inode} {op op' : OperationActionSets}

theorem mem_keyed {binding : Bytes × PolicyAction} :
    binding ∈ op.keyed lstat ↔ ∃ entry ∈ op.entries, ∃ k, kernelKey lstat entry.1 op.itemType = some k ∧
      (op.opLabel ++ 58 :: k.text, entry.2) = binding := by
  have hcolon : bytes ":" = [58] := by decide
  simp [OperationActionSets.keyed, keyedEntry, objectIdentity_eq, hcolon]

theorem keyed_of_kernelKey {entry : Bytes × PolicyAction} (h : entry ∈ op.entries) {k : KernelKey}
    (hk : kernelKey lstat entry.1 op.itemType = some k) :
    (op.opLabel ++ 58 :: k.text, entry.2) ∈ op.keyed lstat :=
  mem_keyed.mpr ⟨entry, h, k, hk, rfl⟩

/-- One operation's bindings are consistent when no key has two actions and none are confused. -/
theorem consistent_keyed_iff :
    Consistent (op.keyed lstat) ↔ op.Agreed lstat ∧ ¬ op.Confusable lstat := by
  refine ⟨fun h => ⟨fun x hx y hy k hk hk' => ?_, fun hconfusable => ?_⟩, fun h b hb b' hb' hkey => ?_⟩
  · have haction := h _ (keyed_of_kernelKey hx hk) _ (keyed_of_kernelKey hy hk') rfl
    exact haction
  · obtain ⟨x, hx, y, hy, hne, k, k', hk, hk', halike⟩ := hconfusable
    have htext : op.opLabel ++ 58 :: k.text = op.opLabel ++ 58 :: k'.text := by
      rw [(text_eq_iff k k').mpr (Or.inr halike)]
    have haction := h _ (keyed_of_kernelKey hx hk) _ (keyed_of_kernelKey hy hk') htext
    exact hne haction
  · obtain ⟨x, hx, k, hk, rfl⟩ := mem_keyed.mp hb
    obtain ⟨y, hy, k', hk', rfl⟩ := mem_keyed.mp hb'
    obtain ⟨-, htext⟩ := List.cons.inj (List.append_cancel_left hkey)
    rcases (text_eq_iff k k').mp htext with rfl | halike
    · exact h.1 x hx y hy k hk hk'
    · by_contra hne
      exact h.2 ⟨x, hx, y, hy, hne, k, k', hk, hk', halike⟩

/-- Labels without a colon keep the keys of different operations apart. -/
theorem opLabel_eq (hop : 58 ∉ op.opLabel) (hop' : 58 ∉ op'.opLabel)
    {x y : Bytes × PolicyAction} (hx : x ∈ op.keyed lstat) (hy : y ∈ op'.keyed lstat)
    (hkey : x.1 = y.1) : op.opLabel = op'.opLabel := by
  obtain ⟨_, -, k, -, rfl⟩ := mem_keyed.mp hx
  obtain ⟨_, -, k', -, rfl⟩ := mem_keyed.mp hy
  exact ((append_sep_inj hop hop').mp hkey).1

end

def operationLabels : PolicyOpType → List Bytes
  | .NETWORK => []
  | .FILE => [policyFileNameOfEvent POLICY_FILE_EVENT_READ,
      policyFileNameOfEvent POLICY_FILE_EVENT_WRITE, policyFileNameOfEvent POLICY_FILE_EVENT_DELETE]
  | .PROCESS => [bytes "ProcessExecCmd"]

theorem map_opLabel (group : PolicyRuleGroup) (module : PolicyOpType) :
    (group.operations module).map (fun operation => operation.1.opLabel) = operationLabels module := by
  cases module <;> rfl

theorem nodup_operationLabels (module : PolicyOpType) : (operationLabels module).Nodup := by
  cases module <;> decide +kernel

theorem colon_notMem_of_mem (module : PolicyOpType) :
    ∀ label ∈ operationLabels module, (58 : UInt8) ∉ label := by
  cases module <;> decide +kernel

theorem opLabel_notMem {group : PolicyRuleGroup} {module : PolicyOpType}
    {operation : OperationActionSets × UInt32} (h : operation ∈ group.operations module) :
    58 ∉ operation.1.opLabel := by
  apply colon_notMem_of_mem module
  rw [← map_opLabel group]
  exact List.mem_map_of_mem h

/-- The operations of a group are told apart by their labels. -/
theorem operation_eq {group : PolicyRuleGroup} {module : PolicyOpType}
    {operation operation' : OperationActionSets × UInt32} (h : operation ∈ group.operations module)
    (h' : operation' ∈ group.operations module)
    (hlabel : operation.1.opLabel = operation'.1.opLabel) : operation = operation' := by
  have hnodup := nodup_operationLabels module
  rw [← map_opLabel group] at hnodup
  exact List.inj_on_of_nodup_map hnodup h h' hlabel

theorem consistent_keyedAll_iff (lstat : Bytes → Option Inode) (module : PolicyOpType)
    (group : PolicyRuleGroup) :
    Consistent (keyedAll lstat (group.operations module)) ↔
      ∀ operation ∈ group.operations module, Consistent (operation.1.keyed lstat) := by
  refine consistent_flatMap fun i hi j hj x hx y hy hkey => ?_
  exact operation_eq hi hj (opLabel_eq (opLabel_notMem hi) (opLabel_notMem hj) hx hy hkey)

/-! ### All groups -/

/-- No two entries of one operation of a group are confused. -/
def PolicyRuleGroup.Distinguished (lstat : Bytes → Option Inode) (module : PolicyOpType)
    (group : PolicyRuleGroup) : Prop :=
  ∀ operation ∈ group.operations module, ¬ operation.1.Confusable lstat

theorem convertRuleGroup_ret {lstat : Bytes → Option Inode} {module : PolicyOpType}
    {group : PolicyRuleGroup} {c : Conversion} (h : convertRuleGroup lstat module group = some c) :
    c.ret = .SUCCESS ↔ group.Acceptable lstat module ∧ group.Distinguished lstat module := by
  rw [(convertRuleGroup_stands h).ret, consistent_keyedAll_iff]
  simp only [consistent_keyed_iff]
  refine ⟨fun hall => ?_, fun hall => ?_⟩
  · exact ⟨⟨hall.2, fun operation hop => (hall.1 operation hop).1⟩,
      fun operation hop => (hall.1 operation hop).2⟩
  · exact ⟨fun operation hop => ⟨hall.1.agreed operation hop, hall.2 operation hop⟩, hall.1.legal⟩

theorem convertRuleGroup_policyFor {lstat : Bytes → Option Inode} {module : PolicyOpType}
    {group : PolicyRuleGroup} {c : Conversion} (h : convertRuleGroup lstat module group = some c)
    (hret : c.ret = .SUCCESS) : PolicyFor module group c.policy := by
  obtain ⟨rules, hrules, hpolicy⟩ := (convertRuleGroup_stands h).rules hret
  rw [hpolicy]
  exact ⟨rfl, hrules⟩

/-- **Conversion succeeds when every group that carries the module is acceptable and its keys are
told apart, and then gives each of them its policy.** -/
theorem convert_spec (lstat : Bytes → Option Inode) (module : PolicyOpType) (tlv : SandboxPolicyTlv)
    (errors : List PolicyError) (ruleGroups : List PolicyRuleGroup) :
    ((convertOperationControlToTlv lstat module { tlv, errors } ruleGroups).ret = .SUCCESS ↔
      ∀ group ∈ ruleGroups, group.carries module = true →
        group.Acceptable lstat module ∧ group.Distinguished lstat module) ∧
    ((convertOperationControlToTlv lstat module { tlv, errors } ruleGroups).ret = .SUCCESS →
      ∃ policies,
        List.Forall₂ (PolicyFor module) (ruleGroups.filter (·.carries module)) policies ∧
        (convertOperationControlToTlv lstat module { tlv, errors } ruleGroups).tlv =
          { tlv with policies := tlv.policies ++ policies }) := by
  induction ruleGroups generalizing tlv errors with
  | nil =>
    refine ⟨by simp [convertOperationControlToTlv], fun _ => ⟨[], .nil, ?_⟩⟩
    simp [convertOperationControlToTlv]
  | cons group ruleGroups ih =>
    rw [List.forall_mem_cons, convertOperationControlToTlv]
    cases hgroup : convertRuleGroup lstat module group with
    | none =>
      have hcarries : group.carries module = false := by
        rw [← convertRuleGroup_isSome lstat, hgroup, Option.isSome_none]
      simp only [hcarries, Bool.false_eq_true, false_implies, true_and, List.filter_cons, if_false]
      exact ih tlv errors
    | some c =>
      have hcarries : group.carries module = true := by
        rw [← convertRuleGroup_isSome lstat, hgroup, Option.isSome_some]
      simp only [hcarries, true_implies, ← convertRuleGroup_ret hgroup, List.filter_cons, if_true]
      by_cases hret : c.ret = .SUCCESS
      · obtain ⟨hsuccess, hpolicies⟩ := ih { tlv with policies := tlv.policies ++ [c.policy] }
          (errors ++ c.errors)
        simp only [hret, ne_eq, not_true_eq_false, if_false, true_and]
        refine ⟨hsuccess, fun h => ?_⟩
        obtain ⟨policies, hall, htlv⟩ := hpolicies h
        refine ⟨c.policy :: policies, .cons (convertRuleGroup_policyFor hgroup hret) hall, ?_⟩
        rw [htlv]
        simp
      · simp [hret]

/-- What conversion promises: it succeeds exactly on acceptable groups, and then each group has
its own policy, with one rule an entry. -/
def Detects (lstat : Bytes → Option Inode) (module : PolicyOpType) (tlv : SandboxPolicyTlv)
    (errors : List PolicyError) (ruleGroups : List PolicyRuleGroup) : Prop :=
  ((convertOperationControlToTlv lstat module { tlv, errors } ruleGroups).ret = .SUCCESS ↔
    ∀ group ∈ ruleGroups, group.carries module = true → group.Acceptable lstat module) ∧
  ((convertOperationControlToTlv lstat module { tlv, errors } ruleGroups).ret = .SUCCESS →
    ∃ policies, List.Forall₂ (PolicyFor module) (ruleGroups.filter (·.carries module)) policies ∧
      (convertOperationControlToTlv lstat module { tlv, errors } ruleGroups).tlv =
        { tlv with policies := tlv.policies ++ policies })

/-- **The promise is kept unless the groups are acceptable and two keys are confused.** -/
theorem detects_iff (lstat : Bytes → Option Inode) (module : PolicyOpType) (tlv : SandboxPolicyTlv)
    (errors : List PolicyError) (ruleGroups : List PolicyRuleGroup) :
    Detects lstat module tlv errors ruleGroups ↔
      ((∀ group ∈ ruleGroups, group.carries module = true → group.Acceptable lstat module) →
        ∀ group ∈ ruleGroups, group.carries module = true →
          group.Distinguished lstat module) := by
  obtain ⟨hret, hpolicies⟩ := convert_spec lstat module tlv errors ruleGroups
  rw [Detects, and_iff_left hpolicies, hret]
  refine ⟨fun h hall group hgroup hcarries => (h.mpr hall group hgroup hcarries).2,
    fun h => ⟨fun hall group hgroup hcarries => (hall group hgroup hcarries).1, fun hall => ?_⟩⟩
  exact fun group hgroup hcarries =>
    ⟨hall group hgroup hcarries, h hall group hgroup hcarries⟩

/-- A pattern and a literal path, of which nothing exists, are taken for one object. -/
theorem detects_fails : ¬ ∀ (lstat : Bytes → Option Inode) (module : PolicyOpType)
    (tlv : SandboxPolicyTlv) (errors : List PolicyError) (ruleGroups : List PolicyRuleGroup),
    Detects lstat module tlv errors ruleGroups := by
  intro h
  have hdetects := (h (fun _ => none) .FILE {} [] [{ hasFile := true, fileRules :=
    { denyReadData := [bytes "/a/**/*\nsuffix:"], allowReadData := [bytes "/a/\nsuffix:"] } }]).1.mpr
  refine absurd (hdetects fun group hgroup _ => ?_) (by decide +kernel)
  rw [List.mem_singleton.mp hgroup]
  exact ⟨by decide +kernel, by decide +kernel⟩

end SandboxManager.Claw
