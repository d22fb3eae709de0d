import SandboxManager.Claw.PolicyMounts
import SandboxManager.PlainPath

/-! Where the conditional rules lead.

A rule covers the paths that begin with its target as it is spelled, with nothing or a slash
after it; the first one that is permitted answers (`matchRules_eq`). The physical source is the
rule's source with the rest of the path behind it. The parser has turned away every path with
a name `..` in it, so that the rest only leads further down, whatever normalisation does to what
stands before it (`atOrBelow_append`). -/
namespace SandboxManager.Claw
open Library

/-! ### Lexical normalisation -/

/-- What a path comes to without looking at the file system: from the root or not, and the
names on the way. -/
structure NormalPath where
  rooted : Bool
  names : List Bytes
deriving DecidableEq, Repr

/-- What a name does to the names before it. Above the root there is nothing. -/
def lexicalStep (rooted : Bool) (names : List Bytes) (name : Bytes) : List Bytes :=
  if name = bytes "." then names
  else if name = bytes ".." then
    if names = [] ∨ names.getLast? = some (bytes "..") then
      if rooted then names else names ++ [name]
    else names.dropLast
  else names ++ [name]

def normalPath (path : Bytes) : NormalPath :=
  let rooted := path.head? == some slash
  ⟨rooted, (segments slash path).foldl (lexicalStep rooted) []⟩

/-- The path is the directory or lies below it, once both are normalised. -/
def AtOrBelow (path dir : Bytes) : Prop :=
  (normalPath path).rooted = (normalPath dir).rooted ∧
    (normalPath dir).names <+: (normalPath path).names

instance (path dir : Bytes) : Decidable (AtOrBelow path dir) := inferInstanceAs (Decidable (_ ∧ _))

/-- Names without `..` among them only lead down. -/
theorem prefix_foldl_lexicalStep {rooted : Bool} {names : List Bytes} (h : bytes ".." ∉ names)
    (init : List Bytes) : init <+: names.foldl (lexicalStep rooted) init := by
  induction names generalizing init with
  | nil => exact List.prefix_refl init
  | cons name names ih =>
    have hname : name ≠ bytes ".." := (List.ne_of_not_mem_cons h).symm
    refine List.IsPrefix.trans ?_ (ih (List.not_mem_of_not_mem_cons h) _)
    rw [lexicalStep, if_neg hname]
    split
    · exact List.prefix_refl init
    · exact List.prefix_append init _

/-- The rest of a path, from a slash on. -/
def IsRest (rest : Bytes) : Prop := rest = [] ∨ rest.head? = some slash

instance (rest : Bytes) : Decidable (IsRest rest) := inferInstanceAs (Decidable (_ ∨ _))

theorem segments_append_rest {rest : Bytes} (h : IsRest rest) (dir : Bytes) :
    segments slash (dir ++ rest) = segments slash dir ++ segments slash rest := by
  rcases h with rfl | h
  · simp
  · obtain ⟨tail, rfl⟩ := List.head?_eq_some_iff.mp h
    rw [segments_append_sep, segments_sep_cons]

/-- What follows a directory without `..` lies below it. -/
theorem atOrBelow_append {dir rest : Bytes} (hdir : dir ≠ []) (hrest : IsRest rest)
    (hdots : bytes ".." ∉ segments slash rest) : AtOrBelow (dir ++ rest) dir := by
  have hrooted : (dir ++ rest).head? = dir.head? := by
    obtain ⟨c, tail, rfl⟩ := List.exists_cons_of_ne_nil hdir
    rfl
  unfold AtOrBelow normalPath
  dsimp only
  rw [hrooted, segments_append_rest hrest, List.foldl_append]
  exact ⟨rfl, prefix_foldl_lexicalStep hdots _⟩

/-- A name of a path stands between a slash and the end or another slash. -/
theorem exists_of_mem_segments {name path : Bytes} (hpath : IsRest path)
    (h : name ∈ segments slash path) :
    ∃ before after, path = before ++ slash :: (name ++ after) ∧ IsRest after := by
  obtain ⟨hpiece, -⟩ := (mem_segments_iff slash hpath).mp h
  rcases hpath with rfl | hhead
  · simp at hpiece
  · rw [← absolute_pieces slash hhead]
    obtain ⟨front, back, hsplit⟩ := List.append_of_mem hpiece
    rw [hsplit, absolute_append, absolute_cons]
    refine ⟨_, _, rfl, ?_⟩
    cases back with
    | nil => exact Or.inl rfl
    | cons w back => exact Or.inr rfl

/-- The parser lets no name `..` through, in any part of the path. -/
theorem dots_notMem {front rest : Bytes} (hrest : IsRest rest)
    (hmid : ¬ bytes "/../" <:+: front ++ rest) (hend : ¬ bytes "/.." <:+ front ++ rest) :
    bytes ".." ∉ segments slash rest := by
  intro h
  obtain ⟨before, after, rfl, hafter⟩ := exists_of_mem_segments hrest h
  rcases hafter with rfl | hafter
  · exact hend ⟨front ++ before, by simp [bytes, slash]⟩
  · obtain ⟨tail, rfl⟩ := List.head?_eq_some_iff.mp hafter
    exact hmid ⟨front ++ before, tail, by simp [bytes, slash]⟩

/-! ### The rule that answers -/

/-- What stands in the path after the rule's target. -/
def ConditionalRule.rest (rule : ConditionalRule) (path : Bytes) : Bytes :=
  path.drop rule.target.length

/-- The target is the path as it is spelled, or a leading part of it that a slash follows. -/
def ConditionalRule.Covers (rule : ConditionalRule) (path : Bytes) : Prop :=
  rule.target ≠ [] ∧ rule.target <+: path ∧ IsRest (rule.rest path)

instance (rule : ConditionalRule) (path : Bytes) : Decidable (rule.Covers path) :=
  inferInstanceAs (Decidable (_ ∧ _))

/-- The rule asks for no permission, or one that it asks for is granted. -/
def MountConfig.Permits (config : MountConfig) (rule : ConditionalRule) : Prop :=
  rule.permissions = [] ∨ rule.permissions.any config.isPermissionGranted = true

instance (config : MountConfig) (rule : ConditionalRule) : Decidable (config.Permits rule) :=
  inferInstanceAs (Decidable (_ ∨ _))

theorem matchRules_cons (config : MountConfig) (path : Bytes) (any : Bool) (rule : ConditionalRule)
    (rules : List ConditionalRule) : matchRules config path any (rule :: rules) =
      if rule.Covers path then
        if config.Permits rule then .matched (rule.source ++ rule.rest path)
        else matchRules config path true rules
      else matchRules config path any rules := by
  have hrest : (path.drop rule.target.length ≠ [] ∧ (path.drop rule.target.length).head? ≠ some slash) ↔
      ¬ IsRest (rule.rest path) := not_or.symm
  rw [matchRules]
  by_cases hempty : rule.target = []
  · have hcovers : ¬ rule.Covers path := fun h => h.1 hempty
    rw [if_pos hempty, if_neg hcovers]
  rw [if_neg hempty]
  by_cases hpre : rule.target <+: path
  · have hpre' : rule.target.isPrefixOf path = true := List.isPrefixOf_iff_prefix.mpr hpre
    simp only [hpre', Bool.not_true, Bool.false_eq_true, if_false, hrest]
    by_cases hboundary : IsRest (rule.rest path)
    · have hcovers : rule.Covers path := ⟨hempty, hpre, hboundary⟩
      rw [if_neg (not_not.mpr hboundary), if_pos hcovers]
      by_cases hnone : rule.permissions = []
      · have hpermits : config.Permits rule := Or.inl hnone
        rw [if_pos hnone, if_pos hpermits]
        rfl
      · rw [if_neg hnone]
        by_cases hgranted : rule.permissions.any config.isPermissionGranted = true
        · have hpermits : config.Permits rule := Or.inr hgranted
          rw [if_pos hgranted, if_pos hpermits]
          rfl
        · have hpermits : ¬ config.Permits rule := not_or.mpr ⟨hnone, hgranted⟩
          rw [if_neg hgranted, if_neg hpermits]
    · have hcovers : ¬ rule.Covers path := fun h => hboundary h.2.2
      rw [if_pos hboundary, if_neg hcovers]
  · have hpre' : rule.target.isPrefixOf path = false := by
      rw [Bool.eq_false_iff]
      exact fun h => hpre (List.isPrefixOf_iff_prefix.mp h)
    have hcovers : ¬ rule.Covers path := fun h => hpre h.2.1
    simp only [hpre', Bool.not_false, if_true]
    rw [if_neg hcovers]

section
variable {config : MountConfig} {path : Bytes}

/-- The first rule that covers the path and is permitted answers; else it matters whether any
covers it. -/
theorem matchRules_eq (any : Bool) (rules : List ConditionalRule) :
    matchRules config path any rules =
      ((rules.find? fun rule => rule.Covers path ∧ config.Permits rule).map
        fun rule => .matched (rule.source ++ rule.rest path)).getD
          (if any = true ∨ ∃ rule ∈ rules, rule.Covers path then .blocked else .noMatch) := by
  induction rules generalizing any with
  | nil =>
    rw [matchRules]
    simp
  | cons rule rules ih =>
    rw [matchRules_cons]
    by_cases hcovers : rule.Covers path
    · by_cases hpermits : config.Permits rule
      · simp [hcovers, hpermits]
      · rw [if_pos hcovers, if_neg hpermits, ih, List.find?_cons_of_neg (by simp [hpermits])]
        simp [hcovers]
    · rw [if_neg hcovers, ih, List.find?_cons_of_neg (by simp [hcovers])]
      simp [hcovers]

theorem matchConditionalSource_eq_matched {physicalSource : Bytes}
    (h : matchConditionalSource config path = .matched physicalSource) :
    ∃ rule ∈ config.conditionalRules, rule.Covers path ∧ config.Permits rule ∧
      physicalSource = rule.source ++ rule.rest path := by
  rw [matchConditionalSource, matchRules_eq] at h
  cases hfind : config.conditionalRules.find? fun rule => rule.Covers path ∧ config.Permits rule with
  | none =>
    rw [hfind, Option.map_none, Option.getD_none] at h
    split at h
    · cases h
    · cases h
  | some rule =>
    rw [hfind, Option.map_some, Option.getD_some, ConditionalMatchResult.matched.injEq] at h
    have hrule := List.find?_some hfind
    obtain ⟨hcovers, hpermits⟩ := of_decide_eq_true hrule
    exact ⟨rule, List.mem_of_find?_eq_some hfind, hcovers, hpermits, h.symm⟩

theorem exists_matched_iff : (∃ physicalSource,
      matchConditionalSource config path = .matched physicalSource) ↔
    ∃ rule ∈ config.conditionalRules, rule.Covers path ∧ config.Permits rule := by
  constructor
  · rintro ⟨physicalSource, h⟩
    obtain ⟨rule, hmem, hcovers, hpermits, -⟩ := matchConditionalSource_eq_matched h
    exact ⟨rule, hmem, hcovers, hpermits⟩
  · rintro ⟨rule, hmem, hrule⟩
    have hsome : (config.conditionalRules.find? fun rule =>
        rule.Covers path ∧ config.Permits rule).isSome := by
      rw [List.find?_isSome]
      exact ⟨rule, hmem, decide_eq_true hrule⟩
    obtain ⟨first, hfirst⟩ := Option.isSome_iff_exists.mp hsome
    exact ⟨first.source ++ first.rest path, by rw [matchConditionalSource, matchRules_eq, hfirst]; rfl⟩

theorem matchConditionalSource_eq_blocked_iff :
    matchConditionalSource config path = .blocked ↔
      (∃ rule ∈ config.conditionalRules, rule.Covers path) ∧
        ∀ rule ∈ config.conditionalRules, rule.Covers path → ¬ config.Permits rule := by
  rw [matchConditionalSource, matchRules_eq]
  cases hfind : config.conditionalRules.find? fun rule => rule.Covers path ∧ config.Permits rule with
  | some rule =>
    have hrule := List.find?_some hfind
    obtain ⟨hcovers, hpermits⟩ := of_decide_eq_true hrule
    rw [Option.map_some, Option.getD_some]
    exact ⟨fun h => (by cases h),
      fun h => absurd hpermits (h.2 rule (List.mem_of_find?_eq_some hfind) hcovers)⟩
  | none =>
    have hnone : ∀ rule ∈ config.conditionalRules, rule.Covers path → ¬ config.Permits rule := by
      intro rule hmem hcovers hpermits
      have hnot := List.find?_eq_none.mp hfind rule hmem
      exact hnot (decide_eq_true ⟨hcovers, hpermits⟩)
    rw [Option.map_none, Option.getD_none]
    by_cases hany : ∃ rule ∈ config.conditionalRules, rule.Covers path
    · rw [if_pos (Or.inr hany)]
      exact ⟨fun _ => ⟨hany, hnone⟩, fun _ => rfl⟩
    · rw [if_neg (not_or.mpr ⟨Bool.false_ne_true, hany⟩)]
      exact ⟨fun h => (by cases h), fun h => absurd h.1 hany⟩

/-- **Conditional mounts stay inside a permitted rule.** -/
theorem matchConditionalSource_contained {mountItem : Json}
    (hpath : parsePolicyMountSource mountItem = .ok path)
    (hroot : config.newRootPath.head? = some slash) :
    (∀ physicalSource, matchConditionalSource config path = .matched physicalSource →
      ∃ rule ∈ config.conditionalRules, rule.Covers path ∧ AtOrBelow path rule.target ∧
        config.Permits rule ∧ (rule.source ≠ [] → AtOrBelow physicalSource rule.source)) ∧
    AtOrBelow (config.newRootPath ++ path) config.newRootPath ∧
    (matchConditionalSource config path = .blocked ↔
      (∃ rule ∈ config.conditionalRules, rule.Covers path) ∧
        ∀ rule ∈ config.conditionalRules, rule.Covers path → ¬ config.Permits rule) ∧
    ∀ config' : MountConfig, config'.conditionalRules = config.conditionalRules →
      (∀ permission, config.isPermissionGranted permission = true →
        config'.isPermissionGranted permission = true) →
      (∃ physicalSource, matchConditionalSource config path = .matched physicalSource) →
        ∃ physicalSource, matchConditionalSource config' path = .matched physicalSource := by
  obtain ⟨hhead, hmid, hend⟩ := parsePolicyMountSource_ok hpath
  refine ⟨fun physicalSource h => ?_, ?_, matchConditionalSource_eq_blocked_iff,
    fun config' hrules hgrants hmatched => ?_⟩
  · obtain ⟨rule, hmem, hcovers, hpermits, rfl⟩ := matchConditionalSource_eq_matched h
    obtain ⟨htarget, hpre, hrest⟩ := hcovers
    have hsplit : rule.target ++ rule.rest path = path := by
      obtain ⟨tail, htail⟩ := hpre
      rw [ConditionalRule.rest, ← htail, List.drop_left]
    have hdots : bytes ".." ∉ segments slash (rule.rest path) := by
      rw [← hsplit] at hmid hend
      exact dots_notMem hrest hmid hend
    have hbelow := atOrBelow_append htarget hrest hdots
    rw [hsplit] at hbelow
    exact ⟨rule, hmem, ⟨htarget, hpre, hrest⟩, hbelow, hpermits,
      fun hsource => atOrBelow_append hsource hrest hdots⟩
  · have hne : config.newRootPath ≠ [] := by
      rintro hnil
      rw [hnil] at hroot
      cases hroot
    have hmid' : ¬ bytes "/../" <:+: [] ++ path := hmid
    have hend' : ¬ bytes "/.." <:+ [] ++ path := hend
    exact atOrBelow_append hne (Or.inr hhead) (dots_notMem (Or.inr hhead) hmid' hend')
  · rw [exists_matched_iff] at hmatched ⊢
    obtain ⟨rule, hmem, hcovers, hpermits⟩ := hmatched
    refine ⟨rule, hrules ▸ hmem, hcovers, hpermits.imp_right fun hany => ?_⟩
    obtain ⟨permission, hmem', hgranted⟩ := List.any_eq_true.mp hany
    exact List.any_eq_true.mpr ⟨permission, hmem', hgrants permission hgranted⟩

end

/-! ### Rules as they are spelled -/

/-- A sandbox under `/mnt/s` whose caller holds no permission. -/
def ruleConfig (rule : ConditionalRule) : MountConfig where
  newRootPath := bytes "/mnt/s"
  conditionalRules := [rule]
  callerTokenId := 1
  verifyAccessToken := fun _ _ => -1

def dataItem : Json := .object [(bytes "source", .string (bytes "/data/x"))]

theorem parsePolicyMountSource_dataItem :
    parsePolicyMountSource dataItem = .ok (bytes "/data/x") := by
  decide +kernel

/-- A target that ends in a slash covers nothing below it, and a rule without a source leads to
the rest of the path itself. -/
theorem matchConditionalSource_spelling :
    (let rule : ConditionalRule := ⟨bytes "/srv", bytes "/data/", [bytes "ohos.permission.P"]⟩
     AtOrBelow (bytes "/data/x") rule.target ∧ ¬ (ruleConfig rule).Permits rule ∧
      parsePolicyMountSource dataItem = .ok (bytes "/data/x") ∧
      matchConditionalSource (ruleConfig rule) (bytes "/data/x") = .noMatch) ∧
    (let rule : ConditionalRule := ⟨[], bytes "/data", []⟩
     matchConditionalSource (ruleConfig rule) (bytes "/data/x") = .matched (bytes "/x") ∧
      ¬ AtOrBelow (bytes "/x") rule.source) := by
  decide +kernel

theorem matchConditionalSource_contained_data :
    let config := ruleConfig ⟨bytes "/srv", bytes "/data", []⟩
    (∀ physicalSource, matchConditionalSource config (bytes "/data/x") = .matched physicalSource →
      ∃ rule ∈ config.conditionalRules, rule.Covers (bytes "/data/x") ∧
        AtOrBelow (bytes "/data/x") rule.target ∧ config.Permits rule ∧
          (rule.source ≠ [] → AtOrBelow physicalSource rule.source)) ∧
    AtOrBelow (config.newRootPath ++ bytes "/data/x") config.newRootPath := by
  have h := @matchConditionalSource_contained (ruleConfig ⟨bytes "/srv", bytes "/data", []⟩) _ _
    parsePolicyMountSource_dataItem rfl
  exact ⟨h.1, h.2.1⟩

end SandboxManager.Claw
