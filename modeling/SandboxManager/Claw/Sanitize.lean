import SandboxManager.Claw.Names

/-! What the environment of the command consists of.

`Vetted` lists the ways a variable can have got into the map, each with the tests it has
passed; every step of the construction keeps the map within them. What the map then
contains by name, and what its path ends in, are invariants of the same steps
(`has_sanitizedEnvironment`, `EndsIn`). -/
namespace SandboxManager.Claw
open Library

/-! ### Maps by name -/

namespace EnvMap
variable {T : Type} {env : EnvMap T} {key key' : Bytes} {value : T}

/-- Some variable has the name. -/
def Has (env : EnvMap T) (key : Bytes) : Prop := ∃ value, (key, value) ∈ env

theorem mem_assign {item : Bytes × T} :
    item ∈ env.assign key value ↔ item = (key, value) ∨ item ∈ env ∧ item.1 ≠ key :=
  KeyedTable.mem_insertReplace

theorem mem_erase {item : Bytes × T} : item ∈ env.erase key ↔ item ∈ env ∧ item.1 ≠ key := by
  simp [erase]

theorem has_empty : ¬ Has (KeyedTable.empty : EnvMap T) key := fun ⟨_, h⟩ =>
  KeyedTable.not_mem_empty _ h

theorem has_assign : (env.assign key value).Has key' ↔ key' = key ∨ env.Has key' := by
  constructor
  · rintro ⟨v, hv⟩
    rcases mem_assign.mp hv with heq | ⟨hv, -⟩
    · exact Or.inl (congrArg Prod.fst heq)
    · exact Or.inr ⟨v, hv⟩
  · intro h
    by_cases hkey : key' = key
    · exact ⟨value, mem_assign.mpr (Or.inl (by rw [hkey]))⟩
    · obtain ⟨v, hv⟩ := h.resolve_left hkey
      exact ⟨v, mem_assign.mpr (Or.inr ⟨hv, hkey⟩)⟩

theorem mem_items {item : Bytes × T} : item ∈ env.items ↔ item ∈ env :=
  List.mem_insertionSort _

theorem mem_foldl_erase {keys : List Bytes} {item : Bytes × T} :
    item ∈ keys.foldl erase env ↔ item ∈ env ∧ item.1 ∉ keys := by
  induction keys generalizing env with
  | nil => simp
  | cons k keys ih =>
    rw [List.foldl_cons, ih, mem_erase, List.mem_cons, not_or, and_assoc]

theorem find_of_mem (h : (key, value) ∈ env) : env.find key = some value := by
  have hsome : (env.rows.find? fun item => item.1 = key).isSome := by
    rw [List.find?_isSome]
    exact ⟨_, h, by simp⟩
  obtain ⟨item, hitem⟩ := Option.isSome_iff_exists.mp hsome
  have hkey : item.1 = key := by simpa using List.find?_some hitem
  have heq : item = (key, value) :=
    KeyedTable.eq_of_key_eq (List.mem_of_find?_eq_some hitem) h hkey
  rw [find, hitem, heq]
  rfl

theorem find_of_not_has (h : ¬ env.Has key) : env.find key = none := by
  rw [find, Option.map_eq_none_iff, List.find?_eq_none]
  intro item hitem hkey
  have hkey : item.1 = key := by simpa using hkey
  exact h ⟨item.2, hkey ▸ hitem⟩

end EnvMap

/-! ### Single steps -/

/-- The variable an inherited string brings in. -/
def inheritedVariable (policy : EnvPolicy) (env : Bytes) : Option (Bytes × EnvValue) :=
  let entry := cStr env
  let name := entry.takeWhile (· ≠ equalsSign)
  if equalsSign ∈ entry ∧ trimEnvKey name ≠ [] ∧
      policy.isDangerousHostInheritedEnvVarName (trimEnvKey name) = false then
    some (trimEnvKey name, ⟨entry.drop (name.length + 1), .inherited⟩)
  else none

theorem inheritEntry_eq (policy : EnvPolicy) (sanitizedEnv : Environment) (env : Bytes) :
    inheritEntry policy sanitizedEnv env =
      match inheritedVariable policy env with
      | none => sanitizedEnv
      | some item => sanitizedEnv.assign item.1 item.2 := by
  simp only [inheritEntry, inheritedVariable]
  generalize trimEnvKey ((cStr env).takeWhile (· ≠ equalsSign)) = key
  by_cases hsep : equalsSign ∈ cStr env
  · by_cases hnil : key = []
    · simp [hsep, hnil]
    · by_cases hdanger : policy.isDangerousHostInheritedEnvVarName key = true
      · simp [hsep, hnil, hdanger]
      · simp [hsep, hnil, hdanger]
  · simp [hsep]

/-- The string is its name, the first `=` and its text. -/
theorem split_entry {entry : Bytes} (h : equalsSign ∈ entry) :
    entry = entry.takeWhile (· ≠ equalsSign) ++
      equalsSign :: entry.drop ((entry.takeWhile (· ≠ equalsSign)).length + 1) := by
  induction entry with
  | nil => cases h
  | cons c rest ih =>
    by_cases hc : c = equalsSign
    · simp [hc]
    · have hrest : equalsSign ∈ rest := (List.mem_cons.mp h).resolve_left (Ne.symm hc)
      have htake : (c :: rest).takeWhile (· ≠ equalsSign) =
          c :: rest.takeWhile (· ≠ equalsSign) := by simp [hc]
      rw [htake, List.cons_append, List.length_cons, List.drop_succ_cons]
      exact congrArg (c :: ·) (ih hrest)

/-- The name under which a variable of the caller is set. -/
def overrideName (policy : EnvPolicy) (rawKey : Bytes) : Option Bytes :=
  match normalizeHostOverrideEnvVarKey rawKey with
  | none => none
  | some normalizedKey =>
    if upperName normalizedKey = bytes "PATH" then some (bytes "PATH")
    else if policy.isDangerousHostEnvVarName normalizedKey ||
        policy.isDangerousHostEnvOverrideVarName normalizedKey then none
    else some normalizedKey

theorem normalizeHostOverrideEnvVarKey_some {rawKey name : Bytes}
    (h : normalizeHostOverrideEnvVarKey rawKey = some name) :
    name = trimEnvKey rawKey ∧ name ≠ [] ∧
      (isPortableEnvVarKey name || isWindowsCompatOverrideEnvVarKey name) = true := by
  simp only [normalizeHostOverrideEnvVarKey] at h
  split at h
  · cases h
  next hne =>
    split at h
    next hkey =>
      cases h
      exact ⟨rfl, hne, hkey⟩
    · cases h

/-- A variable of the caller is left out, joins the path or is set under its trimmed name. -/
theorem overrideEntry_cases (policy : EnvPolicy) (sanitizedEnv : Environment)
    (item : Bytes × Bytes) :
    overrideName policy item.1 = none ∧ overrideEntry policy sanitizedEnv item = sanitizedEnv ∨
    overrideName policy item.1 = some (bytes "PATH") ∧
      overrideEntry policy sanitizedEnv item = sanitizedEnv.assign (bytes "PATH")
        ⟨appendEnvPathValue item.2 (textOf sanitizedEnv (bytes "PATH")), .caller⟩ ∨
    ∃ name, normalizeHostOverrideEnvVarKey item.1 = some name ∧ upperName name ≠ bytes "PATH" ∧
      policy.isDangerousHostEnvVarName name = false ∧
      policy.isDangerousHostEnvOverrideVarName name = false ∧
      overrideName policy item.1 = some name ∧
      overrideEntry policy sanitizedEnv item = sanitizedEnv.assign name ⟨item.2, .caller⟩ := by
  simp only [overrideEntry, overrideName]
  cases hname : normalizeHostOverrideEnvVarKey item.1 with
  | none => exact Or.inl ⟨rfl, rfl⟩
  | some name =>
    obtain ⟨htrim, -, -⟩ := normalizeHostOverrideEnvVarKey_some hname
    have hupper : toUpperAscii name = upperName name := by
      rw [htrim]
      exact toUpperAscii_trimmed (trimEnvKey_trimEnvKey item.1)
    dsimp only
    rw [hupper, EnvPolicy.isDangerousHostEnvVarName_upperName,
      EnvPolicy.isDangerousHostEnvOverrideVarName_upperName]
    by_cases hpath : upperName name = bytes "PATH"
    · rw [if_pos hpath, if_pos hpath]
      exact Or.inr (Or.inl ⟨rfl, rfl⟩)
    · rw [if_neg hpath, if_neg hpath]
      by_cases hdanger : (policy.isDangerousHostEnvVarName name ||
          policy.isDangerousHostEnvOverrideVarName name) = true
      · rw [if_pos hdanger, if_pos hdanger]
        exact Or.inl ⟨rfl, rfl⟩
      · rw [if_neg hdanger, if_neg hdanger]
        rw [Bool.not_eq_true, Bool.or_eq_false_iff] at hdanger
        exact Or.inr (Or.inr ⟨name, rfl, hpath, hdanger.1, hdanger.2, rfl, rfl⟩)

/-! ### How a variable got in -/

section
variable (shellSandbox : Bool) (policy : EnvPolicy) (config : EnvConfig) (environ : List Bytes)

/-- The ways into the map, with what has been tested on each. -/
inductive Vetted : Bytes × EnvValue → Prop
  | inherited {env name text : Bytes} (mem : env ∈ environ)
      (entry : cStr env = name ++ equalsSign :: text) (first : equalsSign ∉ name)
      (nonempty : trimEnvKey name ≠ [])
      (safe : policy.isDangerousHostInheritedEnvVarName (trimEnvKey name) = false) :
      Vetted (trimEnvKey name, ⟨text, .inherited⟩)
  | preset {item : Bytes × Bytes} (mem : item ∈ presetEnvVars shellSandbox) (text : Bytes) :
      Vetted (item.1, ⟨text, .preset⟩)
  | user : Vetted (bytes "USER", ⟨config.currentUserId, .user⟩)
  | path (text : Bytes) : Vetted (bytes "PATH", ⟨text, .caller⟩)
  | caller {rawKey name text : Bytes} (mem : (rawKey, text) ∈ config.env)
      (normal : normalizeHostOverrideEnvVarKey rawKey = some name)
      (safe : policy.isDangerousHostEnvVarName name = false)
      (safeOverride : policy.isDangerousHostEnvOverrideVarName name = false) :
      Vetted (name, ⟨text, .caller⟩)
  | marker : Vetted (CLAW_SANDBOX_ENV_KEY, ⟨CLAW_SANDBOX_ENV_VALUE, .marker⟩)

variable {shellSandbox policy config environ}

theorem vetted_inheritedVariable {env : Bytes} {item : Bytes × EnvValue} (hmem : env ∈ environ)
    (h : inheritedVariable policy env = some item) :
    Vetted shellSandbox policy config environ item := by
  simp only [inheritedVariable] at h
  split at h
  next hsafe =>
    cases h
    refine Vetted.inherited hmem (split_entry hsafe.1) ?_ hsafe.2.1 hsafe.2.2
    intro hsign
    have hnot := List.mem_takeWhile_imp hsign
    simp at hnot
  · cases h

theorem vetted_assign {env : Environment} {name : Bytes} {value : EnvValue}
    (henv : ∀ item ∈ env, Vetted shellSandbox policy config environ item)
    (h : Vetted shellSandbox policy config environ (name, value)) :
    ∀ item ∈ env.assign name value, Vetted shellSandbox policy config environ item := by
  intro item hitem
  rcases EnvMap.mem_assign.mp hitem with rfl | ⟨hitem, -⟩
  · exact h
  · exact henv item hitem

theorem vetted_sanitizeInheritedEnv {strings : List Bytes} {env : Environment}
    (hsub : strings ⊆ environ)
    (henv : ∀ item ∈ env, Vetted shellSandbox policy config environ item) :
    ∀ item ∈ sanitizeInheritedEnv policy strings env,
      Vetted shellSandbox policy config environ item := by
  induction strings generalizing env with
  | nil => exact henv
  | cons string strings ih =>
    apply ih (List.subset_of_cons_subset hsub)
    rw [inheritEntry_eq]
    cases hvariable : inheritedVariable policy string with
    | none => exact henv
    | some item =>
      have hvetted : Vetted shellSandbox policy config environ item :=
        vetted_inheritedVariable (hsub List.mem_cons_self) hvariable
      exact vetted_assign henv hvetted

theorem applyPreset_eq (env : Environment) (item : Bytes × Bytes) :
    ∃ text, applyPreset env item = env.assign item.1 ⟨text, .preset⟩ := by
  unfold applyPreset
  split
  next hpath => exact ⟨_, by rw [hpath]⟩
  · exact ⟨_, rfl⟩

theorem vetted_applyPresets {presets : List (Bytes × Bytes)} {env : Environment}
    (hsub : presets ⊆ presetEnvVars shellSandbox)
    (henv : ∀ item ∈ env, Vetted shellSandbox policy config environ item) :
    ∀ item ∈ presets.foldl applyPreset env, Vetted shellSandbox policy config environ item := by
  induction presets generalizing env with
  | nil => exact henv
  | cons preset presets ih =>
    apply ih (List.subset_of_cons_subset hsub)
    obtain ⟨text, htext⟩ := applyPreset_eq env preset
    rw [htext]
    exact vetted_assign henv (Vetted.preset (hsub List.mem_cons_self) text)

theorem vetted_overrideEntries {items : List (Bytes × Bytes)} {env : Environment}
    (hsub : ∀ item ∈ items, item ∈ config.env)
    (henv : ∀ item ∈ env, Vetted shellSandbox policy config environ item) :
    ∀ item ∈ items.foldl (overrideEntry policy) env,
      Vetted shellSandbox policy config environ item := by
  induction items generalizing env with
  | nil => exact henv
  | cons item items ih =>
    apply ih fun item hitem => hsub item (List.mem_cons_of_mem _ hitem)
    rcases overrideEntry_cases policy env item with
      ⟨-, heq⟩ | ⟨-, heq⟩ | ⟨name, hname, -, hsafe, hoverride, -, heq⟩
    · rw [heq]
      exact henv
    · rw [heq]
      exact vetted_assign henv (Vetted.path _)
    · rw [heq]
      exact vetted_assign henv
        (Vetted.caller (hsub item List.mem_cons_self) hname hsafe hoverride)

/-- Every variable of the map got there in one of these ways. -/
theorem vetted_sanitizedEnvironment :
    ∀ item ∈ sanitizedEnvironment shellSandbox policy config environ,
      Vetted shellSandbox policy config environ item := by
  apply vetted_assign ?_ Vetted.marker
  apply vetted_overrideEntries fun item hitem => EnvMap.mem_items.mp hitem
  have hpresets : ∀ item ∈ (presetEnvVars shellSandbox).foldl applyPreset
      (deleteEnvVars.foldl EnvMap.erase
        (sanitizeInheritedEnv policy environ KeyedTable.empty)),
      Vetted shellSandbox policy config environ item := by
    apply vetted_applyPresets (List.Subset.refl _)
    intro item hitem
    refine vetted_sanitizeInheritedEnv (List.Subset.refl _) ?_ item
      (EnvMap.mem_foldl_erase.mp hitem).1
    intro item hitem
    exact absurd hitem (KeyedTable.not_mem_empty _)
  cases shellSandbox with
  | false => exact hpresets
  | true => exact vetted_assign hpresets Vetted.user

theorem zero_notMem_of_isEnvVarKey {allowed : UInt8 → Bool} {key : Bytes}
    (hallowed : allowed 0 = false) (h : isEnvVarKey allowed key = true) : 0 ∉ key := by
  intro hzero
  cases key with
  | nil => cases hzero
  | cons c rest =>
    have hall := (Bool.and_eq_true _ _ ▸ h : _ ∧ _).2
    have h0 := List.all_eq_true.mp hall 0 hzero
    rw [hallowed] at h0
    revert h0
    decide

theorem zero_notMem_presetEnvVars :
    ∀ shellSandbox, ∀ item ∈ presetEnvVars shellSandbox, 0 ∉ item.1 := by decide

/-- No name holds a NUL, so it is set as it stands. -/
theorem Vetted.zero_notMem {item : Bytes × EnvValue}
    (h : Vetted shellSandbox policy config environ item) : 0 ∉ item.1 := by
  cases h with
  | @inherited env name text mem entry first nonempty safe =>
    intro hzero
    apply zero_notMem_cStr env
    rw [entry]
    exact List.mem_append_left _ (mem_of_mem_trimEnvKey hzero)
  | @preset item mem text => exact zero_notMem_presetEnvVars shellSandbox item mem
  | user => exact (by decide : (0 : UInt8) ∉ bytes "USER")
  | path text => exact (by decide : (0 : UInt8) ∉ bytes "PATH")
  | @caller rawKey name text mem normal safe safeOverride =>
    obtain ⟨-, -, hkey⟩ := normalizeHostOverrideEnvVarKey_some normal
    rcases Bool.or_eq_true_iff.mp hkey with hkey | hkey
    · exact zero_notMem_of_isEnvVarKey (by rfl) hkey
    · exact zero_notMem_of_isEnvVarKey (by rfl) hkey
  | marker => decide

end

/-! ### What the map holds by name -/

theorem has_sanitizeInheritedEnv {policy : EnvPolicy} {strings : List Bytes} {env : Environment}
    {key : Bytes} :
    (sanitizeInheritedEnv policy strings env).Has key ↔ env.Has key ∨
      ∃ string ∈ strings, ∃ value, inheritedVariable policy string = some (key, value) := by
  induction strings generalizing env with
  | nil => simp [sanitizeInheritedEnv]
  | cons string strings ih =>
    show (sanitizeInheritedEnv policy strings (inheritEntry policy env string)).Has key ↔ _
    rw [ih, inheritEntry_eq]
    cases hvariable : inheritedVariable policy string with
    | none => simp [hvariable]
    | some item =>
      rw [EnvMap.has_assign]
      simp only [List.exists_mem_cons_iff, hvariable, Option.some.injEq]
      have hhead : (∃ value, item = (key, value)) ↔ key = item.1 :=
        ⟨fun ⟨value, h⟩ => by rw [h], fun h => ⟨item.2, by rw [h]⟩⟩
      rw [hhead]
      tauto

theorem has_applyPresets {presets : List (Bytes × Bytes)} {env : Environment} {key : Bytes} :
    EnvMap.Has (presets.foldl applyPreset env) key ↔
      env.Has key ∨ ∃ item ∈ presets, item.1 = key := by
  induction presets generalizing env with
  | nil => simp
  | cons preset presets ih =>
    obtain ⟨text, htext⟩ := applyPreset_eq env preset
    rw [List.foldl_cons, ih, htext, EnvMap.has_assign, List.exists_mem_cons_iff]
    tauto

theorem has_overrideEntries {policy : EnvPolicy} {items : List (Bytes × Bytes)}
    {env : Environment} {key : Bytes} :
    EnvMap.Has (items.foldl (overrideEntry policy) env) key ↔
      env.Has key ∨ ∃ item ∈ items, overrideName policy item.1 = some key := by
  induction items generalizing env with
  | nil => simp
  | cons item items ih =>
    rw [List.foldl_cons, ih, List.exists_mem_cons_iff]
    rcases overrideEntry_cases policy env item with
      ⟨hname, heq⟩ | ⟨hname, heq⟩ | ⟨name, -, -, -, -, hname, heq⟩
    · rw [heq, hname]
      simp
    · rw [heq, hname, EnvMap.has_assign, Option.some.injEq]
      tauto
    · rw [heq, hname, EnvMap.has_assign, Option.some.injEq]
      tauto

/-- The names of the map: the marker, what the caller sets, the presets and what is
inherited and not deleted. -/
theorem has_sanitizedEnvironment {shellSandbox : Bool} {policy : EnvPolicy} {config : EnvConfig}
    {environ : List Bytes} {key : Bytes} :
    (sanitizedEnvironment shellSandbox policy config environ).Has key ↔
      key = CLAW_SANDBOX_ENV_KEY ∨
      (∃ item ∈ config.env, overrideName policy item.1 = some key) ∨
      (shellSandbox = true ∧ key = bytes "USER") ∨
      (∃ item ∈ presetEnvVars shellSandbox, item.1 = key) ∨
      key ∉ deleteEnvVars ∧
        ∃ string ∈ environ, ∃ value, inheritedVariable policy string = some (key, value) := by
  have hinherited : EnvMap.Has (deleteEnvVars.foldl EnvMap.erase
      (sanitizeInheritedEnv policy environ KeyedTable.empty)) key ↔ key ∉ deleteEnvVars ∧
        ∃ string ∈ environ, ∃ value, inheritedVariable policy string = some (key, value) := by
    simp only [EnvMap.Has, EnvMap.mem_foldl_erase, exists_and_right]
    rw [and_comm]
    apply and_congr_right
    intro _
    refine has_sanitizeInheritedEnv.trans ?_
    simp [EnvMap.has_empty]
  have huser : ∀ env : Environment,
      EnvMap.Has (if shellSandbox = true then env.assign (bytes "USER") ⟨config.currentUserId, .user⟩
        else env) key ↔ (shellSandbox = true ∧ key = bytes "USER") ∨ env.Has key := by
    intro env
    cases shellSandbox with
    | false => simp
    | true => simp [EnvMap.has_assign]
  rw [sanitizedEnvironment, EnvMap.has_assign, sanitizeOverrideEnv, has_overrideEntries, huser,
    has_applyPresets, hinherited]
  simp only [EnvMap.mem_items]
  exact or_congr_right (or_comm.trans (or_congr_right (or_congr_right or_comm)))

/-! ### The path -/

/-- The path of the presets. -/
def presetPath (shellSandbox : Bool) : Bytes :=
  ((presetEnvVars shellSandbox).lookup (bytes "PATH")).getD []

/-- A path is the preset one or ends in it, after a colon. -/
def EndsIn (tail text : Bytes) : Prop := text = tail ∨ colon :: tail <:+ text

/-- The path of the map, as a C string, ends in the preset one. -/
def KeepsPath (tail : Bytes) (env : Environment) : Prop :=
  ∃ value, (bytes "PATH", value) ∈ env ∧ EndsIn tail value.text ∧ 0 ∉ value.text

theorem textOf_of_mem {env : Environment} {key : Bytes} {value : EnvValue}
    (h : (key, value) ∈ env) : textOf env key = value.text := by
  rw [textOf, EnvMap.find_of_mem h]
  rfl

theorem textOf_of_not_has {env : Environment} {key : Bytes} (h : ¬ env.Has key) :
    textOf env key = [] := by
  rw [textOf, EnvMap.find_of_not_has h]
  rfl

theorem endsIn_appendEnvPathValue {tail text : Bytes} (front : Bytes) (htail : tail ≠ [])
    (h : EndsIn tail text) : EndsIn tail (appendEnvPathValue front text) := by
  have htext : text ≠ [] := by
    rintro rfl
    rcases h with h | h
    · exact htail h.symm
    · cases List.suffix_nil.mp h
  unfold appendEnvPathValue
  by_cases hfront : front = []
  · rw [if_pos hfront]
    exact h
  · rw [if_neg hfront, if_neg htext]
    right
    rcases h with rfl | h
    · rw [List.append_assoc]
      exact List.suffix_append _ _
    · exact h.trans (List.suffix_append _ _)

theorem zero_notMem_appendEnvPathValue {front text : Bytes} (hfront : 0 ∉ front)
    (htext : 0 ∉ text) : 0 ∉ appendEnvPathValue front text := by
  unfold appendEnvPathValue
  split
  · exact htext
  · split
    · exact hfront
    · simp [hfront, htext, colon]

theorem KeepsPath.assign {tail name : Bytes} {env : Environment} (value : EnvValue)
    (h : KeepsPath tail env) (hname : name ≠ bytes "PATH") :
    KeepsPath tail (env.assign name value) := by
  obtain ⟨path, hmem, hpath⟩ := h
  exact ⟨path, EnvMap.mem_assign.mpr (Or.inr ⟨hmem, Ne.symm hname⟩), hpath⟩

theorem keepsPath_overrideEntries {policy : EnvPolicy} {tail : Bytes} (htail : tail ≠ [])
    {items : List (Bytes × Bytes)} {env : Environment} (hitems : ∀ item ∈ items, 0 ∉ item.2)
    (h : KeepsPath tail env) : KeepsPath tail (items.foldl (overrideEntry policy) env) := by
  induction items generalizing env with
  | nil => exact h
  | cons item items ih =>
    apply ih fun item hitem => hitems item (List.mem_cons_of_mem _ hitem)
    rcases overrideEntry_cases policy env item with
      ⟨-, heq⟩ | ⟨-, heq⟩ | ⟨name, hname, hnot, -, -, -, heq⟩
    · rw [heq]
      exact h
    · obtain ⟨path, hmem, hends, hzero⟩ := h
      rw [heq, textOf_of_mem hmem]
      exact ⟨_, EnvMap.mem_assign.mpr (Or.inl rfl), endsIn_appendEnvPathValue _ htail hends,
        zero_notMem_appendEnvPathValue (hitems item List.mem_cons_self) hzero⟩
    · rw [heq]
      apply h.assign
      rintro rfl
      exact hnot (by decide)

theorem presetEnvVars_eq : ∀ shellSandbox, ∃ front,
    presetEnvVars shellSandbox = front ++ [(bytes "PATH", presetPath shellSandbox)] ∧
    (∀ item ∈ front, item.1 ≠ bytes "PATH") ∧ presetPath shellSandbox ≠ [] ∧
    0 ∉ presetPath shellSandbox := by
  intro shellSandbox
  refine ⟨(presetEnvVars shellSandbox).dropLast, ?_⟩
  cases shellSandbox <;> decide +kernel

theorem keepsPath_applyPresets (shellSandbox : Bool) {env : Environment}
    (h : ¬ env.Has (bytes "PATH")) :
    KeepsPath (presetPath shellSandbox) ((presetEnvVars shellSandbox).foldl applyPreset env) := by
  obtain ⟨front, hpresets, hfront, hne, hzero⟩ := presetEnvVars_eq shellSandbox
  have hnot : ¬ EnvMap.Has (front.foldl applyPreset env) (bytes "PATH") := by
    rw [has_applyPresets]
    rintro (henv | ⟨item, hitem, hpath⟩)
    · exact h henv
    · exact hfront item hitem hpath
  rw [hpresets, List.foldl_append, List.foldl_cons, List.foldl_nil, applyPreset, if_pos rfl,
    textOf_of_not_has hnot]
  exact ⟨_, EnvMap.mem_assign.mpr (Or.inl rfl), Or.inl rfl, hzero⟩

theorem keepsPath_sanitizedEnvironment {shellSandbox : Bool} {policy : EnvPolicy}
    {config : EnvConfig} {environ : List Bytes} (hconfig : ∀ item ∈ config.env, 0 ∉ item.2) :
    KeepsPath (presetPath shellSandbox)
      (sanitizedEnvironment shellSandbox policy config environ) := by
  obtain ⟨-, -, -, hne, -⟩ := presetEnvVars_eq shellSandbox
  refine KeepsPath.assign _ ?_ (by decide)
  apply keepsPath_overrideEntries hne
  · intro item hitem
    exact hconfig item (EnvMap.mem_items.mp hitem)
  have hpresets : KeepsPath (presetPath shellSandbox) ((presetEnvVars shellSandbox).foldl
      applyPreset (deleteEnvVars.foldl EnvMap.erase
        (sanitizeInheritedEnv policy environ KeyedTable.empty))) := by
    apply keepsPath_applyPresets
    rintro ⟨value, hvalue⟩
    exact (EnvMap.mem_foldl_erase.mp hvalue).2 List.mem_cons_self
  cases shellSandbox with
  | false => exact hpresets
  | true => exact hpresets.assign _ (by decide)

end SandboxManager.Claw
