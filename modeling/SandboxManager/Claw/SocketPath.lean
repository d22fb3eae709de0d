import SandboxManager.Claw.CommandEnvironment

/-! Whether the path of the monitor's socket reaches the command.

It is taken out twice: from the configuration of a shell sandbox under any spelling of its
name, and from what is inherited under the one in capitals. What is left of it in the
environment is therefore an inherited string that spells the name otherwise, or an entry
of the configuration of another sandbox; `socketPath_hidden_iff` is that, with the policy
as a further guard on both. -/
namespace SandboxManager.Claw
open Library

/-! ### Names that pass every test -/

theorem isalpha_toupper (c : UInt8) : isalpha (toupper c) = isalpha c := by
  by_cases h : 97 ≤ c ∧ c ≤ 122
  · rw [toupper, if_pos h, Bool.eq_iff_iff]
    simp only [isalpha, UInt8.le_iff_toNat_le, UInt8.toNat_sub, UInt8.reduceToNat,
      Bool.or_eq_true, Bool.and_eq_true, decide_eq_true_eq] at h ⊢
    omega
  · rw [toupper, if_neg h]

theorem isalnum_toupper (c : UInt8) : isalnum (toupper c) = isalnum c := by
  by_cases h : 97 ≤ c ∧ c ≤ 122
  · have halpha : isalpha c = true := by
      simp only [isalpha, Bool.or_eq_true, Bool.and_eq_true, decide_eq_true_eq]
      exact Or.inr h
    simp only [isalnum, isalpha_toupper, halpha, Bool.true_or]
  · rw [toupper, if_neg h]

theorem underscore_toupper (c : UInt8) : (toupper c == underscore) = (c == underscore) := by
  by_cases h : 97 ≤ c ∧ c ≤ 122
  · rw [toupper, if_pos h, Bool.eq_iff_iff]
    simp only [underscore, UInt8.le_iff_toNat_le, ← UInt8.toNat_inj, UInt8.toNat_sub,
      UInt8.reduceToNat, beq_iff_eq] at h ⊢
    omega
  · rw [toupper, if_neg h]

/-- Whether a name is portable does not depend on its letter case. -/
theorem isPortableEnvVarKey_toUpperAscii (key : Bytes) :
    isPortableEnvVarKey (toUpperAscii key) = isPortableEnvVarKey key := by
  cases key with
  | nil => rfl
  | cons c rest =>
    have hall : (toUpperAscii (c :: rest)).all (fun ch => isalnum ch || ch == underscore || false) =
        (c :: rest).all fun ch => isalnum ch || ch == underscore || false := by
      rw [toUpperAscii, List.all_map]
      apply congrArg (List.all (c :: rest))
      funext ch
      show (isalnum (toupper ch) || toupper ch == underscore || false) = _
      rw [isalnum_toupper, underscore_toupper]
    show ((isalpha (toupper c) || toupper c == underscore) &&
      (toUpperAscii (c :: rest)).all fun ch => isalnum ch || ch == underscore || false) = _
    rw [hall, isalpha_toupper, underscore_toupper]
    rfl

theorem normalizeHostOverrideEnvVarKey_socketPath {rawKey : Bytes} (h : NamesSocketPath rawKey) :
    normalizeHostOverrideEnvVarKey rawKey = some (trimEnvKey rawKey) := by
  have hnil : trimEnvKey rawKey ≠ [] := by
    intro hnil
    rw [NamesSocketPath, upperName, hnil] at h
    cases h
  have hportable : isPortableEnvVarKey (trimEnvKey rawKey) = true := by
    rw [← isPortableEnvVarKey_toUpperAscii, show toUpperAscii (trimEnvKey rawKey) = _ from h]
    decide
  simp only [normalizeHostOverrideEnvVarKey, if_neg hnil, hportable, Bool.true_or, if_true]

/-! ### What the policy says of the name -/

/-- The tests of a policy do not depend on how a name is spelled. -/
theorem EnvPolicy.dangerous_of_upperName_eq {policy : EnvPolicy} {key key' : Bytes}
    (h : upperName key = upperName key') :
    policy.isDangerousHostEnvVarName key = policy.isDangerousHostEnvVarName key' ∧
    policy.isDangerousHostEnvOverrideVarName key = policy.isDangerousHostEnvOverrideVarName key' ∧
    policy.isDangerousHostInheritedEnvVarName key =
      policy.isDangerousHostInheritedEnvVarName key' := by
  refine ⟨?_, ?_, ?_⟩
  · rw [Bool.eq_iff_iff, isDangerousHostEnvVarName_iff, isDangerousHostEnvVarName_iff, Blocks,
      Blocks, h]
  · rw [Bool.eq_iff_iff, isDangerousHostEnvOverrideVarName_iff,
      isDangerousHostEnvOverrideVarName_iff, Blocks, Blocks, h]
  · rw [Bool.eq_iff_iff, isDangerousHostInheritedEnvVarName_iff,
      isDangerousHostInheritedEnvVarName_iff, Blocks, Blocks, h]

/-- The caller may not set the variable. -/
def BlocksOverride (policy : EnvPolicy) (key : Bytes) : Prop :=
  policy.isDangerousHostEnvVarName key = true ∨
    policy.isDangerousHostEnvOverrideVarName key = true

theorem namesSocketPath_iff {key : Bytes} :
    NamesSocketPath key ↔ upperName key = upperName MONITOR_SOCKET_PATH_ENV_KEY := Iff.rfl

theorem overrideName_socketPath {policy : EnvPolicy} {rawKey : Bytes} :
    (∃ key, overrideName policy rawKey = some key ∧ NamesSocketPath key) ↔
      NamesSocketPath rawKey ∧ ¬ BlocksOverride policy MONITOR_SOCKET_PATH_ENV_KEY := by
  constructor
  · rintro ⟨key, hname, hkey⟩
    rcases overrideEntry_cases policy KeyedTable.empty (rawKey, []) with
      ⟨hnone, -⟩ | ⟨hpath, -⟩ | ⟨name, hnormal, -, hsafe, hoverride, hsome, -⟩
    · rw [hnone] at hname
      cases hname
    · rw [hpath] at hname
      cases hname
      exact absurd hkey (by decide)
    · rw [hsome] at hname
      cases hname
      obtain ⟨htrim, -, -⟩ := normalizeHostOverrideEnvVarKey_some hnormal
      obtain ⟨heverywhere, hover, -⟩ :=
        @EnvPolicy.dangerous_of_upperName_eq policy _ _ (namesSocketPath_iff.mp hkey)
      refine ⟨?_, ?_⟩
      · rw [htrim, NamesSocketPath, upperName_trimEnvKey] at hkey
        exact hkey
      · rw [BlocksOverride, ← heverywhere, ← hover, hsafe, hoverride]
        simp
  · rintro ⟨hraw, hblocks⟩
    have htrimmed : NamesSocketPath (trimEnvKey rawKey) := by
      rwa [NamesSocketPath, upperName_trimEnvKey]
    obtain ⟨heverywhere, hover, -⟩ :=
      @EnvPolicy.dangerous_of_upperName_eq policy _ _ (namesSocketPath_iff.mp htrimmed)
    refine ⟨trimEnvKey rawKey, ?_, htrimmed⟩
    have hnotPath : upperName (trimEnvKey rawKey) ≠ bytes "PATH" := by
      rw [show upperName (trimEnvKey rawKey) = _ from htrimmed]
      decide
    have hsafe : ¬ (policy.isDangerousHostEnvVarName (trimEnvKey rawKey) ||
        policy.isDangerousHostEnvOverrideVarName (trimEnvKey rawKey)) = true := by
      rw [heverywhere, hover, Bool.or_eq_true]
      exact hblocks
    simp only [overrideName, normalizeHostOverrideEnvVarKey_socketPath hraw, if_neg hnotPath,
      if_neg hsafe]

/-- An inherited string brings the variable in under the name it spells, blanks removed. -/
theorem inheritedVariable_some {policy : EnvPolicy} {string key : Bytes} :
    (∃ value, inheritedVariable policy string = some (key, value)) ↔
      ∃ name text, cStr string = name ++ equalsSign :: text ∧ equalsSign ∉ name ∧
        trimEnvKey name = key ∧ key ≠ [] ∧
        policy.isDangerousHostInheritedEnvVarName key = false := by
  constructor
  · rintro ⟨value, h⟩
    simp only [inheritedVariable] at h
    split at h
    next hsafe =>
      cases h
      refine ⟨_, _, split_entry hsafe.1, ?_, rfl, hsafe.2⟩
      intro hsign
      have hnot := List.mem_takeWhile_imp hsign
      simp at hnot
    · cases h
  · rintro ⟨name, text, hentry, hfirst, rfl, hsafe⟩
    have htake : (cStr string).takeWhile (· ≠ equalsSign) = name := by
      rw [hentry, List.takeWhile_append_of_pos]
      · simp
      · intro c hc
        have hne : c ≠ equalsSign := fun h => hfirst (h ▸ hc)
        simpa using hne
    have hsign : equalsSign ∈ cStr string := by simp [hentry]
    simp only [inheritedVariable, htake]
    rw [if_pos ⟨hsign, hsafe⟩]
    exact ⟨_, rfl⟩

/-! ### The result -/

/-- No inherited string spells the name other than in capitals, and only a shell sandbox has
an entry for it, unless the policy blocks it. -/
structure Hidden (policy : EnvPolicy) (config : EnvConfig) (environ : List Bytes) : Prop where
  inherited : ∀ string ∈ environ, ∀ name text, cStr string = name ++ equalsSign :: text →
    equalsSign ∉ name → NamesSocketPath name → trimEnvKey name = MONITOR_SOCKET_PATH_ENV_KEY ∨
      policy.isDangerousHostInheritedEnvVarName MONITOR_SOCKET_PATH_ENV_KEY = true
  caller : config.type = bytes "shell" ∨ (∀ item ∈ config.env, ¬ NamesSocketPath item.1) ∨
    BlocksOverride policy MONITOR_SOCKET_PATH_ENV_KEY

theorem socketPath_not_preset : ∀ shellSandbox, ∀ item ∈ presetEnvVars shellSandbox,
    ¬ NamesSocketPath item.1 := by decide

/-- Of the names that are deleted, one names the path. -/
theorem socketPath_deleted {key : Bytes} (h : NamesSocketPath key) :
    key ∈ deleteEnvVars ↔ key = MONITOR_SOCKET_PATH_ENV_KEY := by
  have hdelete : ∀ key ∈ deleteEnvVars, NamesSocketPath key → key = MONITOR_SOCKET_PATH_ENV_KEY := by
    decide
  constructor
  · exact fun hkey => hdelete key hkey h
  · rintro rfl
    decide

/-- **The path of the monitor's socket.** It stays out of the environment exactly when no
inherited string spells its name otherwise and no sandbox but a shell one is given it. -/
theorem socketPath_hidden_iff {shellSandbox : Bool} {calls : EnvCalls} {policy : EnvPolicy}
    {config config' : EnvConfig} {path : Bytes} {environ : List Bytes} {final : Environment}
    (hextract : extractMonitorSocketPath config = .ok (config', path))
    (happly : applyEnvironment shellSandbox calls policy config' environ = .ok final) :
    (∀ item ∈ final, ¬ NamesSocketPath item.1) ↔ Hidden policy config environ := by
  obtain ⟨-, hconfig⟩ := mem_extractMonitorSocketPath hextract
  have hnames : (∀ item ∈ final, ¬ NamesSocketPath item.1) ↔ ∀ key, NamesSocketPath key →
      ¬ (sanitizedEnvironment shellSandbox policy config' environ).Has key := by
    simp only [← (mem_applyEnvironment happly).2]
    constructor
    · rintro h key hkey ⟨value, hvalue⟩
      exact h _ hvalue hkey
    · intro h item hitem hkey
      exact h item.1 hkey ⟨item.2, hitem⟩
  rw [hnames]
  constructor
  · intro h
    constructor
    · intro string hstring name text hentry hfirst hname
      by_contra hnot
      rw [not_or, Bool.not_eq_true] at hnot
      have htrimmed : NamesSocketPath (trimEnvKey name) := by
        rwa [NamesSocketPath, upperName_trimEnvKey]
      have hnil : trimEnvKey name ≠ [] := by
        intro hnil
        rw [hnil] at htrimmed
        exact absurd htrimmed (by decide)
      have hsafe : policy.isDangerousHostInheritedEnvVarName (trimEnvKey name) = false :=
        (EnvPolicy.dangerous_of_upperName_eq (namesSocketPath_iff.mp htrimmed)).2.2.trans hnot.2
      apply h _ htrimmed
      rw [has_sanitizedEnvironment]
      refine Or.inr (Or.inr (Or.inr (Or.inr ⟨?_, string, hstring, ?_⟩)))
      · rw [socketPath_deleted htrimmed]
        exact hnot.1
      · exact inheritedVariable_some.mpr ⟨name, text, hentry, hfirst, rfl, hnil, hsafe⟩
    · by_contra hnot
      simp only [not_or, not_forall, not_not] at hnot
      obtain ⟨htype, ⟨item, hitem, hname⟩, hblocks⟩ := hnot
      obtain ⟨key, hkey, hsocket⟩ := overrideName_socketPath.mpr ⟨hname, hblocks⟩
      apply h key hsocket
      rw [has_sanitizedEnvironment]
      refine Or.inr (Or.inl ⟨item, (hconfig item).mpr ⟨hitem, fun h => absurd h htype⟩, hkey⟩)
  · intro hhidden key hkey hhas
    rcases has_sanitizedEnvironment.mp hhas with
      rfl | ⟨item, hitem, hname⟩ | ⟨-, rfl⟩ | ⟨item, hitem, rfl⟩ | ⟨hdelete, string, hstring, hvalue⟩
    · exact absurd hkey (by decide)
    · obtain ⟨hitem, hshell⟩ := (hconfig item).mp hitem
      obtain ⟨hsocket, hblocks⟩ := overrideName_socketPath.mp ⟨key, hname, hkey⟩
      rcases hhidden.caller with htype | hnone | hblocked
      · exact hshell htype hsocket
      · exact hnone item hitem hsocket
      · exact hblocks hblocked
    · exact absurd hkey (by decide)
    · exact socketPath_not_preset shellSandbox item hitem hkey
    · obtain ⟨name, text, hentry, hfirst, rfl, -, hsafe⟩ := inheritedVariable_some.mp hvalue
      have hname : NamesSocketPath name := by
        rwa [NamesSocketPath, upperName_trimEnvKey] at hkey
      rcases hhidden.inherited string hstring name text hentry hfirst hname with htrim | hblocked
      · exact hdelete ((socketPath_deleted hkey).mpr htrim)
      · rw [(EnvPolicy.dangerous_of_upperName_eq (namesSocketPath_iff.mp hkey)).2.2, hblocked]
          at hsafe
        cases hsafe

/-- The configuration of a sandbox that is none of a shell, with the entry. -/
def cliConfig : EnvConfig :=
  ⟨bytes "cli", EnvMap.assign KeyedTable.empty MONITOR_SOCKET_PATH_ENV_KEY (bytes "/data/app.socket"),
    bytes "100", []⟩

def shellConfig : EnvConfig := { cliConfig with type := bytes "shell" }

theorem socketPath_hidden_shell :
    ∃ config' path final, extractMonitorSocketPath shellConfig = .ok (config', path) ∧
      applyEnvironment true ⟨true, fun _ => true⟩ {} config'
        [bytes "SANDBOX_SOCKET_PATH=/data/app.socket"] = .ok final ∧
      ((∀ item ∈ final, ¬ NamesSocketPath item.1) ↔
        Hidden {} shellConfig [bytes "SANDBOX_SOCKET_PATH=/data/app.socket"]) := by
  obtain ⟨config', path, final, hextract, happly⟩ : ∃ config' path final,
      extractMonitorSocketPath shellConfig = .ok (config', path) ∧
      applyEnvironment true ⟨true, fun _ => true⟩ {} config'
        [bytes "SANDBOX_SOCKET_PATH=/data/app.socket"] = .ok final := ⟨_, _, _, rfl, rfl⟩
  exact ⟨config', path, final, hextract, happly, socketPath_hidden_iff hextract happly⟩

/-- What the configuration of another sandbox sets is set after the deletion. -/
theorem not_socketPath_hidden :
    ¬ ∀ (shellSandbox : Bool) (calls : EnvCalls) (policy : EnvPolicy) (config config' : EnvConfig)
      (path : Bytes) (environ : List Bytes) (final : Environment),
      extractMonitorSocketPath config = .ok (config', path) →
      applyEnvironment shellSandbox calls policy config' environ = .ok final →
      ∀ item ∈ final, ¬ NamesSocketPath item.1 := by
  intro h
  obtain ⟨final, happly, hmem⟩ : ∃ final, applyEnvironment true ⟨true, fun _ => true⟩ {} cliConfig
      [] = .ok final ∧
      (MONITOR_SOCKET_PATH_ENV_KEY, ⟨bytes "/data/app.socket", .caller⟩) ∈ final.rows :=
    ⟨_, rfl, by decide +kernel⟩
  exact h _ _ _ cliConfig _ [] _ final rfl happly _ hmem (by decide)

end SandboxManager.Claw
