import SandboxManager.Claw.Sanitize

/-! The environment the command receives.

The process environment is the map, set variable by variable (`mem_applyEnvironment`), and in
a shell sandbox the tool credentials on top of it. Before that the entry for the monitor's
socket has left the configuration (`mem_extractMonitorSocketPath`).
`commandEnvironment_sanitised` says what the policy keeps out of the result. -/
namespace SandboxManager.Claw
open Library

/-! ### Setting the variables -/

/-- A variable as the C interface stores it. -/
def stored (item : Bytes × EnvValue) : Bytes × EnvValue :=
  (cStr item.1, { item.2 with text := cStr item.2.text })

theorem setenv_some {calls : EnvCalls} {environment environment' : Environment} {name : Bytes}
    {value : EnvValue} (h : setenv calls environment name value = some environment') :
    environment' = environment.assign (stored (name, value)).1 (stored (name, value)).2 := by
  simp only [setenv] at h
  split at h
  · cases h
  · split at h
    · exact (Option.some.inj h).symm
    · cases h

theorem setAll_ok {calls : EnvCalls} {items : List (Bytes × EnvValue)}
    {environment final : Environment} (h : setAll calls items environment = .ok final) :
    (∀ item ∈ final, item ∈ environment ∨ ∃ item' ∈ items, item = stored item') ∧
    (∀ key, final.Has key ↔ environment.Has key ∨ ∃ item ∈ items, (stored item).1 = key) := by
  induction items generalizing environment with
  | nil =>
    cases h
    simp
  | cons item items ih =>
    rw [setAll] at h
    cases hset : setenv calls environment item.1 item.2 with
    | none =>
      rw [hset] at h
      cases h
    | some environment' =>
      rw [hset] at h
      obtain ⟨hmem, hhas⟩ := ih h
      have henvironment := setenv_some hset
      constructor
      · intro item' hitem'
        rcases hmem item' hitem' with hitem' | ⟨source, hsource, heq⟩
        · rw [henvironment] at hitem'
          rcases EnvMap.mem_assign.mp hitem' with heq | ⟨hitem', -⟩
          · exact Or.inr ⟨item, List.mem_cons_self, heq⟩
          · exact Or.inl hitem'
        · exact Or.inr ⟨source, List.mem_cons_of_mem _ hsource, heq⟩
      · intro key
        rw [hhas, henvironment, EnvMap.has_assign, List.exists_mem_cons_iff]
        tauto

section
variable {shellSandbox : Bool} {calls : EnvCalls} {policy : EnvPolicy} {config : EnvConfig}
  {environ : List Bytes} {final : Environment}

/-- The process environment is the map, each text up to its first NUL. -/
theorem mem_applyEnvironment
    (h : applyEnvironment shellSandbox calls policy config environ = .ok final) :
    (∀ item ∈ final, ∃ value, (item.1, value) ∈ sanitizedEnvironment shellSandbox policy config environ ∧
      item.2 = { value with text := cStr value.text }) ∧
    (∀ key, final.Has key ↔
      (sanitizedEnvironment shellSandbox policy config environ).Has key) := by
  have hname : ∀ item ∈ sanitizedEnvironment shellSandbox policy config environ,
      (stored item).1 = item.1 := fun item hitem =>
    cStr_of_zero_notMem (vetted_sanitizedEnvironment item hitem).zero_notMem
  simp only [applyEnvironment, applySanitizedEnv] at h
  split at h
  · cases h
  · obtain ⟨hmem, hhas⟩ := setAll_ok h
    constructor
    · intro item hitem
      rcases hmem item hitem with hempty | ⟨source, hsource, rfl⟩
      · exact absurd hempty (KeyedTable.not_mem_empty _)
      · have hsource := EnvMap.mem_items.mp hsource
        rw [hname source hsource]
        exact ⟨source.2, hsource, rfl⟩
    · intro key
      rw [hhas]
      constructor
      · rintro (hempty | ⟨source, hsource, rfl⟩)
        · exact absurd hempty EnvMap.has_empty
        · have hsource := EnvMap.mem_items.mp hsource
          rw [hname source hsource]
          exact ⟨source.2, hsource⟩
      · rintro ⟨value, hvalue⟩
        exact Or.inr ⟨_, EnvMap.mem_items.mpr hvalue, hname _ hvalue⟩

/-- A variable a credential was set as. -/
def IsCredential (config : EnvConfig) (reply : Option (List (Bytes × Bytes)))
    (item : Bytes × EnvValue) : Prop :=
  config.type = bytes "shell" ∧ ∃ credentials, reply = some credentials ∧
    ∃ credential ∈ credentials, item = stored (credential.1, ⟨credential.2, .credential⟩)

theorem mem_setToolCredentials (credentials : List (Bytes × Bytes)) (environment : Environment) :
    (∀ item ∈ credentials.foldl (setToolCredential calls) environment, item ∈ environment ∨
      ∃ credential ∈ credentials, item = stored (credential.1, ⟨credential.2, .credential⟩)) ∧
    ∀ key, environment.Has key →
      EnvMap.Has (credentials.foldl (setToolCredential calls) environment) key := by
  induction credentials generalizing environment with
  | nil => exact ⟨fun item hitem => Or.inl hitem, fun key hkey => hkey⟩
  | cons credential credentials ih =>
    obtain ⟨hmem, hhas⟩ := ih (setToolCredential calls environment credential)
    have hstep : setToolCredential calls environment credential = environment ∨
        setToolCredential calls environment credential =
          environment.assign (stored (credential.1, ⟨credential.2, .credential⟩)).1
            (stored (credential.1, ⟨credential.2, .credential⟩)).2 := by
      unfold setToolCredential
      split
      · cases hset : setenv calls environment credential.1 ⟨credential.2, .credential⟩ with
        | none => exact Or.inl rfl
        | some environment' => exact Or.inr (setenv_some hset)
      · exact Or.inl rfl
    rw [List.foldl_cons]
    constructor
    · intro item hitem
      rcases hmem item hitem with hitem | ⟨source, hsource, heq⟩
      · rcases hstep with hstep | hstep
        · exact Or.inl (hstep ▸ hitem)
        · rw [hstep] at hitem
          rcases EnvMap.mem_assign.mp hitem with heq | ⟨hitem, -⟩
          · exact Or.inr ⟨credential, List.mem_cons_self, heq⟩
          · exact Or.inl hitem
      · exact Or.inr ⟨source, List.mem_cons_of_mem _ hsource, heq⟩
    · intro key hkey
      apply hhas key
      rcases hstep with hstep | hstep
      · rw [hstep]
        exact hkey
      · rw [hstep]
        exact EnvMap.has_assign.mpr (Or.inr hkey)

/-- Credentials come on top: what is not one of them was there before, and no name goes. -/
theorem mem_commandEnvironment {reply : Option (List (Bytes × Bytes))}
    (h : commandEnvironment shellSandbox calls policy config environ reply = .ok final) :
    ∃ environment, applyEnvironment shellSandbox calls policy config environ = .ok environment ∧
      (∀ item ∈ final, item ∈ environment ∨
        shellSandbox = true ∧ IsCredential config reply item) ∧
      ∀ key, environment.Has key → final.Has key := by
  cases happly : applyEnvironment shellSandbox calls policy config environ with
  | error e =>
    rw [commandEnvironment, happly] at h
    cases h
  | ok environment =>
    rw [commandEnvironment, happly] at h
    refine ⟨environment, rfl, ?_⟩
    cases shellSandbox with
    | false =>
      cases h
      exact ⟨fun item hitem => Or.inl hitem, fun key hkey => hkey⟩
    | true =>
      have hfinal : setToolCredentials calls config (fetchToolCredentials config reply)
          environment = final := Except.ok.inj h
      rw [← hfinal, setToolCredentials]
      split
      · exact ⟨fun item hitem => Or.inl hitem, fun key hkey => hkey⟩
      next htype =>
        have htype : config.type = bytes "shell" := not_ne_iff.mp htype
        obtain ⟨hmem, hhas⟩ :=
          mem_setToolCredentials (fetchToolCredentials config reply) environment
        refine ⟨fun item hitem => (hmem item hitem).imp_right ?_, hhas⟩
        rintro ⟨credential, hcredential, heq⟩
        unfold fetchToolCredentials at hcredential
        rw [if_neg (not_not_intro htype)] at hcredential
        split at hcredential
        · cases hcredential
        · cases reply with
          | none => cases hcredential
          | some credentials =>
            exact ⟨rfl, htype, credentials, rfl, credential, List.mem_of_mem_filter hcredential,
              heq⟩

end

/-! ### Taking the socket path out -/

/-- The entry of a map is the path of the monitor's socket, however its name is spelled. -/
def NamesSocketPath (key : Bytes) : Prop := upperName key = MONITOR_SOCKET_PATH_ENV_KEY

instance (key : Bytes) : Decidable (NamesSocketPath key) :=
  inferInstanceAs (Decidable (_ = _))

theorem extractLoop_ok {items : List (Bytes × Bytes)} {found : Nat} {env env' : EnvMap Bytes}
    {path path' : Bytes} (h : extractLoop items found env path = .ok (env', path')) :
    ∀ item, item ∈ env' ↔ item ∈ env ∧
      ∀ item' ∈ items, NamesSocketPath item'.1 → item.1 ≠ item'.1 := by
  induction items generalizing found env path with
  | nil =>
    cases h
    simp
  | cons head items ih =>
    rw [extractLoop] at h
    intro item
    rw [List.forall_mem_cons]
    split at h
    next hother =>
      have hnot : ¬ NamesSocketPath head.1 := hother
      rw [ih h item]
      exact and_congr_right fun _ => ⟨fun h => ⟨fun hs => absurd hs hnot, h⟩, And.right⟩
    next hsocket =>
      have hsocket : NamesSocketPath head.1 := not_ne_iff.mp hsocket
      split at h
      · cases h
      · rw [ih h item, EnvMap.mem_erase, and_assoc]
        exact and_congr_right fun _ =>
          ⟨fun h => ⟨fun _ => h.1, h.2⟩, fun h => ⟨h.1 hsocket, h.2⟩⟩

/-- A shell sandbox keeps the entries that are not the path, any other keeps them all. -/
theorem mem_extractMonitorSocketPath {config config' : EnvConfig} {path : Bytes}
    (h : extractMonitorSocketPath config = .ok (config', path)) :
    config'.type = config.type ∧
    ∀ item, item ∈ config'.env ↔
      item ∈ config.env ∧ (config.type = bytes "shell" → ¬ NamesSocketPath item.1) := by
  unfold extractMonitorSocketPath at h
  split at h
  next htype =>
    cases h
    exact ⟨rfl, fun item => by simp [htype]⟩
  next htype =>
    have htype : config.type = bytes "shell" := not_ne_iff.mp htype
    cases hloop : extractLoop config.env.items 0 config.env [] with
    | error e =>
      rw [hloop] at h
      cases h
    | ok out =>
      obtain ⟨env, path⟩ := out
      rw [hloop] at h
      cases h
      refine ⟨rfl, fun item => (extractLoop_ok hloop item).trans ?_⟩
      simp only [EnvMap.mem_items]
      refine and_congr_right fun hitem => ⟨fun h _ hsocket => ?_, fun h item' hitem' hsocket => ?_⟩
      · exact h item hitem hsocket rfl
      · intro heq
        exact h htype (heq ▸ hsocket)

/-! ### What the policy keeps out -/

theorem zero_notMem_parseEnvItems {members : List (Bytes × Json)} {out env : EnvMap Bytes}
    (h : parseEnvItems members out = .ok env) (hout : ∀ item ∈ out, 0 ∉ item.2) :
    ∀ item ∈ env, 0 ∉ item.2 := by
  induction members generalizing out with
  | nil =>
    cases h
    exact hout
  | cons member members ih =>
    obtain ⟨string, value⟩ := member
    cases value with
    | string valuestring =>
      simp only [parseEnvItems] at h
      split at h
      · cases h
      · apply ih h
        intro item hitem
        rcases EnvMap.mem_assign.mp hitem with rfl | ⟨hitem, -⟩
        · exact zero_notMem_cStr valuestring
        · exact hout item hitem
    | _ => cases h

/-- Names the environment fixes whatever the policy says. -/
def Fixed (shellSandbox : Bool) (name : Bytes) : Prop :=
  name = bytes "PATH" ∨ name = bytes "USER" ∨ name = CLAW_SANDBOX_ENV_KEY ∨
    ∃ item ∈ presetEnvVars shellSandbox, item.1 = name

instance (shellSandbox : Bool) (name : Bytes) : Decidable (Fixed shellSandbox name) :=
  inferInstanceAs (Decidable (_ ∨ _ ∨ _ ∨ _))

/-- The template blocks the name by a key of the one field or a prefix of the other. -/
def TemplateBlocks (root : Json) (keys prefixes name : Bytes) : Prop :=
  TemplateLists root keys (upperName name) ∨
    ∃ p, p ≠ [] ∧ TemplateLists root prefixes p ∧ p <+: upperName name

theorem blocks_iff {root : Json} {keys prefixes : List Bytes} {keysField prefixesField : Bytes}
    {name : Bytes}
    (hkeys : ∀ n, n ∈ keys ↔ n ≠ [] ∧ TemplateLists root keysField n)
    (hprefixes : ∀ n, n ∈ prefixes ↔ n ≠ [] ∧ TemplateLists root prefixesField n)
    (hname : upperName name ≠ []) :
    Blocks keys prefixes name ↔ TemplateBlocks root keysField prefixesField name := by
  simp only [Blocks, TemplateBlocks, hkeys, hprefixes, hname, ne_eq, not_false_eq_true, true_and,
    and_assoc]

/-- A variable that is not fixed: whether inherited or the caller's, the policy allows it. -/
structure Permitted (root : Json) (config : EnvConfig) (environ : List Bytes)
    (item : Bytes × EnvValue) : Prop where
  origin : item.2.origin = .inherited ∨ item.2.origin = .caller
  everywhere : ¬ TemplateBlocks root (bytes "blocked-everywhere-keys") (bytes "blocked-prefixes")
    item.1
  caller : item.2.origin = .caller →
    (∃ rawKey, (rawKey, item.2.text) ∈ config.env ∧ trimEnvKey rawKey = item.1) ∧
    ¬ TemplateBlocks root (bytes "blocked-override-only-keys")
      (bytes "blocked-override-prefixes") item.1
  inherited : item.2.origin = .inherited →
    (∃ string ∈ environ, ∃ name, cStr string = name ++ equalsSign :: item.2.text ∧
      trimEnvKey name = item.1) ∧
    (TemplateLists root (bytes "blocked-override-only-keys") (upperName item.1) →
      TemplateLists root (bytes "allowed-inherited-override-only-keys") (upperName item.1))

theorem Vetted.permitted {shellSandbox : Bool} {root : Json} {policy : EnvPolicy}
    {config : EnvConfig} {environ : List Bytes} {item : Bytes × EnvValue}
    (h : Vetted shellSandbox policy config environ item) (hpolicy : Parsed root policy)
    (hfixed : ¬ Fixed shellSandbox item.1) : Permitted root config environ item := by
  cases h with
  | @inherited env name text mem entry first nonempty safe =>
    have hname : upperName (trimEnvKey name) ≠ [] := by
      rw [upperName_trimEnvKey]
      exact fun hnil => nonempty (toUpperAscii_eq_nil.mp hnil)
    rw [← Bool.not_eq_true, EnvPolicy.isDangerousHostInheritedEnvVarName_iff,
      blocks_iff hpolicy.everywhere hpolicy.prefixes hname, hpolicy.allowed,
      hpolicy.overrideOnly] at safe
    exact
      { origin := Or.inl rfl
        everywhere := fun hblocked => safe ⟨hname, Or.inl hblocked⟩
        caller := nofun
        inherited := fun _ => ⟨⟨env, mem, name, entry, rfl⟩, fun hlisted =>
          by_contra fun hnot => safe ⟨hname, Or.inr ⟨fun h => hnot h.2, hname, hlisted⟩⟩⟩ }
  | @preset item mem text => exact absurd (Or.inr (Or.inr (Or.inr ⟨item, mem, rfl⟩))) hfixed
  | user => exact absurd (Or.inr (Or.inl rfl)) hfixed
  | path text => exact absurd (Or.inl rfl) hfixed
  | @caller rawKey name text mem normal safe safeOverride =>
    obtain ⟨htrim, hne, -⟩ := normalizeHostOverrideEnvVarKey_some normal
    have hname : upperName name ≠ [] := by
      rw [htrim, upperName_trimEnvKey]
      rw [htrim] at hne
      exact fun hnil => hne (toUpperAscii_eq_nil.mp hnil)
    rw [← Bool.not_eq_true, EnvPolicy.isDangerousHostEnvVarName_iff,
      blocks_iff hpolicy.everywhere hpolicy.prefixes hname] at safe
    rw [← Bool.not_eq_true, EnvPolicy.isDangerousHostEnvOverrideVarName_iff,
      blocks_iff hpolicy.overrideOnly hpolicy.overridePrefixes hname] at safeOverride
    exact
      { origin := Or.inr rfl
        everywhere := fun hblocked => safe ⟨hname, hblocked⟩
        caller := fun _ => ⟨⟨rawKey, mem, htrim.symm⟩, fun hblocked => safeOverride ⟨hname, hblocked⟩⟩
        inherited := nofun }
  | marker => exact absurd (Or.inr (Or.inr (Or.inl rfl))) hfixed

/-- The environment of the command, but for the variables that are exempt. -/
structure Sanitised (exempt : Bytes × EnvValue → Prop) (shellSandbox : Bool) (root : Json)
    (config : EnvConfig) (environ : List Bytes) (final : Environment) : Prop where
  permitted : ∀ item ∈ final, ¬ exempt item → ¬ Fixed shellSandbox item.1 →
    Permitted root config environ item
  marker : ∃ value, (CLAW_SANDBOX_ENV_KEY, value) ∈ final ∧
    (exempt (CLAW_SANDBOX_ENV_KEY, value) ∨ value.text = bytes "1")
  path : ∃ value, (bytes "PATH", value) ∈ final ∧
    (exempt (bytes "PATH", value) ∨ EndsIn (presetPath shellSandbox) value.text)

/-- What is permitted is a C string, and permitted by a larger configuration too. -/
theorem Permitted.cStr_text {root : Json} {config config' : EnvConfig} {environ : List Bytes}
    {name : Bytes} {value : EnvValue} (h : Permitted root config' environ (name, value))
    (hsub : ∀ item ∈ config'.env, item ∈ config.env) (hzero : ∀ item ∈ config.env, 0 ∉ item.2) :
    cStr value.text = value.text ∧ Permitted root config environ (name, value) := by
  have htext : 0 ∉ value.text := by
    rcases h.origin with horigin | horigin
    · obtain ⟨⟨string, -, front, hentry, -⟩, -⟩ := h.inherited horigin
      intro hmem
      apply zero_notMem_cStr string
      rw [hentry]
      exact List.mem_append_right _ (List.mem_cons_of_mem _ hmem)
    · obtain ⟨⟨rawKey, hmem, -⟩, -⟩ := h.caller horigin
      exact hzero _ (hsub _ hmem)
  exact ⟨cStr_of_zero_notMem htext,
    { h with
      caller := fun horigin =>
        have ⟨⟨rawKey, hmem, hkey⟩, hblocked⟩ := h.caller horigin
        ⟨⟨rawKey, hsub _ hmem, hkey⟩, hblocked⟩ }⟩

/-- **The command's environment.** But for the tool credentials of a shell sandbox, every
variable outside the fixed ones is one the template's policy allows, the marker is set and
the path ends in the preset one. -/
theorem commandEnvironment_sanitised {shellSandbox : Bool} {calls : EnvCalls} {root : Json}
    {policy : EnvPolicy} {members : List (Bytes × Json)} {config config' : EnvConfig}
    {path : Bytes} {environ : List Bytes} {reply : Option (List (Bytes × Bytes))}
    {final : Environment}
    (hpolicy : parseEnvPolicyJson root {} = .ok policy)
    (henv : parseEnvItems members KeyedTable.empty = .ok config.env)
    (hextract : extractMonitorSocketPath config = .ok (config', path))
    (hrun : commandEnvironment shellSandbox calls policy config' environ reply = .ok final) :
    Sanitised (fun item => shellSandbox = true ∧ IsCredential config reply item) shellSandbox root
      config environ final := by
  obtain ⟨htype, hconfig⟩ := mem_extractMonitorSocketPath hextract
  obtain ⟨environment, happly, hmem, hhas⟩ := mem_commandEnvironment hrun
  obtain ⟨hsource, hnames⟩ := mem_applyEnvironment happly
  have hsub : ∀ item ∈ config'.env, item ∈ config.env := fun item hitem =>
    ((hconfig item).mp hitem).1
  have hzero : ∀ item ∈ config.env, 0 ∉ item.2 :=
    zero_notMem_parseEnvItems henv fun item hitem => absurd hitem (KeyedTable.not_mem_empty _)
  have hcredential : ∀ item, IsCredential config' reply item → IsCredential config reply item := by
    intro item hitem
    rwa [IsCredential, htype] at hitem
  -- a name the map holds is in the final environment, as a credential or with the map's text
  have hfinal : ∀ name value,
      (name, value) ∈ sanitizedEnvironment shellSandbox policy config' environ →
      ∃ value', (name, value') ∈ final ∧
        ((shellSandbox = true ∧ IsCredential config reply (name, value')) ∨
          value'.text = cStr value.text) := by
    intro name value hvalue
    obtain ⟨value', hvalue'⟩ := hhas name ((hnames name).mpr ⟨value, hvalue⟩)
    refine ⟨value', hvalue', ?_⟩
    rcases hmem _ hvalue' with hold | ⟨hshell, hnew⟩
    · right
      obtain ⟨value'', hvalue'', heq⟩ := hsource _ hold
      have hsame := KeyedTable.eq_of_key_eq hvalue'' hvalue rfl
      rw [show value' = _ from heq, (Prod.mk.inj hsame).2]
    · exact Or.inl ⟨hshell, hcredential _ hnew⟩
  constructor
  case permitted =>
    rintro ⟨name, value⟩ hitem hexempt hfixed
    rcases hmem _ hitem with hold | ⟨hshell, hnew⟩
    · obtain ⟨value', hvalue', heq⟩ := hsource _ hold
      obtain ⟨htext, hpermitted⟩ := ((vetted_sanitizedEnvironment _ hvalue').permitted
        (parsed_parseEnvPolicyJson hpolicy) hfixed).cStr_text hsub hzero
      have hvalue : value = value' := by
        rw [show value = _ from heq, htext]
      rw [hvalue]
      exact hpermitted
    · exact absurd ⟨hshell, hcredential _ hnew⟩ hexempt
  case marker =>
    obtain ⟨value, hvalue, htext⟩ := hfinal CLAW_SANDBOX_ENV_KEY _
      (EnvMap.mem_assign.mpr (Or.inl rfl))
    exact ⟨value, hvalue, htext⟩
  case path =>
    have hkeeps : KeepsPath (presetPath shellSandbox)
        (sanitizedEnvironment shellSandbox policy config' environ) :=
      keepsPath_sanitizedEnvironment fun item hitem => hzero item (hsub item hitem)
    obtain ⟨value, hvalue, hends, hnul⟩ := hkeeps
    obtain ⟨value', hvalue', htext⟩ := hfinal _ _ hvalue
    refine ⟨value', hvalue', htext.imp_right fun htext => ?_⟩
    rw [htext, cStr_of_zero_notMem hnul]
    exact hends

/-- A template that blocks `LD_PRELOAD` everywhere. -/
def preloadTemplate : Json :=
  .object [(bytes "env-policy",
    .object [(bytes "blocked-everywhere-keys", .array [.string (bytes " ld_preload")])])]

def preloadPolicy : EnvPolicy := { blockedEverywhereKeys := [bytes "LD_PRELOAD"] }

def preloadConfig : EnvConfig := ⟨bytes "shell", KeyedTable.empty, bytes "100", bytes "subject"⟩

theorem commandEnvironment_sanitised_inherited :
    ∃ final, commandEnvironment true ⟨true, fun _ => true⟩ preloadPolicy preloadConfig
        [bytes "Ld_Preload=/x.so"] none = .ok final ∧
      Sanitised (fun item => true = true ∧ IsCredential preloadConfig none item) true
        preloadTemplate preloadConfig [bytes "Ld_Preload=/x.so"] final := by
  obtain ⟨final, hrun⟩ : ∃ final, commandEnvironment true ⟨true, fun _ => true⟩ preloadPolicy
      preloadConfig [bytes "Ld_Preload=/x.so"] none = .ok final := ⟨_, rfl⟩
  exact ⟨final, hrun, @commandEnvironment_sanitised _ _ _ _ [] _ _ [] _ _ _ rfl rfl rfl hrun⟩

/-- A credential is not held against the policy: here it is the variable the template blocks. -/
theorem not_commandEnvironment_sanitised :
    ¬ ∀ (shellSandbox : Bool) (calls : EnvCalls) (root : Json) (policy : EnvPolicy)
      (members : List (Bytes × Json)) (config config' : EnvConfig) (path : Bytes)
      (environ : List Bytes) (reply : Option (List (Bytes × Bytes))) (final : Environment),
      parseEnvPolicyJson root {} = .ok policy →
      parseEnvItems members KeyedTable.empty = .ok config.env →
      extractMonitorSocketPath config = .ok (config', path) →
      commandEnvironment shellSandbox calls policy config' environ reply = .ok final →
      Sanitised (fun _ => False) shellSandbox root config environ final := by
  intro h
  obtain ⟨final, hrun, hmem⟩ : ∃ final, commandEnvironment true ⟨true, fun _ => true⟩ preloadPolicy
      preloadConfig [] (some [(bytes "LD_PRELOAD", bytes "/x.so")]) = .ok final ∧
      (bytes "LD_PRELOAD", ⟨bytes "/x.so", .credential⟩) ∈ final.rows := ⟨_, rfl, by decide +kernel⟩
  have hsanitised := h _ _ preloadTemplate _ [] preloadConfig _ [] _ _ final rfl rfl rfl hrun
  have hpermitted := hsanitised.permitted _ hmem id (by decide)
  have hlisted : TemplateLists preloadTemplate (bytes "blocked-everywhere-keys")
      (upperName (bytes "LD_PRELOAD")) :=
    ⟨_, _, bytes " ld_preload", rfl, rfl, List.mem_cons_self, rfl⟩
  exact hpermitted.everywhere (Or.inl hlisted)

end SandboxManager.Claw
