import SandboxManager.Claw.Arguments
import SandboxManager.Claw.Confinement
import SandboxManager.Claw.LegalConfig

/-! The program (`main`, `sandbox_loader.cpp`): from its arguments to a sandbox, or to a deletion.

`main_sandboxed` is about all of it at once. Nothing is assumed of the arguments, and nothing of the
world but the effects of its calls: where a program runs, it runs in a process that is confined as
the configuration and the template say, and never less than every sandbox is (`Sandboxed`).
`main_removes` is the same for a deletion. -/
namespace SandboxManager.Claw
open Library MountPhase Launch

/-- What the program is started in: how it was built, what its parser relies on, and the world. -/
structure Setting where
  build : Build
  sources : ConfigSources
  world : LaunchWorld

namespace Setting
variable (S : Setting)

/-- The parser is of the same build. -/
def parser : ConfigSources := { S.sources with shellSandbox := S.build.shellSandbox }

def launch (e : SandboxExec) (config : SandboxConfig) (monitorSocketPath : Bytes) : Launch where
  build := S.build
  world := S.world
  config := config
  argv := e.cmdInfo
  monitorSocketPath := monitorSocketPath

/-- `Run`. -/
def runExec (e : SandboxExec) : Outcome × LaunchState :=
  match initializeConfig S.build e.config with
  | .error error => (.of error, {})
  | .ok (config, monitorSocketPath) =>
    let L := S.launch e config monitorSocketPath
    if e.deleteRequested then L.deleteSandboxDir {} else L.execute {}

def main (args : List Bytes) : Outcome × LaunchState :=
  match parseArguments S.parser args with
  | .error error => (.of error, {})
  | .ok e => if e.helpRequested then (.success, {}) else S.runExec e

end Setting

/-! ### The configuration that is used -/

section
variable {X : ConfigSources}

/-- What was read as a configuration was legal. -/
def Read (X : ConfigSources) (e : SandboxExec) : Prop :=
  e.configParsed = true → ∃ root, LegalConfig X root ∧ configOf X root = e.config

theorem parseConfig_legal {text : Bytes} {config : SandboxConfig}
    (h : parseConfig X text = .ok config) :
    ∃ root, LegalConfig X root ∧ configOf X root = config := by
  rw [parseConfig] at h
  split at h
  next => cases h
  next =>
    split at h
    next => cases h
    next root _ => exact ⟨root, ((parseSteps_checks X root).eq_ok_iff config).mp h⟩

theorem parseConfigArg_read {args : List Bytes} {e e' : SandboxExec}
    (h : parseConfigArg X args e = .ok e') (he : Read X e) : Read X e' := by
  fun_induction parseConfigArg X args e with
  | case1 e | case2 _ _ e =>
    cases h
    exact he
  | case3 | case4 | case5 => cases h
  | case6 _ _ _ _ _ _ _ _ hconfig ih => exact ih h fun _ => parseConfig_legal hconfig
  | case7 _ _ _ _ _ ih => exact ih h he

theorem parseCmdArg_keeps {args : List Bytes} {e e' : SandboxExec}
    (h : parseCmdArg args e = .ok e') : e'.config = e.config ∧ e'.configParsed = e.configParsed := by
  fun_induction parseCmdArg args e with
  | case2 | case5 =>
    rw [← Except.ok.inj h]
    exact ⟨rfl, rfl⟩
  | case1 | case3 | case4 => cases h
  | case6 _ _ _ _ ih => exact ih h

theorem scanOptions_configParsed (args : List Bytes) (e : SandboxExec) :
    (scanOptions args e).configParsed = e.configParsed := by
  fun_induction scanOptions args e with
  | case1 | case2 | case3 => rfl
  | case4 _ _ _ _ _ ih =>
    rw [ih]
    split <;> rfl

theorem parseArguments_legal {args : List Bytes} {e : SandboxExec}
    (h : parseArguments X args = .ok e) (hhelp : e.helpRequested = false) :
    ∃ root, LegalConfig X root ∧ configOf X root = e.config := by
  rw [parseArguments] at h
  split at h
  next hrequested =>
    rw [← Except.ok.inj h, hrequested] at hhelp
    cases hhelp
  next =>
    obtain ⟨e₁, hconfig, h⟩ := except_bind_eq_ok_iff.mp h
    obtain ⟨e₂, hcmd, h⟩ := except_bind_eq_ok_iff.mp h
    have hread : Read X e₁ := parseConfigArg_read hconfig fun hparsed =>
      absurd ((scanOptions_configParsed args {}).symm.trans hparsed) Bool.false_ne_true
    obtain ⟨hsame, hparsed⟩ := parseCmdArg_keeps hcmd
    split at h
    next => cases h
    next hparsed' =>
      rw [Bool.not_eq_true', Bool.not_eq_false] at hparsed'
      rw [← Except.ok.inj h, hsame]
      exact hread (hparsed.symm.trans hparsed')

end

/-! ### What every sandbox has -/

theorem isxdigit_hexDigit {d : UInt8} (h : d < 16) : isxdigit (hexDigit d) = true := by
  have hlt : d.toNat < 16 := UInt8.lt_iff_toNat_lt.mp h
  rw [hexDigit]
  split
  next hdec =>
    have hten : d.toNat < 10 := UInt8.lt_iff_toNat_lt.mp hdec
    simp [isxdigit, UInt8.le_iff_toNat_le]
    omega
  next hdec =>
    have hten : ¬ d.toNat < 10 := fun h => hdec (UInt8.lt_iff_toNat_lt.mpr h)
    simp [isxdigit, UInt8.le_iff_toNat_le]
    omega

theorem isxdigit_generateSandboxName {random : Option Bytes} {c : UInt8}
    (hc : c ∈ generateSandboxName random) : isxdigit c = true := by
  unfold generateSandboxName at hc
  split at hc
  next => exact absurd hc List.not_mem_nil
  next =>
    split at hc
    next => exact absurd hc List.not_mem_nil
    next =>
      obtain ⟨b, -, hb⟩ := List.mem_flatMap.mp (List.mem_of_mem_take hc)
      have hbyte := b.toNat_lt
      rcases List.mem_pair.mp hb with rfl | rfl
      · exact isxdigit_hexDigit (UInt8.lt_iff_toNat_lt.mpr (by simp; omega))
      · exact isxdigit_hexDigit (UInt8.lt_iff_toNat_lt.mpr (by simp; omega))

/-- A name that is one component of a path. -/
structure PlainName (name : Bytes) : Prop where
  nonempty : name ≠ []
  digits : ∀ c ∈ name, isxdigit c = true

theorem plainName_autoName {L : Launch} {tryCnt : Nat} {name : Bytes}
    (h : L.autoName tryCnt = .ok name) : PlainName name := by
  fun_induction autoName L tryCnt with
  | case1 | case4 => cases h
  | case2 _ _ _ _ _ ih => exact ih h
  | case3 _ _ _ hne =>
    rw [← Except.ok.inj h]
    exact ⟨hne, fun _ hc => isxdigit_generateSandboxName hc⟩

theorem plainName_rootName {L : Launch} {name : Bytes}
    (hname : ∀ c ∈ L.config.name, isxdigit c = true) (h : L.rootName = .ok name) :
    PlainName name := by
  rw [rootName] at h
  split at h
  next hne =>
    rw [← Except.ok.inj h]
    exact ⟨hne, hname⟩
  next => exact plainName_autoName h

section
variable {α β : Type} [DecidableEq α] {items : List α} {item other : α}

theorem mem_addNew : other ∈ addNew items item ↔ other ∈ items ∨ other = item := by
  rw [addNew]
  split
  next h => exact ⟨.inl, fun h' => h'.elim id fun heq => heq ▸ h⟩
  next => rw [List.mem_append, List.mem_singleton]

theorem nodup_addNew (h : items.Nodup) : (addNew items item).Nodup := by
  rw [addNew]
  split
  next => exact h
  next hnew => exact List.Nodup.append h (List.nodup_singleton item) (by simpa using hnew)

omit [DecidableEq α] in
/-- What is in a list at the end of a loop was there, or was put there by one of the rounds. -/
theorem mem_foldl_iff {f : List α → β → List α} {P : β → Prop} {rounds : List β}
    (hf : ∀ l b, item ∈ f l b ↔ item ∈ l ∨ P b) :
    item ∈ rounds.foldl f items ↔ item ∈ items ∨ ∃ b ∈ rounds, P b := by
  induction rounds generalizing items with
  | nil => simp
  | cons b rounds ih => rw [List.foldl_cons, ih, hf, List.exists_mem_cons_iff, or_assoc]

theorem nodup_foldl_addNew (h : items.Nodup) (more : List α) : (more.foldl addNew items).Nodup := by
  induction more generalizing items with
  | nil => exact h
  | cons item more ih => exact ih (nodup_addNew h)

end

/-- A group that comes with a permission. -/
def PermissionGid (L : Launch) (template : TemplateConfig) (gid : Int32) : Prop :=
  ∃ item ∈ template.permissions, item.2.sandboxSwitch = true ∧ L.isPermissionGranted item.1 = true ∧
    gid ∈ item.2.gids ∧ 0 ≤ gid

theorem mem_collectGrantedPermissionGids {L : Launch} {template : TemplateConfig} {gid : Int32} :
    gid ∈ L.collectGrantedPermissionGids template ↔ PermissionGid L template gid := by
  have hround (l : List Int32) (gid' : Int32) :
      gid ∈ (if gid' < 0 then l else addNew l gid') ↔ gid ∈ l ∨ (0 ≤ gid' ∧ gid = gid') := by
    split
    next hneg => simp [Int32.not_le.mpr hneg]
    next hpos => rw [mem_addNew, and_iff_right (Int32.not_lt.mp hpos)]
  rw [collectGrantedPermissionGids, mem_foldl_iff (P := fun item : Bytes × PermissionConfig =>
    item.2.sandboxSwitch = true ∧ L.isPermissionGranted item.1 = true ∧ gid ∈ item.2.gids ∧ 0 ≤ gid)]
  · simp only [List.not_mem_nil, false_or, PermissionGid, EnvMap.mem_items]
  · intro l item
    split
    next hoff =>
      rw [Bool.or_eq_true, Bool.not_eq_true', Bool.not_eq_true'] at hoff
      rcases hoff with hoff | hoff <;> simp [hoff]
    next hon =>
      rw [Bool.or_eq_true, Bool.not_eq_true', Bool.not_eq_true', not_or, Bool.not_eq_false,
        Bool.not_eq_false] at hon
      rw [mem_foldl_iff (hround), and_iff_right hon.1, and_iff_right hon.2]
      refine or_congr_right ⟨?_, fun ⟨hmem, hpos⟩ => ⟨gid, hmem, hpos, rfl⟩⟩
      rintro ⟨gid', hmem, hpos, rfl⟩
      exact ⟨hmem, hpos⟩

/-- The groups are the one of the sandbox, the one of the device for a shell, and those of the
permissions that are switched on and granted. -/
theorem mem_groups {L : Launch} {template : TemplateConfig} {group : UInt32} :
    group ∈ L.groups template ↔ group = L.config.gid ∨ (L.isShell = true ∧ group = DEC_GID) ∨
      ∃ gid, PermissionGid L template gid ∧ gid.toUInt32 = group := by
  have hstart : (group ∈ if L.isShell then addNew [L.config.gid] DEC_GID else [L.config.gid]) ↔
      group = L.config.gid ∨ (L.isShell = true ∧ group = DEC_GID) := by
    cases L.isShell <;> simp [mem_addNew]
  rw [groups, mem_foldl_iff (f := addNew) (P := fun gid => group = gid) fun _ _ => mem_addNew, hstart, or_assoc]
  refine or_congr_right (or_congr_right ⟨?_, ?_⟩)
  · rintro ⟨_, hmem, rfl⟩
    obtain ⟨gid, hgid, rfl⟩ := List.mem_map.mp hmem
    exact ⟨gid, mem_collectGrantedPermissionGids.mp hgid, rfl⟩
  · rintro ⟨gid, hgid, rfl⟩
    exact ⟨_, List.mem_map_of_mem (mem_collectGrantedPermissionGids.mpr hgid), rfl⟩

theorem nodup_groups (L : Launch) (template : TemplateConfig) : (L.groups template).Nodup := by
  refine nodup_foldl_addNew ?_ _
  split
  next => exact nodup_addNew (List.nodup_singleton _)
  next => exact List.nodup_singleton _

/-- What is kept, and what is changed, before a launch. -/
theorem initializeConfig_ok {build : Build} {config config' : SandboxConfig} {path : Bytes}
    (h : initializeConfig build config = .ok (config', path)) :
    ∃ env, config' = { config with
      currentUserId := decimal (config.uid / UID_BASE).toNat
      env
      nsFlags := (config.nsFlags ||| (if config.type = bytes "cli" then CLONE_NEWNET else 0)) |||
        (if build.shellSandbox = false then CLONE_NEWNET else 0) } := by
  rw [initializeConfig] at h
  obtain ⟨extracted, -, h⟩ := except_bind_eq_ok_iff.mp h
  rw [← (Prod.mk.inj (Except.ok.inj h)).1]
  refine ⟨extracted.1.env, ?_⟩
  cases build.shellSandbox with
  | true => simp
  | false => rfl

/-- The namespaces that a sandbox has for itself. -/
def OwnNamespace (S : Setting) (root : Json) (name : Bytes) : Prop :=
  name = bytes "mnt" ∨ name ∈ nsNames root ∨
    (name = bytes "net" ∧ (typeAt root = bytes "cli" ∨ S.build.shellSandbox = false))

section
variable {S : Setting} {root : Json} {name : Bytes} {bit : UInt32}

theorem netFlag_has (hflag : nsFlag name = some bit) (c : Prop) [Decidable c] :
    (if c then CLONE_NEWNET else 0) &&& bit ≠ 0 ↔ name = bytes "net" ∧ c := by
  have hnet : CLONE_NEWNET &&& bit ≠ 0 ↔ bytes "net" = name := nsFlag_has hflag rfl
  split
  next hc => rw [hnet, and_iff_left hc, eq_comm]
  next hc => simp [hc]

theorem nsFlags_has {config : SandboxConfig} {path : Bytes}
    (h : initializeConfig S.build (configOf S.parser root) = .ok (config, path))
    (hflag : nsFlag name = some bit) :
    config.nsFlags &&& bit ≠ 0 ↔ OwnNamespace S root name := by
  obtain ⟨env, rfl⟩ := initializeConfig_ok h
  have hasked : (configOf S.parser root).nsFlags &&& bit ≠ 0 ↔ _ := nsFlagsAt_has hflag
  rw [OwnNamespace, or_has, or_has, netFlag_has hflag, netFlag_has hflag, hasked, and_or_left,
    or_assoc, or_assoc]
  rfl

end

/-- The file is of a type that the template lists. -/
def AllowedFile (world : LaunchWorld) (template : TemplateConfig) (file : Nat) : Prop :=
  ∃ con ctx type, world.fgetfilecon file = some con ∧ world.contextNew con = some ctx ∧
    ctx.type = some type ∧ type ∈ template.execSelinuxTypes

theorem openAllowedExecutable_some {L : Launch} {template : TemplateConfig} {path : Bytes}
    {file : Nat} (h : L.openAllowedExecutable template path = some file) :
    L.world.openExecutable path = some file ∧ AllowedFile L.world template file := by
  rw [openAllowedExecutable] at h
  obtain ⟨file', hopen, h⟩ := Option.bind_eq_some_iff.mp h
  obtain ⟨con, hcon, h⟩ := Option.bind_eq_some_iff.mp h
  obtain ⟨ctx, hctx, h⟩ := Option.bind_eq_some_iff.mp h
  obtain ⟨type, htype, h⟩ := Option.bind_eq_some_iff.mp h
  split at h
  next hmem =>
    obtain rfl := Option.some.inj h
    exact ⟨hopen, con, ctx, type, hcon, hctx, htype, by simpa using hmem⟩
  next => cases h

/-- What no sandbox goes without. -/
structure Sandboxed (S : Setting) (root : Json) (L : Launch) (template : TemplateConfig)
    (p : Process) : Prop where
  ids : p.uid = some L.config.uid ∧ p.gid = some L.config.gid ∧ UID_BASE ≤ L.config.uid ∧
    UID_BASE ≤ L.config.gid
  mountNamespace : ∃ ns, L.CallerNamespace ns ∧ p.mountNamespace = some ns
  namespaces : ∀ name bit, nsFlag name = some bit →
    (p.namespaces &&& bit ≠ 0 ↔ OwnNamespace S root name)
  root : ∃ name, PlainName name ∧ p.root = some (sandboxPath name)
  oldRoot : p.oldRoot = false
  groups : p.groups.Nodup ∧ ∀ group, group ∈ p.groups ↔ group = L.config.gid ∨
    (L.isShell = true ∧ group = DEC_GID) ∨ ∃ gid, PermissionGid L template gid ∧ gid.toUInt32 = group
  ownGroup : p.ownGroup = true
  noNewPrivs : p.noNewPrivs = true
  filters : ∃ more, p.filters = L.customFilter template :: more
  capabilities : p.capabilities = false
  program : ∃ path file environment, L.argv.head? = some path ∧
    S.world.openExecutable path = some file ∧ AllowedFile S.world template file ∧
    p.program = some (file, L.argv, environment) ∧ p.environment = some environment

section
variable {S : Setting} {root : Json} {e : SandboxExec} {config : SandboxConfig} {path : Bytes}

theorem isxdigit_configName (hlegal : LegalConfig S.parser root)
    (hconfig : configOf S.parser root = e.config)
    (hinit : initializeConfig S.build e.config = .ok (config, path)) :
    ∀ c ∈ config.name, isxdigit c = true := by
  obtain ⟨env, rfl⟩ := initializeConfig_ok hinit
  rw [← hconfig]
  exact (hlegal .name).2

theorem sandboxed_confined {g : LaunchGrants} (hlegal : LegalConfig S.parser root)
    (hconfig : configOf S.parser root = e.config)
    (hinit : initializeConfig S.build e.config = .ok (config, path))
    (hgranted : (S.launch e config path).Granted g) :
    Sandboxed S root (S.launch e config path) g.template ((S.launch e config path).confined g) where
  ids := ⟨rfl, rfl, hgranted.valid.uid, hgranted.valid.gid⟩
  mountNamespace := ⟨g.mountNamespace, hgranted.mountNamespace, rfl⟩
  namespaces _ _ hflag := nsFlags_has (hconfig ▸ hinit) hflag
  root := ⟨g.name, plainName_rootName (isxdigit_configName hlegal hconfig hinit) hgranted.name, rfl⟩
  oldRoot := rfl
  groups := ⟨nodup_groups _ _, fun _ => mem_groups⟩
  ownGroup := rfl
  noNewPrivs := rfl
  filters := ⟨_, rfl⟩
  capabilities := rfl
  program := by
    obtain ⟨path, hpath, hopen⟩ := hgranted.file
    obtain ⟨hfile, hallowed⟩ := openAllowedExecutable_some hopen
    exact ⟨path, g.file, g.environment, hpath, hfile, hallowed, rfl, rfl⟩

end

def templateText : Bytes :=
  bytes "\x7b\"exec-selinux-types\":" ++ bytes "[\"toybox_exec\"]\x7d"

/-- A world that has the caller, the template and one program, and refuses nothing. -/
def cliWorld : LaunchWorld where
  answer _ _ := 0
  opens _ := true
  getTokenTypeFlag _ := 0
  verifyAccessToken _ _ := -1
  initCliToken _ := .ok 2
  addCliBinaryInvokerTokenFlag tokenId := tokenId
  readFile _ := some templateText
  cJSON_Parse text :=
    if text = templateText then
      some (.object [(bytes "exec-selinux-types", .array [.string (bytes "toybox_exec")])])
    else none
  valueint _ := 0
  isSelinuxEnabled := 0
  getcon := none
  getpidcon _ := none
  contextNew _ := some ⟨bytes "u", bytes "object_r", some (bytes "toybox_exec"), none⟩
  securityCheckContext _ := true
  readProcGroup := some 3009
  procDir pid := if pid = 1 then some (200000, 200000) else none
  openNamespace := some (bytes "mnt:[1]")
  readNamespace _ := some (bytes "mnt:[1]")
  readSelfNamespace := true
  lstat path := if path = sandboxPath (bytes "a1") then .ok true else .error ENOENT
  linksBelow _ := [bytes "bin"]
  getrandom _ := none
  isDirectoryExist _ := true
  mkdir _ := none
  newRoot := none
  systemEntry _ := ⟨none, none, true, fun _ => none, none, none, none⟩
  symLink _ := ⟨fun _ => none, fun _ _ => none⟩
  appEntry _ := ⟨none, none, true, fun _ => none, none, none, none⟩
  policyMount _ := ⟨.ok false, .ok false, none, fun _ => none, none, none⟩
  startup := ⟨none, 1, fun _ => true, ⟨fun _ => none, fun _ => .error 2, fun _ => none, fun _ => []⟩,
    false, false, none, .ERR_GENERIC, true, true⟩
  gateToken := true
  credentials := none
  denyClock := none
  dec := ⟨none, false, fun _ => 0⟩
  access _ := true
  environ := []
  envCalls := ⟨true, fun _ => true⟩
  syscallMap _ := none
  isPcMode := true
  openExecutable path := if path = bytes "/bin/ls" then some 7 else none
  fgetfilecon _ := some (bytes "u:object_r:toybox_exec:s0")

def cliSetting : Setting := ⟨⟨false, false, false, true, false⟩, cliSources, cliWorld⟩

namespace Setting
variable (S : Setting)

/-- A call is made only after the arguments were read, and it is one of a deletion where one was
asked for, else one of a launch. -/
theorem main_calls {args : List Bytes} {call : LaunchCall} (h : call ∈ (S.main args).2.calls) :
    ∃ e root config path, parseArguments S.parser args = .ok e ∧ e.helpRequested = false ∧
      LegalConfig S.parser root ∧ configOf S.parser root = e.config ∧
      initializeConfig S.build e.config = .ok (config, path) ∧
      S.main args = if e.deleteRequested then (S.launch e config path).deleteSandboxDir {}
        else (S.launch e config path).execute {} := by
  rw [main] at h ⊢
  cases hparse : parseArguments S.parser args with
  | error =>
    rw [hparse] at h
    exact absurd h List.not_mem_nil
  | ok e =>
    rw [hparse] at h
    dsimp only at h ⊢
    cases hhelp : e.helpRequested with
    | true =>
      rw [hhelp, if_pos rfl] at h
      exact absurd h List.not_mem_nil
    | false =>
      rw [hhelp, if_neg Bool.false_ne_true, runExec] at h
      rw [if_neg Bool.false_ne_true, runExec]
      obtain ⟨root, hlegal, hconfig⟩ := parseArguments_legal hparse hhelp
      cases hinit : initializeConfig S.build e.config with
      | error =>
        rw [hinit] at h
        exact absurd h List.not_mem_nil
      | ok initialized => exact ⟨e, root, _, _, rfl, hhelp, hlegal, hconfig, hinit, rfl⟩

/-- **Where a program runs, it runs in a sandbox**: the one that was asked for, and never less than
every sandbox is. -/
theorem main_sandboxed (args : List Bytes) (h : (S.main args).2.process.program ≠ none) :
    ∃ e root config path g, parseArguments S.parser args = .ok e ∧ e.helpRequested = false ∧
      e.deleteRequested = false ∧ LegalConfig S.parser root ∧ configOf S.parser root = e.config ∧
      initializeConfig S.build e.config = .ok (config, path) ∧
      (S.launch e config path).Granted g ∧
      (S.main args).2.process = (S.launch e config path).confined g ∧
      Sandboxed S root (S.launch e config path) g.template (S.main args).2.process := by
  obtain ⟨call, hcall, hstage⟩ := exists_start h rfl
  obtain ⟨e, root, config, path, hparse, hhelp, hlegal, hconfig, hinit, hmain⟩ := S.main_calls hcall
  rw [hmain] at h hcall ⊢
  cases hdelete : e.deleteRequested with
  | true =>
    rw [hdelete, if_pos rfl] at hcall
    have hremoval := (deleteSandboxDir_calls hcall (hstage ▸ by decide)).2.2.2.1.stage
    exact absurd (hremoval.symm.trans hstage) (by decide)
  | false =>
    rw [hdelete, if_neg Bool.false_ne_true] at h
    obtain ⟨g, hgranted, hprocess⟩ := execute_confines _ h
    refine ⟨e, root, config, path, g, hparse, hhelp, hdelete, hlegal, hconfig, hinit, hgranted, ?_⟩
    rw [if_neg Bool.false_ne_true, hprocess]
    exact ⟨rfl, sandboxed_confined hlegal hconfig hinit hgranted⟩

theorem main_sandboxed_cli : ∃ root L template,
    Sandboxed cliSetting root L template (cliSetting.main cliArgs).2.process := by
  have hprogram : (cliSetting.main cliArgs).2.process.program.isSome = true := by decide +kernel
  obtain ⟨e, root, config, path, g, -, -, -, -, -, -, -, -, hsandboxed⟩ :=
    cliSetting.main_sandboxed cliArgs (Option.isSome_iff_ne_none.mp hprogram)
  exact ⟨root, _, _, hsandboxed⟩

/-- **What is removed is the directory of a sandbox**, where that was asked for, by a process that
is in the namespace of its caller. -/
theorem main_removes (args : List Bytes) {call : LaunchCall} (h : call ∈ (S.main args).2.calls)
    (hremoval : call.IsRemoval) :
    ∃ e root config path ns, parseArguments S.parser args = .ok e ∧ e.helpRequested = false ∧
      e.deleteRequested = true ∧ LegalConfig S.parser root ∧ configOf S.parser root = e.config ∧
      initializeConfig S.build e.config = .ok (config, path) ∧ (S.launch e config path).Valid ∧
      PlainName (textAt root (bytes "name")) ∧
      call.Removes (sandboxPath (textAt root (bytes "name"))) ∧
      S.world.lstat (sandboxPath (textAt root (bytes "name"))) = .ok true ∧
      (S.launch e config path).CallerNamespace ns ∧
      (S.main args).2.process.mountNamespace = some ns ∧
      (S.main args).2.process.program = none := by
  obtain ⟨e, root, config, path, hparse, hhelp, hlegal, hconfig, hinit, hmain⟩ := S.main_calls h
  have hname : config.name = textAt root (bytes "name") := by
    obtain ⟨env, rfl⟩ := initializeConfig_ok hinit
    rw [← hconfig]
    rfl
  rw [hmain] at h ⊢
  cases hdelete : e.deleteRequested with
  | false =>
    rw [hdelete, if_neg Bool.false_ne_true] at h
    exact absurd h ((S.launch e config path).execute_inStages.not_mem
      (.inr (hremoval.stage ▸ by decide)) List.not_mem_nil)
  | true =>
    rw [hdelete, if_pos rfl] at h
    rw [if_pos rfl]
    obtain ⟨hvalid, hne, hlstat, hcall, ns, hns, hmount⟩ :=
      deleteSandboxDir_calls h (hremoval.stage ▸ by decide)
    refine ⟨e, root, config, path, ns, hparse, hhelp, hdelete, hlegal, hconfig, hinit, hvalid,
      ⟨hname ▸ hne, hname ▸ isxdigit_configName hlegal hconfig hinit⟩, hname ▸ hcall,
      hname ▸ hlstat, hns, hmount, ?_⟩
    by_contra hprogram
    obtain ⟨call', hstart, hstage⟩ := exists_start hprogram rfl
    have hother := (deleteSandboxDir_calls hstart (hstage ▸ by decide)).2.2.2.1.stage
    exact absurd (hother.symm.trans hstage) (by decide)

/-- A link in the directory is unlinked. -/
theorem main_removes_cli :
    (cliSetting.main [bytes "-d", bytes "-c", cliText]).2.process.program = none := by
  have hcall : .unlink (sandboxPath (bytes "a1") ++ [slash] ++ bytes "bin") ∈
      (cliSetting.main [bytes "-d", bytes "-c", cliText]).2.calls := by
    have hany : ((cliSetting.main [bytes "-d", bytes "-c", cliText]).2.calls.any fun call =>
        match call with
        | .unlink path => path == sandboxPath (bytes "a1") ++ [slash] ++ bytes "bin"
        | _ => false) = true := by decide +kernel
    obtain ⟨call, hmem, hcall⟩ := List.any_eq_true.mp hany
    cases call with
    | unlink path => exact eq_of_beq hcall ▸ hmem
    | _ => cases hcall
  obtain ⟨_, _, _, _, _, -, -, -, -, -, -, -, -, -, -, -, -, hprogram⟩ :=
    cliSetting.main_removes _ hcall trivial
  exact hprogram

end Setting

end SandboxManager.Claw
