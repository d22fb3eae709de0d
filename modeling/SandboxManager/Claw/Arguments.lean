import SandboxManager.Claw.ConfigParser
import SandboxManager.Claw.PatternGrammar

/-! The arguments of the program (`ParseArguments`, `sandbox_exec.cpp`).

Three loops go over the arguments, each up to the option that begins the command. The first does
not know that an option may have a value, nor does the last, so what stands for a configuration is
taken for an option as well. `parseArguments_iff` says which arguments ask for a sandbox, and what
they ask for. -/
namespace SandboxManager.Claw

/-- What has been made of the arguments. -/
structure SandboxExec where
  config : SandboxConfig := {}
  cmdInfo : List Bytes := []
  configParsed : Bool := false
  cmdParsed : Bool := false
  helpRequested : Bool := false
  deleteRequested : Bool := false

def isHelp (arg : Bytes) : Bool := arg == bytes "--help" || arg == bytes "-h"

def isConfig (arg : Bytes) : Bool := arg == bytes "--config" || arg == bytes "-c"

def isCmd (arg : Bytes) : Bool := arg == bytes "--cmd" || arg == bytes "-m"

def isDelete (arg : Bytes) : Bool := arg == bytes "-d"

/-- The first loop of `ParseArguments`. -/
def scanOptions : List Bytes → SandboxExec → SandboxExec
  | [], e => e
  | arg :: rest, e =>
    if isCmd arg then e
    else if isHelp arg then { e with helpRequested := true }
    else scanOptions rest (if isDelete arg then { e with deleteRequested := true } else e)

def parseConfigArg (X : ConfigSources) : List Bytes → SandboxExec → Except SandboxError SandboxExec
  | [], e => .ok e
  | arg :: rest, e =>
    if isCmd arg then .ok e
    else if isConfig arg then
      if e.configParsed then .error .ERR_BAD_PARAMETERS
      else
        match rest with
        | [] => .error .ERR_BAD_PARAMETERS
        | value :: rest =>
          match parseConfig X value with
          | .error _ => .error .ERR_CONFIG_INVALID
          | .ok config => parseConfigArg X rest { e with config, configParsed := true }
    else parseConfigArg X rest e

def validateSubCliName (e : SandboxExec) : SandboxError :=
  if !e.configParsed then .ERR_BAD_PARAMETERS
  else if e.config.subCliName = [] then .SUCCESS
  else
    match e.cmdInfo with
    | _ :: name :: _ => if e.config.subCliName ≠ name then .ERR_CMD_INVALID else .SUCCESS
    | _ => .ERR_CMD_INVALID

def parseCmdArg : List Bytes → SandboxExec → Except SandboxError SandboxExec
  | [], e => if !e.cmdParsed && !e.deleteRequested then .error .ERR_BAD_PARAMETERS else .ok e
  | arg :: rest, e =>
    if isCmd arg then
      if rest = [] then .error .ERR_CMD_INVALID
      else
        let e := { e with cmdInfo := rest, cmdParsed := true }
        if validateSubCliName e ≠ .SUCCESS then .error (validateSubCliName e) else .ok e
    else parseCmdArg rest e

/-- On the arguments after the name of the program. -/
def parseArguments (X : ConfigSources) (args : List Bytes) : Except SandboxError SandboxExec :=
  let e := scanOptions args {}
  if e.helpRequested then .ok e
  else do
    let e ← parseConfigArg X args e
    let e ← parseCmdArg args e
    if !e.configParsed then .error .ERR_BAD_PARAMETERS else .ok e

/-! ### What the arguments say -/

/-- All that stands before the command. -/
def optionsOf (args : List Bytes) : List Bytes := args.takeWhile (!isCmd ·)

/-- The configurations among the options; nothing where the value is missing. -/
def configValues : List Bytes → List (Option Bytes)
  | [] => []
  | arg :: rest =>
    if isConfig arg then
      match rest with
      | [] => [none]
      | value :: rest => some value :: configValues rest
    else configValues rest

/-- The command goes by the name of the configuration. -/
def GoesBy (config : SandboxConfig) (command : List Bytes) : Prop :=
  config.subCliName = [] ∨ command[1]? = some config.subCliName

/-- What is asked for: everything after the first `--cmd`, or a deletion. -/
inductive Commands (args : List Bytes) (e : SandboxExec) : Prop
  | none (args : args = optionsOf args) (cmdInfo : e.cmdInfo = []) (cmdParsed : e.cmdParsed = false)
      (delete : e.deleteRequested = true)
  | given (flag : Bytes) (isCmd : isCmd flag = true) (args : args = optionsOf args ++ flag :: e.cmdInfo)
      (nonempty : e.cmdInfo ≠ []) (cmdParsed : e.cmdParsed = true) (name : GoesBy e.config e.cmdInfo)

structure Requests (X : ConfigSources) (args : List Bytes) (e : SandboxExec) : Prop where
  help : e.helpRequested = false
  noHelp : ∀ arg ∈ optionsOf args, isHelp arg = false
  config : ∃ text, configValues (optionsOf args) = [some text] ∧ parseConfig X text = .ok e.config
  configParsed : e.configParsed = true
  delete : e.deleteRequested = (optionsOf args).any isDelete
  command : Commands args e

/-! ### The loops -/

section
variable {X : ConfigSources} {args : List Bytes} {arg : Bytes} {rest : List Bytes}

theorem optionsOf_cons_of_cmd (h : isCmd arg = true) : optionsOf (arg :: rest) = [] := by
  simp [optionsOf, h]

theorem optionsOf_cons (h : isCmd arg = false) :
    optionsOf (arg :: rest) = arg :: optionsOf rest := by
  simp [optionsOf, h]

theorem scanOptions_of_noHelp (h : ∀ arg ∈ optionsOf args, isHelp arg = false) (e : SandboxExec) :
    scanOptions args e =
      { e with deleteRequested := e.deleteRequested || (optionsOf args).any isDelete } := by
  induction args generalizing e with
  | nil => simp [scanOptions, optionsOf]
  | cons arg rest ih =>
    rw [scanOptions]
    cases hcmd : isCmd arg with
    | true => simp [optionsOf_cons_of_cmd hcmd]
    | false =>
      rw [optionsOf_cons hcmd, List.forall_mem_cons] at h
      rw [optionsOf_cons hcmd, h.1, ih h.2]
      cases hdelete : isDelete arg with
      | true => simp [hdelete]
      | false => simp [hdelete]

theorem scanOptions_helpRequested (h : ∃ arg ∈ optionsOf args, isHelp arg = true) (e : SandboxExec) :
    (scanOptions args e).helpRequested = true := by
  induction args generalizing e with
  | nil => simp [optionsOf] at h
  | cons arg rest ih =>
    rw [scanOptions]
    cases hcmd : isCmd arg with
    | true => simp [optionsOf_cons_of_cmd hcmd] at h
    | false =>
      rw [optionsOf_cons hcmd, List.exists_mem_cons_iff] at h
      cases hhelp : isHelp arg with
      | true => rfl
      | false =>
        rw [hhelp] at h
        simpa using ih (h.resolve_left Bool.false_ne_true) _

theorem configValues_other (h : isConfig arg = false) :
    configValues (arg :: rest) = configValues rest := by
  rw [configValues.eq_def]
  simp [h]

theorem configValues_config (h : isConfig arg = true) (value : Bytes) :
    configValues (arg :: value :: rest) = some value :: configValues rest := by
  rw [configValues.eq_def]
  simp [h]

theorem configValues_last (h : isConfig arg = true) : configValues [arg] = [none] := by
  rw [configValues.eq_def]
  simp [h]

theorem parseConfigArg_cmd (h : isCmd arg = true) (e : SandboxExec) :
    parseConfigArg X (arg :: rest) e = .ok e := by
  rw [parseConfigArg.eq_def]
  simp [h]

theorem parseConfigArg_other (hcmd : isCmd arg = false) (h : isConfig arg = false)
    (e : SandboxExec) : parseConfigArg X (arg :: rest) e = parseConfigArg X rest e := by
  rw [parseConfigArg.eq_def]
  simp [hcmd, h]

/-- With a configuration in hand, the loop takes no other. -/
theorem parseConfigArg_of_parsed {e e' : SandboxExec} (he : e.configParsed = true) :
    parseConfigArg X args e = .ok e' ↔ configValues (optionsOf args) = [] ∧ e = e' := by
  induction args with
  | nil => simp [parseConfigArg, optionsOf, configValues]
  | cons arg rest ih =>
    cases hcmd : isCmd arg with
    | true => simp [parseConfigArg_cmd hcmd, optionsOf_cons_of_cmd hcmd, configValues]
    | false =>
      rw [optionsOf_cons hcmd]
      cases hconfig : isConfig arg with
      | false => rw [parseConfigArg_other hcmd hconfig, configValues_other hconfig, ih]
      | true =>
        have hne : configValues (arg :: optionsOf rest) ≠ [] := by
          cases optionsOf rest with
          | nil => simp [configValues_last hconfig]
          | cons value rest => simp [configValues_config hconfig]
        rw [parseConfigArg.eq_def]
        simp [hcmd, hconfig, he, hne]

/-- What begins the command is no configuration. -/
theorem parseConfig_cmd (hX : ∀ flag, isCmd flag = true → X.cJSON_Parse flag = none)
    (h : isCmd arg = true) (config : SandboxConfig) : parseConfig X arg ≠ .ok config := by
  have hstr : cStr arg = arg := by
    rw [isCmd, Bool.or_eq_true, beq_iff_eq, beq_iff_eq] at h
    rcases h with rfl | rfl <;> decide
  unfold parseConfig
  rw [hstr, hX arg h]
  split <;> simp

/-- The first configuration is read, and there is no second. -/
theorem parseConfigArg_iff (hX : ∀ flag, isCmd flag = true → X.cJSON_Parse flag = none)
    {e e' : SandboxExec} (he : e.configParsed = false) :
    parseConfigArg X args e = .ok e' ↔
      (configValues (optionsOf args) = [] ∧ e = e') ∨
        ∃ text config, configValues (optionsOf args) = [some text] ∧
          parseConfig X text = .ok config ∧ { e with config, configParsed := true } = e' := by
  induction args with
  | nil => simp [parseConfigArg, optionsOf, configValues]
  | cons arg rest ih =>
    cases hcmd : isCmd arg with
    | true => simp [parseConfigArg_cmd hcmd, optionsOf_cons_of_cmd hcmd, configValues]
    | false =>
      rw [optionsOf_cons hcmd]
      cases hconfig : isConfig arg with
      | false => rw [parseConfigArg_other hcmd hconfig, configValues_other hconfig, ih]
      | true =>
        rw [parseConfigArg.eq_def]
        simp only [hcmd, hconfig, he, Bool.false_eq_true, if_false, if_true]
        cases rest with
        | nil => simp [optionsOf, configValues_last hconfig]
        | cons value rest =>
          dsimp only
          cases hvalue : isCmd value with
          | true =>
            rw [optionsOf_cons_of_cmd hvalue, configValues_last hconfig]
            cases hparse : parseConfig X value with
            | error why => simp
            | ok config => exact absurd hparse (parseConfig_cmd hX hvalue config)
          | false =>
            rw [optionsOf_cons hvalue, configValues_config hconfig]
            cases hparse : parseConfig X value with
            | error why => simp [hparse]
            | ok config =>
              rw [parseConfigArg_of_parsed rfl]
              simp only [List.cons_ne_nil, false_and, false_or, List.cons.injEq, Option.some.injEq]
              constructor
              · rintro ⟨hrest, rfl⟩
                exact ⟨value, config, ⟨rfl, hrest⟩, hparse, rfl⟩
              · rintro ⟨text, config', ⟨rfl, hrest⟩, hparse', rfl⟩
                rw [Except.ok.inj (hparse'.symm.trans hparse)]
                exact ⟨hrest, rfl⟩

theorem validateSubCliName_eq_success {e : SandboxExec} :
    validateSubCliName e = .SUCCESS ↔ e.configParsed = true ∧ GoesBy e.config e.cmdInfo := by
  unfold validateSubCliName GoesBy
  cases e.configParsed with
  | false => simp
  | true =>
    by_cases hname : e.config.subCliName = []
    · simp [hname]
    · rcases e.cmdInfo with _ | ⟨_, _ | ⟨name, _⟩⟩
      · simp [hname]
      · simp [hname]
      · simp [hname, eq_comm]

/-- The command is what follows its first option. -/
theorem parseCmdArg_iff {e e' : SandboxExec} (he : e.cmdParsed = false) :
    parseCmdArg args e = .ok e' ↔
      (args = optionsOf args ∧ e.deleteRequested = true ∧ e = e') ∨
        ∃ flag command, isCmd flag = true ∧ args = optionsOf args ++ flag :: command ∧ command ≠ [] ∧
          e.configParsed = true ∧ GoesBy e.config command ∧
          { e with cmdInfo := command, cmdParsed := true } = e' := by
  induction args with
  | nil => cases hdelete : e.deleteRequested <;> simp [parseCmdArg, optionsOf, he, hdelete]
  | cons arg rest ih =>
    rw [parseCmdArg]
    cases hcmd : isCmd arg with
    | false =>
      rw [optionsOf_cons hcmd]
      simpa using ih
    | true =>
      rw [optionsOf_cons_of_cmd hcmd, if_pos rfl]
      by_cases hrest : rest = []
      · simp [hrest]
      · rw [if_neg hrest]
        dsimp only
        split
        case isTrue hname =>
          rw [Ne, validateSubCliName_eq_success] at hname
          simp only [reduceCtorEq, List.nil_append, List.cons.injEq, false_and, false_or, false_iff]
          rintro ⟨flag, command, -, ⟨rfl, rfl⟩, -, hparsed, hgoes, -⟩
          exact hname ⟨hparsed, hgoes⟩
        case isFalse hname =>
          rw [Ne, not_not, validateSubCliName_eq_success] at hname
          simp only [reduceCtorEq, List.nil_append, List.cons.injEq, false_and, false_or,
            Except.ok.injEq]
          constructor
          · rintro rfl
            exact ⟨arg, rest, hcmd, ⟨rfl, rfl⟩, hrest, hname.1, hname.2, rfl⟩
          · rintro ⟨flag, command, -, ⟨rfl, rfl⟩, -, -, -, rfl⟩
            rfl

end

/-- **Which arguments ask for a sandbox, and what they ask for.** What begins the command is not
taken for a configuration that is written in it. -/
theorem parseArguments_iff (X : ConfigSources)
    (hX : ∀ flag, isCmd flag = true → X.cJSON_Parse flag = none) (args : List Bytes)
    (e : SandboxExec) :
    parseArguments X args = .ok e ∧ e.helpRequested = false ↔ Requests X args e := by
  by_cases hhelp : ∀ arg ∈ optionsOf args, isHelp arg = false
  · let e₀ : SandboxExec := { deleteRequested := (optionsOf args).any isDelete }
    have hscan : scanOptions args {} = e₀ := by
      rw [scanOptions_of_noHelp hhelp]
      simp [e₀]
    have hparse : parseArguments X args = (do
        let e ← parseConfigArg X args e₀
        let e ← parseCmdArg args e
        if !e.configParsed then .error .ERR_BAD_PARAMETERS else .ok e) := by
      rw [parseArguments, hscan]
      rfl
    rw [hparse]
    simp only [except_bind_eq_ok_iff, parseConfigArg_iff hX (rfl : e₀.configParsed = false)]
    constructor
    · rintro ⟨⟨e₁, ⟨-, rfl⟩ | ⟨text, config, hvalues, hconfig, rfl⟩, e₂, hcmd, hreturn⟩, hnoHelp⟩
      · -- without a configuration the last test refuses what the command lets through
        rcases (parseCmdArg_iff rfl).mp hcmd with ⟨-, -, rfl⟩ | ⟨-, -, -, -, -, hparsed, -, -⟩
        · simp [e₀] at hreturn
        · simp [e₀] at hparsed
      · rcases (parseCmdArg_iff rfl).mp hcmd with
          ⟨hargs, hdelete, rfl⟩ | ⟨flag, command, hflag, hargs, hne, -, hname, rfl⟩
        · obtain rfl : _ = e := by simpa using hreturn
          exact ⟨rfl, hhelp, ⟨text, hvalues, hconfig⟩, rfl, rfl, .none hargs rfl rfl hdelete⟩
        · obtain rfl : _ = e := by simpa using hreturn
          exact ⟨rfl, hhelp, ⟨text, hvalues, hconfig⟩, rfl, rfl, .given flag hflag hargs hne rfl hname⟩
    · rintro ⟨hnoHelp, -, ⟨text, hvalues, hconfig⟩, hparsed, hdelete, hcommand⟩
      obtain ⟨config, cmdInfo, configParsed, cmdParsed, helpRequested, deleteRequested⟩ := e
      subst hnoHelp hparsed hdelete
      refine ⟨⟨_, .inr ⟨text, config, hvalues, hconfig, rfl⟩, ⟨config, cmdInfo, true, cmdParsed, false,
        (optionsOf args).any isDelete⟩, (parseCmdArg_iff rfl).mpr ?_, rfl⟩, rfl⟩
      cases hcommand with
      | none hargs hcmdInfo hcmdParsed hdelete =>
        subst hcmdInfo hcmdParsed
        exact .inl ⟨hargs, hdelete, rfl⟩
      | given flag hflag hargs hne hcmdParsed hname =>
        subst hcmdParsed
        exact .inr ⟨flag, cmdInfo, hflag, hargs, hne, rfl, hname, rfl⟩
  · have hhelp' : ∃ arg ∈ optionsOf args, isHelp arg = true := by
      simpa using hhelp
    have hscan := scanOptions_helpRequested hhelp' {}
    refine iff_of_false ?_ fun h => hhelp h.noHelp
    rintro ⟨hparse, hnoHelp⟩
    simp only [parseArguments, hscan, if_true, Except.ok.injEq] at hparse
    rw [← hparse, hscan] at hnoHelp
    cases hnoHelp

def cliText : Bytes :=
  [bytes "\x7b\"callerTokenId\":1", bytes ",\"callerPid\":1", bytes ",\"uid\":200000",
    bytes ",\"gid\":200000", bytes ",\"name\":\"a1\"", bytes ",\"appIdentifier\":\"\"",
    bytes ",\"bundleName\":\"\"", bytes ",\"cliName\":\"ls\"",
    bytes ",\"subCliName\":\"\"\x7d"].flatten

def cliRoot : Json :=
  .object [(bytes "callerTokenId", .number (bytes "1")), (bytes "callerPid", .number (bytes "1")),
    (bytes "uid", .number (bytes "200000")), (bytes "gid", .number (bytes "200000")),
    (bytes "name", .string (bytes "a1")), (bytes "appIdentifier", .string []),
    (bytes "bundleName", .string []), (bytes "cliName", .string (bytes "ls")),
    (bytes "subCliName", .string [])]

def cliSources : ConfigSources where
  cJSON_Parse text := if text = cliText then some cliRoot else none
  cJSON_PrintUnformatted _ := none
  valuedouble literal := some (if literal = bytes "1" then 1 else 200000)
  shellSandbox := false
  isPcMode := true

def cliArgs : List Bytes := [bytes "-c", cliText, bytes "--cmd", bytes "/bin/ls", bytes "-c"]

theorem cliSources_cmd {flag : Bytes} (h : isCmd flag = true) : cliSources.cJSON_Parse flag = none := by
  have htext : isCmd cliText = false := by decide +kernel
  refine if_neg fun heq => Bool.false_ne_true ?_
  rw [← htext, ← heq, h]

/-- The second `-c` is the command's. -/
theorem parseArguments_iff_cli : ∃ e, Requests cliSources cliArgs e ∧
    e.cmdInfo = [bytes "/bin/ls", bytes "-c"] := by
  have hparsed : (parseArguments cliSources cliArgs).toOption.any
      (fun e => !e.helpRequested && e.cmdInfo == [bytes "/bin/ls", bytes "-c"]) = true := by
    decide +kernel
  cases hparse : parseArguments cliSources cliArgs with
  | error =>
    rw [hparse] at hparsed
    cases hparsed
  | ok e =>
    rw [hparse] at hparsed
    obtain ⟨hhelp, hcmdInfo⟩ := Bool.and_eq_true_iff.mp hparsed
    exact ⟨e, (parseArguments_iff cliSources (fun _ => cliSources_cmd) cliArgs e).mp
      ⟨hparse, Bool.not_eq_eq_eq_not.mp hhelp⟩, eq_of_beq hcmdInfo⟩

end SandboxManager.Claw
