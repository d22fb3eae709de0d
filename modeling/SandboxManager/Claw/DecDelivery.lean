import SandboxManager.Claw.DecPolicies

/-! What a shell sandbox is given.

The permissions of the template are its configuration objects, recorded one after the other
under their names (`parsePermissionJson_eq`). What is granted of them is gathered without
repetition and without exceeding `DEC_MAX_POLICY_NUM` (`Gathers`), and the batches are what was
gathered, cut into pieces (`Handed`). -/
namespace SandboxManager.Claw
open Library

/-! ### The configuration objects of a template -/

section
variable (valueint : Bytes → Int32)

/-- The objects in the array of a permission. -/
def itemConfigurations (permItem : Bytes × Json) : List (Bytes × PermissionConfig) :=
  match permItem.2 with
  | .array items =>
    if cStr permItem.1 = [] then []
    else (items.filter Json.isObject).map fun obj =>
      (cStr permItem.1, permissionConfig valueint obj false)
  | _ => []

/-- An object that names its permission. -/
def arrayItemConfigurations (permItem : Json) : List (Bytes × PermissionConfig) :=
  match Json.stringOf (permItem.getObjectItem (bytes "name")) with
  | none => []
  | some name => if name = [] then [] else [(name, permissionConfig valueint permItem true)]

def sectionConfigurations (perm : Option Json) : List (Bytes × PermissionConfig) :=
  match perm with
  | some (.object members) => members.flatMap (itemConfigurations valueint)
  | some (.array items) => items.flatMap (arrayItemConfigurations valueint)
  | _ => []

def templateConfigurations (root : Json) : List (Bytes × PermissionConfig) :=
  sectionConfigurations valueint (root.getObjectItem (bytes "permission")) ++
    match root.getObjectItem (bytes "conditional") with
    | some (.object members) =>
      sectionConfigurations valueint ((Json.object members).getObjectItem (bytes "permission"))
    | _ => []

def record (permissions : EnvMap PermissionConfig) (configuration : Bytes × PermissionConfig) :
    EnvMap PermissionConfig :=
  permissions.assign configuration.1 configuration.2

theorem getObjectItem_of_not_object {item : Json} (h : item.isObject = false) (name : Bytes) :
    item.getObjectItem name = none := by
  cases item with
  | object => cases h
  | _ => rfl

theorem parseSinglePermissionConfig_eq {obj : Json} (hobj : obj.isObject = true) {permName : Bytes}
    (hname : permName ≠ []) (defaultSwitch : Bool) (permissions : EnvMap PermissionConfig) :
    parseSinglePermissionConfig valueint obj permName defaultSwitch permissions =
      record permissions (permName, permissionConfig valueint obj defaultSwitch) := by
  rw [parseSinglePermissionConfig, if_neg (by simp [hobj, hname])]
  rfl

theorem parseSinglePermissionItem_eq (permissions : EnvMap PermissionConfig)
    (permItem : Bytes × Json) :
    parseSinglePermissionItem valueint permissions permItem =
      (itemConfigurations valueint permItem).foldl record permissions := by
  rw [parseSinglePermissionItem, itemConfigurations]
  cases permItem.2 with
  | array items =>
    by_cases hname : cStr permItem.1 = []
    · simp [hname]
    · simp only [if_neg hname, List.foldl_map, List.foldl_filter]
      congr 1
      funext permissions obj
      cases hobj : obj.isObject with
      | false => rfl
      | true => exact parseSinglePermissionConfig_eq valueint hobj hname false permissions
  | null => rfl
  | bool => rfl
  | number => rfl
  | string => rfl
  | object => rfl

theorem parseSinglePermissionArrayItem_eq (permissions : EnvMap PermissionConfig)
    (permItem : Json) :
    parseSinglePermissionArrayItem valueint permissions permItem =
      (arrayItemConfigurations valueint permItem).foldl record permissions := by
  rw [parseSinglePermissionArrayItem, arrayItemConfigurations]
  cases hobj : permItem.isObject with
  | false =>
    rw [getObjectItem_of_not_object hobj]
    rfl
  | true =>
    cases Json.stringOf (permItem.getObjectItem (bytes "name")) with
    | none => rfl
    | some name =>
      by_cases hname : name = []
      · simp [hname]
      · simp only [Bool.not_true, Bool.false_eq_true, if_false, if_neg hname]
        exact parseSinglePermissionConfig_eq valueint hobj hname true permissions

theorem parsePermissionSectionJson_eq (perm : Option Json) (permissions : EnvMap PermissionConfig) :
    parsePermissionSectionJson valueint perm permissions =
      (sectionConfigurations valueint perm).foldl record permissions := by
  have hitem : parseSinglePermissionItem valueint = fun permissions permItem =>
      (itemConfigurations valueint permItem).foldl record permissions := by
    funext permissions permItem
    exact parseSinglePermissionItem_eq valueint permissions permItem
  have harray : parseSinglePermissionArrayItem valueint = fun permissions permItem =>
      (arrayItemConfigurations valueint permItem).foldl record permissions := by
    funext permissions permItem
    exact parseSinglePermissionArrayItem_eq valueint permissions permItem
  unfold parsePermissionSectionJson sectionConfigurations
  rw [hitem, harray]
  cases perm with
  | none => rfl
  | some perm =>
    cases perm with
    | object members => exact (List.foldl_flatMap ..).symm
    | array items => exact (List.foldl_flatMap ..).symm
    | _ => rfl

/-- The permissions are the configuration objects, one recorded after the other. -/
theorem parsePermissionJson_eq (root : Json) (permissions : EnvMap PermissionConfig) :
    parsePermissionJson valueint root permissions =
      (templateConfigurations valueint root).foldl record permissions := by
  rw [parsePermissionJson, templateConfigurations, List.foldl_append,
    parsePermissionSectionJson_eq]
  cases hroot : root.isObject with
  | false =>
    rw [getObjectItem_of_not_object hroot, getObjectItem_of_not_object hroot]
    rfl
  | true =>
    simp only [Bool.not_true, Bool.false_eq_true, if_false]
    cases root.getObjectItem (bytes "conditional") with
    | none => rfl
    | some conditional =>
      cases conditional with
      | object members => exact parsePermissionSectionJson_eq valueint _ _
      | _ => rfl

end

section
variable {configurations : List (Bytes × PermissionConfig)} {permissions : EnvMap PermissionConfig}
  {configuration : Bytes × PermissionConfig}

theorem mem_foldl_record (h : configuration ∈ configurations.foldl record permissions) :
    configuration ∈ configurations ∨ configuration ∈ permissions := by
  induction configurations generalizing permissions with
  | nil => exact Or.inr h
  | cons first configurations ih =>
    rcases ih h with hmem | hmem
    · exact Or.inl (List.mem_cons_of_mem first hmem)
    · rcases EnvMap.mem_assign.mp hmem with rfl | ⟨hmem, -⟩
      · exact Or.inl List.mem_cons_self
      · exact Or.inr hmem

/-- Nothing takes the place of an object that is alone under its name. -/
theorem mem_foldl_record_of_only
    (honly : ∀ other ∈ configurations, other.1 = configuration.1 → other = configuration)
    (h : configuration ∈ configurations ∨ configuration ∈ permissions) :
    configuration ∈ configurations.foldl record permissions := by
  induction configurations generalizing permissions with
  | nil => exact h.resolve_left List.not_mem_nil
  | cons first configurations ih =>
    apply ih fun other hmem => honly other (List.mem_cons_of_mem first hmem)
    by_cases hfirst : first = configuration
    · rw [hfirst]
      exact Or.inr (EnvMap.mem_assign.mpr (Or.inl rfl))
    · have hname : configuration.1 ≠ first.1 := fun heq =>
        hfirst (honly first List.mem_cons_self heq.symm)
      rcases h with h | h
      · exact Or.inl ((List.mem_cons.mp h).resolve_left (Ne.symm hfirst))
      · exact Or.inr (EnvMap.mem_assign.mpr (Or.inr ⟨h, hname⟩))

end

/-! ### Gathering -/

/-- The paths that a configuration object opens: its own, normalised, if it is switched on and
its permission is granted. -/
def DecConfig.opened (config : DecConfig) (configuration : Bytes × PermissionConfig) : List Bytes :=
  if configuration.2.sandboxSwitch && config.isPermissionGranted configuration.1 then
    (configuration.2.decPaths.map config.normalizeDecPath).filter (· ≠ [])
  else []

/-- The list `after` is the list `before` with what is wanted and was missing, as far as there
was room. -/
structure Gathers (wanted before after : List Bytes) : Prop where
  nodup : after.Nodup
  bounded : after.length ≤ DEC_MAX_POLICY_NUM
  kept : before ⊆ after
  only : ∀ path ∈ after, path ∈ before ∨ path ∈ wanted
  all : (∀ path ∈ wanted, path ∈ after) ∨ after.length = DEC_MAX_POLICY_NUM

namespace Gathers
variable {wanted wanted' before middle after : List Bytes}

theorem nil (hnodup : before.Nodup) (hbounded : before.length ≤ DEC_MAX_POLICY_NUM) :
    Gathers [] before before :=
  ⟨hnodup, hbounded, List.Subset.refl _, fun _ h => Or.inl h,
    Or.inl fun _ h => absurd h List.not_mem_nil⟩

/-- A full list stays as it is. -/
theorem full (hnodup : before.Nodup) (hfull : before.length = DEC_MAX_POLICY_NUM) :
    Gathers wanted before before :=
  ⟨hnodup, hfull.le, List.Subset.refl _, fun _ h => Or.inl h, Or.inr hfull⟩

theorem trans (h : Gathers wanted before middle) (h' : Gathers wanted' middle after) :
    Gathers (wanted ++ wanted') before after where
  nodup := h'.nodup
  bounded := h'.bounded
  kept := List.Subset.trans h.kept h'.kept
  only path hpath := by
    rcases h'.only path hpath with hmiddle | hwanted
    · exact (h.only path hmiddle).imp_right (List.mem_append_left _)
    · exact Or.inr (List.mem_append_right _ hwanted)
  all := by
    rcases h.all with hall | hfull
    · refine h'.all.imp_left fun hall' path hpath => ?_
      rcases List.mem_append.mp hpath with hwanted | hwanted
      · exact h'.kept (hall path hwanted)
      · exact hall' path hwanted
    · right
      have hle := (List.subperm_of_subset h.nodup h'.kept).length_le
      have hbounded := h'.bounded
      omega

theorem present {path : Bytes} (hpath : path ∈ before) (hnodup : before.Nodup)
    (hbounded : before.length ≤ DEC_MAX_POLICY_NUM) : Gathers [path] before before where
  nodup := hnodup
  bounded := hbounded
  kept := List.Subset.refl _
  only _ h := Or.inl h
  all := by
    left
    simpa using hpath

theorem add {path : Bytes} (hpath : path ∉ before) (hnodup : before.Nodup)
    (hroom : before.length < DEC_MAX_POLICY_NUM) : Gathers [path] before (before ++ [path]) where
  nodup := hnodup.append (List.nodup_singleton path) (by simpa using hpath)
  bounded := by
    rw [List.length_append, List.length_singleton]
    exact hroom
  kept := List.subset_append_left _ _
  only _ h := List.mem_append.mp h
  all := by
    left
    simp

end Gathers

namespace DecConfig
variable {config : DecConfig}

theorem collectPermissionDecPaths_gathers {decPaths before : List Bytes} (hnodup : before.Nodup)
    (hbounded : before.length ≤ DEC_MAX_POLICY_NUM) :
    Gathers ((decPaths.map config.normalizeDecPath).filter (· ≠ [])) before
        (config.collectPermissionDecPaths decPaths before).2 ∧
      ((config.collectPermissionDecPaths decPaths before).1 ≠ 0 →
        (config.collectPermissionDecPaths decPaths before).2.length = DEC_MAX_POLICY_NUM) := by
  induction decPaths generalizing before with
  | nil => exact ⟨.nil hnodup hbounded, fun h => absurd rfl h⟩
  | cons decPath rest ih =>
    rw [collectPermissionDecPaths, List.map_cons]
    by_cases hempty : config.normalizeDecPath decPath = []
    · rw [if_pos (Or.inl hempty), List.filter_cons_of_neg (by simp [hempty])]
      exact ih hnodup hbounded
    rw [List.filter_cons_of_pos (by simp [hempty])]
    by_cases hpresent : config.normalizeDecPath decPath ∈ before
    · rw [if_pos (Or.inr (List.contains_iff_mem.mpr hpresent))]
      obtain ⟨hgathers, hstop⟩ := ih hnodup hbounded
      exact ⟨(Gathers.present hpresent hnodup hbounded).trans hgathers, hstop⟩
    rw [if_neg (not_or.mpr ⟨hempty, fun h => hpresent (List.contains_iff_mem.mp h)⟩)]
    by_cases hfull : DEC_MAX_POLICY_NUM ≤ before.length
    · rw [if_pos hfull]
      have hlength := Nat.le_antisymm hbounded hfull
      exact ⟨.full hnodup hlength, fun _ => hlength⟩
    · rw [if_neg hfull]
      have hadd := Gathers.add hpresent hnodup (Nat.lt_of_not_le hfull)
      obtain ⟨hgathers, hstop⟩ := ih hadd.nodup hadd.bounded
      exact ⟨hadd.trans hgathers, hstop⟩

theorem collectLoop_gathers {permissions : List (Bytes × PermissionConfig)} {before : List Bytes}
    (hnodup : before.Nodup) (hbounded : before.length ≤ DEC_MAX_POLICY_NUM) :
    Gathers (permissions.flatMap config.opened) before (config.collectLoop permissions before) := by
  induction permissions generalizing before with
  | nil => exact .nil hnodup hbounded
  | cons permissionItem rest ih =>
    rw [collectLoop, List.flatMap_cons, opened]
    cases hon : permissionItem.2.sandboxSwitch && config.isPermissionGranted permissionItem.1 with
    | false =>
      rw [← Bool.not_and, hon]
      exact ih hnodup hbounded
    | true =>
      rw [← Bool.not_and, hon]
      simp only [Bool.not_true, Bool.false_eq_true, if_false, if_true]
      obtain ⟨hgathers, hstop⟩ :=
        @collectPermissionDecPaths_gathers config permissionItem.2.decPaths before hnodup hbounded
      split
      case isTrue hret => exact hgathers.trans (.full hgathers.nodup (hstop hret))
      case isFalse => exact hgathers.trans (ih hgathers.nodup hgathers.bounded)

theorem collectDecPolicyPaths_gathers (config : DecConfig)
    (permissions : EnvMap PermissionConfig) :
    Gathers (permissions.items.flatMap config.opened) []
      (config.collectDecPolicyPaths permissions) :=
  collectLoop_gathers List.nodup_nil (Nat.zero_le _)

end DecConfig

/-! ### The batches -/

/-- The calls hand the first `start` paths over, in batches; so many of them failed. -/
structure Handed (decPaths : List Bytes) (start failedBatches : Nat) (calls : List DecCall) :
    Prop where
  handed : calls.flatMap DecCall.paths = decPaths.take start
  sizes : ∀ call ∈ calls, 0 < call.paths.length ∧ call.paths.length ≤ DEC_KERNEL_BATCH_SIZE
  failed : failedBatches = calls.countP fun call => call.ret ≠ 0

theorem Handed.nil (decPaths : List Bytes) : Handed decPaths 0 0 [] where
  handed := by rw [List.take_zero, List.flatMap_nil]
  sizes _ hmem := absurd hmem List.not_mem_nil
  failed := by rw [List.countP_nil]

theorem setDecPolicyBatch_eq (answer : Int) (paths : List Bytes) (tokenId timestamp : UInt64)
    {start : Nat} (hstart : start < paths.length) :
    let count := min (paths.length - start) DEC_KERNEL_BATCH_SIZE
    ∃ call : DecCall,
      setDecPolicyBatch answer paths tokenId timestamp start count = (answer, [call]) ∧
        call.ret = answer ∧ call.paths = (paths.drop start).take count := by
  intro count
  have hcount : ¬ (count = 0 ∨ DEC_KERNEL_BATCH_SIZE < count ∨ paths.length < start ∨
      paths.length - start < count) := by
    simp only [count, DEC_KERNEL_BATCH_SIZE]
    omega
  rw [setDecPolicyBatch, if_neg hcount]
  refine ⟨_, rfl, rfl, ?_⟩
  rw [DecCall.paths, List.map_map]
  exact List.map_id _

theorem Handed.step {decPaths : List Bytes} {start failedBatches : Nat} {calls : List DecCall}
    (h : Handed decPaths start failedBatches calls) (hstart : start < decPaths.length)
    {call : DecCall} (hcall : call.paths =
      (decPaths.drop start).take (min (decPaths.length - start) DEC_KERNEL_BATCH_SIZE)) :
    Handed decPaths (start + DEC_KERNEL_BATCH_SIZE)
      (if call.ret ≠ 0 then failedBatches + 1 else failedBatches) (calls ++ [call]) where
  handed := by
    have htake : (decPaths.drop start).take (min (decPaths.length - start) DEC_KERNEL_BATCH_SIZE) =
        (decPaths.drop start).take DEC_KERNEL_BATCH_SIZE := by
      rw [← List.length_drop, Nat.min_comm, ← List.take_take, List.take_length]
    rw [List.flatMap_append, List.flatMap_singleton, h.handed, hcall, htake, ← List.take_add]
  sizes other hmem := by
    rcases List.mem_append.mp hmem with hmem | hmem
    · exact h.sizes other hmem
    · rw [List.mem_singleton.mp hmem, hcall, List.length_take, List.length_drop]
      simp only [DEC_KERNEL_BATCH_SIZE]
      omega
  failed := by
    rw [List.countP_append, ← h.failed, List.countP_singleton]
    split <;> simp_all

theorem dispatchLoop_handed (ioctl : Nat → Int) (decPaths : List Bytes)
    (tokenId timestamp : UInt64) {start failedBatches : Nat} (totalBatches : Nat)
    {calls : List DecCall} (h : Handed decPaths start failedBatches calls) :
    ∃ last, decPaths.length ≤ last ∧
      Handed decPaths last
        (dispatchLoop ioctl decPaths tokenId timestamp start totalBatches failedBatches calls).1
        (dispatchLoop ioctl decPaths tokenId timestamp start totalBatches failedBatches calls).2 := by
  fun_induction dispatchLoop ioctl decPaths tokenId timestamp start totalBatches failedBatches calls
  case case1 start totalBatches failedBatches calls hstart count batch ih =>
    obtain ⟨call, hbatch, hret, hpaths⟩ :=
      setDecPolicyBatch_eq (ioctl totalBatches) decPaths tokenId timestamp hstart
    have hstep := h.step hstart hpaths
    apply ih
    simp only [batch, count, hbatch]
    rw [hret] at hstep
    exact hstep
  case case2 start totalBatches failedBatches calls hend =>
    exact ⟨start, Nat.le_of_not_lt hend, h⟩

section
variable {config : DecConfig} {permissions : EnvMap PermissionConfig} {answers : DecAnswers}
  {calls : List DecCall}

/-- A shell sandbox that fares well has handed over all that was gathered. -/
theorem applyDecPolicies_handed (htype : config.type = bytes "shell")
    (h : applyDecPolicies config permissions answers = (.SUCCESS, calls)) :
    calls.flatMap DecCall.paths = config.collectDecPolicyPaths permissions ∧
      ∀ call ∈ calls, call.ret = 0 ∧ 0 < call.paths.length ∧
        call.paths.length ≤ DEC_KERNEL_BATCH_SIZE := by
  rw [applyDecPolicies, if_neg (not_not.mpr htype)] at h
  dsimp only at h
  by_cases hempty : config.collectDecPolicyPaths permissions = []
  · rw [if_pos hempty] at h
    obtain rfl := (Prod.mk.inj h).2
    exact ⟨hempty.symm, fun call hmem => absurd hmem List.not_mem_nil⟩
  rw [if_neg hempty] at h
  cases hclock : answers.clock with
  | none =>
    rw [hclock] at h
    cases (Prod.mk.inj h).1
  | some ts =>
    rw [hclock] at h
    dsimp only at h
    generalize ts.1 * SEC_TO_NSEC + ts.2 = timestamp at h
    rw [dispatchDecBatches] at h
    by_cases hopen : answers.openDevice = true
    · rw [hopen, Bool.not_true, if_neg Bool.false_ne_true] at h
      obtain ⟨hret, rfl⟩ := Prod.mk.inj h
      obtain ⟨last, hlast, hhanded⟩ := dispatchLoop_handed answers.ioctl
        (config.collectDecPolicyPaths permissions) config.callerTokenId timestamp 0
        (Handed.nil _)
      have hfailed := hhanded.failed
      by_cases hpos : 0 < (dispatchLoop answers.ioctl (config.collectDecPolicyPaths permissions)
          config.callerTokenId timestamp 0 0 0 []).1
      · rw [if_pos hpos] at hret
        cases hret
      · rw [Nat.eq_zero_of_not_pos hpos, eq_comm, List.countP_eq_zero] at hfailed
        refine ⟨?_, fun call hmem => ⟨?_, hhanded.sizes call hmem⟩⟩
        · rw [hhanded.handed, List.take_of_length_le hlast]
        · simpa using hfailed call hmem
    · rw [Bool.eq_false_of_not_eq_true hopen] at h
      cases (Prod.mk.inj h).1

/-- **What a shell sandbox is given is what the granted permissions open.** -/
theorem applyDecPolicies_opened (valueint : Bytes → Int32) {root : Json}
    (htype : config.type = bytes "shell")
    (h : applyDecPolicies config (parsePermissionJson valueint root KeyedTable.empty) answers =
      (.SUCCESS, calls)) :
    (∀ call ∈ calls, call.ret = 0 ∧ 0 < call.paths.length ∧
      call.paths.length ≤ DEC_KERNEL_BATCH_SIZE) ∧
    (calls.flatMap DecCall.paths).Nodup ∧
    (calls.flatMap DecCall.paths).length ≤ DEC_MAX_POLICY_NUM ∧
    (∀ path ∈ calls.flatMap DecCall.paths,
      ∃ configuration ∈ templateConfigurations valueint root, path ∈ config.opened configuration) ∧
    ∀ configuration ∈ templateConfigurations valueint root,
      (∀ other ∈ templateConfigurations valueint root,
        other.1 = configuration.1 → other = configuration) →
      (∀ path ∈ config.opened configuration, path ∈ calls.flatMap DecCall.paths) ∨
        (calls.flatMap DecCall.paths).length = DEC_MAX_POLICY_NUM := by
  obtain ⟨hpaths, hcalls⟩ := applyDecPolicies_handed htype h
  have hgathers := config.collectDecPolicyPaths_gathers
    (parsePermissionJson valueint root KeyedTable.empty)
  rw [← hpaths] at hgathers
  refine ⟨hcalls, hgathers.nodup, hgathers.bounded, fun path hpath => ?_,
    fun configuration hmem honly => hgathers.all.imp_left fun hall path hpath => ?_⟩
  · obtain ⟨configuration, hmem, hopened⟩ := List.mem_flatMap.mp
      ((hgathers.only path hpath).resolve_left List.not_mem_nil)
    rw [EnvMap.mem_items, parsePermissionJson_eq] at hmem
    exact ⟨configuration, (mem_foldl_record hmem).resolve_right (KeyedTable.not_mem_empty _), hopened⟩
  · apply hall path (List.mem_flatMap.mpr ⟨configuration, ?_, hpath⟩)
    rw [EnvMap.mem_items, parsePermissionJson_eq]
    exact mem_foldl_record_of_only honly (Or.inl hmem)

end

/-! ### More paths than there is room for -/

/-- A template whose permissions are on and open these paths. -/
def openingTemplate (permissions : List (Bytes × List Bytes)) : Json :=
  .object [(bytes "permission", .object (permissions.map fun permission => (permission.1,
    .array [.object [(bytes "sandbox-switch", .string (bytes "ON")),
      (bytes "dec-paths", .array (permission.2.map .string))]])))]

def fileAccess : Bytes := bytes "ohos.permission.FILE_ACCESS_MANAGER"

/-- A shell sandbox whose caller holds every permission. -/
def grantedConfig : DecConfig where
  newRootPath := bytes "/mnt/s"
  conditionalRules := []
  callerTokenId := 1
  verifyAccessToken := fun _ _ => PERMISSION_GRANTED
  type := bytes "shell"
  currentUserId := bytes "100"

def goodAnswers : DecAnswers where
  clock := some (1, 0)
  openDevice := true
  ioctl := fun _ => 0

/-- The paths `/0` to `/p`. -/
def manyPaths : List Bytes := (List.range 65).map fun n => [slash, UInt8.ofNat (48 + n)]

def manyTemplate : Json := openingTemplate [(fileAccess, manyPaths)]

/-- The last of them is left out, and the call fares well. -/
theorem applyDecPolicies_cut :
    let permissions := parsePermissionJson (fun _ => 0) manyTemplate KeyedTable.empty
    (applyDecPolicies grantedConfig permissions goodAnswers).1 = .SUCCESS ∧
      (∃ configuration ∈ templateConfigurations (fun _ => 0) manyTemplate,
        bytes "/p" ∈ grantedConfig.opened configuration) ∧
      bytes "/p" ∉ (applyDecPolicies grantedConfig permissions goodAnswers).2.flatMap DecCall.paths := by
  decide +kernel

/-- Two permissions, with one path in common. -/
def sharedTemplate : Json :=
  openingTemplate [(fileAccess, manyPaths.take 6),
    (bytes "ohos.permission.READ_WRITE_DOCUMENTS_DIRECTORY", (manyPaths.drop 5).take 6)]

/-- What the two open is more than a batch holds. -/
theorem applyDecPolicies_opened_two :
    let calls := (applyDecPolicies grantedConfig
      (parsePermissionJson (fun _ => 0) sharedTemplate KeyedTable.empty) goodAnswers).2
    calls.map (fun call => call.paths.length) = [DEC_KERNEL_BATCH_SIZE, 3] ∧
      (calls.flatMap DecCall.paths).Nodup ∧
      ∀ path ∈ calls.flatMap DecCall.paths,
        ∃ configuration ∈ templateConfigurations (fun _ => 0) sharedTemplate,
          path ∈ grantedConfig.opened configuration := by
  have hdelivered : (applyDecPolicies grantedConfig
        (parsePermissionJson (fun _ => 0) sharedTemplate KeyedTable.empty) goodAnswers).1 = .SUCCESS ∧
      (applyDecPolicies grantedConfig (parsePermissionJson (fun _ => 0) sharedTemplate
        KeyedTable.empty) goodAnswers).2.map (fun call => call.paths.length) =
          [DEC_KERNEL_BATCH_SIZE, 3] := by
    decide +kernel
  have h := applyDecPolicies_opened (fun _ => 0) rfl (Prod.ext hdelivered.1 rfl)
  exact ⟨hdelivered.2, h.2.1, h.2.2.2.1⟩

end SandboxManager.Claw
