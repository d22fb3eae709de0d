import SandboxManager.Claw.MountSkips

/-! What a failed launch leaves mounted.

`Cleanup` unmounts the targets that were pushed, the newest first. Every bind mount in place is
among them (`Covered`), unless a step made one and failed before it pushed the target without
undoing the mount: the one that fails to set the propagation does (`MountOp.Leaks`). -/
namespace SandboxManager.Claw.MountPhase
open Library

/-! ### Steps of the phase -/

/-- One step, with the answers that it meets. `MountDir` is one, although no phase takes it. -/
inductive MountOp where
  | newRoot (answer : Answer)
  | system (entry : MountEntry) (answers : EntryAnswers)
  | symLink (entry : SymLinkEntry) (answers : SymLinkAnswers)
  | app (entry : MountEntry) (answers : EntryAnswers)
  | setGroups (ret : SandboxError)
  | policy (policyMount : PolicyMount) (answers : PolicyAnswers)
  | pivotRoot (answer : Answer)
  | dir (source target : Bytes) (mountFlags : List Bytes) (answers : EntryAnswers)

variable (config : RootConfig)

def MountOp.step : MountOp → MountStep
  | newRoot answer => mountNewRoot config answer
  | system entry answers => mountSystemEntry config answers entry
  | symLink entry answers => symlinkSingleEntry config answers entry
  | app entry answers => mountSingleEntry config answers entry
  | setGroups ret => fun state => (ret, state)
  | policy policyMount answers => mountPolicyPath config answers policyMount
  | pivotRoot answer => MountPhase.pivotRoot answer
  | dir source target mountFlags answers => mountDir answers source target mountFlags

/-- The steps one after the other, until one fails. -/
def run (ops : List MountOp) : MountStep := untilFailure .SUCCESS (MountOp.step config) ops

def Phase.stages (phase : Phase) : List (List MountOp) :=
  [[.newRoot phase.newRoot], phase.systemMounts.map fun item => .system item.1 item.2,
    phase.symLinks.map fun item => .symLink item.1 item.2,
    phase.appMounts.map fun item => .app item.1 item.2, [.setGroups phase.setGroups],
    phase.policyMounts.map fun item => .policy item.1 item.2, [.pivotRoot phase.pivotRoot]]

theorem run_singleton (op : MountOp) : run config [op] = op.step config :=
  funext fun _ => untilFailure_singleton

theorem run_map {α : Type} (op : α → MountOp) (items : List α) :
    run config (items.map op) = untilFailure .SUCCESS (fun item => (op item).step config) items :=
  funext fun _ => untilFailure_map op items

/-- The phase is a run of such steps. -/
theorem executeMountSteps_eq (phase : Phase) (state : Progress) :
    executeMountSteps config phase state = run config phase.stages.flatten state := by
  have hstages : phase.stages.map (run config) =
      [mountNewRoot config phase.newRoot, mountSystemDirs config phase.systemMounts,
       mountSymLinks config phase.symLinks, mountAppDirs config phase.appMounts,
       fun state => (phase.setGroups, state), applyPolicyMounts config phase.policyMounts,
       pivotRoot phase.pivotRoot] := by
    simp only [Phase.stages, List.map_cons, List.map_nil, run_singleton, run_map]
    rfl
  calc executeMountSteps config phase state
      = untilFailure .SUCCESS (fun step => step) (phase.stages.map (run config)) state := by
        rw [hstages, executeMountSteps]
    _ = untilFailure .SUCCESS (run config) phase.stages state := untilFailure_map _ _
    _ = run config phase.stages.flatten state := untilFailure_flatten _

/-! ### Mounts that are known of -/

/-- `Cleanup` knows of all bind mounts, in the order in which they were made. -/
def Covered (state : Progress) : Prop := (inPlace state.calls).Sublist state.mountedDirs.reverse

/-- It would, were this target pushed. -/
def Pending (target : Bytes) (state : Progress) : Prop :=
  (inPlace state.calls).Sublist (target :: state.mountedDirs.reverse)

section
variable {state state' : Progress} {source : Option Bytes} {target : Bytes} {flags : UInt64}

theorem inPlace_called (call : MountCall) :
    inPlace (state.called call).calls = call.after (inPlace state.calls) := by
  rw [inPlace, Progress.called, List.foldl_append]
  rfl

theorem inPlace_called_mount (h : ¬ MakesBind flags) :
    inPlace (state.called (.mount source target flags)).calls = inPlace state.calls := by
  rw [inPlace_called]
  exact if_neg h

theorem Covered.of_same (h : Covered state) (hsame : SameMounts state state') : Covered state' := by
  rw [Covered, hsame.1, hsame.2]
  exact h

theorem Covered.mounted (h : Covered state) (source : Option Bytes) (target : Bytes)
    (flags : UInt64) : Pending target (state.called (.mount source target flags)) := by
  rw [Pending, inPlace_called]
  by_cases hbind : MakesBind flags
  · rw [MountCall.after, if_pos hbind]
    exact List.Sublist.cons_cons target h
  · rw [MountCall.after, if_neg hbind]
    exact List.Sublist.cons target h

theorem Pending.pushed (h : Pending target state) : Covered (state.pushed target) := by
  rw [Covered, Progress.pushed, List.reverse_append]
  exact h

theorem Pending.undone (h : Pending target state) : Covered (state.called (.umount2 target)) := by
  have herase := h.erase target
  rw [List.erase_cons_head] at herase
  rw [Covered, inPlace_called]
  exact herase

/-- Only the mounts count. -/
def SameInPlace (state state' : Progress) : Prop :=
  inPlace state'.calls = inPlace state.calls ∧ state'.mountedDirs = state.mountedDirs

theorem Pending.of_same (h : Pending target state) (hsame : SameInPlace state state') :
    Pending target state' := by
  rw [Pending, hsame.1, hsame.2]
  exact h

theorem Covered.of_sameInPlace (h : Covered state) (hsame : SameInPlace state state') :
    Covered state' := by
  rw [Covered, hsame.1, hsame.2]
  exact h

/-! ### Calls that leave the bind mounts alone -/

theorem not_makesBind_propagation (allFlags : UInt64) :
    ¬ MakesBind (allFlags &&& PROPAGATION_MASK) := by
  have hmask : PROPAGATION_MASK &&& MS_BIND = 0 := by decide
  rintro ⟨hbind, -⟩
  rw [UInt64.and_assoc, hmask, UInt64.and_zero] at hbind
  exact hbind rfl

theorem not_makesBind_remount : ¬ MakesBind READONLY_REMOUNT := by decide

theorem setPropagation_same (propagation : Answer) (target : Bytes) (allFlags : UInt64)
    (state : Progress) :
    SameInPlace state
        (setPropagation propagation target (allFlags &&& PROPAGATION_MASK) state).2 ∧
      ((setPropagation propagation target (allFlags &&& PROPAGATION_MASK) state).1 ≠ .SUCCESS →
        allFlags &&& PROPAGATION_MASK ≠ 0 ∧ propagation ≠ none) := by
  unfold setPropagation
  by_cases hflags : allFlags &&& PROPAGATION_MASK = 0
  · simp [hflags, SameInPlace]
  · cases propagation with
    | some errno => simp [hflags, SameInPlace, Progress.failed]
    | none =>
      simp only [hflags, ne_eq, not_false_eq_true, if_true, not_true_eq_false, false_implies,
        and_true]
      exact ⟨inPlace_called_mount (not_makesBind_propagation allFlags), rfl⟩

theorem openSourcePath_same (answers : EntryAnswers) (state : Progress) :
    SameMounts state (openSourcePath answers state).2 ∧
      ((openSourcePath answers state).1 = true → answers.ExistsAsDirectory) := by
  unfold openSourcePath
  cases hopen : answers.openSource with
  | some errno => exact ⟨⟨rfl, rfl⟩, fun h => absurd h Bool.false_ne_true⟩
  | none =>
    cases hfstat : answers.fstat with
    | some errno => exact ⟨⟨rfl, rfl⟩, fun h => absurd h Bool.false_ne_true⟩
    | none => exact ⟨⟨rfl, rfl⟩, fun h => ⟨hopen, hfstat, h⟩⟩

/-- The directories on the way to a target are made, or there. -/
def MakesDirs (mkdir : Bytes → Answer) (path : Bytes) : Prop :=
  ∀ dir ∈ dirPaths path, mkdir dir = none ∨ mkdir dir = some EEXIST

theorem createDir_eq_success_iff {mkdir : Bytes → Answer} {path : Bytes} :
    (createDir mkdir path state).1 = .SUCCESS ↔ MakesDirs mkdir path := by
  apply untilFailure_eq_ok_iff
  intro dir before
  rw [mkdirIfNotExist]
  cases mkdir dir with
  | none => simp
  | some errno =>
    by_cases herrno : errno = EEXIST
    · simp [herrno]
    · simp [herrno]

end

/-! ### The step that loses a mount -/

/-- The bind mount is made, and setting its propagation fails. -/
def EntryAnswers.LosesMount (answers : EntryAnswers) (allFlags : UInt64) : Prop :=
  answers.mount = none ∧ MakesBind (allFlags &&& ~~~PROPAGATION_MASK) ∧
    allFlags &&& PROPAGATION_MASK ≠ 0 ∧ answers.propagation ≠ none

def MountOp.Leaks : MountOp → Prop
  | app entry answers =>
    answers.ExistsAsDirectory ∧ MakesDirs answers.mkdir (config.newRootPath ++ entry.target) ∧
      (convertMountFlags entry.mountFlags &&& MS_RDONLY ≠ 0 → answers.remount = none) ∧
      answers.LosesMount (convertMountFlags entry.mountFlags)
  | dir _ target mountFlags answers =>
    MakesDirs answers.mkdir target ∧ answers.LosesMount (convertMountFlags mountFlags)
  | _ => False

section
variable {config : RootConfig} {state : Progress} {answers : EntryAnswers}

/-- The mount and what follows it: done up to the push, or undone, or lost. -/
theorem setPropagation_mounted (h : Covered state) (hmount : answers.mount = none)
    (source : Option Bytes) (target : Bytes) (allFlags : UInt64) {after : Progress}
    (hafter : SameInPlace
      (state.called (.mount source target (allFlags &&& ~~~PROPAGATION_MASK))) after) :
    ((setPropagation answers.propagation target (allFlags &&& PROPAGATION_MASK) after).1 = .SUCCESS →
      Pending target
        (setPropagation answers.propagation target (allFlags &&& PROPAGATION_MASK) after).2) ∧
    ((setPropagation answers.propagation target (allFlags &&& PROPAGATION_MASK) after).1 ≠ .SUCCESS →
      ¬ answers.LosesMount allFlags → Covered
        (setPropagation answers.propagation target (allFlags &&& PROPAGATION_MASK) after).2) := by
  obtain ⟨hsame, hfails⟩ := setPropagation_same answers.propagation target allFlags after
  refine ⟨fun _ => ((h.mounted source target _).of_same hafter).of_same hsame,
    fun hret hloses => ?_⟩
  obtain ⟨hflags, hpropagation⟩ := hfails hret
  have hbind : ¬ MakesBind (allFlags &&& ~~~PROPAGATION_MASK) := fun hbind =>
    hloses ⟨hmount, hbind, hflags, hpropagation⟩
  have hcovered : Covered (state.called (.mount source target (allFlags &&& ~~~PROPAGATION_MASK))) :=
    h.of_sameInPlace ⟨inPlace_called_mount hbind, rfl⟩
  exact (hcovered.of_sameInPlace hafter).of_sameInPlace hsame

theorem doMountSequence_mounted (h : Covered state) (answers : EntryAnswers)
    (source target : Bytes) (allFlags : UInt64) :
    ((doMountSequence answers source target allFlags state).1 = .SUCCESS →
      Pending target (doMountSequence answers source target allFlags state).2) ∧
    ((doMountSequence answers source target allFlags state).1 ≠ .SUCCESS →
      ¬ ((allFlags &&& MS_RDONLY ≠ 0 → answers.remount = none) ∧ answers.LosesMount allFlags) →
        Covered (doMountSequence answers source target allFlags state).2) := by
  unfold doMountSequence
  cases hmount : answers.mount with
  | some errno => exact ⟨fun hret => (by cases hret), fun _ _ => h.of_same ⟨rfl, rfl⟩⟩
  | none =>
    dsimp only
    by_cases hreadOnly : allFlags &&& MS_RDONLY ≠ 0
    · rw [if_pos hreadOnly]
      cases hremount : answers.remount with
      | some errno =>
        have hpending := h.mounted (some source) target (allFlags &&& ~~~PROPAGATION_MASK)
        have hundone := (hpending.of_same ⟨rfl, rfl⟩ :
          Pending target ((state.called _).failed errno)).undone
        exact ⟨fun hret => (by cases hret), fun _ _ => hundone⟩
      | none =>
        have hremounted : ∀ mounted : Progress, SameInPlace mounted
            (mounted.called (.mount (some source) target READONLY_REMOUNT)) :=
          fun _ => ⟨inPlace_called_mount not_makesBind_remount, rfl⟩
        have hmounted := setPropagation_mounted h hmount (some source) target allFlags (hremounted _)
        exact ⟨hmounted.1, fun hret hnot => hmounted.2 hret fun hloses => hnot ⟨fun _ => rfl, hloses⟩⟩
    · rw [if_neg hreadOnly]
      have hmounted := setPropagation_mounted h hmount (some source) target allFlags ⟨rfl, rfl⟩
      exact ⟨hmounted.1, fun hret hnot => hmounted.2 hret fun hloses =>
        hnot ⟨fun hreadOnly' => absurd hreadOnly' hreadOnly, hloses⟩⟩

theorem mountSystemEntry_covered (h : Covered state) (answers : EntryAnswers) (entry : MountEntry) :
    Covered (mountSystemEntry config answers entry state).2 := by
  rw [mountSystemEntry]
  have hopened := (openSourcePath_same answers state).1
  generalize openSourcePath answers state = opened at hopened ⊢
  dsimp only
  split
  · split <;> exact h.of_same hopened
  · have hcreated := createDir_sameMounts answers.mkdir (config.newRootPath ++ entry.target) opened.2
    generalize createDir answers.mkdir (config.newRootPath ++ entry.target) opened.2 = created
      at hcreated ⊢
    have hcovered := (h.of_same hopened).of_same hcreated
    split
    · exact hcovered
    · split
      · exact hcovered
      · cases answers.mount with
        | some errno => exact hcovered.of_same ⟨rfl, rfl⟩
        | none => exact (hcovered.mounted _ _ _).pushed

theorem mountSingleEntry_covered (h : Covered state) {entry : MountEntry}
    (hleaks : ¬ MountOp.Leaks config (.app entry answers)) :
    Covered (mountSingleEntry config answers entry state).2 := by
  rw [mountSingleEntry]
  obtain ⟨hopened, hdir⟩ := openSourcePath_same answers state
  generalize openSourcePath answers state = opened at hopened hdir ⊢
  dsimp only
  by_cases hopen : opened.1 = false
  · rw [if_pos hopen]
    split <;> exact h.of_same hopened
  rw [if_neg hopen]
  have hcovered := (h.of_same hopened).of_same
    (createDir_sameMounts answers.mkdir (config.newRootPath ++ entry.target) opened.2)
  by_cases hcreated : (createDir answers.mkdir (config.newRootPath ++ entry.target) opened.2).1 =
      .SUCCESS
  · rw [if_neg (not_not.mpr hcreated)]
    obtain ⟨hpending, hfails⟩ := doMountSequence_mounted hcovered answers entry.source
      (config.newRootPath ++ entry.target) (convertMountFlags entry.mountFlags)
    have hnot : ¬ ((convertMountFlags entry.mountFlags &&& MS_RDONLY ≠ 0 → answers.remount = none) ∧
        answers.LosesMount (convertMountFlags entry.mountFlags)) := fun hloses =>
      hleaks ⟨hdir (Bool.eq_true_of_not_eq_false hopen), createDir_eq_success_iff.mp hcreated,
        hloses.1, hloses.2⟩
    by_cases hret : (doMountSequence answers entry.source (config.newRootPath ++ entry.target)
        (convertMountFlags entry.mountFlags)
        (createDir answers.mkdir (config.newRootPath ++ entry.target) opened.2).2).1 = .SUCCESS
    · rw [if_neg (not_not.mpr hret)]
      exact (hpending hret).pushed
    · rw [if_pos hret]
      exact hfails hret hnot
  · rw [if_pos hcreated]
    exact hcovered

theorem mountDir_covered (h : Covered state) {source target : Bytes} {mountFlags : List Bytes}
    (hleaks : ¬ MountOp.Leaks config (.dir source target mountFlags answers)) :
    Covered (mountDir answers source target mountFlags state).2 := by
  rw [mountDir]
  dsimp only
  have hcovered := h.of_same (createDir_sameMounts answers.mkdir target state)
  by_cases hcreated : (createDir answers.mkdir target state).1 = .SUCCESS
  · rw [if_neg (not_not.mpr hcreated)]
    have hnot : ¬ answers.LosesMount (convertMountFlags mountFlags) := fun hloses =>
      hleaks ⟨createDir_eq_success_iff.mp hcreated, hloses⟩
    cases hmount : answers.mount with
    | some errno => exact hcovered.of_same ⟨rfl, rfl⟩
    | none =>
      obtain ⟨hpending, hfails⟩ := setPropagation_mounted hcovered hmount (some source) target
        (convertMountFlags mountFlags) ⟨rfl, rfl⟩
      dsimp only
      split
      case isTrue hret => exact hfails hret hnot
      case isFalse hret => exact (hpending (not_not.mp hret)).pushed
  · rw [if_pos hcreated]
    exact hcovered

theorem remountAt_covered (h : Covered state) (answers : PolicyAnswers) (policyMount : PolicyMount)
    (target : Bytes) : Covered (remountAt answers policyMount target state).2 := by
  unfold remountAt
  cases answers.remount with
  | some errno => exact h.of_same ⟨rfl, rfl⟩
  | none =>
    apply h.of_sameInPlace
    refine ⟨inPlace_called_mount ?_, rfl⟩
    cases policyMount.readOnly with
    | true => decide
    | false => decide

theorem remountPolicyMount_covered (h : Covered state) (answers : PolicyAnswers)
    (policyMount : PolicyMount) (target : Bytes) :
    Covered (remountPolicyMount answers policyMount target state).2 := by
  unfold remountPolicyMount
  split
  · cases answers.getMountReadOnly with
    | error error => exact h
    | ok targetReadOnly =>
      dsimp only
      split
      · exact h
      · exact remountAt_covered h answers policyMount target
  · exact remountAt_covered h answers policyMount target

theorem bindMountConditionalPath_covered (h : Covered state) (answers : PolicyAnswers)
    (policyMount : PolicyMount) (mountTarget physicalSource : Bytes) :
    Covered (bindMountConditionalPath answers policyMount mountTarget physicalSource state).2 := by
  unfold bindMountConditionalPath
  cases answers.statSource with
  | some errno => exact h.of_same ⟨rfl, rfl⟩
  | none =>
    have hcovered := h.of_same (createDir_sameMounts answers.mkdir mountTarget state)
    dsimp only
    split
    · exact hcovered
    · cases answers.bind with
      | some errno => exact hcovered.of_same ⟨rfl, rfl⟩
      | none =>
        have hpending := hcovered.mounted (some physicalSource) mountTarget (MS_BIND ||| MS_REC)
        dsimp only
        split
        · cases answers.remount with
          | some errno =>
            have hfailed : ∀ mounted : Progress, SameInPlace mounted (mounted.failed errno) :=
              fun _ => ⟨rfl, rfl⟩
            exact (hpending.of_same (hfailed _)).undone
          | none =>
            have hremounted : ∀ mounted : Progress, SameInPlace mounted
                (mounted.called (.mount none mountTarget READONLY_REMOUNT)) :=
              fun _ => ⟨inPlace_called_mount not_makesBind_remount, rfl⟩
            exact (hpending.of_same (hremounted _)).pushed
        · exact hpending.pushed

theorem mountPolicyPath_covered (h : Covered state) (answers : PolicyAnswers)
    (policyMount : PolicyMount) : Covered (mountPolicyPath config answers policyMount state).2 := by
  unfold mountPolicyPath
  cases answers.isExactMountPoint with
  | error error => exact h
  | ok targetIsMountPoint =>
    cases targetIsMountPoint with
    | true => exact remountPolicyMount_covered h answers policyMount _
    | false =>
      dsimp only
      cases matchConditionalSource config.toMountConfig policyMount.source with
      | matched physicalSource =>
        exact bindMountConditionalPath_covered h answers policyMount _ physicalSource
      | blocked => exact h
      | noMatch => exact h

/-- A step that does not leak keeps the mounts covered. -/
theorem MountOp.step_covered {op : MountOp} (hleaks : ¬ op.Leaks config) (h : Covered state) :
    Covered (op.step config state).2 := by
  cases op with
  | newRoot answer =>
    cases answer with
    | some errno => exact h.of_same ⟨rfl, rfl⟩
    | none => exact (h.mounted _ _ _).pushed
  | system entry answers => exact mountSystemEntry_covered h answers entry
  | symLink entry answers => exact h.of_same (symlinkSingleEntry_sameMounts config answers entry state)
  | app entry answers => exact mountSingleEntry_covered h hleaks
  | setGroups ret => exact h
  | policy policyMount answers => exact mountPolicyPath_covered h answers policyMount
  | pivotRoot answer =>
    cases answer with
    | some errno => exact h.of_same ⟨rfl, rfl⟩
    | none => exact h
  | dir source target mountFlags answers => exact mountDir_covered h hleaks

end

section
variable {config : RootConfig} {answers : EntryAnswers}

theorem setPropagation_lost {allFlags : UInt64} (h : answers.LosesMount allFlags) (target : Bytes)
    (after : Progress) :
    ∃ errno, setPropagation answers.propagation target (allFlags &&& PROPAGATION_MASK) after =
      (.ERR_MOUNT_FAILED, after.failed errno) := by
  obtain ⟨-, -, hflags, hpropagation⟩ := h
  obtain ⟨errno, herrno⟩ := Option.ne_none_iff_exists'.mp hpropagation
  refine ⟨errno, ?_⟩
  unfold setPropagation
  rw [if_pos hflags, herrno]

theorem inPlace_called_bind {flags : UInt64} (h : MakesBind flags) (source : Option Bytes)
    (target : Bytes) (state : Progress) :
    inPlace (state.called (.mount source target flags)).calls = target :: inPlace state.calls := by
  rw [inPlace_called]
  exact if_pos h

theorem doMountSequence_lost {allFlags : UInt64}
    (hremount : allFlags &&& MS_RDONLY ≠ 0 → answers.remount = none)
    (h : answers.LosesMount allFlags) (source target : Bytes) (state : Progress) :
    (doMountSequence answers source target allFlags state).1 = .ERR_MOUNT_FAILED ∧
      inPlace (doMountSequence answers source target allFlags state).2.calls =
        target :: inPlace state.calls ∧
      (doMountSequence answers source target allFlags state).2.mountedDirs = state.mountedDirs := by
  have hbind := inPlace_called_bind h.2.1 (some source) target state
  unfold doMountSequence
  rw [h.1]
  dsimp only
  by_cases hreadOnly : allFlags &&& MS_RDONLY ≠ 0
  · rw [if_pos hreadOnly, hremount hreadOnly]
    obtain ⟨errno, hlost⟩ := setPropagation_lost h target
      ((state.called (.mount (some source) target (allFlags &&& ~~~PROPAGATION_MASK))).called
        (.mount (some source) target READONLY_REMOUNT))
    dsimp only
    rw [hlost]
    exact ⟨rfl, (inPlace_called_mount not_makesBind_remount).trans hbind, rfl⟩
  · rw [if_neg hreadOnly]
    obtain ⟨errno, hlost⟩ := setPropagation_lost h target
      (state.called (.mount (some source) target (allFlags &&& ~~~PROPAGATION_MASK)))
    rw [hlost]
    exact ⟨rfl, hbind, rfl⟩

/-- A step that leaks fails with one mount more in place than before, of which `Cleanup` has not
been told. -/
theorem MountOp.Leaks.lost {op : MountOp} (h : op.Leaks config) (state : Progress) :
    (op.step config state).1 = .ERR_MOUNT_FAILED ∧
      (∃ target, inPlace (op.step config state).2.calls = target :: inPlace state.calls) ∧
      (op.step config state).2.mountedDirs = state.mountedDirs := by
  cases op with
  | app entry answers =>
    obtain ⟨hdir, hdirs, hremount, hloses⟩ := h
    have hopened : openSourcePath answers state = (true, state) := by
      rw [openSourcePath, hdir.1, hdir.2.1, hdir.2.2]
    have hcreated : (createDir answers.mkdir (config.newRootPath ++ entry.target) state).1 =
        .SUCCESS := createDir_eq_success_iff.mpr hdirs
    have hsame := createDir_sameMounts answers.mkdir (config.newRootPath ++ entry.target) state
    obtain ⟨hret, hcalls, hmounted⟩ := doMountSequence_lost hremount hloses entry.source
      (config.newRootPath ++ entry.target)
      (createDir answers.mkdir (config.newRootPath ++ entry.target) state).2
    rw [MountOp.step, mountSingleEntry, hopened]
    dsimp only
    rw [if_neg (by simp), if_neg (not_not.mpr hcreated), if_pos (by simp [hret])]
    exact ⟨hret, ⟨_, by rw [hcalls, hsame.1]⟩, hmounted.trans hsame.2⟩
  | dir source target mountFlags answers =>
    obtain ⟨hdirs, hloses⟩ := h
    have hcreated : (createDir answers.mkdir target state).1 = .SUCCESS :=
      createDir_eq_success_iff.mpr hdirs
    have hsame := createDir_sameMounts answers.mkdir target state
    obtain ⟨errno, hlost⟩ := setPropagation_lost hloses target
      ((createDir answers.mkdir target state).2.called
        (.mount (some source) target (convertMountFlags mountFlags &&& ~~~PROPAGATION_MASK)))
    have hbind := inPlace_called_bind hloses.2.1 (some source) target
      (createDir answers.mkdir target state).2
    rw [MountOp.step, mountDir]
    dsimp only
    rw [if_neg (not_not.mpr hcreated), hloses.1]
    dsimp only
    rw [hlost, if_pos (by simp)]
    refine ⟨rfl, ⟨target, ?_⟩, hsame.2⟩
    rw [← hsame.1]
    exact hbind
  | newRoot => exact h.elim
  | system => exact h.elim
  | symLink => exact h.elim
  | setGroups => exact h.elim
  | policy => exact h.elim
  | pivotRoot => exact h.elim

end

/-! ### Cleaning up -/

/-- What is in place and known of is gone once what is known of was unmounted. -/
theorem foldl_umount2 {targets known : List Bytes} (h : targets.Sublist known) :
    (known.map MountCall.umount2).foldl MountCall.after targets = [] := by
  induction known generalizing targets with
  | nil => exact List.sublist_nil.mp h
  | cons target known ih =>
    have herase := h.erase target
    rw [List.erase_cons_head] at herase
    exact ih herase

/-- `Cleanup` unmounts what it knows of, the newest first, and then nothing is in place any more
under the root that it removes. -/
structure LeavesNone (config : RootConfig) (state : Progress) : Prop where
  known : (inPlace state.calls).Sublist state.mountedDirs.reverse
  calls : (cleanup config false state).calls = state.calls ++
    (state.mountedDirs.reverse.map MountCall.umount2 ++
      [.rmdir config.putOldPath, .rmdir config.newRootPath])
  none : inPlace (state.calls ++ state.mountedDirs.reverse.map MountCall.umount2) = []

theorem Covered.leavesNone {state : Progress} (h : Covered state) : LeavesNone config state where
  known := h
  calls := rfl
  none := by
    rw [inPlace, List.foldl_append]
    exact foldl_umount2 h

variable {config}

/-- **No mount outlives a failed launch** none of whose steps fails to set the propagation of a
bind mount that it has made. -/
theorem run_leavesNone {ops : List MountOp} {errno : Int}
    (hmeets : Meets .SUCCESS (MountOp.step config) (fun op _ => ¬ op.Leaks config) ops { errno }) :
    LeavesNone config (run config ops { errno }).2 ∧
      ∀ phase : Phase, phase.stages.flatten = ops →
        LeavesNone config (executeMountSteps config phase { errno }).2 := by
  have hstart : Covered { errno } := List.nil_sublist _
  have hcovered : Covered (run config ops { errno }).2 :=
    untilFailure_preserves (fun _ _ hleaks h => MountOp.step_covered hleaks h) hmeets hstart
  refine ⟨hcovered.leavesNone config, fun phase hphase => ?_⟩
  rw [executeMountSteps_eq, hphase]
  exact hcovered.leavesNone config

/-! ### Two launches that fail -/

/-- A template that mounts one directory, with a propagation of its own. -/
def slavePhase (answers : EntryAnswers) : Phase where
  newRoot := none
  systemMounts := []
  symLinks := []
  appMounts :=
    [(⟨bytes "/data", bytes "/data", [bytes "bind", bytes "rec", bytes "slave"], false⟩, answers)]
  setGroups := .SUCCESS
  policyMounts := []
  pivotRoot := none

/-- The mount itself is refused. -/
theorem executeMountSteps_refused :
    LeavesNone slashMnt (executeMountSteps slashMnt
      (slavePhase { directoryAnswers with mount := some EINVAL }) { errno := 0 }).2 := by
  refine (run_leavesNone ?_).2 _ rfl
  refine .of_forall fun op hop _ hleaks => ?_
  cases op with
  | app entry answers =>
    obtain ⟨-, -, -, hmount, -⟩ := hleaks
    simp only [Phase.stages, slavePhase, List.map_nil, List.map_cons, List.flatten_cons,
      List.flatten_nil, List.nil_append, List.cons_append, List.mem_cons, List.not_mem_nil,
      MountOp.app.injEq, reduceCtorEq, false_or, or_false] at hop
    rw [hop.2] at hmount
    exact Option.some_ne_none _ hmount
  | dir => simp [Phase.stages, slavePhase] at hop
  | _ => exact hleaks

/-- The propagation is refused, and the mount stays. -/
theorem executeMountSteps_leaks :
    (executeMountSteps slashMnt (slavePhase { directoryAnswers with propagation := some EINVAL })
        { errno := 0 }).1 = .ERR_MOUNT_FAILED ∧
      inPlace (cleanup slashMnt false (executeMountSteps slashMnt
        (slavePhase { directoryAnswers with propagation := some EINVAL }) { errno := 0 }).2).calls =
          [bytes "/mnt/s/data"] := by
  decide +kernel

end SandboxManager.Claw.MountPhase
