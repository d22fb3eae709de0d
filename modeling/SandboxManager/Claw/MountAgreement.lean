import SandboxManager.Claw.MountPhase

/-! Policy mounts with and without the table.

`Mounts` follows the mount table through the policy mounts that go well; the mount phase keeps
what is left behind also by those that fail, and takes what the table says as an answer. Given
the answers that a table gives (`tableAnswers`), both come to the same: the same error, or the
same targets pushed (`mountPolicyPath_agrees`), over a whole policy too, each mount answered from
the table that the earlier ones have left (`applyPolicyMounts_agrees`). -/
namespace SandboxManager.Claw.MountPhase
open Library

def answerOf (fine : Bool) (errno : Int) : Answer := if fine then none else some errno

/-- Where the rules lead, if anywhere. -/
def physicalSourceOf (config : MountConfig) (target : Bytes) : Bytes :=
  match matchConditionalSource config target with
  | .matched physicalSource => physicalSource
  | _ => []

/-- What the phase is answered where the table is in this state. -/
def tableAnswers (config : MountConfig) (answers : MountAnswers) (policyMount : PolicyMount)
    (state : MountState) : PolicyAnswers :=
  let target := config.newRootPath ++ policyMount.source
  let exact := isExactMountPoint answers state.mounts target
  let bound := answers.bindAt (physicalSourceOf config policyMount.source) target state.mounts
  { isExactMountPoint := exact
    getMountReadOnly := getMountReadOnly answers state.mounts target
    statSource := answerOf answers.statSource ENOENT
    mkdir := fun _ => answerOf (answers.createDir = .SUCCESS) EACCES
    bind := answerOf bound.isSome EINVAL
    remount :=
      if exact = .ok true then
        answerOf (answers.remountAt target policyMount.readOnly state.mounts).isSome EINVAL
      else answerOf (bound.bind (answers.remountAt target true)).isSome EINVAL }

/-- The targets pushed, or the error. -/
def pushedOr (done : SandboxError × Progress) : Except SandboxError (List Bytes) :=
  if done.1 = .SUCCESS then .ok done.2.mountedDirs else .error done.1

theorem createDir_answerOf (fine : Bool) (path : Bytes) (state : Progress) :
    (createDir (fun _ => answerOf fine EACCES) path state).1 =
      if fine then .SUCCESS else .ERR_PATH_CREATE_FAILED := by
  obtain ⟨first, rest, hpaths⟩ : ∃ first rest, dirPaths path = first :: rest := by
    apply List.exists_cons_of_ne_nil
    simp [dirPaths]
  cases fine with
  | true =>
    have hstep : ∀ (dir : Bytes) (before : Progress),
        (mkdirIfNotExist (fun _ => answerOf true EACCES) dir before).1 = .SUCCESS ↔ True :=
      fun _ _ => iff_true_intro rfl
    exact (untilFailure_eq_ok_iff hstep).mpr fun _ _ => trivial
  | false =>
    have hfirst : (mkdirIfNotExist (fun _ => answerOf false EACCES) first state).1 =
        .ERR_PATH_CREATE_FAILED := rfl
    rw [createDir, hpaths, untilFailure_cons_of_ne (by rw [hfirst]; decide), hfirst]
    rfl

theorem getMountReadOnly_error {answers : MountAnswers} {mounts : List Mount} {path : Bytes}
    {error : SandboxError} (h : getMountReadOnly answers mounts path = .error error) :
    error = .ERR_PATH_INVALID := by
  rw [getMountReadOnly] at h
  split at h
  · exact (Except.error.inj h).symm
  · dsimp only at h
    split at h
    · exact (Except.error.inj h).symm
    · cases h

theorem pushedOr_remountAt {answers' : PolicyAnswers} {policyMount : PolicyMount} {target : Bytes}
    {fine : Bool} {progress : Progress} (h : answers'.remount = answerOf fine EINVAL) :
    pushedOr (remountAt answers' policyMount target progress) =
      if fine then .ok progress.mountedDirs else .error .ERR_MOUNT_FAILED := by
  unfold remountAt
  rw [h]
  cases fine <;> rfl

theorem remountPolicyMount_agrees {answers : MountAnswers} {policyMount : PolicyMount}
    {target : Bytes} {state : MountState} {answers' : PolicyAnswers} {progress : Progress}
    (hread : answers'.getMountReadOnly = getMountReadOnly answers state.mounts target)
    (hremount : answers'.remount =
      answerOf (answers.remountAt target policyMount.readOnly state.mounts).isSome EINVAL)
    (hdirs : progress.mountedDirs = state.mountedDirs) :
    (Claw.remountPolicyMount answers policyMount target state).map MountState.mountedDirs =
      pushedOr (remountPolicyMount answers' policyMount target progress) := by
  have hpushed : pushedOr (remountAt answers' policyMount target progress) = _ :=
    pushedOr_remountAt hremount
  rw [hdirs] at hpushed
  unfold Claw.remountPolicyMount remountPolicyMount
  cases hmode : policyMount.readOnly with
  | true =>
    simp only [Bool.not_true, Bool.false_eq_true, if_false]
    rw [hpushed, hmode]
    cases answers.remountAt target true state.mounts <;> rfl
  | false =>
    simp only [Bool.not_false, if_true, hread]
    cases hreadOnly : getMountReadOnly answers state.mounts target with
    | error error =>
      rw [getMountReadOnly_error hreadOnly]
      rfl
    | ok targetReadOnly =>
      cases targetReadOnly with
      | true => rfl
      | false =>
        show _ = pushedOr (remountAt answers' policyMount target progress)
        rw [hpushed, hmode]
        cases answers.remountAt target false state.mounts <;> rfl

theorem isExactMountPoint_error {answers : MountAnswers} {mounts : List Mount} {path : Bytes}
    {error : SandboxError} (h : isExactMountPoint answers mounts path = .error error) :
    error = .ERR_PATH_INVALID := by
  rw [isExactMountPoint] at h
  split at h
  · exact (Except.error.inj h).symm
  · cases h

theorem bindMountConditionalPath_agrees {answers : MountAnswers} {policyMount : PolicyMount}
    {mountTarget physicalSource : Bytes} {state : MountState} {answers' : PolicyAnswers}
    {progress : Progress}
    (hcreate : answers.createDir = .SUCCESS ∨ answers.createDir = .ERR_PATH_CREATE_FAILED)
    (hstat : answers'.statSource = answerOf answers.statSource ENOENT)
    (hmkdir : answers'.mkdir = fun _ => answerOf (answers.createDir = .SUCCESS) EACCES)
    (hbind : answers'.bind =
      answerOf (answers.bindAt physicalSource mountTarget state.mounts).isSome EINVAL)
    (hremount : answers'.remount =
      answerOf ((answers.bindAt physicalSource mountTarget state.mounts).bind
        (answers.remountAt mountTarget true)).isSome EINVAL)
    (hdirs : progress.mountedDirs = state.mountedDirs) :
    (Claw.bindMountConditionalPath answers policyMount mountTarget physicalSource state).map
        MountState.mountedDirs =
      pushedOr (bindMountConditionalPath answers' policyMount mountTarget physicalSource progress) := by
  unfold Claw.bindMountConditionalPath bindMountConditionalPath
  rw [hstat, hmkdir, hbind, hremount]
  cases answers.statSource with
  | false => rfl
  | true =>
    have hcreated := createDir_answerOf (answers.createDir = .SUCCESS) mountTarget progress
    have hsame := (createDir_sameMounts
      (fun _ => answerOf (answers.createDir = .SUCCESS) EACCES) mountTarget progress).2
    rcases hcreate with hcreate | hcreate
    · rw [hcreate] at hcreated hsame ⊢
      generalize createDir _ mountTarget progress = created at hcreated hsame ⊢
      simp only [decide_true, if_true] at hcreated
      cases hbound : answers.bindAt physicalSource mountTarget state.mounts with
      | none => simp [answerOf, hcreated, pushedOr, Except.map]
      | some mounts =>
        cases policyMount.readOnly with
        | false =>
          simp [answerOf, hcreated, pushedOr, Except.map, Progress.pushed, Progress.called, hsame,
            hdirs]
        | true =>
          cases hremounted : answers.remountAt mountTarget true mounts with
          | none => simp [answerOf, hcreated, pushedOr, Except.map, hremounted]
          | some mounts' =>
            simp [answerOf, hcreated, pushedOr, Except.map, hremounted, Progress.pushed,
              Progress.called, hsame, hdirs]
    · rw [hcreate] at hcreated ⊢
      generalize createDir _ mountTarget progress = created at hcreated ⊢
      have hfails : created.1 = .ERR_PATH_CREATE_FAILED := hcreated
      simp [answerOf, hfails, pushedOr, Except.map]

/-- A policy mount comes to the same in both. -/
theorem mountPolicyPath_agrees (config : RootConfig) {answers : MountAnswers}
    (policyMount : PolicyMount) {state : MountState} {progress : Progress}
    (hcreate : answers.createDir = .SUCCESS ∨ answers.createDir = .ERR_PATH_CREATE_FAILED)
    (hdirs : progress.mountedDirs = state.mountedDirs) :
    (Claw.mountPolicyPath config.toMountConfig answers policyMount state).map
        MountState.mountedDirs =
      pushedOr (mountPolicyPath config
        (tableAnswers config.toMountConfig answers policyMount state) policyMount progress) := by
  have hpoint : (tableAnswers config.toMountConfig answers policyMount state).isExactMountPoint =
      isExactMountPoint answers state.mounts (config.newRootPath ++ policyMount.source) := rfl
  rw [Claw.mountPolicyPath, mountPolicyPath, hpoint]
  cases hexact : isExactMountPoint answers state.mounts
      (config.newRootPath ++ policyMount.source) with
  | error error =>
    rw [isExactMountPoint_error hexact]
    rfl
  | ok targetIsMountPoint =>
    cases targetIsMountPoint with
    | true =>
      have hremount : (tableAnswers config.toMountConfig answers policyMount state).remount =
          answerOf (answers.remountAt (config.newRootPath ++ policyMount.source)
            policyMount.readOnly state.mounts).isSome EINVAL := by
        rw [tableAnswers, if_pos hexact]
      exact remountPolicyMount_agrees rfl hremount hdirs
    | false =>
      have hremount : (tableAnswers config.toMountConfig answers policyMount state).remount =
          answerOf ((answers.bindAt (physicalSourceOf config.toMountConfig policyMount.source)
            (config.newRootPath ++ policyMount.source) state.mounts).bind
              (answers.remountAt (config.newRootPath ++ policyMount.source) true)).isSome
            EINVAL := by
        rw [tableAnswers, if_neg (by rw [hexact]; simp)]
      cases hmatch : matchConditionalSource config.toMountConfig policyMount.source with
      | matched physicalSource =>
        have hsource : physicalSourceOf config.toMountConfig policyMount.source = physicalSource := by
          rw [physicalSourceOf, hmatch]
        rw [hsource] at hremount
        have hbind : (tableAnswers config.toMountConfig answers policyMount state).bind =
            answerOf (answers.bindAt physicalSource (config.newRootPath ++ policyMount.source)
              state.mounts).isSome EINVAL := by
          rw [tableAnswers, hsource]
        exact bindMountConditionalPath_agrees hcreate rfl rfl hbind hremount hdirs
      | blocked => rfl
      | noMatch => rfl

/-! ### A policy -/

/-- The mounts of a policy with their answers, up to the first that fails. -/
def tableSteps (config : MountConfig) :
    List (PolicyMount × MountAnswers) → MountState → List (PolicyMount × PolicyAnswers)
  | [], _ => []
  | (policyMount, answers) :: rest, state =>
    (policyMount, tableAnswers config answers policyMount state) ::
      match Claw.mountPolicyPath config answers policyMount state with
      | .ok state' => tableSteps config rest state'
      | .error _ => []

theorem pushedOr_eq_ok {done : SandboxError × Progress} {dirs : List Bytes}
    (h : pushedOr done = .ok dirs) : done.1 = .SUCCESS ∧ done.2.mountedDirs = dirs := by
  unfold pushedOr at h
  split at h
  · exact ⟨‹_›, Except.ok.inj h⟩
  · cases h

theorem pushedOr_eq_error {done : SandboxError × Progress} {error : SandboxError}
    (h : pushedOr done = .error error) : done.1 ≠ .SUCCESS := by
  unfold pushedOr at h
  split at h
  · cases h
  · assumption

/-- A policy comes to the same in both. -/
theorem applyPolicyMounts_agrees (config : RootConfig) {run : List (PolicyMount × MountAnswers)}
    (hcreate : ∀ step ∈ run,
      step.2.createDir = .SUCCESS ∨ step.2.createDir = .ERR_PATH_CREATE_FAILED)
    {state : MountState} {progress : Progress} (hdirs : progress.mountedDirs = state.mountedDirs) :
    (Claw.applyPolicyMounts config.toMountConfig run state).map MountState.mountedDirs =
      pushedOr (applyPolicyMounts config (tableSteps config.toMountConfig run state) progress) := by
  induction run generalizing state progress with
  | nil => exact congrArg Except.ok hdirs.symm
  | cons step rest ih =>
    obtain ⟨policyMount, answers⟩ := step
    obtain ⟨hfirst, hrest⟩ := List.forall_mem_cons.mp hcreate
    let taken : PolicyMount × PolicyAnswers :=
      (policyMount, tableAnswers config.toMountConfig answers policyMount state)
    have hstep : _ = pushedOr (mountPolicyPath config taken.2 taken.1 progress) :=
      mountPolicyPath_agrees config policyMount hfirst hdirs
    rw [Claw.applyPolicyMounts, List.foldlM_cons, applyPolicyMounts, tableSteps]
    cases hmount : Claw.mountPolicyPath config.toMountConfig answers policyMount state with
    | error error =>
      rw [hmount] at hstep
      rw [untilFailure_cons_of_ne (a := taken) (pushedOr_eq_error hstep.symm)]
      exact hstep
    | ok state' =>
      rw [hmount] at hstep
      obtain ⟨hok, hdirs'⟩ := pushedOr_eq_ok hstep.symm
      rw [untilFailure_cons_of_ok (a := taken) hok]
      exact ih hrest hdirs'

end SandboxManager.Claw.MountPhase
