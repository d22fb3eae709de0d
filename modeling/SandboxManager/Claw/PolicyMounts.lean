import SandboxManager.Claw.MountInfo
import SandboxManager.Claw.MountAgreement

/-! When policy mounts keep what is read-only.

`MountPolicyPath` either remounts its target, a mount point by the words of the table, or binds
the source of a conditional rule to it (`Applied`). Only the first asks whether the target is
read-only. A step keeps every read-only place of the sandbox exactly when it spares them: when a
writable remount does not find its target read-only, and a bind mount puts no writable mount
where it was read-only (`Spares`, `mountPolicyPath_keeps_iff`). What holds for each step holds
for the run (`applyPolicyMounts_keeps_iff`); a policy that names one directory twice, the second
time with a slash at its end, is a run in which it fails. The check of the remount is right
wherever the table reads back, so only a bind mount can fail it; and the mount phase of a launch,
answered from the table, goes through the same run. -/
namespace SandboxManager.Claw
open Library LongestMatch

namespace MountAnswers
variable {answers : MountAnswers} {source target : Bytes} {readOnly : Bool}
  {mounts mounts' : List Mount}

theorem remountAt_eq_some (h : answers.remountAt target readOnly mounts = some mounts') :
    ∃ place, answers.realPath target = some place ∧
      remountTop place readOnly mounts = some mounts' := by
  rw [remountAt] at h
  split at h
  · exact Option.bind_eq_some_iff.mp h
  · cases h

theorem bindAt_eq_some (h : answers.bindAt source target mounts = some mounts') :
    ∃ sourcePlace targetPlace top, answers.realPath source = some sourcePlace ∧
      answers.realPath target = some targetPlace ∧
      longest Mount.place sourcePlace mounts = some top ∧
      mounts' = mounts ++ bound answers.columns sourcePlace targetPlace top.readOnly mounts := by
  rw [bindAt] at h
  split at h
  · obtain ⟨sourcePlace, hsource, h⟩ := Option.bind_eq_some_iff.mp h
    obtain ⟨targetPlace, htarget, h⟩ := Option.bind_eq_some_iff.mp h
    obtain ⟨top, htop, h⟩ := Option.map_eq_some_iff.mp h
    exact ⟨sourcePlace, targetPlace, top, hsource, htarget, htop, h.symm⟩
  · cases h

end MountAnswers

/-- After a bind mount its target can be remounted, and only the first new mount is touched. -/
theorem remountTop_bound {columns : Place → Bytes × Bytes} {source target : Place}
    {readOnly readOnly' : Bool} {mounts : List Mount} :
    remountTop target readOnly' (mounts ++ bound columns source target readOnly mounts) =
      some (mounts ++ bound columns source target readOnly' mounts) := by
  refine @remountTop_append readOnly' mounts _
    ⟨target, readOnly, (columns target).1, (columns target).2⟩ fun m hm heq => ?_
  obtain ⟨m', hm', rfl⟩ := List.mem_map.mp hm
  obtain ⟨rest, hne, hrest⟩ := below_iff.mp (List.mem_filter.mp hm').2
  rw [place_repeated hrest] at heq
  exact hne (List.append_right_eq_self.mp heq)

/-! ### One policy mount -/

section
variable {config : MountConfig} {answers : MountAnswers} {policyMount : PolicyMount}
  {state state' : MountState} {root : Place}

/-- What a policy mount that succeeds has done. -/
inductive Applied (config : MountConfig) (answers : MountAnswers) (policyMount : PolicyMount)
    (state state' : MountState) : Prop where
  | remounted (target : Place)
      (hpoint : isExactMountPoint answers state.mounts (config.newRootPath ++ policyMount.source) =
        .ok true)
      (htarget : answers.realPath (config.newRootPath ++ policyMount.source) = some target)
      (hcheck : policyMount.readOnly = false →
        getMountReadOnly answers state.mounts (config.newRootPath ++ policyMount.source) = .ok false)
      (hmounts : remountTop target policyMount.readOnly state.mounts = some state'.mounts)
  | bound (physicalSource : Bytes) (source target : Place) (top : Mount)
      (hpoint : isExactMountPoint answers state.mounts (config.newRootPath ++ policyMount.source) =
        .ok false)
      (hmatch : matchConditionalSource config policyMount.source = .matched physicalSource)
      (hsource : answers.realPath physicalSource = some source)
      (htarget : answers.realPath (config.newRootPath ++ policyMount.source) = some target)
      (htop : longest Mount.place source state.mounts = some top)
      (hmounts : state'.mounts = state.mounts ++ Claw.bound answers.columns source target
        (policyMount.readOnly || top.readOnly) state.mounts)

theorem remountPolicyMount_ok {target : Bytes}
    (h : remountPolicyMount answers policyMount target state = .ok state') :
    (policyMount.readOnly = false → getMountReadOnly answers state.mounts target = .ok false) ∧
      ∃ place, answers.realPath target = some place ∧
        remountTop place policyMount.readOnly state.mounts = some state'.mounts := by
  rw [remountPolicyMount] at h
  have hcheck : policyMount.readOnly = false →
      getMountReadOnly answers state.mounts target = .ok false := by
    intro hmode
    rw [hmode] at h
    cases hcheck : getMountReadOnly answers state.mounts target with
    | error e =>
      rw [hcheck] at h
      cases h
    | ok readOnly =>
      rw [hcheck] at h
      cases readOnly with
      | true => cases h
      | false => rfl
  refine ⟨hcheck, ?_⟩
  cases hremount : answers.remountAt target policyMount.readOnly state.mounts with
  | none =>
    rw [hremount] at h
    cases hmode : policyMount.readOnly with
    | true =>
      rw [hmode] at h
      cases h
    | false =>
      rw [hmode, hcheck hmode] at h
      cases h
  | some mounts =>
    have hmounts : state'.mounts = mounts := by
      rw [hremount] at h
      cases hmode : policyMount.readOnly with
      | true =>
        rw [hmode] at h
        cases h
        rfl
      | false =>
        rw [hmode, hcheck hmode] at h
        cases h
        rfl
    exact hmounts ▸ MountAnswers.remountAt_eq_some hremount

theorem bindMountConditionalPath_ok {mountTarget physicalSource : Bytes}
    (h : bindMountConditionalPath answers policyMount mountTarget physicalSource state =
      .ok state') :
    ∃ source target top, answers.realPath physicalSource = some source ∧
      answers.realPath mountTarget = some target ∧
      longest Mount.place source state.mounts = some top ∧
      state'.mounts = state.mounts ++ bound answers.columns source target
        (policyMount.readOnly || top.readOnly) state.mounts := by
  rw [bindMountConditionalPath] at h
  split at h
  · cases h
  · split at h
    · cases h
    · cases hbind : answers.bindAt physicalSource mountTarget state.mounts with
      | none => simp [hbind] at h
      | some mounts =>
        obtain ⟨source, target, top, hsource, htarget, htop, rfl⟩ :=
          MountAnswers.bindAt_eq_some hbind
        refine ⟨source, target, top, hsource, htarget, htop, ?_⟩
        simp only [hbind] at h
        cases hmode : policyMount.readOnly with
        | false =>
          simp only [hmode, Bool.false_eq_true, if_false, Except.ok.injEq] at h
          simp [← h]
        | true =>
          simp only [hmode, if_true] at h
          split at h
          · cases h
          case h_2 mounts' hremount =>
            obtain ⟨target', htarget', hmounts'⟩ := MountAnswers.remountAt_eq_some hremount
            rw [htarget, Option.some.injEq] at htarget'
            rw [← htarget', remountTop_bound, Option.some.injEq] at hmounts'
            rw [Except.ok.injEq] at h
            simp [← h, hmounts']

theorem applied_of_mountPolicyPath
    (h : mountPolicyPath config answers policyMount state = .ok state') :
    Applied config answers policyMount state state' := by
  rw [mountPolicyPath] at h
  cases hpoint : isExactMountPoint answers state.mounts
      (config.newRootPath ++ policyMount.source) with
  | error e =>
    simp only [hpoint] at h
    cases h
  | ok targetIsMountPoint =>
    simp only [hpoint] at h
    cases targetIsMountPoint with
    | true =>
      obtain ⟨hcheck, target, htarget, hmounts⟩ := remountPolicyMount_ok h
      exact .remounted target hpoint htarget hcheck hmounts
    | false =>
      cases hmatch : matchConditionalSource config policyMount.source with
      | noMatch =>
        simp only [hmatch] at h
        cases h
      | blocked =>
        simp only [hmatch] at h
        cases h
      | matched physicalSource =>
        simp only [hmatch] at h
        obtain ⟨source, target, top, hsource, htarget, htop, hmounts⟩ :=
          bindMountConditionalPath_ok h
        exact .bound physicalSource source target top hpoint hmatch hsource htarget htop hmounts

/-- The step puts no writable mount where the sandbox is read-only. -/
structure Spares (config : MountConfig) (root : Place) (answers : MountAnswers)
    (policyMount : PolicyMount) (state : MountState) : Prop where
  /-- A mount point that is remounted to be writable is writable. -/
  remounted : isExactMountPoint answers state.mounts (config.newRootPath ++ policyMount.source) =
      .ok true → policyMount.readOnly = false →
    ∀ target, answers.realPath (config.newRootPath ++ policyMount.source) = some target →
      root <+: target → readOnlyAt state.mounts target = false
  /-- What is bound, at the target and wherever a mount below the source is repeated, is
  read-only if it comes to lie where it was read-only; at the target the mode can make it so. -/
  bound : isExactMountPoint answers state.mounts (config.newRootPath ++ policyMount.source) =
      .ok false →
    ∀ physicalSource, matchConditionalSource config policyMount.source = .matched physicalSource →
    ∀ source, answers.realPath physicalSource = some source →
    ∀ target, answers.realPath (config.newRootPath ++ policyMount.source) = some target →
    ∀ rest, (rest = [] ∨ ∃ m ∈ state.mounts, m.place = source ++ rest) → root <+: target ++ rest →
      readOnlyAt state.mounts (target ++ rest) = true →
        readOnlyAt state.mounts (source ++ rest) = true ∨ rest = [] ∧ policyMount.readOnly = true

/-- **A policy mount keeps what is read-only exactly when it spares it.** -/
theorem mountPolicyPath_keeps_iff (hroot : ∃ m ∈ state.mounts, m.place = root)
    (h : mountPolicyPath config answers policyMount state = .ok state') :
    KeepsReadOnly root state.mounts state'.mounts ↔
      Spares config root answers policyMount state := by
  cases applied_of_mountPolicyPath h with
  | remounted target hpoint htarget _ hmounts =>
    rw [remountTop_keeps_iff hroot hmounts]
    constructor
    · intro hkeeps
      refine ⟨fun _ hrw target' htarget' => ?_, fun hpoint' => ?_⟩
      · rw [htarget, Option.some.injEq] at htarget'
        exact htarget' ▸ hkeeps hrw
      · simp [hpoint] at hpoint'
    · intro hspares hrw
      exact hspares.remounted hpoint hrw target htarget
  | bound physicalSource source target top hpoint hmatch hsource htarget htop hmounts =>
    rw [hmounts, bound_keeps_iff hroot htop]
    constructor
    · intro hkeeps
      refine ⟨fun hpoint' => ?_, fun _ physicalSource' hmatch' source' hsource' target' htarget' => ?_⟩
      · simp [hpoint] at hpoint'
      · rw [hmatch, ConditionalMatchResult.matched.injEq] at hmatch'
        subst hmatch'
        rw [hsource, Option.some.injEq] at hsource'
        rw [htarget, Option.some.injEq] at htarget'
        exact hsource' ▸ htarget' ▸ hkeeps
    · intro hspares
      exact hspares.bound hpoint physicalSource hmatch source hsource target htarget

/-- Where the table is readable, every remount spares: the check is made, and it is right. -/
theorem spares_of_readable (hmounts : Readable answers.realPath state.mounts)
    (hsource : policyMount.source ≠ [])
    (hpoint : isExactMountPoint answers state.mounts (config.newRootPath ++ policyMount.source) =
      .ok true)
    (h : mountPolicyPath config answers policyMount state = .ok state') :
    Spares config root answers policyMount state := by
  refine ⟨fun _ hrw target htarget _ => ?_, fun hpoint' => ?_⟩
  · cases applied_of_mountPolicyPath h with
    | remounted _ _ _ hcheck _ =>
      exact getMountReadOnly_eq hmounts (List.append_ne_nil_of_right_ne_nil _ hsource) htarget
        (hcheck hrw)
    | bound _ _ _ _ hpoint' _ _ _ _ _ => simp [hpoint] at hpoint'
  · simp [hpoint] at hpoint'

/-- A bind mount with nothing mounted below its source spares what it does not cover itself. -/
theorem spares_of_bare {physicalSource : Bytes} {source target : Place}
    (hpoint : isExactMountPoint answers state.mounts (config.newRootPath ++ policyMount.source) =
      .ok false)
    (hmatch : matchConditionalSource config policyMount.source = .matched physicalSource)
    (hsource : answers.realPath physicalSource = some source)
    (htarget : answers.realPath (config.newRootPath ++ policyMount.source) = some target)
    (hbare : ∀ m ∈ state.mounts, below source m = false)
    (hmode : policyMount.readOnly = true ∨ readOnlyAt state.mounts target = false) :
    Spares config root answers policyMount state := by
  refine ⟨fun hpoint' => by simp [hpoint] at hpoint', ?_⟩
  intro _ physicalSource' hmatch' source' hsource' target' htarget' rest hrest _ hreadOnly
  rw [hmatch, ConditionalMatchResult.matched.injEq] at hmatch'
  rw [← hmatch', hsource, Option.some.injEq] at hsource'
  rw [htarget, Option.some.injEq] at htarget'
  have hnil : rest = [] := by
    rcases hrest with hnil | ⟨m, hm, hplace⟩
    · exact hnil
    · by_contra hne
      have hbelow : below source m = true := below_iff.mpr ⟨rest, hne, hsource' ▸ hplace⟩
      rw [hbare m hm] at hbelow
      cases hbelow
  rw [hnil, List.append_nil, ← htarget'] at hreadOnly
  refine Or.inr ⟨hnil, hmode.resolve_right fun hwritable => ?_⟩
  rw [hreadOnly] at hwritable
  cases hwritable

theorem exists_mount_of_mountPolicyPath (hroot : ∃ m ∈ state.mounts, m.place = root)
    (h : mountPolicyPath config answers policyMount state = .ok state') :
    ∃ m ∈ state'.mounts, m.place = root := by
  cases applied_of_mountPolicyPath h with
  | remounted _ _ _ _ hmounts => exact exists_mount_of_remountTop hmounts hroot
  | bound _ _ _ _ _ _ _ _ _ hmounts =>
    obtain ⟨m, hm, hplace⟩ := hroot
    exact ⟨m, hmounts ▸ List.mem_append_left _ hm, hplace⟩

end

/-! ### What the parser lets through -/

theorem parsePolicyMountSource_ok {mountItem : Json} {path : Bytes}
    (h : parsePolicyMountSource mountItem = .ok path) :
    path.head? = some slash ∧ ¬ bytes "/../" <:+: path ∧ ¬ bytes "/.." <:+ path := by
  rw [parsePolicyMountSource] at h
  split at h
  · cases h
  · split at h
    · cases h
    case isFalse hhead =>
      split at h
      · cases h
      case isFalse hdots =>
        rw [Except.ok.injEq] at h
        subst h
        exact ⟨not_not.mp hhead, not_or.mp hdots⟩

theorem parsePolicyMountItem_ok {mountItem : Json} {policyMount : PolicyMount}
    (h : parsePolicyMountItem mountItem = .ok policyMount) :
    parsePolicyMountSource mountItem = .ok policyMount.source := by
  rw [parsePolicyMountItem] at h
  split at h
  · cases h
  · cases hsource : parsePolicyMountSource mountItem with
    | error e =>
      rw [hsource] at h
      cases h
    | ok source =>
      cases hmode : parsePolicyMountMode mountItem with
      | error e =>
        rw [hsource, hmode] at h
        cases h
      | ok readOnly =>
        rw [hsource, hmode] at h
        cases h
        rfl

theorem forall_mem_of_mapM {α β ε : Type} {f : α → Except ε β} {P : β → Prop}
    (hf : ∀ a b, f a = .ok b → P b) {as : List α} {bs : List β} (h : as.mapM f = .ok bs) :
    ∀ b ∈ bs, P b := by
  induction as generalizing bs with
  | nil =>
    rw [List.mapM_nil] at h
    cases h
    simp
  | cons a as ih =>
    rw [List.mapM_cons] at h
    cases ha : f a with
    | error e =>
      rw [ha] at h
      cases h
    | ok b =>
      cases has : as.mapM f with
      | error e =>
        rw [ha, has] at h
        cases h
      | ok bs' =>
        rw [ha, has] at h
        cases h
        exact List.forall_mem_cons.mpr ⟨hf a b ha, ih has⟩

/-- Every policy mount names an absolute path that does not climb. -/
theorem parsePolicyMounts_ok {policy : Json} {policyMounts : List PolicyMount}
    (h : parsePolicyMounts policy = .ok policyMounts) :
    ∀ policyMount ∈ policyMounts, policyMount.source.head? = some slash ∧
      ¬ bytes "/../" <:+: policyMount.source ∧ ¬ bytes "/.." <:+ policyMount.source := by
  rw [parsePolicyMounts] at h
  split at h
  · cases h
    simp
  · split at h
    · cases h
    · refine forall_mem_of_mapM (fun mountItem policyMount hitem => ?_) h
      exact parsePolicyMountSource_ok (parsePolicyMountItem_ok hitem)
  · cases h

/-! ### The run -/

section
variable {config : MountConfig} {run : List (PolicyMount × MountAnswers)}
  {state state' final : MountState} {root : Place}

theorem applyPolicyMounts_append (config : MountConfig)
    (run run' : List (PolicyMount × MountAnswers)) (state : MountState) :
    applyPolicyMounts config (run ++ run') state =
      applyPolicyMounts config run state >>= applyPolicyMounts config run' :=
  List.foldlM_append

theorem applyPolicyMounts_singleton (config : MountConfig) (step : PolicyMount × MountAnswers)
    (state : MountState) :
    applyPolicyMounts config [step] state = mountPolicyPath config step.2 step.1 state := by
  rw [applyPolicyMounts, List.foldlM_cons]
  simp only [List.foldlM_nil, bind_pure]

/-- A run that succeeds has been through the states of its beginnings. -/
theorem exists_state_of_take (h : applyPolicyMounts config run state = .ok final) (i : Nat) :
    ∃ reached, applyPolicyMounts config (run.take i) state = .ok reached := by
  rw [← List.take_append_drop i run, applyPolicyMounts_append] at h
  cases hi : applyPolicyMounts config (run.take i) state with
  | error e =>
    rw [hi] at h
    cases h
  | ok reached => exact ⟨reached, rfl⟩

/-- One more policy mount is one more step. -/
theorem mountPolicyPath_of_take {i : Nat} {step : PolicyMount × MountAnswers}
    (hstep : run[i]? = some step) (hi : applyPolicyMounts config (run.take i) state = .ok state')
    (hnext : applyPolicyMounts config (run.take (i + 1)) state = .ok final) :
    mountPolicyPath config step.2 step.1 state' = .ok final := by
  have htake : run.take (i + 1) = run.take i ++ [step] := by
    rw [List.take_add_one, hstep, Option.toList_some]
  rw [htake, applyPolicyMounts_append, hi] at hnext
  rw [← applyPolicyMounts_singleton]
  exact hnext

theorem exists_mount_of_applyPolicyMounts (hroot : ∃ m ∈ state.mounts, m.place = root)
    (h : applyPolicyMounts config run state = .ok final) : ∃ m ∈ final.mounts, m.place = root := by
  induction run using List.reverseRecOn generalizing final with
  | nil =>
    cases h
    exact hroot
  | append_singleton run step ih =>
    have hall : (run ++ [step]).take (run.length + 1) = run ++ [step] :=
      List.take_of_length_le (by simp)
    obtain ⟨reached, hreached⟩ := exists_state_of_take h run.length
    have hstep := mountPolicyPath_of_take (List.getElem?_concat_length ..) hreached
      (hall.symm ▸ h)
    rw [List.take_left] at hreached
    exact exists_mount_of_mountPolicyPath (ih hreached) hstep

theorem keeps_of_spares (hroot : ∃ m ∈ state.mounts, m.place = root)
    (hrun : applyPolicyMounts config run state = .ok final)
    (hspares : ∀ i step reached, run[i]? = some step →
      applyPolicyMounts config (run.take i) state = .ok reached →
      Spares config root step.2 step.1 reached)
    {i j : Nat} (hij : i ≤ j) {earlier later : MountState}
    (hearlier : applyPolicyMounts config (run.take i) state = .ok earlier)
    (hlater : applyPolicyMounts config (run.take j) state = .ok later) :
    KeepsReadOnly root earlier.mounts later.mounts := by
  induction j, hij using Nat.le_induction generalizing later with
  | base =>
    rw [hearlier, Except.ok.injEq] at hlater
    exact hlater ▸ KeepsReadOnly.refl root earlier.mounts
  | succ j _ ih =>
    obtain ⟨reached, hreached⟩ := exists_state_of_take hrun j
    refine (ih hreached).trans ?_
    cases hstep : run[j]? with
    | none =>
      have hlen := List.getElem?_eq_none_iff.mp hstep
      rw [List.take_of_length_le (by omega)] at hlater hreached
      rw [hlater, Except.ok.injEq] at hreached
      exact hreached ▸ KeepsReadOnly.refl root later.mounts
    | some step =>
      have hmount := mountPolicyPath_of_take hstep hreached hlater
      exact (mountPolicyPath_keeps_iff (exists_mount_of_applyPolicyMounts hroot hreached)
        hmount).mpr (hspares j step reached hstep hreached)

/-- The remounts of a policy that was parsed find out what is read-only. -/
theorem spares_of_remount {policy : Json} (hrun : applyPolicyMounts config run state = .ok final)
    (hparse : parsePolicyMounts policy = .ok (run.map Prod.fst)) {i : Nat}
    {step : PolicyMount × MountAnswers} (hstep : run[i]? = some step) {reached : MountState}
    (hreached : applyPolicyMounts config (run.take i) state = .ok reached)
    (hmounts : Readable step.2.realPath reached.mounts)
    (hpoint : isExactMountPoint step.2 reached.mounts (config.newRootPath ++ step.1.source) =
      .ok true) : Spares config root step.2 step.1 reached := by
  obtain ⟨next, hnext⟩ := exists_state_of_take hrun (i + 1)
  have hmem : step.1 ∈ run.map Prod.fst := List.mem_map_of_mem (List.mem_of_getElem? hstep)
  have hsource : step.1.source ≠ [] := by
    intro hnil
    have hhead := (parsePolicyMounts_ok hparse step.1 hmem).1
    simp [hnil] at hhead
  exact spares_of_readable hmounts hsource hpoint (mountPolicyPath_of_take hstep hreached hnext)

/-- **Along a run the read-only places of the sandbox stay so from any state to any later one
exactly when every policy mount spares those of the state it is applied to.** A remount does,
where the table reads back; and a launch that is answered from the table makes this run. -/
theorem applyPolicyMounts_keeps_iff (hroot : ∃ m ∈ state.mounts, m.place = root)
    (hrun : applyPolicyMounts config run state = .ok final) :
    ((∀ i j earlier later, i ≤ j → applyPolicyMounts config (run.take i) state = .ok earlier →
          applyPolicyMounts config (run.take j) state = .ok later →
          KeepsReadOnly root earlier.mounts later.mounts) ↔
        ∀ i step reached, run[i]? = some step →
          applyPolicyMounts config (run.take i) state = .ok reached →
          Spares config root step.2 step.1 reached) ∧
      (∀ policy, parsePolicyMounts policy = .ok (run.map Prod.fst) →
        ∀ i step reached, run[i]? = some step →
          applyPolicyMounts config (run.take i) state = .ok reached →
          Readable step.2.realPath reached.mounts →
          isExactMountPoint step.2 reached.mounts (config.newRootPath ++ step.1.source) =
            .ok true →
          Spares config root step.2 step.1 reached) ∧
      ∀ (rootConfig : MountPhase.RootConfig) (progress : MountPhase.Progress),
        rootConfig.toMountConfig = config → progress.mountedDirs = state.mountedDirs →
        (∀ step ∈ run, step.2.createDir = .SUCCESS ∨ step.2.createDir = .ERR_PATH_CREATE_FAILED) →
        MountPhase.pushedOr (MountPhase.applyPolicyMounts rootConfig
          (MountPhase.tableSteps config run state) progress) = .ok final.mountedDirs := by
  refine ⟨⟨?_, ?_⟩, ?_, ?_⟩
  · intro hkeeps i step reached hstep hreached
    obtain ⟨next, hnext⟩ := exists_state_of_take hrun (i + 1)
    have hmount := mountPolicyPath_of_take hstep hreached hnext
    exact (mountPolicyPath_keeps_iff (exists_mount_of_applyPolicyMounts hroot hreached) hmount).mp
      (hkeeps i (i + 1) reached next (Nat.le_succ i) hreached hnext)
  · intro hspares i j earlier later hij hearlier hlater
    exact keeps_of_spares hroot hrun hspares hij hearlier hlater
  · intro policy hparse i step reached hstep hreached hmounts hpoint
    exact spares_of_remount hrun hparse hstep hreached hmounts hpoint
  · intro rootConfig progress hconfig hdirs hcreate
    subst hconfig
    rw [← MountPhase.applyPolicyMounts_agrees rootConfig hcreate hdirs, hrun]
    rfl

end

/-! ### One directory named twice -/

/-- What a path resolves to where nothing on the way is a link. -/
def plainPlace (path : Bytes) : Place :=
  (segments slash path).attach.map fun name => ⟨name.1, isSegment_of_mem slash name.2⟩

/-- All calls succeed. -/
def plainAnswers : MountAnswers where
  mountInfoOpens := true
  mountInfoReopens := true
  realPath := fun path => some (plainPlace path)
  statSource := true
  createDir := .SUCCESS
  bind := true
  remount := true
  columns := fun place => (bytes "41 30 8:3 " ++ place.path, bytes ",relatime")

def documents : Bytes := bytes "/storage/Users/currentUser/Documents"

/-- A rule of the template for shells. -/
def documentsConfig : MountConfig where
  newRootPath := bytes "/mnt/sandbox/claw/a"
  conditionalRules := [⟨documents, documents, []⟩]
  callerTokenId := 0
  verifyAccessToken := fun _ _ => -1

/-- The root, and the new root mounted onto itself. -/
def newRootMounted : MountState where
  mounts := [⟨[], false, bytes "22 1 8:1 /", bytes ",relatime"⟩,
    ⟨plainPlace documentsConfig.newRootPath, false, bytes "30 22 8:1 /mnt/sandbox/claw/a",
      bytes ",relatime"⟩]

/-- The directory to be read-only, and again, with a slash at the end, to be writable. -/
def documentsTwice : List PolicyMount := [⟨documents, true⟩, ⟨documents ++ [slash], false⟩]

def policyOf (policyMounts : List PolicyMount) : Json :=
  .object [(bytes "mounts", .array (policyMounts.map fun policyMount =>
    .object [(bytes "source", .string policyMount.source),
      (bytes "mode", .string (if policyMount.readOnly then bytes "ro" else bytes "rw"))]))]

theorem exists_of_any {α ε : Type} {r : Except ε α} {check : α → Bool}
    (h : r.toOption.any check = true) : ∃ a, r = .ok a ∧ check a = true := by
  cases r with
  | error e => simp [Except.toOption] at h
  | ok a => exact ⟨a, rfl, by simpa [Except.toOption] using h⟩

theorem newRoot_mounted :
    ∃ m ∈ newRootMounted.mounts, m.place = plainPlace documentsConfig.newRootPath :=
  ⟨_, List.mem_cons_of_mem _ (List.mem_singleton_self _), rfl⟩

theorem not_applyPolicyMounts_keeps :
    ¬ ∀ (config : MountConfig) (policy : Json) (run : List (PolicyMount × MountAnswers))
      (state final : MountState) (root : Place),
      parsePolicyMounts policy = .ok (run.map Prod.fst) → (∃ m ∈ state.mounts, m.place = root) →
      applyPolicyMounts config run state = .ok final →
      ∀ i reached, applyPolicyMounts config (run.take i) state = .ok reached →
        KeepsReadOnly root reached.mounts final.mounts := by
  intro hkeeps
  have hparse : parsePolicyMounts (policyOf documentsTwice) =
      .ok ((documentsTwice.map (·, plainAnswers)).map Prod.fst) := by rfl
  obtain ⟨reached, hreached, hro⟩ := @exists_of_any _ _
    (applyPolicyMounts documentsConfig ((documentsTwice.map (·, plainAnswers)).take 1)
      newRootMounted)
    (fun s => readOnlyAt s.mounts (plainPlace (documentsConfig.newRootPath ++ documents)))
    (by decide +kernel)
  obtain ⟨final, hfinal, hrw⟩ := @exists_of_any _ _
    (applyPolicyMounts documentsConfig (documentsTwice.map (·, plainAnswers)) newRootMounted)
    (fun s => !readOnlyAt s.mounts (plainPlace (documentsConfig.newRootPath ++ documents)))
    (by decide +kernel)
  have hkept := hkeeps documentsConfig (policyOf documentsTwice) _ newRootMounted final
    (plainPlace documentsConfig.newRootPath) hparse newRoot_mounted hfinal 1 reached
    hreached (plainPlace (documentsConfig.newRootPath ++ documents)) (by decide +kernel) hro
  rw [hkept] at hrw
  cases hrw

def desktop : Bytes := bytes "/storage/Users/currentUser/Desktop"

/-- A rule for each of two directories. -/
def foldersConfig : MountConfig :=
  { documentsConfig with conditionalRules := [⟨documents, documents, []⟩, ⟨desktop, desktop, []⟩] }

/-- One directory to be read-only, and then another to be writable. -/
def foldersMounted : List (PolicyMount × MountAnswers) :=
  [(⟨documents, true⟩, plainAnswers), (⟨desktop, false⟩, plainAnswers)]

theorem check_of_ok {α ε : Type} {r : Except ε α} {a : α} {check : α → Bool} (h : r = .ok a)
    (hall : r.toOption.all check = true) : check a = true := by
  subst h
  exact hall

/-- The target is no mount point yet, nothing is mounted below the source, and no writable mount
comes over a read-only one. -/
def bindsBare (policyMount : PolicyMount) (state : MountState) : Bool :=
  let target := foldersConfig.newRootPath ++ policyMount.source
  (isExactMountPoint plainAnswers state.mounts target).toOption == some false &&
    state.mounts.all (fun m => !below (plainPlace policyMount.source) m) &&
    (policyMount.readOnly || !readOnlyAt state.mounts (plainPlace target))

theorem spares_of_bindsBare {policyMount : PolicyMount} {state : MountState} {root : Place}
    (hmatch : matchConditionalSource foldersConfig policyMount.source = .matched policyMount.source)
    (h : bindsBare policyMount state = true) :
    Spares foldersConfig root plainAnswers policyMount state := by
  simp only [bindsBare, Bool.and_eq_true, Bool.or_eq_true, Bool.not_eq_true', beq_iff_eq,
    List.all_eq_true] at h
  obtain ⟨⟨hpoint, hbare⟩, hmode⟩ := h
  refine spares_of_bare ?_ hmatch rfl rfl hbare hmode
  cases hexact : isExactMountPoint plainAnswers state.mounts
      (foldersConfig.newRootPath ++ policyMount.source) with
  | error e => simp [hexact, Except.toOption] at hpoint
  | ok exact =>
    rw [hexact] at hpoint
    exact congrArg Except.ok (Option.some.inj hpoint)

/-- What the first of two mounts made read-only is so after the second. -/
theorem applyPolicyMounts_keeps_folders :
    ∃ earlier final,
      applyPolicyMounts foldersConfig (foldersMounted.take 1) newRootMounted = .ok earlier ∧
        applyPolicyMounts foldersConfig foldersMounted newRootMounted = .ok final ∧
        readOnlyAt earlier.mounts (plainPlace (foldersConfig.newRootPath ++ documents)) = true ∧
        KeepsReadOnly (plainPlace foldersConfig.newRootPath) earlier.mounts final.mounts := by
  obtain ⟨earlier, hearlier, hro⟩ := @exists_of_any _ _
    (applyPolicyMounts foldersConfig (foldersMounted.take 1) newRootMounted)
    (fun s => readOnlyAt s.mounts (plainPlace (foldersConfig.newRootPath ++ documents)))
    (by decide +kernel)
  obtain ⟨final, hfinal, -⟩ := @exists_of_any _ _
    (applyPolicyMounts foldersConfig foldersMounted newRootMounted) (fun _ => true)
    (by decide +kernel)
  refine ⟨earlier, final, hearlier, hfinal, hro, ?_⟩
  refine (applyPolicyMounts_keeps_iff newRoot_mounted hfinal).1.mpr
    (fun i step reached hstep hreached => ?_) 1 2 earlier final (Nat.le_succ 1) hearlier hfinal
  obtain ⟨hlt, rfl⟩ := List.getElem?_eq_some_iff.mp hstep
  obtain rfl | rfl : i = 0 ∨ i = 1 := by
    have hlength : foldersMounted.length = 2 := rfl
    omega
  · exact @spares_of_bindsBare ⟨documents, true⟩ _ _ (by decide +kernel)
      (@check_of_ok _ _ _ _ (bindsBare ⟨documents, true⟩) hreached (by decide +kernel))
  · exact @spares_of_bindsBare ⟨desktop, false⟩ _ _ (by decide +kernel)
      (@check_of_ok _ _ _ _ (bindsBare ⟨desktop, false⟩) hreached (by decide +kernel))

end SandboxManager.Claw
