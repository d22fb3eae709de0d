import SandboxManager.Claw.MountPhase

/-! Which entries of a template are skipped.

An entry is left out when its source is missing, which the code reads off `errno`. A source that
opens and is no directory is refused without a call having failed, so that `errno` is an older
one: the entry is then left out when that happens to be `ENOENT` (`Stale`). A run that ends well
has left out what it should exactly when this did not happen (`mountDirs_leaves_out_iff`). -/
namespace SandboxManager.Claw.MountPhase
open Library

/-! ### What should happen -/

namespace EntryAnswers
variable (answers : EntryAnswers)

def ExistsAsDirectory : Prop :=
  answers.openSource = none ∧ answers.fstat = none ∧ answers.isDirectory = true

def Missing : Prop := answers.openSource = some ENOENT

/-- The source opens and is refused, with `ENOENT` as the last error of all. -/
def Stale (errno : Int) : Prop :=
  answers.openSource = none ∧
    (answers.fstat = some ENOENT ∨
      answers.fstat = none ∧ answers.isDirectory = false ∧ errno = ENOENT)

variable {answers} in
theorem ExistsAsDirectory.not_stale (h : answers.ExistsAsDirectory) (errno : Int) :
    ¬ answers.Stale errno := by
  rintro ⟨-, hfstat | ⟨-, hdir, -⟩⟩
  · exact Option.some_ne_none _ (hfstat.symm.trans h.2.1)
  · exact Bool.false_ne_true (hdir.symm.trans h.2.2)

instance : Decidable answers.ExistsAsDirectory := inferInstanceAs (Decidable (_ ∧ _))
instance : Decidable answers.Missing := inferInstanceAs (Decidable (_ = _))
instance (errno : Int) : Decidable (answers.Stale errno) := inferInstanceAs (Decidable (_ ∧ _))

end EntryAnswers

section
variable (config : RootConfig)

/-- The calls for an entry of the system. A sandbox with processes of its own gets a `/proc` of
its own later. -/
def systemCalls (item : MountEntry × EntryAnswers) : List MountCall :=
  if item.2.ExistsAsDirectory ∧
      ¬ (item.1.source = bytes "/proc" ∧ config.nsFlags &&& CLONE_NEWPID ≠ 0) then
    [.mount (some item.1.source) (config.newRootPath ++ item.1.target)
      (convertMountFlags item.1.mountFlags)]
  else []

/-- The calls that mount a source with these flags. -/
def sequenceCalls (source target : Bytes) (allFlags : UInt64) : List MountCall :=
  MountCall.mount (some source) target (allFlags &&& ~~~PROPAGATION_MASK) ::
    ((if allFlags &&& MS_RDONLY ≠ 0 then [.mount (some source) target READONLY_REMOUNT] else []) ++
      if allFlags &&& PROPAGATION_MASK ≠ 0 then
        [.mount none target (allFlags &&& PROPAGATION_MASK)]
      else [])

def appCalls (item : MountEntry × EntryAnswers) : List MountCall :=
  if item.2.ExistsAsDirectory then
    sequenceCalls item.1.source (config.newRootPath ++ item.1.target)
      (convertMountFlags item.1.mountFlags)
  else []

end

/-! ### One entry -/

section
variable {config : RootConfig} {answers : EntryAnswers} {entry : MountEntry} {state : Progress}

/-- How opening a source can turn out. -/
inductive Opened (answers : EntryAnswers) (state : Progress) : Bool × Progress → Prop where
  | directory (h : answers.ExistsAsDirectory) : Opened answers state (true, state)
  | skipped {left : Progress} (herrno : left.errno = ENOENT) (hcalls : left.calls = state.calls)
      (h : answers.Missing ∧ ¬ answers.Stale state.errno ∨
        answers.Stale state.errno ∧ ¬ answers.Missing)
      (hnot : ¬ answers.ExistsAsDirectory) : Opened answers state (false, left)
  | refused {left : Progress} (herrno : left.errno ≠ ENOENT) : Opened answers state (false, left)

theorem openSourcePath_opened (answers : EntryAnswers) (state : Progress) :
    Opened answers state (openSourcePath answers state) := by
  unfold openSourcePath
  cases hopen : answers.openSource with
  | some errno =>
    by_cases herrno : errno = ENOENT
    · have hnot : ¬ answers.ExistsAsDirectory := fun h =>
        Option.some_ne_none errno (hopen.symm.trans h.1)
      have hstale : ¬ answers.Stale state.errno := fun h =>
        Option.some_ne_none errno (hopen.symm.trans h.1)
      exact .skipped herrno rfl (Or.inl ⟨hopen.trans (congrArg some herrno), hstale⟩) hnot
    · exact .refused herrno
  | none =>
    have hmissing : ¬ answers.Missing := fun h => Option.some_ne_none _ (h.symm.trans hopen)
    cases hfstat : answers.fstat with
    | some errno =>
      by_cases herrno : errno = ENOENT
      · have hnot : ¬ answers.ExistsAsDirectory := fun h =>
          Option.some_ne_none errno (hfstat.symm.trans h.2.1)
        exact .skipped herrno rfl (Or.inr ⟨⟨hopen, Or.inl (hfstat.trans (congrArg some herrno))⟩, hmissing⟩) hnot
      · exact .refused herrno
    | none =>
      cases hdir : answers.isDirectory with
      | true => exact .directory ⟨hopen, hfstat, hdir⟩
      | false =>
        by_cases herrno : state.errno = ENOENT
        · have hnot : ¬ answers.ExistsAsDirectory := fun h =>
            Bool.false_ne_true (hdir.symm.trans h.2.2)
          have hstale : answers.Stale state.errno := ⟨hopen, Or.inr ⟨hfstat, hdir, herrno⟩⟩
          exact .skipped herrno rfl (Or.inr ⟨hstale, hmissing⟩) hnot
        · exact .refused herrno

theorem leaves_out_iff
    (h : answers.Missing ∧ ¬ answers.Stale state.errno ∨
      answers.Stale state.errno ∧ ¬ answers.Missing) (hnot : ¬ answers.ExistsAsDirectory) :
    answers.ExistsAsDirectory ∨ answers.Missing ↔ ¬ answers.Stale state.errno := by
  rw [or_iff_right hnot]
  rcases h with ⟨hmissing, hstale⟩ | ⟨hstale, hmissing⟩
  · exact iff_of_true hmissing hstale
  · exact iff_of_false hmissing (not_not.mpr hstale)

theorem mountSystemEntry_ok (h : (mountSystemEntry config answers entry state).1 = .SUCCESS) :
    (mountSystemEntry config answers entry state).2.calls =
        state.calls ++ systemCalls config (entry, answers) ∧
      (answers.ExistsAsDirectory ∨ answers.Missing ↔ ¬ answers.Stale state.errno) := by
  rw [mountSystemEntry] at h ⊢
  have hopened := openSourcePath_opened answers state
  generalize openSourcePath answers state = opened at h hopened ⊢
  cases hopened with
  | directory hdir =>
    refine ⟨?_, iff_of_true (Or.inl hdir) (hdir.not_stale state.errno)⟩
    have hsame := createDir_sameMounts answers.mkdir (config.newRootPath ++ entry.target) state
    dsimp only at h ⊢
    generalize createDir answers.mkdir (config.newRootPath ++ entry.target) state = created
      at h hsame ⊢
    by_cases hcreated : created.1 = .SUCCESS
    · by_cases hproc : entry.source = bytes "/proc" ∧ config.nsFlags &&& CLONE_NEWPID ≠ 0
      · simp [hcreated, hproc, systemCalls, hsame.1]
      · cases hmount : answers.mount with
        | some errno => simp [hcreated, hproc, hmount] at h
        | none =>
          have hcalls : systemCalls config (entry, answers) = [.mount (some entry.source)
              (config.newRootPath ++ entry.target) (convertMountFlags entry.mountFlags)] :=
            if_pos ⟨hdir, hproc⟩
          rw [hcalls]
          simp [hcreated, hproc, hsame.1, Progress.called, Progress.pushed]
    · simp [hcreated] at h
  | skipped herrno hcalls hskip hnot =>
    have hnone : systemCalls config (entry, answers) = [] := if_neg fun h => hnot h.1
    refine ⟨?_, leaves_out_iff hskip hnot⟩
    simp [herrno, hcalls, hnone]
  | refused herrno => simp [herrno] at h

theorem setPropagation_ok {propagation : Answer} {target : Bytes} {propFlags : UInt64}
    (h : (setPropagation propagation target propFlags state).1 = .SUCCESS) :
    (setPropagation propagation target propFlags state).2.calls =
      state.calls ++ if propFlags ≠ 0 then [.mount none target propFlags] else [] := by
  unfold setPropagation at h ⊢
  by_cases hflags : propFlags = 0
  · simp [hflags]
  · cases propagation with
    | some errno => simp [hflags] at h
    | none => simp [hflags, Progress.called]

theorem doMountSequence_ok {source target : Bytes} {allFlags : UInt64}
    (h : (doMountSequence answers source target allFlags state).1 = .SUCCESS) :
    (doMountSequence answers source target allFlags state).2.calls =
      state.calls ++ sequenceCalls source target allFlags := by
  rw [doMountSequence] at h ⊢
  cases hmount : answers.mount with
  | some errno => simp [hmount] at h
  | none =>
    rw [hmount] at h
    dsimp only at h ⊢
    by_cases hreadOnly : allFlags &&& MS_RDONLY ≠ 0
    · rw [if_pos hreadOnly] at h ⊢
      cases hremount : answers.remount with
      | some errno => simp [hremount] at h
      | none =>
        rw [hremount] at h
        rw [setPropagation_ok h, sequenceCalls, if_pos hreadOnly]
        simp [Progress.called]
    · rw [if_neg hreadOnly] at h ⊢
      rw [setPropagation_ok h, sequenceCalls, if_neg hreadOnly]
      simp [Progress.called]

theorem mountSingleEntry_ok (h : (mountSingleEntry config answers entry state).1 = .SUCCESS) :
    (mountSingleEntry config answers entry state).2.calls =
        state.calls ++ appCalls config (entry, answers) ∧
      (answers.ExistsAsDirectory ∨ answers.Missing ∧ entry.checkExists = true ↔
        ¬ (answers.Stale state.errno ∧ entry.checkExists = true)) := by
  rw [mountSingleEntry] at h ⊢
  have hopened := openSourcePath_opened answers state
  generalize openSourcePath answers state = opened at h hopened ⊢
  cases hopened with
  | directory hdir =>
    refine ⟨?_, iff_of_true (Or.inl hdir) fun h => hdir.not_stale state.errno h.1⟩
    have hsame := createDir_sameMounts answers.mkdir (config.newRootPath ++ entry.target) state
    dsimp only at h ⊢
    generalize createDir answers.mkdir (config.newRootPath ++ entry.target) state = created
      at h hsame ⊢
    by_cases hcreated : created.1 = .SUCCESS
    · by_cases hmounted : (doMountSequence answers entry.source (config.newRootPath ++ entry.target)
          (convertMountFlags entry.mountFlags) created.2).1 = .SUCCESS
      · have hcalls := doMountSequence_ok hmounted
        rw [hsame.1] at hcalls
        simp [hcreated, hmounted, hcalls, appCalls, hdir, Progress.pushed]
      · simp [hcreated, hmounted] at h
    · simp [hcreated] at h
  | skipped herrno hcalls hskip hnot =>
    have hnone : appCalls config (entry, answers) = [] := if_neg hnot
    cases hcheck : entry.checkExists with
    | false => simp [hcheck] at h
    | true =>
      refine ⟨?_, ?_⟩
      · simp [herrno, hcalls, hnone]
      · simpa using leaves_out_iff hskip hnot
  | refused herrno => simp [herrno] at h

theorem symlinkSingleEntry_sameMounts (config : RootConfig) (answers : SymLinkAnswers)
    (entry : SymLinkEntry) (state : Progress) :
    SameMounts state (symlinkSingleEntry config answers entry state).2 := by
  rw [symlinkSingleEntry]
  cases answers.access entry.source with
  | some errno => exact ⟨rfl, rfl⟩
  | none =>
    cases answers.access (config.newRootPath ++ entry.source) with
    | some errno => exact ⟨rfl, rfl⟩
    | none =>
      cases answers.symlink entry.source (config.newRootPath ++ entry.target) with
      | some errno => exact ⟨rfl, rfl⟩
      | none => exact ⟨rfl, rfl⟩

theorem mountSymLinks_calls (config : RootConfig) (entries : List (SymLinkEntry × SymLinkAnswers))
    (state : Progress) : (mountSymLinks config entries state).2.calls = state.calls := by
  have hmeets : Meets .SUCCESS (fun item => symlinkSingleEntry config item.2 item.1)
      (fun _ _ => True) entries state := .of_forall fun _ _ _ => trivial
  have hsame : SameMounts state (mountSymLinks config entries state).2 :=
    untilFailure_preserves (fun item left _ h =>
      have hitem := symlinkSingleEntry_sameMounts config item.2 item.1 left
      ⟨hitem.1.trans h.1, hitem.2.trans h.2⟩) hmeets ⟨rfl, rfl⟩
  exact hsame.1

end

/-! ### The run -/

section
variable {config : RootConfig} {systemMounts appMounts : List (MountEntry × EntryAnswers)}
  {symLinks : List (SymLinkEntry × SymLinkAnswers)} {state : Progress}

/-- No entry is left out for an old error. -/
def NoStaleSystem (config : RootConfig) (systemMounts : List (MountEntry × EntryAnswers))
    (state : Progress) : Prop :=
  Meets .SUCCESS (fun item => mountSystemEntry config item.2 item.1)
    (fun item before => ¬ item.2.Stale before.errno) systemMounts state

def NoStaleApp (config : RootConfig) (appMounts : List (MountEntry × EntryAnswers))
    (state : Progress) : Prop :=
  Meets .SUCCESS (fun item => mountSingleEntry config item.2 item.1)
    (fun item before => ¬ (item.2.Stale before.errno ∧ item.1.checkExists = true)) appMounts state

theorem mountSystemDirs_ok (h : (mountSystemDirs config systemMounts state).1 = .SUCCESS) :
    (mountSystemDirs config systemMounts state).2.calls =
        state.calls ++ systemMounts.flatMap (systemCalls config) ∧
      ((∀ item ∈ systemMounts, item.2.ExistsAsDirectory ∨ item.2.Missing) ↔
        NoStaleSystem config systemMounts state) := by
  have hcalls : ∀ (item : MountEntry × EntryAnswers) (before : Progress),
      (mountSystemEntry config item.2 item.1 before).1 = .SUCCESS →
        (mountSystemEntry config item.2 item.1 before).2.calls =
          before.calls ++ systemCalls config item :=
    fun _ _ hitem => (mountSystemEntry_ok hitem).1
  have hskips : ∀ (item : MountEntry × EntryAnswers) (before : Progress),
      (mountSystemEntry config item.2 item.1 before).1 = .SUCCESS →
        (item.2.ExistsAsDirectory ∨ item.2.Missing ↔ ¬ item.2.Stale before.errno) :=
    fun _ _ hitem => (mountSystemEntry_ok hitem).2
  exact ⟨log_of_ok hcalls h, meets_iff_of_ok hskips h⟩

theorem mountAppDirs_ok (h : (mountAppDirs config appMounts state).1 = .SUCCESS) :
    (mountAppDirs config appMounts state).2.calls =
        state.calls ++ appMounts.flatMap (appCalls config) ∧
      ((∀ item ∈ appMounts,
          item.2.ExistsAsDirectory ∨ item.2.Missing ∧ item.1.checkExists = true) ↔
        NoStaleApp config appMounts state) := by
  have hcalls : ∀ (item : MountEntry × EntryAnswers) (before : Progress),
      (mountSingleEntry config item.2 item.1 before).1 = .SUCCESS →
        (mountSingleEntry config item.2 item.1 before).2.calls =
          before.calls ++ appCalls config item :=
    fun _ _ hitem => (mountSingleEntry_ok hitem).1
  have hskips : ∀ (item : MountEntry × EntryAnswers) (before : Progress),
      (mountSingleEntry config item.2 item.1 before).1 = .SUCCESS →
        (item.2.ExistsAsDirectory ∨ item.2.Missing ∧ item.1.checkExists = true ↔
          ¬ (item.2.Stale before.errno ∧ item.1.checkExists = true)) :=
    fun _ _ hitem => (mountSingleEntry_ok hitem).2
  exact ⟨log_of_ok hcalls h, meets_iff_of_ok hskips h⟩

/-- Every entry was mounted with its flags, or left out because its source was missing. -/
structure LeavesOutMissing (config : RootConfig)
    (systemMounts appMounts : List (MountEntry × EntryAnswers)) (before after : Progress) :
    Prop where
  calls : after.calls = before.calls ++ (systemMounts.flatMap (systemCalls config) ++
    appMounts.flatMap (appCalls config))
  system : ∀ item ∈ systemMounts, item.2.ExistsAsDirectory ∨ item.2.Missing
  app : ∀ item ∈ appMounts,
    item.2.ExistsAsDirectory ∨ item.2.Missing ∧ item.1.checkExists = true

/-- **The mounts that are left out are the missing ones**, as long as no old error is taken for
a new one. -/
theorem mountDirs_leaves_out_iff
    (hsystem : (mountSystemDirs config systemMounts state).1 = .SUCCESS)
    (happ : (mountAppDirs config appMounts (mountSymLinks config symLinks
      (mountSystemDirs config systemMounts state).2).2).1 = .SUCCESS) :
    LeavesOutMissing config systemMounts appMounts state (mountAppDirs config appMounts
        (mountSymLinks config symLinks (mountSystemDirs config systemMounts state).2).2).2 ↔
      NoStaleSystem config systemMounts state ∧
        NoStaleApp config appMounts (mountSymLinks config symLinks
          (mountSystemDirs config systemMounts state).2).2 := by
  obtain ⟨hsystemCalls, hsystemSkips⟩ := mountSystemDirs_ok hsystem
  obtain ⟨happCalls, happSkips⟩ := mountAppDirs_ok happ
  have hcalls : (mountAppDirs config appMounts (mountSymLinks config symLinks
      (mountSystemDirs config systemMounts state).2).2).2.calls =
        state.calls ++ (systemMounts.flatMap (systemCalls config) ++
          appMounts.flatMap (appCalls config)) := by
    rw [happCalls, mountSymLinks_calls, hsystemCalls, List.append_assoc]
  rw [← hsystemSkips, ← happSkips]
  exact ⟨fun h => ⟨h.system, h.app⟩, fun h => ⟨hcalls, h.1, h.2⟩⟩

end

/-! ### A file behind a missing directory -/

def slashMnt : RootConfig where
  newRootPath := bytes "/mnt/s"
  conditionalRules := []
  callerTokenId := 1
  verifyAccessToken := fun _ _ => PERMISSION_GRANTED
  putOldPath := bytes "/mnt/s/put_old"
  nsFlags := 0

/-- Everything goes well, for a source that is a directory. -/
def directoryAnswers : EntryAnswers where
  openSource := none
  fstat := none
  isDirectory := true
  mkdir := fun _ => none
  mount := none
  remount := none
  propagation := none

def boundEntry (path : Bytes) : MountEntry := ⟨path, path, [bytes "bind", bytes "rec"], false⟩

def missingEntry : MountEntry × EntryAnswers :=
  (boundEntry (bytes "/opt"), { directoryAnswers with openSource := some ENOENT })

def fileEntry : MountEntry × EntryAnswers :=
  (boundEntry (bytes "/etc/hosts"), { directoryAnswers with isDirectory := false })

def usrEntry : MountEntry × EntryAnswers := (boundEntry (bytes "/usr"), directoryAnswers)

def dataEntry : MountEntry × EntryAnswers := (boundEntry (bytes "/data"), directoryAnswers)

/-- A missing directory is left out, and what comes after it is mounted. -/
theorem mountDirs_leaves_out_opt :
    LeavesOutMissing slashMnt [missingEntry, usrEntry] [dataEntry] { errno := 0 }
      (mountAppDirs slashMnt [dataEntry] (mountSymLinks slashMnt [] (mountSystemDirs slashMnt
        [missingEntry, usrEntry] { errno := 0 }).2).2).2 := by
  have hdirectory : directoryAnswers.ExistsAsDirectory := ⟨rfl, rfl, rfl⟩
  have hsystem : ∀ item ∈ [missingEntry, usrEntry], ∀ before : Progress,
      ¬ item.2.Stale before.errno := by
    intro item hitem before hstale
    rcases List.mem_cons.mp hitem with rfl | hitem
    · exact Option.some_ne_none _ hstale.1
    · rw [List.mem_singleton.mp hitem] at hstale
      exact hdirectory.not_stale _ hstale
  have happ : ∀ item ∈ [dataEntry], ∀ before : Progress,
      ¬ (item.2.Stale before.errno ∧ item.1.checkExists = true) := by
    intro item hitem before hstale
    rw [List.mem_singleton.mp hitem] at hstale
    exact hdirectory.not_stale _ hstale.1
  exact (mountDirs_leaves_out_iff (by decide +kernel) (by decide +kernel)).mpr
    ⟨.of_forall hsystem, .of_forall happ⟩

/-- The file is left out, and nothing fails. -/
theorem mountDirs_skips_file :
    (mountSystemDirs slashMnt [missingEntry, fileEntry] { errno := 0 }).1 = .SUCCESS ∧
    (mountAppDirs slashMnt [] (mountSymLinks slashMnt [] (mountSystemDirs slashMnt
      [missingEntry, fileEntry] { errno := 0 }).2).2).1 = .SUCCESS ∧
    ¬ LeavesOutMissing slashMnt [missingEntry, fileEntry] [] { errno := 0 }
      (mountAppDirs slashMnt [] (mountSymLinks slashMnt [] (mountSystemDirs slashMnt
        [missingEntry, fileEntry] { errno := 0 }).2).2).2 := by
  refine ⟨by decide +kernel, rfl, fun h => ?_⟩
  have hfile := h.system fileEntry (by simp)
  revert hfile
  decide

end SandboxManager.Claw.MountPhase
