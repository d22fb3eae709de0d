import SandboxManager.Bytes
import SandboxManager.Library.Bpf
import Mathlib.Data.List.Nodup

/-! The seccomp filter of a sandbox (`BuildSeccompFilter` in `sandbox_manager.cpp`).

The filter tests the architecture, then the allow list, then the user ids given to the
four calls that change them, and ends in the default. The numbers of the system call
interface are those of AArch64; which names are known, and their numbers, is the
argument `syscallMap`. `run_filter` is the verdict of the whole program. -/
namespace SandboxManager.Claw
open Library Bpf

/-! ### The kernel interface -/

structure SeccompData where
  nr : UInt32
  arch : UInt32
  instructionPointer : UInt64
  args : Fin 6 → UInt64

def SECCOMP_RET_KILL : UInt32 := 0x00000000
def SECCOMP_RET_ALLOW : UInt32 := 0x7fff0000
def AUDIT_ARCH_AARCH64 : UInt32 := 0xC00000B7
def OFFSET_NR : UInt32 := 0
def OFFSET_ARCH : UInt32 := 4

/-- `offsetof(struct seccomp_data, args[i])`. -/
def offsetArgs (i : Fin 6) : UInt32 := 16 + 8 * UInt32.ofNat i

def NR_setreuid : Int := 145
def NR_setuid : Int := 146
def NR_setresuid : Int := 147
def NR_setfsuid : Int := 151

/-- The 32-bit words of `seccomp_data`, each 64-bit field as its low and its high word. -/
def SeccompData.words (d : SeccompData) : List UInt32 :=
  [d.nr, d.arch, d.instructionPointer.toUInt32, (d.instructionPointer >>> 32).toUInt32] ++
    (List.finRange 6).flatMap fun i => [(d.args i).toUInt32, (d.args i >>> 32).toUInt32]

def SeccompData.load (d : SeccompData) (k : UInt32) : Option UInt32 :=
  if k.toNat % 4 = 0 then d.words[k.toNat / 4]? else none

/-! ### The buffer -/

/-- `seccompFilter_` and the index of the next write. -/
structure FilterBuffer where
  filter : List SockFilter
  idx : Nat

/-- `filter[idx++] = insn`. -/
def FilterBuffer.emit (b : FilterBuffer) (insn : SockFilter) : FilterBuffer :=
  ⟨b.filter.set b.idx insn, b.idx + 1⟩

def FilterBuffer.emitAll (b : FilterBuffer) (insns : List SockFilter) : FilterBuffer :=
  insns.foldl FilterBuffer.emit b

/-! ### The fragments -/

def ARCH_CHECK_BPF_CNT : Nat := 4
def BPF_PER_SYSCALL : Nat := 2
def BPF_PER_UID_SYSCALL_1ARG : Nat := 4
def BPF_PER_UID_SYSCALL_2ARG : Nat := 7
def BPF_PER_UID_SYSCALL_3ARG : Nat := 10
def BPF_JEQ_SKIP_1ARG : UInt8 := UInt8.ofNat (BPF_PER_UID_SYSCALL_1ARG - 1)
def BPF_JEQ_SKIP_2ARG : UInt8 := UInt8.ofNat (BPF_PER_UID_SYSCALL_2ARG - 1)
def BPF_JEQ_SKIP_3ARG : UInt8 := UInt8.ofNat (BPF_PER_UID_SYSCALL_3ARG - 1)
def UID_MIN_LIMIT : UInt32 := 20000000

/-- What an `int` call number is as an operand. -/
def operand (nr : Int) : UInt32 := UInt32.ofInt nr

def archCheck : List SockFilter :=
  [ldAbs OFFSET_ARCH, jeq AUDIT_ARCH_AARCH64 1 0, ret SECCOMP_RET_KILL, ldAbs OFFSET_NR]

def allowFilter (nr : Int) : List SockFilter := [jeq (operand nr) 0 1, ret SECCOMP_RET_ALLOW]

/-- One argument of a user-id call: killed below the limit. -/
def uidCheck (i : Fin 6) : List SockFilter :=
  [ldAbs (offsetArgs i), jge UID_MIN_LIMIT 1 0, ret SECCOMP_RET_KILL]

def uidFilter (skip : UInt8) (args : List (Fin 6)) (nr : Int) : List SockFilter :=
  jeq (operand nr) 0 skip :: args.flatMap uidCheck

def uidRangeFilter (nr : Int) : List SockFilter := uidFilter BPF_JEQ_SKIP_1ARG [0] nr

def setreuidRangeFilter (nr : Int) : List SockFilter := uidFilter BPF_JEQ_SKIP_2ARG [0, 1] nr

def setresuidRangeFilter (nr : Int) : List SockFilter := uidFilter BPF_JEQ_SKIP_3ARG [0, 1, 2] nr

def resolveSyscallName (syscallMap : Bytes → Option Int) (name : Bytes) : Int :=
  (syscallMap name).getD (-1)

/-- A name that is not known is only reported. -/
def appendAllowList (syscallMap : Bytes → Option Int) (b : FilterBuffer) (allowList : List Bytes) :
    FilterBuffer :=
  allowList.foldl (fun b name =>
    let nr := resolveSyscallName syscallMap name
    if nr < 0 then b else b.emitAll (allowFilter nr)) b

def uidRangeSyscalls : List Int := [NR_setuid, NR_setreuid, NR_setresuid, NR_setfsuid]

def uidSyscallFilter (nr : Int) : List SockFilter :=
  if nr = NR_setreuid then setreuidRangeFilter nr
  else if nr = NR_setresuid then setresuidRangeFilter nr
  else uidRangeFilter nr

def appendUidRangeSyscalls (b : FilterBuffer) : FilterBuffer :=
  uidRangeSyscalls.foldl (fun b nr => b.emitAll (uidSyscallFilter nr)) b

structure SockFprog where
  len : UInt16
  filter : List SockFilter

/-- The buffer before its first write. -/
def seccompBuffer (allowList : List Bytes) : FilterBuffer :=
  let totalLen := ARCH_CHECK_BPF_CNT + allowList.length * BPF_PER_SYSCALL +
    BPF_PER_UID_SYSCALL_1ARG + BPF_PER_UID_SYSCALL_2ARG + BPF_PER_UID_SYSCALL_3ARG +
    BPF_PER_UID_SYSCALL_1ARG + 1
  ⟨List.replicate totalLen ⟨0, 0, 0, 0⟩, 0⟩

def defaultAction (allowList : List Bytes) : UInt32 :=
  if allowList ≠ [] then SECCOMP_RET_KILL else SECCOMP_RET_ALLOW

/-- The buffer after the last write. -/
def writtenBuffer (syscallMap : Bytes → Option Int) (allowList : List Bytes) : FilterBuffer :=
  let b := (seccompBuffer allowList).emitAll archCheck
  let b := appendAllowList syscallMap b allowList
  let b := appendUidRangeSyscalls b
  b.emit (ret (defaultAction allowList))

def buildSeccompFilter (syscallMap : Bytes → Option Int) (allowList : List Bytes) : SockFprog :=
  let b := writtenBuffer syscallMap allowList
  ⟨UInt16.ofNat b.idx, b.filter⟩

/-- What the kernel runs. -/
def SockFprog.insns (prog : SockFprog) : List SockFilter := prog.filter.take prog.len.toNat

/-! ### What is written -/

/-- The numbers the allow list resolves to, in order. -/
def knownNumbers (syscallMap : Bytes → Option Int) (allowList : List Bytes) : List Int :=
  (allowList.map (resolveSyscallName syscallMap)).filter fun nr => !decide (nr < 0)

def program (syscallMap : Bytes → Option Int) (allowList : List Bytes) : List SockFilter :=
  archCheck ++ ((knownNumbers syscallMap allowList).flatMap allowFilter ++
    (uidRangeSyscalls.flatMap uidSyscallFilter ++ [ret (defaultAction allowList)]))

/-- The instructions written so far lie at the front of a buffer of `total`. -/
structure Wrote (b : FilterBuffer) (total : Nat) (written : List SockFilter) : Prop where
  size : b.filter.length = total
  idx : b.idx = written.length
  front : b.filter.take b.idx = written

theorem wrote_emit {b : FilterBuffer} {total : Nat} {written : List SockFilter}
    (h : Wrote b total written) (hfits : written.length < total) (insn : SockFilter) :
    Wrote (b.emit insn) total (written ++ [insn]) where
  size := (List.length_set ..).trans h.size
  idx := by rw [List.length_append, ← h.idx]; rfl
  front := by
    show (b.filter.set b.idx insn).take (b.idx + 1) = _
    have hlt : b.idx < b.filter.length := by rw [h.idx, h.size]; exact hfits
    rw [List.take_add_one, List.take_set_of_le (Nat.le_refl _), List.getElem?_set_self hlt, h.front]
    rfl

theorem wrote_emitAll {b : FilterBuffer} {total : Nat} {written : List SockFilter}
    (h : Wrote b total written) (insns : List SockFilter)
    (hfits : written.length + insns.length ≤ total) :
    Wrote (b.emitAll insns) total (written ++ insns) := by
  induction insns generalizing b written with
  | nil => rwa [List.append_nil]
  | cons insn insns ih =>
    rw [List.length_cons] at hfits
    have := ih (wrote_emit h (by omega) insn) (by rw [List.length_append, List.length_singleton]; omega)
    rwa [List.append_assoc] at this

theorem wrote_appendAllowList {syscallMap : Bytes → Option Int} {b : FilterBuffer} {total : Nat}
    {written : List SockFilter} (h : Wrote b total written) (allowList : List Bytes)
    (hfits : written.length + allowList.length * BPF_PER_SYSCALL ≤ total) :
    Wrote (appendAllowList syscallMap b allowList) total
      (written ++ (knownNumbers syscallMap allowList).flatMap allowFilter) := by
  induction allowList generalizing b written with
  | nil => simpa [appendAllowList, knownNumbers] using h
  | cons name allowList ih =>
    rw [List.length_cons, BPF_PER_SYSCALL] at hfits
    by_cases hnr : resolveSyscallName syscallMap name < 0
    · have hknown : knownNumbers syscallMap (name :: allowList) =
          knownNumbers syscallMap allowList := by simp [knownNumbers, hnr]
      have hstep : appendAllowList syscallMap b (name :: allowList) =
          appendAllowList syscallMap b allowList := by simp [appendAllowList, hnr]
      rw [hknown, hstep]
      exact ih h (by rw [BPF_PER_SYSCALL]; omega)
    · have hknown : knownNumbers syscallMap (name :: allowList) =
          resolveSyscallName syscallMap name :: knownNumbers syscallMap allowList := by
        simp [knownNumbers, hnr]
      have hstep : appendAllowList syscallMap b (name :: allowList) = appendAllowList syscallMap
          (b.emitAll (allowFilter (resolveSyscallName syscallMap name))) allowList := by
        simp [appendAllowList, hnr]
      have hlen : (allowFilter (resolveSyscallName syscallMap name)).length = 2 := rfl
      rw [hknown, hstep, List.flatMap_cons, ← List.append_assoc]
      refine ih (wrote_emitAll h _ (by omega)) ?_
      rw [List.length_append, hlen, BPF_PER_SYSCALL]
      omega

theorem wrote_appendUidRangeSyscalls {b : FilterBuffer} {total : Nat}
    {written : List SockFilter} (h : Wrote b total written) (hfits : written.length + 25 ≤ total) :
    Wrote (appendUidRangeSyscalls b) total (written ++ uidRangeSyscalls.flatMap uidSyscallFilter) := by
  have hfold : ∀ (numbers : List Int) {b : FilterBuffer} {written : List SockFilter},
      Wrote b total written →
      written.length + (numbers.flatMap uidSyscallFilter).length ≤ total →
      Wrote (numbers.foldl (fun b nr => b.emitAll (uidSyscallFilter nr)) b) total
        (written ++ numbers.flatMap uidSyscallFilter) := by
    intro numbers
    induction numbers with
    | nil =>
      intro b written h _
      simpa using h
    | cons nr numbers ih =>
      intro b written h hfits
      rw [List.flatMap_cons, List.length_append] at hfits
      rw [List.flatMap_cons, ← List.append_assoc]
      exact ih (wrote_emitAll h _ (by omega)) (by rw [List.length_append]; omega)
  exact hfold uidRangeSyscalls h hfits

theorem length_known_le (syscallMap : Bytes → Option Int) (allowList : List Bytes) :
    ((knownNumbers syscallMap allowList).flatMap allowFilter).length ≤ allowList.length * 2 := by
  have hlen : ∀ numbers : List Int, (numbers.flatMap allowFilter).length = numbers.length * 2 := by
    intro numbers
    rw [List.length_flatMap]
    simp [allowFilter]
  rw [hlen]
  have : (knownNumbers syscallMap allowList).length ≤ allowList.length :=
    (List.length_filter_le _ _).trans (List.length_map ..).le
  omega

/-- Every write lies in the buffer, and together they are the program. -/
theorem wrote_program (syscallMap : Bytes → Option Int) (allowList : List Bytes) :
    Wrote (writtenBuffer syscallMap allowList) (seccompBuffer allowList).filter.length
      (program syscallMap allowList) := by
  have htotal : (seccompBuffer allowList).filter.length = allowList.length * 2 + 30 := by
    simp only [seccompBuffer, List.length_replicate, ARCH_CHECK_BPF_CNT, BPF_PER_SYSCALL,
      BPF_PER_UID_SYSCALL_1ARG, BPF_PER_UID_SYSCALL_2ARG, BPF_PER_UID_SYSCALL_3ARG]
    omega
  have hknown := length_known_le syscallMap allowList
  have hstart : Wrote (seccompBuffer allowList) (seccompBuffer allowList).filter.length [] :=
    ⟨rfl, rfl, rfl⟩
  have harchLen : ([] ++ archCheck).length = 4 := rfl
  have huidLen : (uidRangeSyscalls.flatMap uidSyscallFilter).length = 25 := rfl
  have harch := wrote_emitAll hstart archCheck (by rw [htotal]; simp [archCheck])
  have hallow : Wrote (appendAllowList syscallMap _ allowList) _ _ :=
    wrote_appendAllowList harch allowList (by rw [htotal, harchLen, BPF_PER_SYSCALL]; omega)
  have huid := wrote_appendUidRangeSyscalls hallow (by
    rw [htotal, List.length_append, harchLen]
    omega)
  have hdefault := wrote_emit huid (by
    rw [htotal, List.length_append, List.length_append, harchLen, huidLen]
    omega) (ret (defaultAction allowList))
  have hprogram : program syscallMap allowList = [] ++ archCheck ++
      (knownNumbers syscallMap allowList).flatMap allowFilter ++
        uidRangeSyscalls.flatMap uidSyscallFilter ++ [ret (defaultAction allowList)] := by
    simp [program]
  rw [hprogram]
  exact hdefault

/-- The kernel runs the program, if the 16 bits of `len` hold its length. -/
theorem insns_buildSeccompFilter {syscallMap : Bytes → Option Int} {allowList : List Bytes}
    (hlen : (writtenBuffer syscallMap allowList).idx ≤ 4096) :
    (buildSeccompFilter syscallMap allowList).len.toNat = (writtenBuffer syscallMap allowList).idx ∧
      (buildSeccompFilter syscallMap allowList).insns = program syscallMap allowList := by
  have hfront := (wrote_program syscallMap allowList).front
  unfold buildSeccompFilter SockFprog.insns
  generalize writtenBuffer syscallMap allowList = b at hlen hfront ⊢
  have hnat : (UInt16.ofNat b.idx).toNat = b.idx := by
    rw [UInt16.toNat_ofNat']
    omega
  exact ⟨hnat, by rw [hnat]; exact hfront⟩

/-! ### What is run -/

theorem load_nr (d : SeccompData) : d.load OFFSET_NR = some d.nr := rfl

theorem load_arch (d : SeccompData) : d.load OFFSET_ARCH = some d.arch := rfl

theorem load_args (d : SeccompData) :
    ∀ i, d.load (offsetArgs i) = some (d.args i).toUInt32
  | 0 => rfl
  | 1 => rfl
  | 2 => rfl
  | 3 => rfl
  | 4 => rfl
  | 5 => rfl

/-- Some of the arguments, as 32-bit user ids, is below the limit. -/
def LowAmong (d : SeccompData) (args : List (Fin 6)) : Prop :=
  ∃ i ∈ args, (d.args i).toUInt32 < UID_MIN_LIMIT

instance (d : SeccompData) (args : List (Fin 6)) : Decidable (LowAmong d args) :=
  inferInstanceAs (Decidable (∃ i ∈ args, (d.args i).toUInt32 < UID_MIN_LIMIT))

/-- The checks kill on a low argument; else the last argument, which is not low, is left in the
accumulator. -/
theorem run_uidChecks (d : SeccompData) (args : List (Fin 6)) (rest : List SockFilter)
    (a : UInt32) :
    ∃ a', (args ≠ [] → ¬ LowAmong d args → UID_MIN_LIMIT ≤ a') ∧
      run d.load 0 (args.flatMap uidCheck ++ rest) a =
        if LowAmong d args then some SECCOMP_RET_KILL else run d.load 0 rest a' := by
  induction args generalizing a with
  | nil => exact ⟨a, fun h => absurd rfl h, by simp [LowAmong]⟩
  | cons i args ih =>
    obtain ⟨a', ha', hrun⟩ := ih (d.args i).toUInt32
    have hlow : LowAmong d (i :: args) ↔
        (d.args i).toUInt32 < UID_MIN_LIMIT ∨ LowAmong d args := by simp [LowAmong]
    have hcheck : run d.load 0 ((i :: args).flatMap uidCheck ++ rest) a =
        if UID_MIN_LIMIT ≤ (d.args i).toUInt32 then
          run d.load 0 (args.flatMap uidCheck ++ rest) (d.args i).toUInt32
        else some SECCOMP_RET_KILL := by
      rw [List.flatMap_cons]
      show run d.load 0 (ldAbs _ :: jge _ 1 0 :: ret _ :: (args.flatMap uidCheck ++ rest)) a = _
      rw [run_ldAbs (load_args d i), run_return_unless_ge]
    by_cases hi : UID_MIN_LIMIT ≤ (d.args i).toUInt32
    · have hlow : LowAmong d (i :: args) ↔ LowAmong d args :=
        hlow.trans (or_iff_right (UInt32.not_lt.mpr hi))
      rw [hcheck, if_pos hi]
      cases args with
      | nil =>
        have hnone : ¬ LowAmong d [] := by simp [LowAmong]
        exact ⟨(d.args i).toUInt32, fun _ _ => hi, by rw [if_neg (fun h => hnone (hlow.mp h))]; rfl⟩
      | cons j args =>
        refine ⟨a', fun _ h => ha' (List.cons_ne_nil _ _) fun h' => h (hlow.mpr h'), ?_⟩
        simp only [hrun, hlow]
    · refine ⟨a, fun _ h => absurd (hlow.mpr (Or.inl (UInt32.not_le.mp hi))) h, ?_⟩
      rw [hcheck, if_neg hi, if_pos (hlow.mpr (Or.inl (UInt32.not_le.mp hi)))]

/-- The arguments of a user-id call that are user ids. -/
def uidArgs (nr : Int) : List (Fin 6) :=
  if nr = NR_setreuid then [0, 1] else if nr = NR_setresuid then [0, 1, 2] else [0]

theorem uidArgs_ne_nil (nr : Int) : uidArgs nr ≠ [] := by
  unfold uidArgs
  split
  · exact List.cons_ne_nil _ _
  · split <;> exact List.cons_ne_nil _ _

/-- The skip of a call's fragment is the length of its checks. -/
theorem uidSyscallFilter_eq (nr : Int) :
    ∃ skip : UInt8, skip.toNat = ((uidArgs nr).flatMap uidCheck).length ∧
      uidSyscallFilter nr = jeq (operand nr) 0 skip :: (uidArgs nr).flatMap uidCheck := by
  unfold uidSyscallFilter uidArgs
  split
  · exact ⟨BPF_JEQ_SKIP_2ARG, rfl, rfl⟩
  · split
    · exact ⟨BPF_JEQ_SKIP_3ARG, rfl, rfl⟩
    · exact ⟨BPF_JEQ_SKIP_1ARG, rfl, rfl⟩

/-- The calls are told apart by the accumulator. After a call's own checks it holds a user id,
which is no call number, so the fragments behind them are passed. -/
theorem run_uidSyscalls (d : SeccompData) (v : UInt32) (numbers : List Int)
    (hsmall : ∀ nr ∈ numbers, operand nr < UID_MIN_LIMIT)
    (hdistinct : (numbers.map operand).Nodup) (a : UInt32) :
    run d.load 0 (numbers.flatMap uidSyscallFilter ++ [ret v]) a =
      some (if ∃ nr ∈ numbers, operand nr = a ∧ LowAmong d (uidArgs nr) then SECCOMP_RET_KILL
        else v) := by
  induction numbers generalizing a with
  | nil => simp
  | cons nr numbers ih =>
    have hsmall' : ∀ nr ∈ numbers, operand nr < UID_MIN_LIMIT :=
      fun nr' h => hsmall nr' (List.mem_cons_of_mem _ h)
    obtain ⟨hfresh, hdistinct'⟩ := List.nodup_cons.mp hdistinct
    obtain ⟨skip, hskip, hfilter⟩ := uidSyscallFilter_eq nr
    rw [List.flatMap_cons, hfilter, List.append_assoc]
    show run d.load 0 (jeq _ 0 skip :: ((uidArgs nr).flatMap uidCheck ++ _)) a = _
    rw [run_block_if_eq hskip]
    by_cases ha : a = operand nr
    · obtain ⟨a', ha', hrun⟩ := run_uidChecks d (uidArgs nr)
        (numbers.flatMap uidSyscallFilter ++ [ret v]) a
      have hothers : ¬ ∃ nr' ∈ numbers, operand nr' = a ∧ LowAmong d (uidArgs nr') :=
        fun ⟨nr', hnr', heq, _⟩ => hfresh (List.mem_map.mpr ⟨nr', hnr', heq.trans ha⟩)
      rw [if_pos ha, hrun]
      by_cases hlow : LowAmong d (uidArgs nr)
      · rw [if_pos hlow, if_pos ⟨nr, List.mem_cons_self .., ha.symm, hlow⟩]
      · have hpassed : ¬ ∃ nr' ∈ numbers, operand nr' = a' ∧ LowAmong d (uidArgs nr') :=
          fun ⟨nr', hnr', heq, _⟩ => UInt32.not_le.mpr (hsmall' nr' hnr')
            (heq ▸ ha' (uidArgs_ne_nil nr) hlow)
        rw [if_neg hlow, ih hsmall' hdistinct', if_neg hpassed, if_neg]
        simp only [List.mem_cons, exists_eq_or_imp, not_or]
        exact ⟨fun h => hlow h.2, hothers⟩
    · have hhead : ¬ (operand nr = a ∧ LowAmong d (uidArgs nr)) := fun h => ha h.1.symm
      rw [if_neg ha, ih hsmall' hdistinct']
      simp only [List.mem_cons, exists_eq_or_imp, hhead, false_or]

/-! ### The verdict -/

/-- The call changes user ids, and one of those it is given is below the limit. -/
def SetsLowUid (d : SeccompData) : Prop :=
  ∃ nr ∈ uidRangeSyscalls, operand nr = d.nr ∧ LowAmong d (uidArgs nr)

/-- The allow list has a known name for the call. -/
def Listed (syscallMap : Bytes → Option Int) (allowList : List Bytes) (d : SeccompData) : Prop :=
  ∃ name ∈ allowList, 0 ≤ resolveSyscallName syscallMap name ∧
    operand (resolveSyscallName syscallMap name) = d.nr

instance (d : SeccompData) : Decidable (SetsLowUid d) :=
  inferInstanceAs (Decidable (∃ nr ∈ uidRangeSyscalls, _ ∧ _))

instance (syscallMap : Bytes → Option Int) (allowList : List Bytes) (d : SeccompData) :
    Decidable (Listed syscallMap allowList d) :=
  inferInstanceAs (Decidable (∃ name ∈ allowList, _ ∧ _))

theorem mem_knownNumbers {syscallMap : Bytes → Option Int} {allowList : List Bytes}
    {d : SeccompData} :
    d.nr ∈ (knownNumbers syscallMap allowList).map operand ↔ Listed syscallMap allowList d := by
  simp [knownNumbers, Listed, and_assoc]

theorem flatMap_allowFilter (numbers : List Int) :
    numbers.flatMap allowFilter =
      (numbers.map operand).flatMap fun k => [jeq k 0 1, ret SECCOMP_RET_ALLOW] := by
  rw [List.flatMap_map]
  rfl

/-- What the filter answers: the allow list comes before the user ids. -/
theorem run_program (syscallMap : Bytes → Option Int) (allowList : List Bytes) (d : SeccompData)
    (a : UInt32) :
    run d.load 0 (program syscallMap allowList) a =
      some (if d.arch ≠ AUDIT_ARCH_AARCH64 then SECCOMP_RET_KILL
        else if Listed syscallMap allowList d then SECCOMP_RET_ALLOW
        else if SetsLowUid d then SECCOMP_RET_KILL
        else defaultAction allowList) := by
  show run d.load 0 (ldAbs _ :: jeq _ 1 0 :: ret _ :: ldAbs _ :: (_ ++ _)) a = _
  rw [run_ldAbs (load_arch d), run_return_unless_eq]
  by_cases harch : d.arch = AUDIT_ARCH_AARCH64
  · rw [if_pos harch, if_neg (not_not.mpr harch), run_ldAbs (load_nr d), flatMap_allowFilter,
      List.nil_append, run_returns, run_uidSyscalls d _ _ (by decide) (by decide)]
    by_cases hlisted : Listed syscallMap allowList d
    · rw [if_pos hlisted, if_pos (mem_knownNumbers.mpr hlisted)]
    · rw [if_neg hlisted, if_neg (fun h => hlisted (mem_knownNumbers.mp h))]
      rfl
  · rw [if_neg harch, if_pos harch]

/-- What it should answer: no call that sets a low user id passes. -/
def intended (syscallMap : Bytes → Option Int) (allowList : List Bytes) (d : SeccompData) :
    UInt32 :=
  if d.arch ≠ AUDIT_ARCH_AARCH64 then SECCOMP_RET_KILL
  else if SetsLowUid d then SECCOMP_RET_KILL
  else if allowList = [] ∨ Listed syscallMap allowList d then SECCOMP_RET_ALLOW
  else SECCOMP_RET_KILL

/-- **A filter of at most 4096 instructions is run in full and answers as intended exactly for
the calls that do not set a low user id under a listed name.** -/
theorem seccomp_intended_iff (syscallMap : Bytes → Option Int) (allowList : List Bytes)
    (d : SeccompData) (hlen : (writtenBuffer syscallMap allowList).idx ≤ 4096) :
    ((buildSeccompFilter syscallMap allowList).len.toNat =
        (writtenBuffer syscallMap allowList).idx ∧
      run d.load 0 (buildSeccompFilter syscallMap allowList).insns 0 =
        some (intended syscallMap allowList d)) ↔
      ¬ (d.arch = AUDIT_ARCH_AARCH64 ∧ SetsLowUid d ∧ Listed syscallMap allowList d) := by
  obtain ⟨hnat, hinsns⟩ := insns_buildSeccompFilter hlen
  have hdiffer : SECCOMP_RET_ALLOW ≠ SECCOMP_RET_KILL := by decide
  rw [hinsns, run_program, Option.some_inj, and_iff_right hnat, intended]
  by_cases harch : d.arch = AUDIT_ARCH_AARCH64
  · by_cases hlow : SetsLowUid d
    · by_cases hlisted : Listed syscallMap allowList d
      · simp [harch, hlow, hlisted, hdiffer]
      · simp [harch, hlow, hlisted]
    · by_cases hlisted : Listed syscallMap allowList d
      · simp [harch, hlow, hlisted]
      · by_cases hempty : allowList = []
        · simp [harch, hlow, hempty, defaultAction]
        · simp [harch, hlow, hempty, hlisted, defaultAction]
  · simp [harch]

/-- The names of the four calls, and nothing else. -/
def uidNames (name : Bytes) : Option Int :=
  [(bytes "setuid", NR_setuid), (bytes "setreuid", NR_setreuid),
    (bytes "setresuid", NR_setresuid), (bytes "setfsuid", NR_setfsuid)].lookup name

/-- `setreuid(20000000, 0)` on AArch64. -/
def lowSetreuid : SeccompData :=
  ⟨145, AUDIT_ARCH_AARCH64, 0, fun i => if i = 0 then 20000000 else 0⟩

/-- With `setuid` alone listed, `setreuid` to a low user id is killed. -/
theorem seccomp_intended_setuid :
    (buildSeccompFilter uidNames [bytes "setuid"]).len.toNat =
        (writtenBuffer uidNames [bytes "setuid"]).idx ∧
      run lowSetreuid.load 0 (buildSeccompFilter uidNames [bytes "setuid"]).insns 0 =
        some (intended uidNames [bytes "setuid"] lowSetreuid) :=
  (seccomp_intended_iff uidNames [bytes "setuid"] lowSetreuid (by decide)).mpr (by decide)

/-- With `setreuid` listed it passes. -/
theorem seccomp_not_intended :
    (writtenBuffer uidNames [bytes "setreuid"]).idx ≤ 4096 ∧
      run lowSetreuid.load 0 (buildSeccompFilter uidNames [bytes "setreuid"]).insns 0 =
        some SECCOMP_RET_ALLOW ∧
      intended uidNames [bytes "setreuid"] lowSetreuid = SECCOMP_RET_KILL := by
  decide

end SandboxManager.Claw
