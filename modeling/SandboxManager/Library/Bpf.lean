import Mathlib.Data.List.Basic

/-! Classic BPF programs.

An instruction is the `sock_filter` record of the kernel interface: an opcode, two
jump offsets and an operand. `run` is the interpreter for the opcodes used here,
with one 32-bit accumulator and a memory of 32-bit words read through `load`. A
jump skips instructions that follow, so the interpreter walks down the program and
counts off what is to be skipped. It answers `none` where a program is left without
a return, which a jump past its end does, or where it cannot be run. -/
namespace Library.Bpf

structure SockFilter where
  code : UInt16
  jt : UInt8
  jf : UInt8
  k : UInt32
deriving DecidableEq, Repr

def BPF_LD : UInt16 := 0x00
def BPF_JMP : UInt16 := 0x05
def BPF_RET : UInt16 := 0x06
def BPF_W : UInt16 := 0x00
def BPF_ABS : UInt16 := 0x20
def BPF_JEQ : UInt16 := 0x10
def BPF_JGE : UInt16 := 0x30
def BPF_K : UInt16 := 0x00

def bpfStmt (code : UInt16) (k : UInt32) : SockFilter := ⟨code, 0, 0, k⟩

def bpfJump (code : UInt16) (k : UInt32) (jt jf : UInt8) : SockFilter := ⟨code, jt, jf, k⟩

/-- Load the word at offset `k`. -/
def ldAbs (k : UInt32) : SockFilter := bpfStmt (BPF_LD ||| BPF_W ||| BPF_ABS) k

/-- Jump by `jt` if the accumulator is `k`, else by `jf`. -/
def jeq (k : UInt32) (jt jf : UInt8) : SockFilter := bpfJump (BPF_JMP ||| BPF_JEQ ||| BPF_K) k jt jf

/-- Jump by `jt` if the accumulator is at least `k`, else by `jf`. -/
def jge (k : UInt32) (jt jf : UInt8) : SockFilter := bpfJump (BPF_JMP ||| BPF_JGE ||| BPF_K) k jt jf

def ret (k : UInt32) : SockFilter := bpfStmt (BPF_RET ||| BPF_K) k

variable (load : UInt32 → Option UInt32)

def run : Nat → List SockFilter → UInt32 → Option UInt32
  | _, [], _ => none
  | skip + 1, _ :: rest, a => run skip rest a
  | 0, i :: rest, a =>
    if i.code = (ldAbs 0).code then
      match load i.k with
      | none => none
      | some v => run 0 rest v
    else if i.code = (jeq 0 0 0).code then run (if a = i.k then i.jt else i.jf).toNat rest a
    else if i.code = (jge 0 0 0).code then run (if i.k ≤ a then i.jt else i.jf).toNat rest a
    else if i.code = (ret 0).code then some i.k
    else none

variable {load} {rest : List SockFilter} {a k : UInt32}

theorem run_skip (prog : List SockFilter) : run load prog.length (prog ++ rest) a = run load 0 rest a := by
  induction prog with
  | nil => rfl
  | cons i prog ih => exact ih

theorem run_ldAbs {v : UInt32} (h : load k = some v) :
    run load 0 (ldAbs k :: rest) a = run load 0 rest v := by
  show (match load k with | none => none | some v => run load 0 rest v) = _
  rw [h]

theorem run_jeq (jt jf : UInt8) :
    run load 0 (jeq k jt jf :: rest) a = run load (if a = k then jt else jf).toNat rest a := rfl

theorem run_jge (jt jf : UInt8) :
    run load 0 (jge k jt jf :: rest) a = run load (if k ≤ a then jt else jf).toNat rest a := rfl

@[simp] theorem run_ret : run load 0 (ret k :: rest) a = some k := rfl

/-- A guard that returns on a match and else goes on. -/
theorem run_return_if_eq (v : UInt32) :
    run load 0 (jeq k 0 1 :: ret v :: rest) a = if a = k then some v else run load 0 rest a := by
  rw [run_jeq]
  split <;> rfl

theorem run_return_unless_eq (v : UInt32) :
    run load 0 (jeq k 1 0 :: ret v :: rest) a = if a = k then run load 0 rest a else some v := by
  rw [run_jeq]
  split <;> rfl

theorem run_return_unless_ge (v : UInt32) :
    run load 0 (jge k 1 0 :: ret v :: rest) a = if k ≤ a then run load 0 rest a else some v := by
  rw [run_jge]
  split <;> rfl

/-- A block entered on a match alone. -/
theorem run_block_if_eq {block : List SockFilter} {jf : UInt8} (h : jf.toNat = block.length) :
    run load 0 (jeq k 0 jf :: (block ++ rest)) a =
      if a = k then run load 0 (block ++ rest) a else run load 0 rest a := by
  rw [run_jeq]
  split
  · rfl
  · rw [h, run_skip]

/-- A list of guards that each return the same value. -/
theorem run_returns (v : UInt32) (ks : List UInt32) :
    run load 0 (ks.flatMap (fun k => [jeq k 0 1, ret v]) ++ rest) a =
      if a ∈ ks then some v else run load 0 rest a := by
  induction ks with
  | nil => simp
  | cons k ks ih =>
    rw [List.flatMap_cons]
    show run load 0 (jeq k 0 1 :: ret v :: (ks.flatMap _ ++ rest)) a = _
    rw [run_return_if_eq, ih]
    by_cases h : a = k
    · simp [h]
    · simp [h]

end Library.Bpf
