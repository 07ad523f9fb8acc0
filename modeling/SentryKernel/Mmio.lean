import Mathlib.Data.BitVec
import SentryKernel.KernelRun

namespace SentryKernel

/-!
# Memory-mapped device registers

The drivers reach their peripherals through `ioread32` and `iowrite32`.  A register read is
volatile: what it returns depends on the device, which changes some bits by itself (a
ready flag, a clock-switch status) as well as on what was written before.  The model makes
the device an oracle: the value read at an address is a function of every access made
before it, so a theorem that holds for every `Hardware` holds for every device behaviour.
Every access is recorded in order, a read with the value it returned.

Plain configuration registers behave as memory; `registerFile` is that device, and
`registers` the contents it holds after a sequence of accesses.  A C bit-field of a
register's union type is a `BitField`.
-/

/-- One access to a device register. -/
inductive MmioAccess where
  | read (addr value : BitVec 32)
  | write (addr value : BitVec 32)
  deriving Repr, DecidableEq

/-- A device: the value a read at an address returns, after the accesses made so far. -/
abbrev Hardware :=
  List MmioAccess → BitVec 32 → BitVec 32

/-- `ioread32(addr)`. -/
def ioread32
    (hw : Hardware)
    (addr : BitVec 32) :
    KRun MmioAccess (BitVec 32) := do
  let value ← KRun.query (hw · addr)
  KRun.emit (.read addr value)
  pure value

/-- `iowrite32(addr, value)`. -/
def iowrite32
    (addr value : BitVec 32) :
    KRun MmioAccess Unit :=
  KRun.emit (.write addr value)

/-- The access is a read, or a write to one of `targets`. -/
def MmioAccess.WritesWithin
    (targets : List (BitVec 32)) :
    MmioAccess → Prop
  | .read _ _ =>
      True
  | .write addr _ =>
      addr ∈ targets

/-- The contents of a memory-like device after `accesses`, from its reset values. -/
def registers
    (reset : BitVec 32 → BitVec 32) :
    List MmioAccess → BitVec 32 → BitVec 32
  | [] =>
      reset
  | .read _ _ :: rest =>
      registers reset rest
  | .write addr value :: rest =>
      registers (Function.update reset addr value) rest

/-- A device whose registers behave as memory: a read returns the last value written. -/
def registerFile
    (reset : BitVec 32 → BitVec 32) :
    Hardware :=
  registers reset

/-- A bit-field of a register's union type: `width` bits from bit `lsb`. -/
structure BitField where
  lsb : Nat
  width : Nat
  deriving Repr, DecidableEq

/-- The bits of the field within the register. -/
def BitField.mask
    (field : BitField) :
    BitVec 32 :=
  BitVec.ofNat 32 ((1 <<< field.width) - 1) <<< field.lsb

/-- `reg.field = value`: the field truncated to its width, every other bit kept. -/
def BitField.set
    (field : BitField)
    (raw : BitVec 32)
    (value : Nat) :
    BitVec 32 :=
  (raw &&& ~~~field.mask) ||| ((BitVec.ofNat 32 value <<< field.lsb) &&& field.mask)

section Accesses

variable {α : Type} {hw : Hardware}

@[simp]
theorem ioread32_bind
    (addr : BitVec 32)
    (f : BitVec 32 → KRun MmioAccess α)
    (done : List MmioAccess) :
    (ioread32 hw addr >>= f) done = f (hw done addr) (done ++ [.read addr (hw done addr)]) :=
  rfl

@[simp]
theorem iowrite32_bind
    (addr value : BitVec 32)
    (f : Unit → KRun MmioAccess α)
    (done : List MmioAccess) :
    (iowrite32 addr value >>= f) done = f () (done ++ [.write addr value]) :=
  rfl

theorem appends_ioread32
    {targets : List (BitVec 32)}
    (addr : BitVec 32) :
    KRun.Appends (MmioAccess.WritesWithin targets) (ioread32 hw addr) :=
  KRun.appends_bind (KRun.appends_query _) fun _ =>
    KRun.appends_bind (KRun.appends_emit trivial) fun _ => KRun.appends_pure _

theorem appends_iowrite32
    {targets : List (BitVec 32)}
    {addr : BitVec 32}
    (value : BitVec 32)
    (isTarget : addr ∈ targets) :
    KRun.Appends (MmioAccess.WritesWithin targets) (iowrite32 addr value) :=
  KRun.appends_emit isTarget

theorem appendsAtMost_ioread32
    (addr : BitVec 32) :
    KRun.AppendsAtMost 1 (ioread32 hw addr) :=
  fun done => ⟨[.read addr (hw done addr)], rfl, le_rfl⟩

theorem appendsAtMost_iowrite32
    (addr value : BitVec 32) :
    KRun.AppendsAtMost 1 (iowrite32 addr value) :=
  KRun.appendsAtMost_emit _

end Accesses

section RegisterFile

variable {reset : BitVec 32 → BitVec 32}

@[simp]
theorem registers_append_read
    (accesses : List MmioAccess)
    (addr value : BitVec 32) :
    registers reset (accesses ++ [.read addr value]) = registers reset accesses := by
  induction accesses generalizing reset with
  | nil =>
      rfl
  | cons access rest inductionHypothesis =>
      cases access <;> exact inductionHypothesis

@[simp]
theorem registers_append_write
    (accesses : List MmioAccess)
    (addr value : BitVec 32) :
    registers reset (accesses ++ [.write addr value]) =
      Function.update (registers reset accesses) addr value := by
  induction accesses generalizing reset with
  | nil =>
      rfl
  | cons access rest inductionHypothesis =>
      cases access <;> exact inductionHypothesis

end RegisterFile

end SentryKernel
