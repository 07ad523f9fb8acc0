import Mathlib.Data.BitVec
import Mathlib.Logic.Function.Basic
import Mathlib.Data.List.Nodup

namespace SentryKernel

/-!
# The context switch around every trap

`Default_Handler` is naked: `save_context` pushes `r4`-`r11` and the `EXC_RETURN` held in
`lr` onto the stack the exception came from (bit 2 of `lr`: main or process stack),
`bl Default_SubHandler` hands that frame to the C dispatcher, and `restore_context` pops
the nine words from whatever frame the dispatcher returned and returns to the stack that
the popped `lr` selects, writing `CONTROL` on the way to a process stack.

Each instruction is a function on `Machine`, and the two sequences are their
compositions in source order.  The dispatcher is a C function: the model lets it return
any frame pointer, leave anything in the caller-saved registers and flags, and change
memory, but it keeps `r4`-`r11` and the stack pointers as the AAPCS requires.
-/

/-- Memory, as the 32-bit word stored at each byte address. -/
abbrev Memory :=
  BitVec 32 → BitVec 32

/-- The core registers the trap entry and exit sequences name. -/
inductive Reg where
  | r0 | r1 | r2 | r3 | r4 | r5 | r6 | r7 | r8 | r9 | r10 | r11 | r12 | lr
  deriving Repr, DecidableEq

/-- The banked stack pointers `mrs` and `msr` move to and from a core register. -/
inductive StackPointer where
  | msp
  | psp
  deriving Repr, DecidableEq

/-- The processor state the trap entry and exit sequences read and write. -/
structure Machine where
  reg : Reg → BitVec 32
  msp : BitVec 32
  psp : BitVec 32
  control : BitVec 32
  primask : Bool
  zFlag : Bool
  cFlag : Bool
  mem : Memory

/-- The other banked stack pointer. -/
def StackPointer.other :
    StackPointer → StackPointer
  | .msp =>
      .psp
  | .psp =>
      .msp

/-- The value of a banked stack pointer. -/
def Machine.sp
    (m : Machine) :
    StackPointer → BitVec 32
  | .msp =>
      m.msp
  | .psp =>
      m.psp

/-- Write a banked stack pointer. -/
def Machine.setSp
    (m : Machine) :
    StackPointer → BitVec 32 → Machine
  | .msp, value =>
      { m with msp := value }
  | .psp, value =>
      { m with psp := value }

/-- `{r4-r11, lr}`, the register list of both `stmfd` and `ldmfd`. -/
def calleeSaved : List Reg :=
  [.r4, .r5, .r6, .r7, .r8, .r9, .r10, .r11, .lr]

/-- Store `values` at consecutive words from `addr` upwards. -/
def storeWords
    (mem : Memory)
    (addr : BitVec 32) :
    List (BitVec 32) → Memory
  | [] =>
      mem
  | value :: values =>
      storeWords (Function.update mem addr value) (addr + 4) values

/-- The `count` consecutive words from `addr` upwards. -/
def loadWords
    (mem : Memory)
    (addr : BitVec 32) :
    Nat → List (BitVec 32)
  | 0 =>
      []
  | count + 1 =>
      mem addr :: loadWords mem (addr + 4) count

/-- Write the registers `regs` from `values`, lowest register first. -/
def writeRegs
    (reg : Reg → BitVec 32) :
    List Reg → List (BitVec 32) → Reg → BitVec 32
  | r :: regs, value :: values =>
      writeRegs (Function.update reg r value) regs values
  | _, _ =>
      reg

namespace Machine

/-- `cpsid i`. -/
def cpsid
    (m : Machine) :
    Machine :=
  { m with primask := true }

/-- `cpsie i`. -/
def cpsie
    (m : Machine) :
    Machine :=
  { m with primask := false }

/-- `isb`: no architectural state of this model changes. -/
def isb
    (m : Machine) :
    Machine :=
  m

/-- `tst rn, #imm`: `Z` is set when no tested bit is. -/
def tstImm
    (m : Machine)
    (rn : Reg)
    (imm : BitVec 32) :
    Machine :=
  { m with zFlag := decide (m.reg rn &&& imm = 0) }

/-- `ite eq`: the first instruction runs when `Z` is set, the second otherwise. -/
def iteEq
    (m : Machine)
    (whenEq whenNe : Machine → Machine) :
    Machine :=
  if m.zFlag then whenEq m else whenNe m

/-- `mrs rd, sp`. -/
def mrs
    (m : Machine)
    (rd : Reg)
    (sp : StackPointer) :
    Machine :=
  { m with reg := Function.update m.reg rd (m.sp sp) }

/-- `msr sp, rn`. -/
def msr
    (m : Machine)
    (rn : Reg)
    (sp : StackPointer) :
    Machine :=
  m.setSp sp (m.reg rn)

/-- `msr control, rn`: the value the instruction writes. -/
def msrControl
    (m : Machine)
    (rn : Reg) :
    Machine :=
  { m with control := m.reg rn }

/-- `mov rd, #imm`. -/
def movImm
    (m : Machine)
    (rd : Reg)
    (imm : BitVec 32) :
    Machine :=
  { m with reg := Function.update m.reg rd imm }

/-- `cmp rn, #imm`: `C` is set when the subtraction does not borrow. -/
def cmpImm
    (m : Machine)
    (rn : Reg)
    (imm : BitVec 32) :
    Machine :=
  { m with zFlag := decide (m.reg rn = imm), cFlag := decide (imm ≤ m.reg rn) }

/-- `adc rd, rn, #imm`. -/
def adcImm
    (m : Machine)
    (rd rn : Reg)
    (imm : BitVec 32) :
    Machine :=
  { m with reg := Function.update m.reg rd (m.reg rn + imm + if m.cFlag then 1 else 0) }

/-- `stmfd rn!, {regs}`: push below `rn`, lowest register at the lowest address. -/
def stmfd
    (m : Machine)
    (rn : Reg)
    (regs : List Reg) :
    Machine :=
  let addr := m.reg rn - BitVec.ofNat 32 (4 * regs.length)
  { m with
    mem := storeWords m.mem addr (regs.map m.reg),
    reg := Function.update m.reg rn addr }

/-- `ldmfd rn!, {regs}`: pop from `rn` upwards. -/
def ldmfd
    (m : Machine)
    (rn : Reg)
    (regs : List Reg) :
    Machine :=
  let addr := m.reg rn
  { m with
    reg := Function.update (writeRegs m.reg regs (loadWords m.mem addr regs.length)) rn
      (addr + BitVec.ofNat 32 (4 * regs.length)) }

end Machine

/-- `save_context`. -/
def saveContext
    (m : Machine) :
    Machine :=
  let m := m.cpsid
  let m := m.tstImm .lr 4
  let m := m.iteEq (·.mrs .r0 .msp) (·.mrs .r0 .psp)
  let m := m.stmfd .r0 calleeSaved
  let m := m.tstImm .lr 4
  m.iteEq (·.msr .r0 .msp) (·.msr .r0 .psp)

/-- `restore_context`, up to its `bx lr`. -/
def restoreContext
    (m : Machine) :
    Machine :=
  let m := m.ldmfd .r0 calleeSaved
  let m := m.tstImm .lr 4
  if !m.zFlag then
    let m := m.msr .r0 .psp
    let m := m.movImm .r0 2
    let m := m.cmpImm .r1 1
    let m := m.adcImm .r0 .r0 0
    let m := m.msrControl .r0
    m.isb.cpsie
  else
    let m := m.msr .r0 .msp
    m.isb.cpsie

/--
What `Default_SubHandler` hands back to `Default_Handler`: the frame pointer in `r0`,
whatever it leaves in the caller-saved `r1`-`r3`, `r12`, `lr` and the flags, and memory.
-/
structure SubHandlerReturn where
  frame : BitVec 32
  r1 : BitVec 32
  r2 : BitVec 32
  r3 : BitVec 32
  r12 : BitVec 32
  lr : BitVec 32
  zFlag : Bool
  cFlag : Bool
  mem : Memory

/-- `bl Default_SubHandler`, as its caller sees it. -/
def Machine.callSubHandler
    (m : Machine)
    (ret : SubHandlerReturn) :
    Machine :=
  { m with
    reg := fun r =>
      match r with
      | .r0 => ret.frame
      | .r1 => ret.r1
      | .r2 => ret.r2
      | .r3 => ret.r3
      | .r12 => ret.r12
      | .lr => ret.lr
      | r => m.reg r,
    zFlag := ret.zFlag,
    cFlag := ret.cFlag,
    mem := ret.mem }

/-- `Default_Handler`: save, dispatch, restore. -/
def defaultHandler
    (m : Machine)
    (ret : SubHandlerReturn) :
    Machine :=
  restoreContext ((saveContext m).callSubHandler ret)

/-- Bit 2 of an `EXC_RETURN`: the exception came from, or returns to, the process stack. -/
def usesPsp
    (excReturn : BitVec 32) :
    Bool :=
  decide (excReturn &&& 4 ≠ 0)

/-- The stack pointer bit 2 of an `EXC_RETURN` selects. -/
def selectedSp
    (excReturn : BitVec 32) :
    StackPointer :=
  if usesPsp excReturn then .psp else .msp

section Words

/-- Storing words leaves every other address as it was. -/
theorem storeWords_of_ne
    {mem : Memory}
    {addr x : BitVec 32}
    {values : List (BitVec 32)}
    (outside : ∀ i < values.length, x ≠ addr + BitVec.ofNat 32 (4 * i)) :
    storeWords mem addr values x = mem x := by
  induction values generalizing mem addr with
  | nil =>
      rfl
  | cons value values inductionHypothesis =>
      have later : ∀ i < values.length, x ≠ addr + 4 + BitVec.ofNat 32 (4 * i) := by
        intro i below same
        apply outside (i + 1) (by simp [below])
        rw [same, BitVec.add_assoc]
        congr 1
        apply BitVec.eq_of_toNat_eq
        simp [BitVec.toNat_add, BitVec.toNat_ofNat]
        omega
      rw [storeWords, inductionHypothesis later,
        Function.update_noteq (by simpa using outside 0 (by simp))]

/-- Words stored from `addr` read back from `addr`, when they do not wrap around. -/
theorem loadWords_storeWords
    (mem : Memory)
    (addr : BitVec 32)
    (values : List (BitVec 32))
    (noWrap : values.length < 2 ^ 30) :
    loadWords (storeWords mem addr values) addr values.length = values := by
  induction values generalizing mem addr with
  | nil =>
      rfl
  | cons value values inductionHypothesis =>
      have distinct : ∀ i < values.length, addr ≠ addr + 4 + BitVec.ofNat 32 (4 * i) := by
        intro i below same
        have := congrArg BitVec.toNat same
        simp [BitVec.toNat_add, BitVec.toNat_ofNat] at this
        simp at noWrap
        omega
      simp only [List.length_cons, loadWords, storeWords, storeWords_of_ne distinct,
        Function.update_same, inductionHypothesis _ _ (by simp at noWrap; omega)]

end Words

section Registers

/-- Loading a register list leaves the other registers as they were. -/
theorem writeRegs_of_not_mem
    {reg : Reg → BitVec 32}
    {regs : List Reg}
    {values : List (BitVec 32)}
    {r : Reg}
    (notListed : r ∉ regs) :
    writeRegs reg regs values r = reg r := by
  induction regs generalizing reg values with
  | nil =>
      cases values <;> rfl
  | cons first regs inductionHypothesis =>
      cases values with
      | nil =>
          rfl
      | cons value values =>
          rw [writeRegs, inductionHypothesis (fun listed => notListed (by simp [listed])),
            Function.update_noteq fun same => notListed (by simp [same])]

/-- A duplicate-free register list reads back the values loaded into it. -/
theorem map_writeRegs
    (reg : Reg → BitVec 32)
    (regs : List Reg)
    (values : List (BitVec 32))
    (noDuplicates : regs.Nodup)
    (sameLength : regs.length = values.length) :
    regs.map (writeRegs reg regs values) = values := by
  induction regs generalizing reg values with
  | nil =>
      cases values <;> simp_all
  | cons first regs inductionHypothesis =>
      cases values with
      | nil =>
          simp at sameLength
      | cons value values =>
          obtain ⟨firstNew, restNodup⟩ := List.nodup_cons.mp noDuplicates
          simp only [List.map_cons, writeRegs, writeRegs_of_not_mem firstNew,
            Function.update_same, inductionHypothesis _ values restNodup (by simpa using sameLength)]

end Registers

section StackPointers

@[simp]
theorem StackPointer.other_ne
    (sp : StackPointer) :
    sp.other ≠ sp := by
  cases sp <;> decide

@[simp]
theorem Machine.setSp_reg
    (m : Machine)
    (sp : StackPointer)
    (value : BitVec 32) :
    (m.setSp sp value).reg = m.reg := by
  cases sp <;> rfl

@[simp]
theorem Machine.setSp_control
    (m : Machine)
    (sp : StackPointer)
    (value : BitVec 32) :
    (m.setSp sp value).control = m.control := by
  cases sp <;> rfl

end StackPointers

section Save

/--
`save_context` pushes `{r4-r11, lr}` below the stack pointer bit 2 of `lr` selects, and
moves that stack pointer, and `r0`, down to the frame.
-/
theorem saveContext_eq
    (m : Machine) :
    saveContext m =
      { m.setSp (selectedSp (m.reg .lr)) (m.sp (selectedSp (m.reg .lr)) - 36) with
        reg := Function.update m.reg .r0 (m.sp (selectedSp (m.reg .lr)) - 36),
        mem := storeWords m.mem (m.sp (selectedSp (m.reg .lr)) - 36) (calleeSaved.map m.reg),
        primask := true,
        zFlag := decide (m.reg .lr &&& 4 = 0) } := by
  by_cases fromMsp : m.reg .lr &&& 4#32 = 0#32 <;>
    simp [saveContext, selectedSp, usesPsp, fromMsp, Machine.cpsid, Machine.tstImm,
      Machine.iteEq, Machine.mrs, Machine.stmfd, Machine.msr, Machine.sp, Machine.setSp, calleeSaved]

/-- The frame `save_context` leaves in `r0`. -/
@[simp]
theorem saveContext_r0
    (m : Machine) :
    (saveContext m).reg .r0 = m.sp (selectedSp (m.reg .lr)) - 36 := by
  simp [saveContext_eq]

/-- `save_context` writes the callee-saved registers at the frame. -/
theorem saveContext_mem
    (m : Machine) :
    (saveContext m).mem = storeWords m.mem ((saveContext m).reg .r0) (calleeSaved.map m.reg) := by
  simp [saveContext_eq]

/-- `save_context` moves the selected stack pointer down to the frame and keeps the other. -/
theorem saveContext_sp
    (m : Machine)
    (sp : StackPointer) :
    (saveContext m).sp sp =
      if sp = selectedSp (m.reg .lr) then m.sp sp - 36 else m.sp sp := by
  rw [saveContext_eq]
  cases sp <;> cases selectedSp (m.reg .lr) <;> rfl

/-- `save_context` leaves `CONTROL` as it was. -/
@[simp]
theorem saveContext_control
    (m : Machine) :
    (saveContext m).control = m.control := by
  simp [saveContext_eq]

/-- The nine words at the saved frame are the registers `save_context` pushed. -/
theorem loadWords_saveContext
    (m : Machine) :
    loadWords (saveContext m).mem ((saveContext m).reg .r0) 9 = calleeSaved.map m.reg := by
  rw [saveContext_mem]
  exact loadWords_storeWords _ _ (calleeSaved.map m.reg) (by simp [calleeSaved])

end Save

section Call

variable (m : Machine) (ret : SubHandlerReturn)

@[simp]
theorem Machine.callSubHandler_r0 :
    (m.callSubHandler ret).reg .r0 = ret.frame :=
  rfl

@[simp]
theorem Machine.callSubHandler_r1 :
    (m.callSubHandler ret).reg .r1 = ret.r1 :=
  rfl

@[simp]
theorem Machine.callSubHandler_mem :
    (m.callSubHandler ret).mem = ret.mem :=
  rfl

@[simp]
theorem Machine.callSubHandler_control :
    (m.callSubHandler ret).control = m.control :=
  rfl

/-- The dispatcher keeps both stack pointers, as the AAPCS requires of a C function. -/
@[simp]
theorem Machine.callSubHandler_sp
    (sp : StackPointer) :
    (m.callSubHandler ret).sp sp = m.sp sp := by
  cases sp <;> rfl

end Call

section Restore

/-- `cmp rn, #1` leaves the carry set exactly when `rn` is not zero. -/
theorem bitVec32_one_le_iff_ne_zero
    (x : BitVec 32) :
    1#32 ≤ x ↔ x ≠ 0#32 := by
  rw [BitVec.le_def, Ne, BitVec.toNat_eq]
  simp
  omega

/-- `ldmfd r0!, {r4-r11, lr}` leaves `r0` above the nine words. -/
@[simp]
theorem Machine.ldmfd_calleeSaved_r0
    (m : Machine) :
    (m.ldmfd .r0 calleeSaved).reg .r0 = m.reg .r0 + 36 := by
  simp [Machine.ldmfd, calleeSaved]

/-- `ldmfd r0!, {r4-r11, lr}` loads every other register from the words at `r0`. -/
theorem Machine.ldmfd_calleeSaved_reg_of_ne
    (m : Machine)
    {r : Reg}
    (notR0 : r ≠ .r0) :
    (m.ldmfd .r0 calleeSaved).reg r = writeRegs m.reg calleeSaved (loadWords m.mem (m.reg .r0) 9) r :=
  Function.update_noteq notR0 _ _

/-- `ldmfd r0!, {r4-r11, lr}` leaves `r1` as it was. -/
@[simp]
theorem Machine.ldmfd_calleeSaved_r1
    (m : Machine) :
    (m.ldmfd .r0 calleeSaved).reg .r1 = m.reg .r1 := by
  simp [Machine.ldmfd, writeRegs_of_not_mem, calleeSaved]

/--
`restore_context` pops `{r4-r11, lr}` from `r0` and moves the stack pointer the popped
`lr` selects above the frame; on the way to the process stack it writes `CONTROL` with
`2`, plus the carry of `cmp r1, #1`.
-/
theorem restoreContext_eq
    (m : Machine) :
    restoreContext m =
      if usesPsp ((m.ldmfd .r0 calleeSaved).reg .lr) then
        { (m.ldmfd .r0 calleeSaved).setSp .psp (m.reg .r0 + 36) with
          reg := Function.update (m.ldmfd .r0 calleeSaved).reg .r0
            (if m.reg .r1 = 0 then 2 else 3),
          control := if m.reg .r1 = 0 then 2 else 3,
          primask := false,
          zFlag := decide (m.reg .r1 = 1),
          cFlag := decide (m.reg .r1 ≠ 0) }
      else
        { (m.ldmfd .r0 calleeSaved).setSp .msp (m.reg .r0 + 36) with
          primask := false,
          zFlag := true } := by
  by_cases toMsp : (m.ldmfd .r0 calleeSaved).reg .lr &&& 4#32 = 0#32
  · simp [restoreContext, usesPsp, toMsp, Machine.tstImm, Machine.msr, Machine.isb,
      Machine.cpsie, Machine.setSp]
  · by_cases zero : m.reg .r1 = 0#32 <;>
      simp [restoreContext, usesPsp, toMsp, zero, bitVec32_one_le_iff_ne_zero, Machine.tstImm,
        Machine.msr, Machine.isb, Machine.cpsie, Machine.setSp, Machine.movImm, Machine.cmpImm,
        Machine.adcImm, Machine.msrControl]

/-- `restore_context` leaves every register but `r0` as `ldmfd` popped it. -/
theorem restoreContext_reg_of_ne
    (m : Machine)
    {r : Reg}
    (notR0 : r ≠ .r0) :
    (restoreContext m).reg r = (m.ldmfd .r0 calleeSaved).reg r := by
  rw [restoreContext_eq]
  split <;> simp [notR0]

/-- `restore_context` loads `{r4-r11, lr}` from the nine words at `r0`. -/
theorem map_restoreContext_reg
    (m : Machine) :
    calleeSaved.map (restoreContext m).reg = loadWords m.mem (m.reg .r0) 9 := by
  have notR0 : ∀ r ∈ calleeSaved, r ≠ .r0 := by
    simp [calleeSaved]
  rw [List.map_congr_left fun r saved => restoreContext_reg_of_ne m (notR0 r saved),
    List.map_congr_left fun r saved => Machine.ldmfd_calleeSaved_reg_of_ne m (notR0 r saved)]
  exact map_writeRegs _ _ _ (by decide) rfl

/--
`restore_context` moves the stack pointer the restored `lr` selects above the frame and
keeps the other.
-/
theorem restoreContext_sp
    (m : Machine)
    (sp : StackPointer) :
    (restoreContext m).sp sp =
      if sp = selectedSp ((restoreContext m).reg .lr) then m.reg .r0 + 36 else m.sp sp := by
  rw [restoreContext_reg_of_ne m (by decide), restoreContext_eq]
  split <;> cases sp <;> simp [selectedSp, *] <;> rfl

/--
`restore_context` writes `CONTROL` only on the way to the process stack, and then with
`3` when `r1` is not zero and `2` when it is.
-/
theorem restoreContext_control
    (m : Machine) :
    (restoreContext m).control =
      if usesPsp ((restoreContext m).reg .lr) then (if m.reg .r1 = 0 then 2 else 3)
      else m.control := by
  rw [restoreContext_reg_of_ne m (by decide), restoreContext_eq]
  split <;> simp [*, Machine.ldmfd]

end Restore

section Handler

/-- Both stack pointers after `Default_Handler`. -/
theorem defaultHandler_sp
    (m : Machine)
    (ret : SubHandlerReturn)
    (sp : StackPointer) :
    (defaultHandler m ret).sp sp =
      if sp = selectedSp ((defaultHandler m ret).reg .lr) then ret.frame + 36
      else (saveContext m).sp sp := by
  simp [defaultHandler, restoreContext_sp]

/-- `Default_Handler` loads `{r4-r11, lr}` from the frame the dispatcher returned. -/
theorem map_defaultHandler_reg
    (m : Machine)
    (ret : SubHandlerReturn) :
    calleeSaved.map (defaultHandler m ret).reg = loadWords ret.mem ret.frame 9 := by
  simp [defaultHandler, map_restoreContext_reg]

/--
When the dispatcher hands back the frame it received, with its nine words intact,
`Default_Handler` leaves `r4`-`r11`, `lr` and both stack pointers as they were at entry.
-/
theorem defaultHandler_of_intact_frame
    (m : Machine)
    (ret : SubHandlerReturn)
    (sameFrame : ret.frame = (saveContext m).reg .r0)
    (intactWords : loadWords ret.mem ret.frame 9 = loadWords (saveContext m).mem ret.frame 9) :
    calleeSaved.map (defaultHandler m ret).reg = calleeSaved.map m.reg ∧
      (defaultHandler m ret).msp = m.msp ∧ (defaultHandler m ret).psp = m.psp := by
  have identity : calleeSaved.map (defaultHandler m ret).reg = calleeSaved.map m.reg := by
    rw [map_defaultHandler_reg, intactWords, sameFrame, loadWords_saveContext]
  have sameLr : (defaultHandler m ret).reg .lr = m.reg .lr :=
    List.map_inj_left.mp identity .lr (by simp [calleeSaved])
  have everySp : ∀ sp, (defaultHandler m ret).sp sp = m.sp sp := by
    intro sp
    rw [defaultHandler_sp, saveContext_sp, sameLr, sameFrame, saveContext_r0]
    split
    case isTrue selected =>
      rw [selected, BitVec.sub_add_cancel]
    case isFalse =>
      rfl
  exact ⟨identity, everySp .msp, everySp .psp⟩

/--
`Default_Handler` ends with `{r4-r11, lr}` loaded from the frame the dispatcher returned,
the stack pointer the restored `lr` selects just above that frame, and the other one as
`save_context` left it.  When the dispatcher hands back the frame it received with its
nine words intact, the trap is invisible to `r4`-`r11`, `lr` and both stack pointers.
-/
theorem defaultHandler_restores_frame
    (m : Machine)
    (ret : SubHandlerReturn) :
    calleeSaved.map (defaultHandler m ret).reg = loadWords ret.mem ret.frame 9 ∧
      (defaultHandler m ret).sp (selectedSp ((defaultHandler m ret).reg .lr)) = ret.frame + 36 ∧
      (defaultHandler m ret).sp (selectedSp ((defaultHandler m ret).reg .lr)).other =
        (saveContext m).sp (selectedSp ((defaultHandler m ret).reg .lr)).other ∧
      (ret.frame = (saveContext m).reg .r0 →
        loadWords ret.mem ret.frame 9 = loadWords (saveContext m).mem ret.frame 9 →
        calleeSaved.map (defaultHandler m ret).reg = calleeSaved.map m.reg ∧
          (defaultHandler m ret).msp = m.msp ∧ (defaultHandler m ret).psp = m.psp) :=
  ⟨map_defaultHandler_reg m ret, by simp [defaultHandler_sp], by simp [defaultHandler_sp],
    defaultHandler_of_intact_frame m ret⟩

/--
`CONTROL` after `Default_Handler`: on the way to the process stack it is `3` only when
the dispatcher happened to leave a non-zero `r1`.
-/
theorem defaultHandler_control
    (m : Machine)
    (ret : SubHandlerReturn) :
    (defaultHandler m ret).control =
      if usesPsp ((defaultHandler m ret).reg .lr) then (if ret.r1 = 0 then 2 else 3)
      else m.control := by
  simp [defaultHandler, restoreContext_control]

/-- A trap from a task: `lr` holds `EXC_RETURN` to thread mode on the process stack. -/
def taskTrap :
    Machine :=
  ⟨fun r => if r = .lr then 0xFFFFFFFD else 0, 0x20001000, 0x20008000, 3, false, false, false,
    fun _ => 0⟩

/-- The dispatcher hands back the frame it received, with `r1` left at `r1`. -/
def resumeTask
    (r1 : BitVec 32) :
    SubHandlerReturn :=
  ⟨(saveContext taskTrap).reg .r0, r1, 0, 0, 0, 0, false, false, (saveContext taskTrap).mem⟩

/--
Two traps from a task that differ only in the `r1` the dispatcher leaves both return to
the process stack, one privileged (`CONTROL = 2`) and one unprivileged (`CONTROL = 3`).
-/
theorem defaultHandler_control_follows_r1 :
    usesPsp ((defaultHandler taskTrap (resumeTask 0)).reg .lr) = true ∧
      usesPsp ((defaultHandler taskTrap (resumeTask 1)).reg .lr) = true ∧
      (defaultHandler taskTrap (resumeTask 0)).control = 2 ∧
      (defaultHandler taskTrap (resumeTask 1)).control = 3 := by
  decide

end Handler

end SentryKernel
