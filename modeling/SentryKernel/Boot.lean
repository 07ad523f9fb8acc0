import Mathlib.Tactic.Ring
import SentryKernel.ContextSwitch

namespace SentryKernel

/-!
# Boot: `Reset_Handler`

At power-on reset the core runs `Reset_Handler`: it masks interrupts, disables and clears
every NVIC line, stops the SysTick, points `VTOR` at the kernel's vector table and reloads
`MSP` from the table's first word, grants the FPU coprocessors when the build uses them,
zeroes `.bss`, copies `.data` from its load image, and branches to `_entrypoint`, which
never returns.

The two memory loops walk `uint32_t` pointers between linker-script symbols.  The bounds
of a section are `uint32_t` objects, hence word-aligned, which `WordRange` carries; with
aligned bounds a loop never wraps around the address space and always ends.  The model
runs each loop with fuel for the `2^30` words of the address space, `none` standing for a
loop that did not end, and proves that this never happens.  The routines whose bodies are
not in the sources (`nvic_disableirq`, `nvic_clear_pendingirq`, `systick_stop_and_clear`,
`_entrypoint`) are recorded as calls, in order, and the first three act on the whole
machine through `BootEnv`, an arbitrary function: they may write the NVIC and SysTick
registers, use the stack and leave anything in the scratch registers.  The results hold
for every such effect, or name what they need of it.  The system control block registers
are words of memory at their architectural addresses.  The general registers at the branch
are the ones the routines left; the compiled handler may use them as well, so no result
speaks of them.
-/

/--
The word-aligned bounds `[start, stop)` of a linker section, as its `uint32_t` symbols give
them.
-/
structure WordRange where
  start : BitVec 32
  stop : BitVec 32
  startAligned : start.toNat % 4 = 0
  stopAligned : stop.toNat % 4 = 0

/-- The word at `a` is one that `for (p = lo; p < hi; p++)` visits, for an aligned `lo`. -/
def InWords
    (lo hi a : BitVec 32) :
    Prop :=
  lo.toNat ≤ a.toNat ∧ a.toNat < hi.toNat ∧ a.toNat % 4 = 0

instance
    (lo hi a : BitVec 32) :
    Decidable (InWords lo hi a) := by
  unfold InWords
  infer_instance

/-- A word of the section. -/
def WordRange.Contains
    (r : WordRange)
    (a : BitVec 32) :
    Prop :=
  InWords r.start r.stop a

instance
    (r : WordRange)
    (a : BitVec 32) :
    Decidable (r.Contains a) := by
  unfold WordRange.Contains
  infer_instance

/-- The section's size in bytes, `0` when its bounds are the wrong way round. -/
def WordRange.size
    (r : WordRange) :
    Nat :=
  r.stop.toNat - r.start.toNat

/-- `mem` with every word of `[lo, hi)` set to zero. -/
def zeroedWords
    (lo hi : BitVec 32)
    (mem : Memory) :
    Memory :=
  fun a => if InWords lo hi a then 0 else mem a

/-- `mem` with every word of `[lo, hi)` taken from the same offset past `src`. -/
def copiedWords
    (lo hi src : BitVec 32)
    (mem : Memory) :
    Memory :=
  fun a => if InWords lo hi a then mem (src + (a - lo)) else mem a

/-- `for (; p < hi; p++) { *p = 0UL; }`, for at most `fuel` iterations. -/
def clearWords
    (hi : BitVec 32) :
    Nat → BitVec 32 → Memory → Option Memory
  | 0, _, _ =>
      none
  | fuel + 1, p, mem =>
      if p < hi then
        clearWords hi fuel (p + 4) (Function.update mem p 0)
      else
        some mem

/-- `for (; p < hi; p++) { *p = *src++; }`, for at most `fuel` iterations. -/
def copyWords
    (hi : BitVec 32) :
    Nat → BitVec 32 → BitVec 32 → Memory → Option Memory
  | 0, _, _, _ =>
      none
  | fuel + 1, src, p, mem =>
      if p < hi then
        copyWords hi fuel (src + 4) (p + 4) (Function.update mem p (mem src))
      else
        some mem

/-- The words of the 32-bit address space: no aligned word loop runs longer. -/
def wordLoopFuel : Nat :=
  1073741824

/-- A call `Reset_Handler` makes to a routine whose body is not in the sources. -/
inductive BootCall where
  | nvicDisableirq (irqn : Nat)
  | nvicClearPendingirq (irqn : Nat)
  | systickStopAndClear
  | entrypoint
  deriving Repr, DecidableEq

/--
`for (irqnum = 0; irqnum < count; irqnum++) { nvic_disableirq(irqnum);
nvic_clear_pendingirq(irqnum); }`, the loop of `interrupt_init` and of `Reset_Handler`.
-/
def disableIrqs :
    Nat → List BootCall
  | 0 =>
      []
  | count + 1 =>
      disableIrqs count ++ [.nvicDisableirq count, .nvicClearPendingirq count]

/--
What each routine `Reset_Handler` calls does to the machine: its registers, the NVIC and
SysTick registers in memory, its stack.  The bodies are not in the sources.
-/
def BootEnv : Type :=
  BootCall → Machine → Machine

/-- The machine after the calls, in order. -/
def runBootCalls
    (env : BootEnv) :
    List BootCall → Machine → Machine
  | [], m =>
      m
  | call :: calls, m =>
      runBootCalls env calls (env call m)

/-- `__NVIC_VECTOR_LEN`: the interrupt lines of the STM32F4 NVIC. -/
def nvicVectorLen : Nat :=
  82

/-- `interrupt_init`: disable and clear every NVIC line. -/
def interruptInit : List BootCall :=
  disableIrqs nvicVectorLen

/-- `SCB->VTOR`, the vector table offset register. -/
def scbVtor : BitVec 32 :=
  0xE000ED08

/-- `SCB->CPACR`, the coprocessor access control register. -/
def scbCpacr : BitVec 32 :=
  0xE000ED88

/-- `(3U << 10U*2U) | (3U << 11U*2U)`: full access to the coprocessors CP10 and CP11. -/
def cpacrCp10Cp11Full : BitVec 32 :=
  (3 <<< 20) ||| (3 <<< 22)

/-- The linker-script symbols and build constants `Reset_Handler` reads. -/
structure BootLayout where
  bss : WordRange
  data : WordRange
  sidata : BitVec 32
  vtorTable : BitVec 32
  fpuUsed : Bool

/-- `SCB->CPACR |= (3U << 10U*2U) | (3U << 11U*2U)` when the build uses the FPU. -/
def grantFpu
    (fpuUsed : Bool)
    (mem : Memory) :
    Memory :=
  if fpuUsed then
    Function.update mem scbCpacr (mem scbCpacr ||| cpacrCp10Cp11Full)
  else
    mem

/-- The calls `Reset_Handler` makes before it relocates `VTOR`. -/
def resetCalls : List BootCall :=
  disableIrqs nvicVectorLen ++ [.systickStopAndClear]

/--
`Reset_Handler`, up to the branch to `_entrypoint`: the calls it made, and the machine it
branches with, `none` when one of its memory loops did not end.
-/
def resetHandler
    (env : BootEnv)
    (layout : BootLayout)
    (m : Machine) :
    List BootCall × Option Machine :=
  let called := runBootCalls env resetCalls m.cpsid
  let vtorSet := Function.update called.mem scbVtor layout.vtorTable
  let initialised :=
    clearWords layout.bss.stop wordLoopFuel layout.bss.start (grantFpu layout.fpuUsed vtorSet) >>=
      copyWords layout.data.stop wordLoopFuel layout.sidata layout.data.start
  match initialised with
  | some mem =>
      (resetCalls ++ [.entrypoint],
        some { called with msp := vtorSet layout.vtorTable, mem := mem })
  | none =>
      (resetCalls, none)

/--
The linker layout keeps apart what the boot writes and what it reads: `.bss`, `.data` and
the load image of `.data` do not overlap, and they and the vector table lie below the
private peripheral bus at `0xE0000000`, where the system control block is.
-/
structure BootLayout.Apart
    (layout : BootLayout) :
    Prop where
  bssData :
    layout.bss.stop.toNat ≤ layout.data.start.toNat ∨
      layout.data.stop.toNat ≤ layout.bss.start.toNat
  imageBss :
    layout.sidata.toNat + layout.data.size ≤ layout.bss.start.toNat ∨
      layout.bss.stop.toNat ≤ layout.sidata.toNat
  imageData :
    layout.sidata.toNat + layout.data.size ≤ layout.data.start.toNat ∨
      layout.data.stop.toNat ≤ layout.sidata.toNat
  bssBelowPpb : layout.bss.stop.toNat ≤ 0xE0000000
  dataBelowPpb : layout.data.stop.toNat ≤ 0xE0000000
  imageBelowPpb : layout.sidata.toNat + layout.data.size ≤ 0xE0000000
  vtorTableBelowPpb : layout.vtorTable.toNat < 0xE0000000

/--
Memory as the boot is meant to leave it: `.bss` zero, `.data` from its load image, `VTOR`
at the vector table, the FPU granted when the build uses it, every other word as before.
-/
def BootLayout.bootedMemory
    (layout : BootLayout)
    (mem : Memory) :
    Memory :=
  fun a =>
    if layout.bss.Contains a then
      0
    else if layout.data.Contains a then
      mem (layout.sidata + (a - layout.data.start))
    else if a = scbVtor then
      layout.vtorTable
    else if layout.fpuUsed ∧ a = scbCpacr then
      mem scbCpacr ||| cpacrCp10Cp11Full
    else
      mem a

section WordLoops

/-- An aligned word below an aligned bound ends at least a word before it. -/
theorem add_four_toNat_of_lt
    {p hi : BitVec 32}
    (pAligned : p.toNat % 4 = 0)
    (hiAligned : hi.toNat % 4 = 0)
    (below : p < hi) :
    (p + 4).toNat = p.toNat + 4 ∧ p.toNat + 4 ≤ hi.toNat := by
  rw [BitVec.lt_def] at below
  have := hi.isLt
  simp only [BitVec.toNat_add, BitVec.toNat_ofNat, BitVec.ofNat_eq_ofNat]
  omega

/-- A word loop from `p` visits `p`, then the words the loop from `p + 4` visits. -/
theorem inWords_iff_of_lt
    {p hi a : BitVec 32}
    (pAligned : p.toNat % 4 = 0)
    (hiAligned : hi.toNat % 4 = 0)
    (below : p < hi) :
    InWords p hi a ↔ a = p ∨ InWords (p + 4) hi a := by
  obtain ⟨next, room⟩ := add_four_toNat_of_lt pAligned hiAligned below
  rw [BitVec.lt_def] at below
  simp only [InWords, next, BitVec.toNat_eq]
  omega

/-- A word loop that starts at or past its bound visits nothing. -/
theorem not_inWords_of_le
    {p hi a : BitVec 32}
    (above : ¬ p < hi) :
    ¬ InWords p hi a := by
  rw [BitVec.lt_def] at above
  simp only [InWords]
  omega

/-- No aligned word loop runs longer than `wordLoopFuel`. -/
theorem words_lt_wordLoopFuel
    (p hi : BitVec 32) :
    (hi.toNat - p.toNat) / 4 < wordLoopFuel := by
  have := hi.isLt
  simp only [wordLoopFuel]
  omega

/-- The zeroing loop, given fuel for its words, zeroes exactly the words it visits. -/
theorem clearWords_eq
    {hi : BitVec 32}
    (hiAligned : hi.toNat % 4 = 0) :
    ∀ (fuel : Nat) (p : BitVec 32) (mem : Memory),
      p.toNat % 4 = 0 → (hi.toNat - p.toNat) / 4 < fuel →
        clearWords hi fuel p mem = some (zeroedWords p hi mem)
  | 0, _, _, _, enough =>
      absurd enough (Nat.not_lt_zero _)
  | fuel + 1, p, mem, pAligned, enough => by
      rw [clearWords]
      split
      case isTrue below =>
        obtain ⟨next, _⟩ := add_four_toNat_of_lt pAligned hiAligned below
        rw [clearWords_eq hiAligned fuel (p + 4) _ (by omega) (by omega)]
        congr 1
        funext a
        simp only [zeroedWords, inWords_iff_of_lt pAligned hiAligned below]
        by_cases atP : a = p
        · subst atP
          simp only [true_or, ↓reduceIte, Function.update_same]
          split <;> rfl
        · simp only [atP, false_or, Function.update_noteq atP]
      case isFalse above =>
        congr 1
        funext a
        simp only [zeroedWords, if_neg (not_inWords_of_le above)]

/-- The copy loop ends when given fuel for its words. -/
theorem copyWords_isSome
    {hi : BitVec 32}
    (hiAligned : hi.toNat % 4 = 0) :
    ∀ (fuel : Nat) (src p : BitVec 32) (mem : Memory),
      p.toNat % 4 = 0 → (hi.toNat - p.toNat) / 4 < fuel →
        (copyWords hi fuel src p mem).isSome
  | 0, _, _, _, _, enough =>
      absurd enough (Nat.not_lt_zero _)
  | fuel + 1, src, p, mem, pAligned, enough => by
      rw [copyWords]
      split
      case isTrue below =>
        obtain ⟨next, _⟩ := add_four_toNat_of_lt pAligned hiAligned below
        exact copyWords_isSome hiAligned fuel _ (p + 4) _ (by omega) (by omega)
      case isFalse =>
        rfl

/--
The copy loop, given fuel for its words, copies each word it visits from the same offset
past `src`, when no word it reads is one it writes.
-/
theorem copyWords_eq
    {hi : BitVec 32}
    (hiAligned : hi.toNat % 4 = 0) :
    ∀ (fuel : Nat) (src p : BitVec 32) (mem : Memory),
      p.toNat % 4 = 0 → (hi.toNat - p.toNat) / 4 < fuel →
        (∀ a, InWords p hi a → ¬ InWords p hi (src + (a - p))) →
          copyWords hi fuel src p mem = some (copiedWords p hi src mem)
  | 0, _, _, _, _, enough, _ =>
      absurd enough (Nat.not_lt_zero _)
  | fuel + 1, src, p, mem, pAligned, enough, apart => by
      rw [copyWords]
      split
      case isTrue below =>
        obtain ⟨next, _⟩ := add_four_toNat_of_lt pAligned hiAligned below
        have visits : ∀ a, InWords p hi a ↔ a = p ∨ InWords (p + 4) hi a := fun _ =>
          inWords_iff_of_lt pAligned hiAligned below
        have sameSource : ∀ a, src + 4 + (a - (p + 4)) = src + (a - p) := fun _ => by ring
        have readsApart : ∀ a, InWords p hi a → src + (a - p) ≠ p := fun a inside same =>
          apart a inside (by rw [same]; exact (visits p).mpr (Or.inl rfl))
        rw [copyWords_eq hiAligned fuel (src + 4) (p + 4) _ (by omega) (by omega)
          (fun a later => by
            rw [sameSource]
            exact fun inLater => apart a ((visits a).mpr (Or.inr later))
              ((visits _).mpr (Or.inr inLater)))]
        congr 1
        funext a
        simp only [copiedWords]
        by_cases atP : a = p
        · subst atP
          have notLater : ¬ InWords (a + 4) hi a := fun later => by
            simp only [InWords, next] at later
            omega
          rw [if_neg notLater, if_pos ((visits a).mpr (Or.inl rfl)), Function.update_same,
            sub_self, add_zero]
        · by_cases inside : InWords p hi a
          · rw [if_pos (((visits a).mp inside).resolve_left atP), if_pos inside, sameSource,
              Function.update_noteq (readsApart a inside)]
          · have notLater : ¬ InWords (p + 4) hi a := fun later =>
              inside ((visits a).mpr (Or.inr later))
            rw [if_neg notLater, if_neg inside, Function.update_noteq atP]
      case isFalse above =>
        congr 1
        funext a
        simp only [copiedWords, if_neg (not_inWords_of_le above)]

end WordLoops

/-- The NVIC loop disables, then clears, each line below its bound, in increasing order. -/
theorem disableIrqs_eq_flatMap
    (count : Nat) :
    disableIrqs count =
      (List.range count).flatMap fun irqn => [.nvicDisableirq irqn, .nvicClearPendingirq irqn] := by
  induction count with
  | zero =>
      rfl
  | succ count inductionHypothesis =>
      rw [disableIrqs, List.range_succ, List.flatMap_append, inductionHypothesis]
      rfl

/-- Setting `MSP` and memory keeps `PRIMASK`. -/
@[simp]
theorem Machine.primask_update_msp_mem
    (m : Machine)
    (msp : BitVec 32)
    (mem : Memory) :
    ({ m with msp := msp, mem := mem } : Machine).primask = m.primask :=
  rfl

section ResetHandler

variable {env : BootEnv} {layout : BootLayout} {m : Machine}

/-- Routines that never unmask interrupts leave them masked after any number of calls. -/
theorem runBootCalls_primask
    (keepsMask : ∀ call machine, machine.primask = true → (env call machine).primask = true) :
    ∀ (calls : List BootCall) (machine : Machine), machine.primask = true →
      (runBootCalls env calls machine).primask = true
  | [], _, masked =>
      masked
  | call :: calls, machine, masked =>
      runBootCalls_primask keepsMask calls _ (keepsMask call machine masked)

/--
`Reset_Handler` with its loops replaced by what they compute, when the copy of `.data`
reads no word it writes.
-/
theorem resetHandler_eq
    (env : BootEnv)
    (layout : BootLayout)
    (m : Machine)
    (noClobber :
      ∀ a, layout.data.Contains a →
        ¬ layout.data.Contains (layout.sidata + (a - layout.data.start))) :
    resetHandler env layout m =
      (resetCalls ++ [.entrypoint],
        some { runBootCalls env resetCalls m.cpsid with
          msp := Function.update (runBootCalls env resetCalls m.cpsid).mem scbVtor
            layout.vtorTable layout.vtorTable,
          mem := copiedWords layout.data.start layout.data.stop layout.sidata
            (zeroedWords layout.bss.start layout.bss.stop
              (grantFpu layout.fpuUsed (Function.update (runBootCalls env resetCalls m.cpsid).mem
                scbVtor layout.vtorTable))) }) := by
  simp only [resetHandler]
  rw [clearWords_eq layout.bss.stopAligned _ _ _ layout.bss.startAligned
      (words_lt_wordLoopFuel _ _), Option.bind_eq_bind, Option.some_bind,
    copyWords_eq layout.data.stopAligned _ _ _ _ layout.data.startAligned
      (words_lt_wordLoopFuel _ _) noClobber]

/--
On a layout that keeps its sections apart, the load-image word of a `.data` word lies at
the same offset past `_sidata`, below the private peripheral bus and outside `.bss` and
`.data`.
-/
theorem BootLayout.Apart.imageWord
    (apart : layout.Apart)
    {a : BitVec 32}
    (inData : layout.data.Contains a) :
    ¬ layout.bss.Contains (layout.sidata + (a - layout.data.start)) ∧
      ¬ layout.data.Contains (layout.sidata + (a - layout.data.start)) ∧
      (layout.sidata + (a - layout.data.start)).toNat < 0xE0000000 := by
  obtain ⟨-, imageBss, imageData, -, -, fits, -⟩ := apart
  simp only [WordRange.Contains, InWords, WordRange.size] at inData imageBss imageData fits ⊢
  have offset : (layout.sidata + (a - layout.data.start)).toNat =
      layout.sidata.toNat + (a.toNat - layout.data.start.toNat) := by
    simp only [BitVec.toNat_add, BitVec.toNat_sub, Nat.reducePow]
    omega
  rw [offset]
  refine ⟨?_, ?_, ?_⟩ <;> omega

/-- A word at or above the private peripheral bus is not the vector table's. -/
theorem ne_of_le_toNat
    {a b : BitVec 32}
    (below : a.toNat < 0xE0000000)
    (above : 0xE0000000 ≤ b.toNat) :
    a ≠ b := fun same => by
  rw [same] at below
  omega

/--
A layout of the kind the kernel's linker script gives: `.data` and `.bss` in SRAM, the load
image and the vector table in flash, with the FPU in use.
-/
def flashBootLayout : BootLayout where
  bss := ⟨0x20000400, 0x20000800, by decide, by decide⟩
  data := ⟨0x20000000, 0x20000400, by decide, by decide⟩
  sidata := 0x08010000
  vtorTable := 0x08000000
  fpuUsed := true

/-- A machine with every register and word of memory zero. -/
def zeroMachine : Machine :=
  ⟨fun _ => 0, 0, 0, 0, false, false, false, fun _ => 0⟩

/--
Routines as a board support package may write them: each call stores to the NVIC or
SysTick register it is named for and leaves scratch values in `r0`-`r3` and `lr`.
-/
def nvicWritingEnv : BootEnv := fun call machine =>
  { machine with
    reg := fun r =>
      if r = .r0 ∨ r = .r1 ∨ r = .r2 ∨ r = .r3 ∨ r = .lr then 0 else machine.reg r
    mem :=
      match call with
      | .nvicDisableirq irqn =>
          Function.update machine.mem (0xE000E180 + BitVec.ofNat 32 (4 * (irqn / 32)))
            (1 <<< (irqn % 32))
      | .nvicClearPendingirq irqn =>
          Function.update machine.mem (0xE000E280 + BitVec.ofNat 32 (4 * (irqn / 32)))
            (1 <<< (irqn % 32))
      | .systickStopAndClear =>
          Function.update machine.mem 0xE000E010 0
      | .entrypoint =>
          machine.mem }

end ResetHandler

end SentryKernel
