import SentryKernel.Mmio
import SentryKernel.TaskMeta

namespace SentryKernel

/-!
# The STM32F4 clock driver

`clk_set_system_clk` brings the system clock up in stages, each a read-modify-write of an
`RCC` register, and for the oscillator and the PLL a bounded poll of a hardware flag: start
the high-speed oscillator (external or internal) and wait for its ready flag; enable the
power controller's clock and raise the regulator scale; set the bus dividers; then, with
the PLL, program it, start it, wait for it to lock, select it as system clock and wait for
the switch to be reported.  A poll that runs out returns `K_ERROR_NOTREADY` at once.
`rcc_enable` and `rcc_disable` set or clear a peripheral's clock bits in the enable
register of its bus, which `rcc_get_register` computes from the bus identifier.

Register offsets, flag masks and bit-field positions come from headers generated for the
target, which are not in the sources: `RccDefs` takes them as parameters, so each result
holds for every layout, with the layout facts it needs as hypotheses.  The stages of
`clk_set_system_clk` are definitions of their own, each a contiguous block of the source.
-/

/--
The constants the clock driver takes from its generated headers (`rcc_defs.h`,
`pwr_defs.h`, `buses.h`, `clk.h`), the bit-fields of `rcc_cfgr_t` and `rcc_pllcfgr_t`, and
the code of `K_ERROR_NOTREADY`.
-/
structure RccDefs where
  rccBaseAddr : BitVec 32
  rccCrReg : BitVec 32
  rccPllcfgrReg : BitVec 32
  rccCfgrReg : BitVec 32
  rccCirReg : BitVec 32
  rccAhb1enrReg : BitVec 32
  rccApb1enrReg : BitVec 32
  rccAhb1lpenrReg : BitVec 32
  rccCrHsion : BitVec 32
  rccCrHsirdy : BitVec 32
  rccCrHseon : BitVec 32
  rccCrHserdy : BitVec 32
  rccCrHsebyp : BitVec 32
  rccCrCsson : BitVec 32
  rccCrPllon : BitVec 32
  rccCrPllrdy : BitVec 32
  rccApb1enrPwren : BitVec 32
  rccCfgrSws0 : BitVec 32
  rccCfgrSws1 : BitVec 32
  cfgrHpre : BitField
  cfgrPpre1 : BitField
  cfgrPpre2 : BitField
  cfgrSw0 : BitField
  cfgrSw1 : BitField
  pllcfgrPllm4 : BitField
  pllcfgrPllp1 : BitField
  pllcfgrPllq0 : BitField
  pllcfgrPllq1 : BitField
  pllcfgrPllq2 : BitField
  pllcfgrPllsrc : BitField
  pwrBaseAddr : BitVec 32
  pwrCrReg : BitVec 32
  pwrCrVosMask : BitVec 32
  busApb1 : Nat
  rccLpconfig : Nat
  kErrorNotready : Nat

namespace RccDefs

/-- `RCC_BASE_ADDR + RCC_CR_REG`. -/
def cr
    (d : RccDefs) :
    BitVec 32 :=
  d.rccBaseAddr + d.rccCrReg

/-- `RCC_BASE_ADDR + RCC_CFGR_REG`. -/
def cfgr
    (d : RccDefs) :
    BitVec 32 :=
  d.rccBaseAddr + d.rccCfgrReg

/-- `RCC_BASE_ADDR + RCC_PLLCFGR_REG`. -/
def pllcfgr
    (d : RccDefs) :
    BitVec 32 :=
  d.rccBaseAddr + d.rccPllcfgrReg

/-- `RCC_BASE_ADDR + RCC_APB1ENR_REG`. -/
def apb1enr
    (d : RccDefs) :
    BitVec 32 :=
  d.rccBaseAddr + d.rccApb1enrReg

/-- `RCC_BASE_ADDR + RCC_CIR_REG`. -/
def cir
    (d : RccDefs) :
    BitVec 32 :=
  d.rccBaseAddr + d.rccCirReg

/-- `PWR_BASE_ADDR + PWR_CR_REG`, the power controller's control register. -/
def pwrCr
    (d : RccDefs) :
    BitVec 32 :=
  d.pwrBaseAddr + d.pwrCrReg

/-- The ready flag of the oscillator `clk_set_system_clk` starts. -/
def oscillatorReady
    (d : RccDefs)
    (enableHse : Bool) :
    BitVec 32 :=
  if enableHse then d.rccCrHserdy else d.rccCrHsirdy

/-- The enable bit of the oscillator `clk_set_system_clk` starts. -/
def oscillatorOn
    (d : RccDefs)
    (enableHse : Bool) :
    BitVec 32 :=
  if enableHse then d.rccCrHseon else d.rccCrHsion

end RccDefs

/-- `HSE_STARTUP_TIMEOUT`. -/
def hseStartupTimeout : Nat :=
  0x0500

/-- `HSI_STARTUP_TIMEOUT`. -/
def hsiStartupTimeout : Nat :=
  0x0500

/-- `PLL_STARTUP_TIMEOUT`. -/
def pllStartupTimeout : Nat :=
  0x0500

/-- `clk_get_core_frequency`: `PROD_CORE_FREQUENCY*1000`, in Hz. -/
def clkGetCoreFrequency : Nat :=
  168000 * 1000

/-- `clk_reset`. -/
def clkReset
    (d : RccDefs)
    (hw : Hardware) :
    KRun MmioAccess Unit := do
  let reg ← ioread32 hw d.cr
  iowrite32 d.cr (reg ||| 1)
  iowrite32 d.cfgr 0
  let reg ← ioread32 hw d.cr
  iowrite32 d.cr (reg &&& ~~~(d.rccCrHseon ||| d.rccCrCsson ||| d.rccCrPllon))
  iowrite32 d.rccPllcfgrReg 0x24003010
  let reg ← ioread32 hw d.cr
  iowrite32 d.cr (reg &&& ~~~d.rccCrHsebyp)
  iowrite32 d.cir 0

/--
The oscillator's poll, `do { reg = ioread32(addr) & mask; StartUpCounter++; } while
(reg == 0 && StartUpCounter != timeout);`, with `left` polls after this one before the
counter reaches the timeout: the last masked read.
-/
def waitOscillator
    (hw : Hardware)
    (addr mask : BitVec 32) :
    Nat → KRun MmioAccess (BitVec 32)
  | 0 => do
      let reg ← ioread32 hw addr
      pure (reg &&& mask)
  | left + 1 => do
      let reg ← ioread32 hw addr
      if reg &&& mask = 0 then
        waitOscillator hw addr mask left
      else
        pure (reg &&& mask)

/--
A branch of the `enable_hse` test: set the oscillator's enable bit in `RCC_CR`, then poll
its ready flag, `timeout` times at most.
-/
def startOscillator
    (d : RccDefs)
    (hw : Hardware)
    (enable ready : BitVec 32)
    (timeout : Nat) :
    KRun MmioAccess (BitVec 32) := do
  let reg ← ioread32 hw d.cr
  iowrite32 d.cr (reg ||| enable)
  waitOscillator hw d.cr ready (timeout - 1)

/--
Enable the power controller's clock, raise the regulator scale, and set the bus dividers.
The scale is read from `PWR_BASE_ADDR + PWR_CR_REG` and written back at
`RCC_BASE_ADDR + PWR_CR_REG`, as the source does.
-/
def setPowerAndDividers
    (d : RccDefs)
    (hw : Hardware) :
    KRun MmioAccess Unit := do
  let reg ← ioread32 hw d.apb1enr
  iowrite32 d.apb1enr (reg ||| d.rccApb1enrPwren)
  let reg ← ioread32 hw d.pwrCr
  iowrite32 (d.rccBaseAddr + d.pwrCrReg) (reg ||| d.pwrCrVosMask)
  let reg ← ioread32 hw d.cfgr
  iowrite32 d.cfgr (d.cfgrPpre2.set (d.cfgrPpre1.set (d.cfgrHpre.set reg 0) 5) 4)

/--
The PLL's polls, `do { reg = ioread32(addr); if (ready(reg)) break; StartUpCounter++; }
while (StartUpCounter < PLL_STARTUP_TIMEOUT);` from `StartUpCounter = counter`, with `left`
polls after this one: the final counter.
-/
def waitPll
    (hw : Hardware)
    (addr : BitVec 32)
    (ready : BitVec 32 → Bool) :
    Nat → Nat → KRun MmioAccess Nat
  | counter, 0 => do
      let reg ← ioread32 hw addr
      pure (if ready reg then counter else counter + 1)
  | counter, left + 1 => do
      let reg ← ioread32 hw addr
      if ready reg then
        pure counter
      else
        waitPll hw addr ready (counter + 1) left

/--
The PLL configuration word: `reg.raw = 0`, then `pllm4`, `pllp1` and `pllq0`-`pllq2` set,
and `pllsrc` with the external oscillator.
-/
def pllcfgrValue
    (d : RccDefs)
    (enableHse : Bool) :
    BitVec 32 :=
  let reg :=
    d.pllcfgrPllq2.set (d.pllcfgrPllq1.set (d.pllcfgrPllq0.set
      (d.pllcfgrPllp1.set (d.pllcfgrPllm4.set 0 1) 1) 1) 1) 1
  if enableHse then d.pllcfgrPllsrc.set reg 1 else reg

/-- Program the main PLL, start it and wait for it to lock: the final `StartUpCounter`. -/
def startPll
    (d : RccDefs)
    (hw : Hardware)
    (enableHse : Bool) :
    KRun MmioAccess Nat := do
  iowrite32 d.pllcfgr (pllcfgrValue d enableHse)
  let reg ← ioread32 hw d.cr
  iowrite32 d.cr (reg ||| d.rccCrPllon)
  waitPll hw d.cr (fun reg => reg &&& d.rccCrPllrdy != 0) 0 (pllStartupTimeout - 1)

/--
Select the PLL as system clock (`sw1 = 1`, `sw0 = 0`) and wait until `RCC_CFGR` reports
`(reg & (SWS0 | SWS1)) == SWS0`: the final `StartUpCounter`.
-/
def selectPll
    (d : RccDefs)
    (hw : Hardware) :
    KRun MmioAccess Nat := do
  let reg ← ioread32 hw d.cfgr
  iowrite32 d.cfgr (d.cfgrSw1.set (d.cfgrSw0.set reg 0) 1)
  waitPll hw d.cfgr (fun reg => reg &&& (d.rccCfgrSws0 ||| d.rccCfgrSws1) == d.rccCfgrSws0) 0
    (pllStartupTimeout - 1)

/-- `clk_set_system_clk(enable_hse, enable_pll)`. -/
def clkSetSystemClk
    (d : RccDefs)
    (hw : Hardware)
    (enableHse enablePll : Bool) :
    KRun MmioAccess KStatus := do
  let ready ←
    (if enableHse then
      startOscillator d hw d.rccCrHseon d.rccCrHserdy hseStartupTimeout
    else
      startOscillator d hw d.rccCrHsion d.rccCrHsirdy hsiStartupTimeout)
  if ready = 0 then
    pure (.other d.kErrorNotready)
  else do
    setPowerAndDividers d hw
    if enablePll then do
      let locked ← startPll d hw enableHse
      if locked = pllStartupTimeout then
        pure (.other d.kErrorNotready)
      else do
        let switched ← selectPll d hw
        if switched = pllStartupTimeout then
          pure (.other d.kErrorNotready)
        else
          pure .okay
    else
      pure .okay

/-- The first enable register of the bank `flags` selects: low-power or nominal. -/
def RccDefs.enableBank
    (d : RccDefs)
    (flags : Nat) :
    BitVec 32 :=
  if flags &&& d.rccLpconfig ≠ 0 then
    d.rccBaseAddr + d.rccAhb1lpenrReg
  else
    d.rccBaseAddr + d.rccAhb1enrReg

/-- `rcc_get_register(busid, flags)`: the enable register of a bus, in the bank of `flags`. -/
def rccGetRegister
    (d : RccDefs)
    (busid flags : Nat) :
    BitVec 32 :=
  if busid < d.busApb1 then
    d.enableBank flags + BitVec.ofNat 32 (busid * 4)
  else
    d.enableBank flags + (d.rccApb1enrReg - d.rccAhb1enrReg) +
      BitVec.ofNat 32 ((busid - d.busApb1) * 4)

/-- `rcc_enable(busid, clk_msk, flags)`. -/
def rccEnable
    (d : RccDefs)
    (hw : Hardware)
    (busid : Nat)
    (clkMsk : BitVec 32)
    (flags : Nat) :
    KRun MmioAccess KStatus := do
  let regBase := rccGetRegister d busid flags
  let reg ← ioread32 hw regBase
  iowrite32 regBase (reg ||| clkMsk)
  pure .okay

/-- `rcc_disable(busid, clk_msk, flags)`. -/
def rccDisable
    (d : RccDefs)
    (hw : Hardware)
    (busid : Nat)
    (clkMsk : BitVec 32)
    (flags : Nat) :
    KRun MmioAccess KStatus := do
  let regBase := rccGetRegister d busid flags
  let reg ← ioread32 hw regBase
  iowrite32 regBase (reg &&& ~~~clkMsk)
  pure .okay

section Polls

variable {hw : Hardware} {addr : BitVec 32} {targets : List (BitVec 32)}

/-- The oscillator's poll only reads. -/
theorem waitOscillator_appends
    (mask : BitVec 32) :
    ∀ left, KRun.Appends (MmioAccess.WritesWithin targets) (waitOscillator hw addr mask left)
  | 0 =>
      KRun.appends_bind (appends_ioread32 _) fun _ => KRun.appends_pure _
  | left + 1 =>
      KRun.appends_bind (appends_ioread32 _) fun _ =>
        KRun.appends_ite (waitOscillator_appends mask left) (KRun.appends_pure _)

/-- The PLL's polls only read. -/
theorem waitPll_appends
    (ready : BitVec 32 → Bool) :
    ∀ counter left,
      KRun.Appends (MmioAccess.WritesWithin targets) (waitPll hw addr ready counter left)
  | _, 0 =>
      KRun.appends_bind (appends_ioread32 _) fun _ => KRun.appends_pure _
  | counter, left + 1 =>
      KRun.appends_bind (appends_ioread32 _) fun _ =>
        KRun.appends_ite (KRun.appends_pure _) (waitPll_appends ready (counter + 1) left)

/--
An oscillator that never reports ready is polled `left + 1` times, and the poll gives
back `0`.
-/
theorem waitOscillator_of_silent
    {mask : BitVec 32}
    (silent : ∀ accesses, hw accesses addr &&& mask = 0) :
    ∀ (left : Nat) (done : List MmioAccess), ∃ polls,
      waitOscillator hw addr mask left done = (done ++ polls, some 0) ∧
        polls.length = left + 1 ∧ ∀ access ∈ polls, ∃ value, access = .read addr value
  | 0, done =>
      ⟨[.read addr (hw done addr)], by simp [waitOscillator, silent], rfl, by simp⟩
  | left + 1, done => by
      obtain ⟨polls, run, length, reads⟩ :=
        waitOscillator_of_silent silent left (done ++ [.read addr (hw done addr)])
      refine ⟨.read addr (hw done addr) :: polls, ?_, by simp [length], ?_⟩
      · simp only [waitOscillator, ioread32_bind, silent, ↓reduceIte, run, List.append_assoc,
          List.singleton_append]
      · simpa using reads

/-- An oscillator poll that gives back a set flag made a read that saw it set. -/
theorem waitOscillator_ready
    {mask : BitVec 32} :
    ∀ {left : Nat} {done after : List MmioAccess} {flag : BitVec 32},
      waitOscillator hw addr mask left done = (after, some flag) → flag ≠ 0 →
        ∃ rest, after = done ++ rest ∧
          ∃ value, .read addr value ∈ rest ∧ value &&& mask ≠ 0
  | 0, done, after, flag, run, flagSet => by
      simp only [waitOscillator, ioread32_bind, KRun.pure_apply, Prod.mk.injEq,
        Option.some.injEq] at run
      obtain ⟨rfl, rfl⟩ := run
      exact ⟨_, rfl, _, List.mem_singleton_self _, flagSet⟩
  | left + 1, done, after, flag, run, flagSet => by
      simp only [waitOscillator, ioread32_bind] at run
      split at run
      case isTrue =>
        obtain ⟨rest, rfl, value, found, isSet⟩ := waitOscillator_ready run flagSet
        exact ⟨.read addr (hw done addr) :: rest, by simp, value,
          List.mem_cons_of_mem _ found, isSet⟩
      case isFalse readySet =>
        simp only [KRun.pure_apply, Prod.mk.injEq] at run
        exact ⟨_, run.1.symm, _, List.mem_singleton_self _, readySet⟩

/--
A PLL poll started after `start` whose reads never see its flag runs the counter up to the
timeout.
-/
theorem waitPll_of_never_ready
    {ready : BitVec 32 → Bool}
    {start : List MmioAccess}
    (never : ∀ reads : List MmioAccess,
      (∀ access ∈ reads, ∃ value, access = .read addr value) →
      ready (hw (start ++ reads) addr) = false) :
    ∀ (counter left : Nat) (reads : List MmioAccess),
      (∀ access ∈ reads, ∃ value, access = .read addr value) →
        (waitPll hw addr ready counter left (start ++ reads)).2 = some (counter + left + 1)
  | counter, 0, reads, onlyReads => by
      simp [waitPll, never reads onlyReads]
  | counter, left + 1, reads, onlyReads => by
      have moreReads : ∀ access ∈ reads ++ [.read addr (hw (start ++ reads) addr)],
          ∃ value, access = .read addr value := by
        simp only [List.mem_append, List.mem_singleton]
        rintro access (early | rfl)
        exacts [onlyReads access early, ⟨_, rfl⟩]
      simp only [waitPll, ioread32_bind, never reads onlyReads, Bool.false_eq_true, ↓reduceIte,
        List.append_assoc, waitPll_of_never_ready never (counter + 1) left _ moreReads]
      congr 2
      omega

/-- A PLL poll that stops short of the timeout made a read that saw its flag. -/
theorem waitPll_ready
    {ready : BitVec 32 → Bool} :
    ∀ {counter left : Nat} {done after : List MmioAccess} {final : Nat},
      waitPll hw addr ready counter left done = (after, some final) →
        final ≠ counter + left + 1 →
          ∃ rest, after = done ++ rest ∧ ∃ value, .read addr value ∈ rest ∧ ready value
  | counter, 0, done, after, final, run, early => by
      simp only [waitPll, ioread32_bind, KRun.pure_apply, Prod.mk.injEq,
        Option.some.injEq] at run
      obtain ⟨rfl, rfl⟩ := run
      split at early
      case isTrue seen =>
        exact ⟨_, rfl, _, List.mem_singleton_self _, seen⟩
      case isFalse =>
        exact absurd rfl early
  | counter, left + 1, done, after, final, run, early => by
      simp only [waitPll, ioread32_bind] at run
      split at run
      case isTrue seen =>
        simp only [KRun.pure_apply, Prod.mk.injEq] at run
        exact ⟨_, run.1.symm, _, List.mem_singleton_self _, seen⟩
      case isFalse =>
        obtain ⟨rest, rfl, value, found, seen⟩ := waitPll_ready run (by omega)
        exact ⟨.read addr (hw done addr) :: rest, by simp, value,
          List.mem_cons_of_mem _ found, seen⟩

end Polls

/-- The registers `clk_set_system_clk` may write. -/
def RccDefs.systemClockTargets
    (d : RccDefs) :
    List (BitVec 32) :=
  [d.cr, d.apb1enr, d.rccBaseAddr + d.pwrCrReg, d.cfgr, d.pllcfgr]

/--
The STM32F429 registers as RM0090 lays them out, with the buses AHB1, AHB2, AHB3, APB1 and
APB2 numbered from 0; `RCC_LPCONFIG` and the status code are chosen for the example.
-/
def stm32f4Rcc : RccDefs where
  rccBaseAddr := 0x40023800
  rccCrReg := 0x00
  rccPllcfgrReg := 0x04
  rccCfgrReg := 0x08
  rccCirReg := 0x0C
  rccAhb1enrReg := 0x30
  rccApb1enrReg := 0x40
  rccAhb1lpenrReg := 0x50
  rccCrHsion := 0x00000001
  rccCrHsirdy := 0x00000002
  rccCrHseon := 0x00010000
  rccCrHserdy := 0x00020000
  rccCrHsebyp := 0x00040000
  rccCrCsson := 0x00080000
  rccCrPllon := 0x01000000
  rccCrPllrdy := 0x02000000
  rccApb1enrPwren := 0x10000000
  rccCfgrSws0 := 0x4
  rccCfgrSws1 := 0x8
  cfgrHpre := ⟨4, 4⟩
  cfgrPpre1 := ⟨10, 3⟩
  cfgrPpre2 := ⟨13, 3⟩
  cfgrSw0 := ⟨0, 1⟩
  cfgrSw1 := ⟨1, 1⟩
  pllcfgrPllm4 := ⟨4, 1⟩
  pllcfgrPllp1 := ⟨17, 1⟩
  pllcfgrPllq0 := ⟨24, 1⟩
  pllcfgrPllq1 := ⟨25, 1⟩
  pllcfgrPllq2 := ⟨26, 1⟩
  pllcfgrPllsrc := ⟨22, 1⟩
  pwrBaseAddr := 0x40007000
  pwrCrReg := 0x00
  pwrCrVosMask := 0xC000
  busApb1 := 3
  rccLpconfig := 1
  kErrorNotready := 1

/-- A device on which every register reads zero: no oscillator ever becomes ready. -/
def silentHardware : Hardware :=
  fun _ _ => 0

/-- A clock controller that reports every flag set, and `SWS0` alone in `RCC_CFGR`. -/
def readyHardware : Hardware :=
  fun _ addr => if addr = stm32f4Rcc.cfgr then 0x4 else 0xFFFFFFFF

/--
A clock controller started cold: every ready flag reads set, and `RCC_CFGR` reports the
internal oscillator (`SWS = 0b00`) until a write has set `SW` to `0b10`, the PLL, and the PLL
(`SWS1` alone) from then on.
-/
def pllAfterSwitchHardware : Hardware := fun accesses addr =>
  if addr = stm32f4Rcc.cfgr then
    if accesses.any fun access =>
        match access with
        | .write target value => target == stm32f4Rcc.cfgr && value &&& 3 == 2
        | .read _ _ => false then
      0x8
    else
      0x0
  else
    0xFFFFFFFF

/-- On the STM32F4 layout, the clock switch writes `0b10`, the PLL, to `SW`. -/
theorem stm32f4_switch_selects_pll
    (raw : BitVec 32) :
    stm32f4Rcc.cfgrSw1.set (stm32f4Rcc.cfgrSw0.set raw 0) 1 &&& 3 = 2 := by
  apply BitVec.eq_of_getLsbD_eq
  intro ⟨i, below⟩
  rcases i with _ | _ | i <;>
    simp [BitField.set, BitField.mask, stm32f4Rcc, BitVec.getLsbD_and, BitVec.getLsbD_or,
      BitVec.getLsbD_ofNat, Nat.testBit_succ]

section SystemClock

variable {d : RccDefs} {hw : Hardware}

theorem startOscillator_apply
    (enable ready : BitVec 32)
    (timeout : Nat)
    (done : List MmioAccess) :
    startOscillator d hw enable ready timeout done =
      waitOscillator hw d.cr ready (timeout - 1)
        (done ++ [.read d.cr (hw done d.cr)] ++ [.write d.cr (hw done d.cr ||| enable)]) :=
  rfl

theorem startPll_apply
    (enableHse : Bool)
    (done : List MmioAccess) :
    startPll d hw enableHse done =
      waitPll hw d.cr (fun reg => reg &&& d.rccCrPllrdy != 0) 0 (pllStartupTimeout - 1)
        (done ++ [.write d.pllcfgr (pllcfgrValue d enableHse)] ++
          [.read d.cr (hw (done ++ [.write d.pllcfgr (pllcfgrValue d enableHse)]) d.cr)] ++
          [.write d.cr (hw (done ++ [.write d.pllcfgr (pllcfgrValue d enableHse)]) d.cr |||
            d.rccCrPllon)]) :=
  rfl

theorem selectPll_apply
    (done : List MmioAccess) :
    selectPll d hw done =
      waitPll hw d.cfgr
        (fun reg => reg &&& (d.rccCfgrSws0 ||| d.rccCfgrSws1) == d.rccCfgrSws0) 0
        (pllStartupTimeout - 1)
        (done ++ [.read d.cfgr (hw done d.cfgr)] ++
          [.write d.cfgr (d.cfgrSw1.set (d.cfgrSw0.set (hw done d.cfgr) 0) 1)]) :=
  rfl

theorem startOscillator_appends
    (enable ready : BitVec 32)
    (timeout : Nat) :
    KRun.Appends (MmioAccess.WritesWithin d.systemClockTargets)
      (startOscillator d hw enable ready timeout) :=
  KRun.appends_bind (appends_ioread32 _) fun _ =>
    KRun.appends_bind (appends_iowrite32 _ (by simp [RccDefs.systemClockTargets])) fun _ =>
      waitOscillator_appends _ _

theorem setPowerAndDividers_appends :
    KRun.Appends (MmioAccess.WritesWithin d.systemClockTargets) (setPowerAndDividers d hw) :=
  KRun.appends_bind (appends_ioread32 _) fun _ =>
    KRun.appends_bind (appends_iowrite32 _ (by simp [RccDefs.systemClockTargets])) fun _ =>
      KRun.appends_bind (appends_ioread32 _) fun _ =>
        KRun.appends_bind (appends_iowrite32 _ (by simp [RccDefs.systemClockTargets])) fun _ =>
          KRun.appends_bind (appends_ioread32 _) fun _ =>
            appends_iowrite32 _ (by simp [RccDefs.systemClockTargets])

theorem startPll_appends
    (enableHse : Bool) :
    KRun.Appends (MmioAccess.WritesWithin d.systemClockTargets) (startPll d hw enableHse) :=
  KRun.appends_bind (appends_iowrite32 _ (by simp [RccDefs.systemClockTargets])) fun _ =>
    KRun.appends_bind (appends_ioread32 _) fun _ =>
      KRun.appends_bind (appends_iowrite32 _ (by simp [RccDefs.systemClockTargets])) fun _ =>
        waitPll_appends _ _ _

theorem selectPll_appends :
    KRun.Appends (MmioAccess.WritesWithin d.systemClockTargets) (selectPll d hw) :=
  KRun.appends_bind (appends_ioread32 _) fun _ =>
    KRun.appends_bind (appends_iowrite32 _ (by simp [RccDefs.systemClockTargets])) fun _ =>
      waitPll_appends _ _ _

/-- Every write of `clk_set_system_clk` goes to one of `systemClockTargets`. -/
theorem clkSetSystemClk_appends
    (enableHse enablePll : Bool) :
    KRun.Appends (MmioAccess.WritesWithin d.systemClockTargets)
      (clkSetSystemClk d hw enableHse enablePll) :=
  KRun.appends_bind (KRun.appends_ite (startOscillator_appends _ _ _)
      (startOscillator_appends _ _ _)) fun _ =>
    KRun.appends_ite (KRun.appends_pure _) <|
      KRun.appends_bind setPowerAndDividers_appends fun _ =>
        KRun.appends_ite
          (KRun.appends_bind (startPll_appends _) fun _ =>
            KRun.appends_ite (KRun.appends_pure _) <|
              KRun.appends_bind selectPll_appends fun _ =>
                KRun.appends_ite (KRun.appends_pure _) (KRun.appends_pure _))
          (KRun.appends_pure _)

/--
`clk_set_system_clk` never writes the power controller's `PWR_CR`, whatever the hardware
answers: it reads the regulator scale at `PWR_BASE_ADDR + PWR_CR_REG` and writes it back at
`RCC_BASE_ADDR + PWR_CR_REG`, so the scale is never set, as long as `PWR_CR` is none of the
`RCC` registers the routine writes.
-/
theorem clkSetSystemClk_never_writes_pwrCr
    (pwrApart : d.pwrCr ∉ d.systemClockTargets)
    (enableHse enablePll : Bool)
    (done : List MmioAccess) :
    ∃ rest, (clkSetSystemClk d hw enableHse enablePll done).1 = done ++ rest ∧
      ∀ value, .write d.pwrCr value ∉ rest := by
  obtain ⟨rest, run, within⟩ := @clkSetSystemClk_appends d hw enableHse enablePll done
  exact ⟨rest, run, fun value written => pwrApart (within _ written)⟩

/--
On the STM32F4 layout, with every flag ready, the routine runs through every stage and still
never writes `PWR_CR`: the scale goes to `RCC_BASE_ADDR + 0`, which is `RCC_CR`.
-/
theorem clkSetSystemClk_never_writes_pwrCr_on_stm32f4 :
    stm32f4Rcc.pwrCr ∉ stm32f4Rcc.systemClockTargets ∧
      ∃ rest, (clkSetSystemClk stm32f4Rcc readyHardware true true []).1 = [] ++ rest ∧
        ∀ value, .write stm32f4Rcc.pwrCr value ∉ rest :=
  have pwrApart : stm32f4Rcc.pwrCr ∉ stm32f4Rcc.systemClockTargets := by decide
  ⟨pwrApart, clkSetSystemClk_never_writes_pwrCr pwrApart true true []⟩

/--
When the oscillator never reports ready, `clk_set_system_clk` gives up with
`K_ERROR_NOTREADY` after its `0x0500` polls of `RCC_CR`, having written nothing but the
oscillator's enable bit.
-/
theorem clkSetSystemClk_of_silent_oscillator
    (enableHse enablePll : Bool)
    (done : List MmioAccess)
    (silent : ∀ accesses, hw accesses d.cr &&& d.oscillatorReady enableHse = 0) :
    ∃ polls,
      clkSetSystemClk d hw enableHse enablePll done =
          (done ++ .read d.cr (hw done d.cr) ::
              .write d.cr (hw done d.cr ||| d.oscillatorOn enableHse) :: polls,
            some (.other d.kErrorNotready)) ∧
        polls.length = 0x0500 ∧ ∀ access ∈ polls, ∃ value, access = .read d.cr value := by
  obtain ⟨polls, run, length, reads⟩ := waitOscillator_of_silent silent (0x0500 - 1)
    (done ++ [.read d.cr (hw done d.cr)] ++
      [.write d.cr (hw done d.cr ||| d.oscillatorOn enableHse)])
  refine ⟨polls, ?_, length, reads⟩
  cases enableHse <;>
    simp only [clkSetSystemClk, RccDefs.oscillatorReady, RccDefs.oscillatorOn,
      Bool.false_eq_true, ↓reduceIte] at run ⊢ <;>
    rw [KRun.bind_apply_of_some (by rw [startOscillator_apply]; exact run)] <;>
    simp

/-- On hardware that reads zero everywhere, the HSE never becomes ready. -/
theorem clkSetSystemClk_gives_up_on_silent_hse :
    (∀ accesses, silentHardware accesses stm32f4Rcc.cr &&& stm32f4Rcc.oscillatorReady true = 0) ∧
      ∃ polls,
        clkSetSystemClk stm32f4Rcc silentHardware true true [] =
            ([] ++ .read stm32f4Rcc.cr (silentHardware [] stm32f4Rcc.cr) ::
                .write stm32f4Rcc.cr
                  (silentHardware [] stm32f4Rcc.cr ||| stm32f4Rcc.oscillatorOn true) :: polls,
              some (.other stm32f4Rcc.kErrorNotready)) ∧
          polls.length = 0x0500 ∧ ∀ access ∈ polls, ∃ value, access = .read stm32f4Rcc.cr value :=
  have silent : ∀ accesses,
      silentHardware accesses stm32f4Rcc.cr &&& stm32f4Rcc.oscillatorReady true = 0 :=
    fun _ => BitVec.zero_and
  ⟨silent, clkSetSystemClk_of_silent_oscillator true true [] silent⟩

/-- The oscillator stage, when it gives back a set flag, made a read that saw it set. -/
theorem startOscillator_ready
    {enableHse : Bool}
    {done after : List MmioAccess}
    {flag : BitVec 32}
    (run :
      (if enableHse then startOscillator d hw d.rccCrHseon d.rccCrHserdy hseStartupTimeout
        else startOscillator d hw d.rccCrHsion d.rccCrHsirdy hsiStartupTimeout) done =
          (after, some flag))
    (flagSet : flag ≠ 0) :
    ∃ rest, after = done ++ rest ∧
      ∃ value, .read d.cr value ∈ rest ∧ value &&& d.oscillatorReady enableHse ≠ 0 := by
  cases enableHse <;>
    simp only [RccDefs.oscillatorReady, Bool.false_eq_true, ↓reduceIte,
      startOscillator_apply] at run ⊢ <;>
    obtain ⟨rest, rfl, value, seen, isSet⟩ := waitOscillator_ready run flagSet <;>
    exact ⟨_, (List.append_assoc _ _ _).trans (List.append_assoc _ _ _), value,
      by simp [seen], isSet⟩

/-- The PLL stage, when it stops short of the timeout, made a read that saw `PLLRDY`. -/
theorem startPll_ready
    {enableHse : Bool}
    {done after : List MmioAccess}
    {counter : Nat}
    (run : startPll d hw enableHse done = (after, some counter))
    (locks : counter ≠ pllStartupTimeout) :
    ∃ rest, after = done ++ rest ∧
      ∃ value, .read d.cr value ∈ rest ∧ value &&& d.rccCrPllrdy ≠ 0 := by
  rw [startPll_apply] at run
  obtain ⟨rest, rfl, value, seen, isSet⟩ :=
    waitPll_ready run (by simpa [pllStartupTimeout] using locks)
  exact ⟨_, (List.append_assoc _ _ _).trans ((List.append_assoc _ _ _).trans
    (List.append_assoc _ _ _)), value, by simp [seen], by simpa using isSet⟩

/--
The clock-switch stage, when it stops short of the timeout, made a read that saw `SWS0`
alone.
-/
theorem selectPll_ready
    {done after : List MmioAccess}
    {counter : Nat}
    (run : selectPll d hw done = (after, some counter))
    (switches : counter ≠ pllStartupTimeout) :
    ∃ rest, after = done ++ rest ∧ ∃ value, .read d.cfgr value ∈ rest ∧
      value &&& (d.rccCfgrSws0 ||| d.rccCfgrSws1) = d.rccCfgrSws0 := by
  rw [selectPll_apply] at run
  obtain ⟨rest, rfl, value, seen, isSet⟩ :=
    waitPll_ready run (by simpa [pllStartupTimeout] using switches)
  exact ⟨_, (List.append_assoc _ _ _).trans (List.append_assoc _ _ _), value, by simp [seen],
    by simpa using isSet⟩

/--
A run of `clk_set_system_clk` that reports success went through each stage: the oscillator
poll gave back a set flag, and with the PLL, both PLL polls stopped short of the timeout.
-/
theorem clkSetSystemClk_okay_stages
    {enableHse enablePll : Bool}
    {done after : List MmioAccess}
    (okay : clkSetSystemClk d hw enableHse enablePll done = (after, some .okay)) :
    ∃ started flag,
      (if enableHse then startOscillator d hw d.rccCrHseon d.rccCrHserdy hseStartupTimeout
        else startOscillator d hw d.rccCrHsion d.rccCrHsirdy hsiStartupTimeout) done =
          (started, some flag) ∧ flag ≠ 0 ∧
      ∃ powered, setPowerAndDividers d hw started = (powered, some ()) ∧
        (enablePll = false → after = powered) ∧
        (enablePll = true →
          ∃ locked counter, startPll d hw enableHse powered = (locked, some counter) ∧
            counter ≠ pllStartupTimeout ∧
            ∃ switched, selectPll d hw locked = (after, some switched) ∧
              switched ≠ pllStartupTimeout) := by
  obtain ⟨flag, started, oscillator, okay⟩ := KRun.bind_returns okay
  refine ⟨started, flag, oscillator, ?_⟩
  split at okay
  case isTrue =>
    simp at okay
  case isFalse flagSet =>
    obtain ⟨⟨⟩, powered, power, okay⟩ := KRun.bind_returns okay
    refine ⟨flagSet, powered, power, fun pllOff => ?_, fun pllOn => ?_⟩
    · simp only [pllOff, Bool.false_eq_true, ↓reduceIte, KRun.pure_apply, Prod.mk.injEq] at okay
      exact okay.1.symm
    · rw [if_pos pllOn] at okay
      obtain ⟨counter, locked, lock, okay⟩ := KRun.bind_returns okay
      split at okay
      case isTrue =>
        simp at okay
      case isFalse locks =>
        obtain ⟨switched, selected, select, okay⟩ := KRun.bind_returns okay
        split at okay
        case isTrue =>
          simp at okay
        case isFalse switches =>
          simp only [KRun.pure_apply, Prod.mk.injEq] at okay
          exact ⟨locked, counter, lock, locks, switched, okay.1 ▸ select, switches⟩

/--
`clk_set_system_clk` reports success only after the hardware acknowledged each stage: a
read of `RCC_CR` saw the oscillator's ready flag, and with the PLL, a read of `RCC_CR` saw
`PLLRDY` and a read of `RCC_CFGR` saw `(reg & (SWS0 | SWS1)) == SWS0`.
-/
theorem clkSetSystemClk_okay_acknowledged
    (enableHse enablePll : Bool)
    (done : List MmioAccess)
    (okay : (clkSetSystemClk d hw enableHse enablePll done).2 = some .okay) :
    ∃ rest, (clkSetSystemClk d hw enableHse enablePll done).1 = done ++ rest ∧
      (∃ value, .read d.cr value ∈ rest ∧ value &&& d.oscillatorReady enableHse ≠ 0) ∧
      (enablePll = true →
        (∃ value, .read d.cr value ∈ rest ∧ value &&& d.rccCrPllrdy ≠ 0) ∧
        ∃ value, .read d.cfgr value ∈ rest ∧
          value &&& (d.rccCfgrSws0 ||| d.rccCfgrSws1) = d.rccCfgrSws0) := by
  have run : clkSetSystemClk d hw enableHse enablePll done =
      ((clkSetSystemClk d hw enableHse enablePll done).1, some .okay) :=
    Prod.ext rfl okay
  obtain ⟨started, flag, oscillator, flagSet, powered, power, pllOff, pllOn⟩ :=
    clkSetSystemClk_okay_stages run
  obtain ⟨started, rfl, oscillatorSeen⟩ := startOscillator_ready oscillator flagSet
  obtain ⟨powerRest, powerLog, -⟩ := @setPowerAndDividers_appends d hw (done ++ started)
  rw [power] at powerLog
  subst powerLog
  obtain ⟨value, seen, isSet⟩ := oscillatorSeen
  cases enablePll
  case false =>
    exact ⟨started ++ powerRest, by rw [pllOff rfl, List.append_assoc],
      ⟨value, List.mem_append_left _ seen, isSet⟩, nofun⟩
  case true =>
    obtain ⟨locked, counter, lock, locks, switched, select, switches⟩ := pllOn rfl
    obtain ⟨lockRest, rfl, lockSeen⟩ := startPll_ready lock locks
    obtain ⟨switchRest, switchLog, switchValue, switchRead, switchSet⟩ :=
      selectPll_ready select switches
    obtain ⟨lockValue, lockRead, lockSet⟩ := lockSeen
    refine ⟨started ++ powerRest ++ lockRest ++ switchRest,
      by rw [switchLog]; simp only [List.append_assoc], ?_, fun _ => ⟨?_, ?_⟩⟩
    · exact ⟨value, by simp [seen], isSet⟩
    · exact ⟨lockValue, by simp [lockRead], lockSet⟩
    · exact ⟨switchValue, by simp [switchRead], switchSet⟩

/-- On hardware that reports every stage ready, the HSE and PLL path reports success. -/
theorem clkSetSystemClk_okay_acknowledged_on_ready_hardware :
    (clkSetSystemClk stm32f4Rcc readyHardware true true []).2 = some .okay ∧
      ∃ rest, (clkSetSystemClk stm32f4Rcc readyHardware true true []).1 = [] ++ rest ∧
        (∃ value, .read stm32f4Rcc.cr value ∈ rest ∧
          value &&& stm32f4Rcc.oscillatorReady true ≠ 0) ∧
        (true = true →
          (∃ value, .read stm32f4Rcc.cr value ∈ rest ∧ value &&& stm32f4Rcc.rccCrPllrdy ≠ 0) ∧
          ∃ value, .read stm32f4Rcc.cfgr value ∈ rest ∧
            value &&& (stm32f4Rcc.rccCfgrSws0 ||| stm32f4Rcc.rccCfgrSws1) =
              stm32f4Rcc.rccCfgrSws0) :=
  have okay : (clkSetSystemClk stm32f4Rcc readyHardware true true []).2 = some .okay := by
    decide
  ⟨okay, clkSetSystemClk_okay_acknowledged true true [] okay⟩

end SystemClock

section AccessBounds

variable {d : RccDefs} {hw : Hardware} {addr : BitVec 32}

/-- The oscillator's poll reads at most `left + 1` times. -/
theorem waitOscillator_appendsAtMost
    (mask : BitVec 32) :
    ∀ left, KRun.AppendsAtMost (left + 1) (waitOscillator hw addr mask left)
  | 0 =>
      (KRun.appendsAtMost_bind (appendsAtMost_ioread32 _) fun _ =>
        KRun.appendsAtMost_pure _).mono le_rfl
  | left + 1 =>
      (KRun.appendsAtMost_bind (appendsAtMost_ioread32 _) fun _ =>
        KRun.appendsAtMost_ite (waitOscillator_appendsAtMost mask left)
          (KRun.appendsAtMost_pure _)).mono (by omega)

/-- The PLL's polls read at most `left + 1` times. -/
theorem waitPll_appendsAtMost
    (ready : BitVec 32 → Bool) :
    ∀ counter left, KRun.AppendsAtMost (left + 1) (waitPll hw addr ready counter left)
  | _, 0 =>
      (KRun.appendsAtMost_bind (appendsAtMost_ioread32 _) fun _ =>
        KRun.appendsAtMost_pure _).mono le_rfl
  | counter, left + 1 =>
      (KRun.appendsAtMost_bind (appendsAtMost_ioread32 _) fun _ =>
        KRun.appendsAtMost_ite (KRun.appendsAtMost_pure _)
          (waitPll_appendsAtMost ready (counter + 1) left)).mono (by omega)

theorem startOscillator_appendsAtMost
    (enable ready : BitVec 32)
    (timeout : Nat) :
    KRun.AppendsAtMost (timeout - 1 + 3) (startOscillator d hw enable ready timeout) :=
  (KRun.appendsAtMost_bind (appendsAtMost_ioread32 _) fun _ =>
    KRun.appendsAtMost_bind (appendsAtMost_iowrite32 _ _) fun _ =>
      waitOscillator_appendsAtMost _ _).mono (by omega)

theorem setPowerAndDividers_appendsAtMost :
    KRun.AppendsAtMost 6 (setPowerAndDividers d hw) :=
  KRun.appendsAtMost_bind (appendsAtMost_ioread32 _) fun _ =>
    KRun.appendsAtMost_bind (appendsAtMost_iowrite32 _ _) fun _ =>
      KRun.appendsAtMost_bind (appendsAtMost_ioread32 _) fun _ =>
        KRun.appendsAtMost_bind (appendsAtMost_iowrite32 _ _) fun _ =>
          KRun.appendsAtMost_bind (appendsAtMost_ioread32 _) fun _ =>
            appendsAtMost_iowrite32 _ _

theorem startPll_appendsAtMost
    (enableHse : Bool) :
    KRun.AppendsAtMost (pllStartupTimeout + 3) (startPll d hw enableHse) :=
  (KRun.appendsAtMost_bind (appendsAtMost_iowrite32 _ _) fun _ =>
    KRun.appendsAtMost_bind (appendsAtMost_ioread32 _) fun _ =>
      KRun.appendsAtMost_bind (appendsAtMost_iowrite32 _ _) fun _ =>
        waitPll_appendsAtMost _ _ _).mono (by decide)

theorem selectPll_appendsAtMost :
    KRun.AppendsAtMost (pllStartupTimeout + 2) (selectPll d hw) :=
  (KRun.appendsAtMost_bind (appendsAtMost_ioread32 _) fun _ =>
    KRun.appendsAtMost_bind (appendsAtMost_iowrite32 _ _) fun _ =>
      waitPll_appendsAtMost _ _ _).mono (by decide)

/--
Every poll of `clk_set_system_clk` stops at its timeout, so whatever the hardware answers
the routine returns after at most `3 * 0x0500 + 13` register accesses: the oscillator's
start and polls, six accesses for the power controller and the dividers, and the PLL's
start, lock polls, clock switch and switch polls.
-/
theorem clkSetSystemClk_appendsAtMost
    (enableHse enablePll : Bool) :
    KRun.AppendsAtMost (max hseStartupTimeout hsiStartupTimeout + 2 * pllStartupTimeout + 13)
      (clkSetSystemClk d hw enableHse enablePll) :=
  (KRun.appendsAtMost_bind (KRun.appendsAtMost_ite (startOscillator_appendsAtMost _ _ _)
      (startOscillator_appendsAtMost _ _ _)) fun _ =>
    KRun.appendsAtMost_ite (KRun.appendsAtMost_pure _) <|
      KRun.appendsAtMost_bind setPowerAndDividers_appendsAtMost fun _ =>
        KRun.appendsAtMost_ite
          (KRun.appendsAtMost_bind (startPll_appendsAtMost _) fun _ =>
            KRun.appendsAtMost_ite (KRun.appendsAtMost_pure _) <|
              KRun.appendsAtMost_bind selectPll_appendsAtMost fun _ =>
                KRun.appendsAtMost_ite (KRun.appendsAtMost_pure _) (KRun.appendsAtMost_pure _))
          (KRun.appendsAtMost_pure _)).mono (by decide)

end AccessBounds

/-- The offset of a bus's enable register from the first enable register of its bank. -/
def RccDefs.busOffset
    (d : RccDefs)
    (busid : Nat) :
    Nat :=
  if busid < d.busApb1 then
    4 * busid
  else
    d.rccApb1enrReg.toNat - d.rccAhb1enrReg.toNat + 4 * (busid - d.busApb1)

/--
The layout of the enable registers that `rcc_get_register`'s comment relies on, for bus
identifiers below `busCount`: the AHB registers fit before `APB1ENR`, the nominal bank ends
before the low-power bank, and no register address wraps around.
-/
structure RccDefs.BusLayout
    (d : RccDefs)
    (busCount : Nat) :
    Prop where
  ahbBeforeApb : d.rccAhb1enrReg.toNat + 4 * d.busApb1 ≤ d.rccApb1enrReg.toNat
  nominalBeforeLowPower :
    d.rccApb1enrReg.toNat + 4 * (busCount - d.busApb1) ≤ d.rccAhb1lpenrReg.toNat
  noWrap :
    d.rccBaseAddr.toNat + d.rccAhb1lpenrReg.toNat +
        (d.rccApb1enrReg.toNat - d.rccAhb1enrReg.toNat) + 4 * (busCount - d.busApb1) +
        4 * d.busApb1 ≤ 4294967296

section BusRegisters

variable {d : RccDefs} {busCount : Nat}

/-- Distinct buses have distinct offsets within a bank. -/
theorem RccDefs.BusLayout.busOffset_injective
    (layout : d.BusLayout busCount)
    {a b : Nat}
    (same : d.busOffset a = d.busOffset b) :
    a = b := by
  have := layout.ahbBeforeApb
  simp only [RccDefs.busOffset] at same
  split_ifs at same <;> omega

/-- A bus's offset stays within the bank: below the nominal bank's span. -/
theorem RccDefs.BusLayout.busOffset_lt
    (layout : d.BusLayout busCount)
    {busid : Nat}
    (isBus : busid < busCount) :
    d.busOffset busid < d.rccApb1enrReg.toNat - d.rccAhb1enrReg.toNat +
      4 * (busCount - d.busApb1) := by
  have := layout.ahbBeforeApb
  simp only [RccDefs.busOffset]
  split_ifs <;> omega

/-- `rcc_get_register`'s address: the bank's first register plus the bus's offset. -/
theorem RccDefs.BusLayout.rccGetRegister_toNat
    (layout : d.BusLayout busCount)
    {busid : Nat}
    (flags : Nat)
    (isBus : busid < busCount) :
    (rccGetRegister d busid flags).toNat =
      d.rccBaseAddr.toNat +
        (if flags &&& d.rccLpconfig ≠ 0 then d.rccAhb1lpenrReg.toNat else d.rccAhb1enrReg.toNat) +
        d.busOffset busid := by
  have := layout.ahbBeforeApb
  have := layout.nominalBeforeLowPower
  have := layout.noWrap
  have offsetBelow := layout.busOffset_lt isBus
  have bank : (d.enableBank flags).toNat = d.rccBaseAddr.toNat +
      (if flags &&& d.rccLpconfig ≠ 0 then d.rccAhb1lpenrReg.toNat
        else d.rccAhb1enrReg.toNat) := by
    unfold RccDefs.enableBank
    split_ifs <;> exact BitVec.toNat_add_of_lt (by omega)
  have bankFits : (d.enableBank flags).toNat + (d.rccApb1enrReg.toNat - d.rccAhb1enrReg.toNat) +
      4 * (busCount - d.busApb1) + 4 * d.busApb1 ≤ 4294967296 := by
    rw [bank]
    split_ifs <;> omega
  have gap : (d.rccApb1enrReg - d.rccAhb1enrReg).toNat =
      d.rccApb1enrReg.toNat - d.rccAhb1enrReg.toNat :=
    BitVec.toNat_sub_of_le (BitVec.le_def.mpr (by omega))
  have offset : ∀ n, n < 4294967296 → (BitVec.ofNat 32 n).toNat = n := fun n below => by
    rw [BitVec.toNat_ofNat]
    exact Nat.mod_eq_of_lt below
  rw [← bank]
  unfold rccGetRegister
  generalize d.enableBank flags = base at bankFits ⊢
  simp only [RccDefs.busOffset] at offsetBelow ⊢
  split_ifs at offsetBelow ⊢
  case pos =>
    rw [BitVec.toNat_add_of_lt (by rw [offset _ (by omega)]; omega), offset _ (by omega)]
    omega
  case neg =>
    have throughGap : (base + (d.rccApb1enrReg - d.rccAhb1enrReg)).toNat =
        base.toNat + (d.rccApb1enrReg.toNat - d.rccAhb1enrReg.toNat) := by
      rw [BitVec.toNat_add_of_lt (by rw [gap]; omega), gap]
    rw [BitVec.toNat_add_of_lt (by rw [throughGap, offset _ (by omega)]; omega), throughGap,
      offset _ (by omega)]
    omega

/--
`rcc_get_register` gives every bus and power mode an enable register of its own: two bus
identifiers below `busCount` share a register only when they are the same bus in the same
mode, nominal or low-power.
-/
theorem RccDefs.BusLayout.rccGetRegister_injective
    (layout : d.BusLayout busCount)
    {a b flags otherFlags : Nat}
    (aBus : a < busCount)
    (bBus : b < busCount)
    (same : rccGetRegister d a flags = rccGetRegister d b otherFlags) :
    a = b ∧ (flags &&& d.rccLpconfig ≠ 0 ↔ otherFlags &&& d.rccLpconfig ≠ 0) := by
  have addresses := congrArg BitVec.toNat same
  rw [layout.rccGetRegister_toNat flags aBus, layout.rccGetRegister_toNat otherFlags bBus]
    at addresses
  have := layout.ahbBeforeApb
  have := layout.nominalBeforeLowPower
  have := layout.busOffset_lt aBus
  have := layout.busOffset_lt bBus
  by_cases lowPower : flags &&& d.rccLpconfig ≠ 0
  · by_cases otherLowPower : otherFlags &&& d.rccLpconfig ≠ 0
    · rw [if_pos lowPower, if_pos otherLowPower] at addresses
      exact ⟨layout.busOffset_injective (by omega), iff_of_true lowPower otherLowPower⟩
    · rw [if_pos lowPower, if_neg otherLowPower] at addresses
      omega
  · by_cases otherLowPower : otherFlags &&& d.rccLpconfig ≠ 0
    · rw [if_neg lowPower, if_pos otherLowPower] at addresses
      omega
    · rw [if_neg lowPower, if_neg otherLowPower] at addresses
      exact ⟨layout.busOffset_injective (by omega), iff_of_false lowPower otherLowPower⟩

end BusRegisters

section EnableRegisters

variable {d : RccDefs} {reset : BitVec 32 → BitVec 32}

theorem rccEnable_apply
    (busid : Nat)
    (clkMsk : BitVec 32)
    (flags : Nat)
    (done : List MmioAccess) :
    rccEnable d (registerFile reset) busid clkMsk flags done =
      (done ++ [.read (rccGetRegister d busid flags)
          (registers reset done (rccGetRegister d busid flags))] ++
        [.write (rccGetRegister d busid flags)
          (registers reset done (rccGetRegister d busid flags) ||| clkMsk)], some .okay) :=
  rfl

/--
On enable registers that behave as memory, `rcc_enable` sets the clock bits in the enable
register of its bus and mode and changes no other register: in particular the enable
register of every other bus, and of the same bus in the other mode, keeps its value.
-/
theorem rccEnable_sets_only_its_clock
    (layout : d.BusLayout busCount)
    {busid : Nat}
    (isBus : busid < busCount)
    (clkMsk : BitVec 32)
    (flags : Nat)
    (done : List MmioAccess) :
    registers reset (rccEnable d (registerFile reset) busid clkMsk flags done).1
        (rccGetRegister d busid flags) =
      registers reset done (rccGetRegister d busid flags) ||| clkMsk ∧
    ∀ other otherFlags, other < busCount →
      (other ≠ busid ∨ ¬ (otherFlags &&& d.rccLpconfig ≠ 0 ↔ flags &&& d.rccLpconfig ≠ 0)) →
        registers reset (rccEnable d (registerFile reset) busid clkMsk flags done).1
            (rccGetRegister d other otherFlags) =
          registers reset done (rccGetRegister d other otherFlags) := by
  simp only [rccEnable_apply, registers_append_write, registers_append_read]
  refine ⟨Function.update_same _ _ _, fun other otherFlags otherBus differs => ?_⟩
  refine Function.update_noteq (fun same => ?_) _ _
  obtain ⟨sameBus, sameMode⟩ := layout.rccGetRegister_injective otherBus isBus same
  exact differs.elim (· sameBus) (· sameMode)

/-- On the RM0090 layout of five buses, enabling an AHB1 clock changes no other enable register. -/
theorem rccEnable_sets_only_its_clock_on_stm32f4 :
    stm32f4Rcc.BusLayout 5 ∧ 0 < 5 ∧
      registers (fun _ => 0) (rccEnable stm32f4Rcc (registerFile fun _ => 0) 0 0x1 0 []).1
          (rccGetRegister stm32f4Rcc 0 0) =
        registers (fun _ => 0) [] (rccGetRegister stm32f4Rcc 0 0) ||| 0x1 ∧
      ∀ other otherFlags, other < 5 →
        (other ≠ 0 ∨ ¬ (otherFlags &&& stm32f4Rcc.rccLpconfig ≠ 0 ↔
          0 &&& stm32f4Rcc.rccLpconfig ≠ 0)) →
          registers (fun _ => 0) (rccEnable stm32f4Rcc (registerFile fun _ => 0) 0 0x1 0 []).1
              (rccGetRegister stm32f4Rcc other otherFlags) =
            registers (fun _ => 0) [] (rccGetRegister stm32f4Rcc other otherFlags) :=
  have layout : stm32f4Rcc.BusLayout 5 := ⟨by decide, by decide, by decide⟩
  ⟨layout, by decide, rccEnable_sets_only_its_clock layout (by decide) 0x1 0 []⟩

end EnableRegisters

end SentryKernel
