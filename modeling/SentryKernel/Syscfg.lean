import SentryKernel.Mmio
import SentryKernel.TaskMeta

namespace SentryKernel

/-!
# The STM32F4 system configuration controller

`syscfg_probe` resets the controller's configuration registers, `syscfg_switch_bank` flips
the flash bank mapped at address `0` on dual-bank parts, and `syscfg_set_exti` is meant to
route an EXTI line to a GPIO port.

`syscfg_probe` reads `MEMRM` and masks its bank bit "to preserve the selected bank", then
writes `0` to `MEMRM` all the same; `syscfg_set_exti` checks its arguments and computes the
`EXTICR` register and field, then assigns the field value to its local address variable
and writes nothing.  The model keeps both as the code has them.  Each routine is a short
straight-line sequence of register accesses, so what it does is read off one run.
-/

/-- The SoCs `stm32f4-syscfg.c` builds for, by their EXTI configuration. -/
inductive SyscfgMcu where
  | stm32f429Or439
  | stm32f419
  deriving Repr, DecidableEq

/-- `MAX_EXTI_GPIO_PORT`. -/
def maxExtiGpioPort :
    SyscfgMcu → Char
  | .stm32f429Or439 =>
      'J'
  | .stm32f419 =>
      'I'

/--
The constants the driver takes from `syscfg_defs.h`, the build's SoC and
`CONFIG_HAS_FLASH_DUAL_BANK`, and the code of `K_ERROR_INVPARAM`.
-/
structure SyscfgDefs where
  syscfgBaseAddr : BitVec 32
  syscfgMemrmReg : BitVec 32
  syscfgPmcReg : BitVec 32
  syscfgExticr1Reg : BitVec 32
  syscfgExticr2Reg : BitVec 32
  syscfgExticr3Reg : BitVec 32
  syscfgExticr4Reg : BitVec 32
  syscfgCmpcrReg : BitVec 32
  syscfgMemrmFbMode : BitVec 32
  mcu : SyscfgMcu
  hasFlashDualBank : Bool
  kErrorInvparam : Nat

/-- `SYSCFG_BASE_ADDR + SYSCFG_MEMRM_REG`. -/
def SyscfgDefs.memrm
    (d : SyscfgDefs) :
    BitVec 32 :=
  d.syscfgBaseAddr + d.syscfgMemrmReg

/-- The registers `syscfg_probe` clears, in the order it clears them. -/
def SyscfgDefs.probed
    (d : SyscfgDefs) :
    List (BitVec 32) :=
  [d.memrm, d.syscfgBaseAddr + d.syscfgPmcReg, d.syscfgBaseAddr + d.syscfgExticr1Reg,
    d.syscfgBaseAddr + d.syscfgExticr2Reg, d.syscfgBaseAddr + d.syscfgExticr3Reg,
    d.syscfgBaseAddr + d.syscfgExticr4Reg, d.syscfgBaseAddr + d.syscfgCmpcrReg]

/-- The four `EXTICR` registers. -/
def SyscfgDefs.exticrs
    (d : SyscfgDefs) :
    List (BitVec 32) :=
  [d.syscfgBaseAddr + d.syscfgExticr1Reg, d.syscfgBaseAddr + d.syscfgExticr2Reg,
    d.syscfgBaseAddr + d.syscfgExticr3Reg, d.syscfgBaseAddr + d.syscfgExticr4Reg]

/-- `syscfg_switch_bank`, built with `CONFIG_HAS_FLASH_DUAL_BANK`: flip `FB_MODE`. -/
def syscfgSwitchBank
    (d : SyscfgDefs)
    (hw : Hardware) :
    KRun MmioAccess Unit := do
  let reg ← ioread32 hw d.memrm
  iowrite32 d.memrm (reg ^^^ d.syscfgMemrmFbMode)

/-- Write `0` to each register, in order. -/
def clearRegisters :
    List (BitVec 32) → KRun MmioAccess Unit
  | [] =>
      pure ()
  | addr :: rest => do
      iowrite32 addr 0
      clearRegisters rest

/--
`syscfg_probe`: read `MEMRM` and, on a dual-bank part, mask its bank bit into `reg`, which
is not used again; then write `0` to `MEMRM`, `PMC`, `EXTICR1`-`EXTICR4` and `CMPCR`.
-/
def syscfgProbe
    (d : SyscfgDefs)
    (hw : Hardware) :
    KRun MmioAccess KStatus := do
  let reg ← ioread32 hw d.memrm
  let _preserved := if d.hasFlashDualBank then reg &&& d.syscfgMemrmFbMode else reg
  clearRegisters d.probed
  pure .okay

/--
`syscfg_set_exti(gpio_pin_id, gpio_port_id)`, on `uint8_t` arguments: check the port against
`MAX_EXTI_GPIO_PORT` (a character, promoted to `int`) and the pin against `15`, compute the
`EXTICR` register and the field's shift, then overwrite the register address with the field
value; no register is accessed.
-/
def syscfgSetExti
    (d : SyscfgDefs)
    (gpioPinId gpioPortId : BitVec 8) :
    KRun MmioAccess KStatus :=
  if gpioPortId.toNat > (maxExtiGpioPort d.mcu).toNat then
    pure (.other d.kErrorInvparam)
  else if gpioPinId.toNat > 15 then
    pure (.other d.kErrorInvparam)
  else
    let _exticr : BitVec 32 :=
      d.syscfgBaseAddr + d.syscfgExticr1Reg + BitVec.ofNat 32 (4 * (gpioPinId.toNat >>> 2))
    let exticrShift := (gpioPinId.toNat % 4) * 4
    let _exticr : BitVec 32 := BitVec.ofNat 32 (gpioPortId.toNat <<< exticrShift)
    pure .okay

end SentryKernel
