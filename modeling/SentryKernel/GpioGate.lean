import SentryKernel.TaskMeta
import SentryKernel.KernelRun

namespace SentryKernel

/-!
# The GPIO syscall gates

`gate_gpio_set`, `gate_gpio_get`, `gate_gpio_reset` and `gate_gpio_toggle` share one
prefix: they look up the device's info, check through `do_own_dev` that the calling
task owns the device, and check the I/O index against the device's I/O count, setting
the caller's syscall return to `STATUS_INVALID`, `STATUS_DENIED` or `STATUS_INVALID` on
the way out.  Only then does each drive or read the line `devinfo->ios[io]`, in its own
way.  `do_own_dev` panics when the device has no owner at all.

`gpioGate` is that prefix, applied to each gate's own I/O routine.  The I/O manager's
status is tested the same way in every gate: `K_STATUS_OKAY` leads to `STATUS_INVALID`.
-/

/-- `STATUS_OK`, `STATUS_INVALID` and `STATUS_DENIED`: the syscall returns the gates set. -/
inductive Status where
  | ok
  | invalid
  | denied
  deriving Repr, DecidableEq

/-- One I/O line of a device, `devinfo->ios[i]`. -/
structure DevIo where
  port : Nat
  pin : Nat
  deriving Repr, DecidableEq

/-- `devinfo_t`, as far as the gates read it. -/
structure DevInfo where
  numIos : Nat
  ios : Nat → DevIo

/-- The state-changing calls of the GPIO gates, and the I/O they perform. -/
inductive GateEffect where
  | taskSetSysreturn (task : TaskHandle) (status : Status)
  | ioSet (port pin : Nat)
  | ioReset (port pin : Nat)
  | ioRead (port pin : Nat)
  | svcExchangeWrite (addr : Nat) (value : Bool)
  deriving Repr, DecidableEq

/-- The kernel around the gates: the scheduler, the device directory and the I/O manager. -/
structure GateEnv where
  schedGetCurrent : List GateEffect → TaskHandle
  /-- `mgr_device_get_info`: the device's info, if the lookup succeeds. -/
  mgrDeviceGetInfo : List GateEffect → DevHandle → Option DevInfo
  /-- `mgr_device_get_owner`: the device's owner, if the lookup succeeds. -/
  mgrDeviceGetOwner : List GateEffect → DevHandle → Option TaskHandle
  ioSetStatus : List GateEffect → Nat → Nat → KStatus
  ioResetStatus : List GateEffect → Nat → Nat → KStatus
  /-- What `mgr_io_read` returns, and the value it leaves in `val`. -/
  ioReadResult : List GateEffect → Nat → Nat → KStatus × Bool
  /-- `mgr_task_get_metadata`: the task's metadata, if the lookup succeeds. -/
  mgrTaskGetMetadata : List GateEffect → TaskHandle → Option TaskMeta

section Gates

variable (env : GateEnv)

/-- `mgr_io_set(port, pin)`. -/
def mgrIoSet
    (line : DevIo) :
    KRun GateEffect KStatus := do
  let status ← KRun.query fun done => env.ioSetStatus done line.port line.pin
  KRun.emit (.ioSet line.port line.pin)
  pure status

/-- `mgr_io_reset(port, pin)`. -/
def mgrIoReset
    (line : DevIo) :
    KRun GateEffect KStatus := do
  let status ← KRun.query fun done => env.ioResetStatus done line.port line.pin
  KRun.emit (.ioReset line.port line.pin)
  pure status

/-- `mgr_io_read(port, pin, &val)`: the status, and `val`. -/
def mgrIoRead
    (line : DevIo) :
    KRun GateEffect (KStatus × Bool) := do
  let result ← KRun.query fun done => env.ioReadResult done line.port line.pin
  KRun.emit (.ioRead line.port line.pin)
  pure result

/-- `do_own_dev`: does `owner` own `dev`?  A device without an owner panics. -/
def doOwnDev
    (owner : TaskHandle)
    (dev : DevHandle) :
    KRun GateEffect Bool := do
  let some devowner ← KRun.query fun done => env.mgrDeviceGetOwner done dev
    | KRun.panic
  pure (devowner = owner)

/-- The three checks every GPIO gate makes before `io` reaches its own I/O routine. -/
def gpioGate
    (gpioIo : TaskHandle → DevIo → KRun GateEffect Unit)
    (frame : BitVec 32)
    (device : DevHandle)
    (io : BitVec 8) :
    KRun GateEffect (BitVec 32) := do
  let current ← KRun.query env.schedGetCurrent
  match ← KRun.query fun done => env.mgrDeviceGetInfo done device with
  | none =>
      KRun.emit (.taskSetSysreturn current .invalid)
  | some devinfo =>
      if !(← doOwnDev env current device) then
        KRun.emit (.taskSetSysreturn current .denied)
      else if io.toNat ≥ devinfo.numIos then
        KRun.emit (.taskSetSysreturn current .invalid)
      else
        gpioIo current (devinfo.ios io.toNat)
  pure frame

/-- The I/O of `gate_gpio_set`: drive the line to `val`. -/
def gpioSetIo
    (val : Bool)
    (current : TaskHandle)
    (line : DevIo) :
    KRun GateEffect Unit := do
  let status ← (if val then mgrIoSet env line else mgrIoReset env line)
  if status = .okay then
    KRun.emit (.taskSetSysreturn current .invalid)
  else
    KRun.emit (.taskSetSysreturn current .ok)

/-- The I/O of `gate_gpio_get`: read the line into the caller's svc-exchange area. -/
def gpioGetIo
    (current : TaskHandle)
    (line : DevIo) :
    KRun GateEffect Unit := do
  let read ← mgrIoRead env line
  if read.1 = .okay then
    KRun.emit (.taskSetSysreturn current .invalid)
  else
    let some meta ← KRun.query fun done => env.mgrTaskGetMetadata done current
      | KRun.panic
    KRun.emit (.svcExchangeWrite meta.sSvcexchange read.2)
    KRun.emit (.taskSetSysreturn current .ok)

/-- The I/O of `gate_gpio_reset`. -/
def gpioResetIo
    (current : TaskHandle)
    (line : DevIo) :
    KRun GateEffect Unit := do
  let status ← mgrIoReset env line
  if status = .okay then
    KRun.emit (.taskSetSysreturn current .invalid)
  else
    KRun.emit (.taskSetSysreturn current .ok)

/-- The I/O of `gate_gpio_toggle`: read the line, then drive it to the other level. -/
def gpioToggleIo
    (current : TaskHandle)
    (line : DevIo) :
    KRun GateEffect Unit := do
  let read ← mgrIoRead env line
  if read.1 = .okay then
    KRun.emit (.taskSetSysreturn current .invalid)
  else
    let status ← (if read.2 = false then mgrIoSet env line else mgrIoReset env line)
    if status = .okay then
      KRun.emit (.taskSetSysreturn current .invalid)
    else
      KRun.emit (.taskSetSysreturn current .ok)

/-- `gate_gpio_set`. -/
def gateGpioSet
    (frame : BitVec 32)
    (device : DevHandle)
    (io : BitVec 8)
    (val : Bool) :
    KRun GateEffect (BitVec 32) :=
  gpioGate env (gpioSetIo env val) frame device io

/-- `gate_gpio_get`. -/
def gateGpioGet
    (frame : BitVec 32)
    (device : DevHandle)
    (io : BitVec 8) :
    KRun GateEffect (BitVec 32) :=
  gpioGate env (gpioGetIo env) frame device io

/-- `gate_gpio_reset`. -/
def gateGpioReset
    (frame : BitVec 32)
    (device : DevHandle)
    (io : BitVec 8) :
    KRun GateEffect (BitVec 32) :=
  gpioGate env (gpioResetIo env) frame device io

/-- `gate_gpio_toggle`. -/
def gateGpioToggle
    (frame : BitVec 32)
    (device : DevHandle)
    (io : BitVec 8) :
    KRun GateEffect (BitVec 32) :=
  gpioGate env (gpioToggleIo env) frame device io

end Gates

/-- A call of one of the four GPIO gates, with its own arguments. -/
inductive GpioCall where
  | set (val : Bool)
  | get
  | reset
  | toggle
  deriving Repr, DecidableEq

namespace GpioCall

/-- The gate's own I/O routine. -/
def gpioIo
    (env : GateEnv) :
    GpioCall → TaskHandle → DevIo → KRun GateEffect Unit
  | .set val =>
      gpioSetIo env val
  | .get =>
      gpioGetIo env
  | .reset =>
      gpioResetIo env
  | .toggle =>
      gpioToggleIo env

/-- Run the gate. -/
def run
    (env : GateEnv)
    (frame : BitVec 32)
    (device : DevHandle)
    (io : BitVec 8) :
    GpioCall → KRun GateEffect (BitVec 32)
  | .set val =>
      gateGpioSet env frame device io val
  | .get =>
      gateGpioGet env frame device io
  | .reset =>
      gateGpioReset env frame device io
  | .toggle =>
      gateGpioToggle env frame device io

end GpioCall

/-- A call that drives or reads a GPIO line drives or reads `line`; other calls qualify. -/
def GateEffect.OnLine
    (line : DevIo) :
    GateEffect → Prop
  | .ioSet port pin =>
      ⟨port, pin⟩ = line
  | .ioReset port pin =>
      ⟨port, pin⟩ = line
  | .ioRead port pin =>
      ⟨port, pin⟩ = line
  | _ =>
      True

section IoLines

variable {env : GateEnv}

theorem mgrIoSet_appends
    (line : DevIo) :
    KRun.Appends (GateEffect.OnLine line) (mgrIoSet env line) :=
  KRun.appends_bind (KRun.appends_query _) fun _ =>
    KRun.appends_bind (KRun.appends_emit rfl) fun _ => KRun.appends_pure _

theorem mgrIoReset_appends
    (line : DevIo) :
    KRun.Appends (GateEffect.OnLine line) (mgrIoReset env line) :=
  KRun.appends_bind (KRun.appends_query _) fun _ =>
    KRun.appends_bind (KRun.appends_emit rfl) fun _ => KRun.appends_pure _

theorem mgrIoRead_appends
    (line : DevIo) :
    KRun.Appends (GateEffect.OnLine line) (mgrIoRead env line) :=
  KRun.appends_bind (KRun.appends_query _) fun _ =>
    KRun.appends_bind (KRun.appends_emit rfl) fun _ => KRun.appends_pure _

/-- Setting the syscall return touches no line. -/
theorem setSysreturn_appends
    (line : DevIo)
    (task : TaskHandle)
    (status : Status) :
    KRun.Appends (GateEffect.OnLine line) (KRun.emit (.taskSetSysreturn task status)) :=
  KRun.appends_emit trivial

/-- Each gate's own I/O routine drives or reads only the line it was given. -/
theorem GpioCall.gpioIo_appends
    (call : GpioCall)
    (current : TaskHandle)
    (line : DevIo) :
    KRun.Appends (GateEffect.OnLine line) (call.gpioIo env current line) := by
  have report : ∀ status : KStatus, KRun.Appends (GateEffect.OnLine line)
      (if status = .okay then KRun.emit (.taskSetSysreturn current .invalid)
        else KRun.emit (.taskSetSysreturn current .ok)) := fun _ =>
    KRun.appends_ite (setSysreturn_appends _ _ _) (setSysreturn_appends _ _ _)
  have drive : ∀ (toSet : Prop) [Decidable toSet], KRun.Appends (GateEffect.OnLine line)
      (if toSet then mgrIoSet env line else mgrIoReset env line) := fun _ _ =>
    KRun.appends_ite (mgrIoSet_appends line) (mgrIoReset_appends line)
  cases call
  case set val =>
    exact KRun.appends_bind (drive (val = true)) report
  case get =>
    refine KRun.appends_bind (mgrIoRead_appends line) fun read =>
      KRun.appends_ite (setSysreturn_appends _ _ _) ?_
    refine KRun.appends_bind (KRun.appends_query _) fun meta => ?_
    cases meta
    case none =>
      exact KRun.appends_panic
    case some meta =>
      exact KRun.appends_bind (KRun.appends_emit trivial) fun _ => setSysreturn_appends _ _ _
  case reset =>
    exact KRun.appends_bind (mgrIoReset_appends line) report
  case toggle =>
    exact KRun.appends_bind (mgrIoRead_appends line) fun read =>
      KRun.appends_ite (setSysreturn_appends _ _ _)
        (KRun.appends_bind (drive (read.2 = false)) report)

end IoLines

section Checks

variable {env : GateEnv}

/-- `do_own_dev` panics, before any call, on a device without an owner. -/
theorem doOwnDev_of_no_owner
    {owner : TaskHandle}
    {dev : DevHandle}
    {done : List GateEffect}
    (noOwner : env.mgrDeviceGetOwner done dev = none) :
    doOwnDev env owner dev done = (done, none) := by
  simp [doOwnDev, noOwner]

/-- `do_own_dev` compares the device's owner with the task. -/
theorem doOwnDev_of_owner
    {owner devowner : TaskHandle}
    {dev : DevHandle}
    {done : List GateEffect}
    (hasOwner : env.mgrDeviceGetOwner done dev = some devowner) :
    doOwnDev env owner dev done = (done, some (decide (devowner = owner))) := by
  simp [doOwnDev, hasOwner]

variable {gpioIo : TaskHandle → DevIo → KRun GateEffect Unit} {frame : BitVec 32}
  {device : DevHandle} {io : BitVec 8} {done : List GateEffect}

/-- A failed info lookup answers `STATUS_INVALID`. -/
theorem gpioGate_of_no_info
    (noInfo : env.mgrDeviceGetInfo done device = none) :
    gpioGate env gpioIo frame device io done =
      (done ++ [.taskSetSysreturn (env.schedGetCurrent done) .invalid], some frame) := by
  simp [gpioGate, noInfo]

/-- A device without an owner panics, before any call. -/
theorem gpioGate_of_no_owner
    {devinfo : DevInfo}
    (hasInfo : env.mgrDeviceGetInfo done device = some devinfo)
    (noOwner : env.mgrDeviceGetOwner done device = none) :
    gpioGate env gpioIo frame device io done = (done, none) := by
  simp [gpioGate, hasInfo, KRun.bind_apply_of_none (doOwnDev_of_no_owner noOwner)]

/-- A device owned by another task answers `STATUS_DENIED`. -/
theorem gpioGate_of_other_owner
    {devinfo : DevInfo}
    {devowner : TaskHandle}
    (hasInfo : env.mgrDeviceGetInfo done device = some devinfo)
    (hasOwner : env.mgrDeviceGetOwner done device = some devowner)
    (notCaller : devowner ≠ env.schedGetCurrent done) :
    gpioGate env gpioIo frame device io done =
      (done ++ [.taskSetSysreturn (env.schedGetCurrent done) .denied], some frame) := by
  simp [gpioGate, hasInfo, KRun.bind_apply_of_some (doOwnDev_of_owner hasOwner), notCaller]

/-- An I/O index past the device's I/O count answers `STATUS_INVALID`. -/
theorem gpioGate_of_io_out_of_range
    {devinfo : DevInfo}
    (hasInfo : env.mgrDeviceGetInfo done device = some devinfo)
    (callerOwns : env.mgrDeviceGetOwner done device = some (env.schedGetCurrent done))
    (outOfRange : devinfo.numIos ≤ io.toNat) :
    gpioGate env gpioIo frame device io done =
      (done ++ [.taskSetSysreturn (env.schedGetCurrent done) .invalid], some frame) := by
  simp [gpioGate, hasInfo, KRun.bind_apply_of_some (doOwnDev_of_owner callerOwns), outOfRange]

/-- When the three checks pass, the gate's own I/O routine runs on `devinfo->ios[io]`. -/
theorem gpioGate_of_checks_pass
    {devinfo : DevInfo}
    (hasInfo : env.mgrDeviceGetInfo done device = some devinfo)
    (callerOwns : env.mgrDeviceGetOwner done device = some (env.schedGetCurrent done))
    (inRange : io.toNat < devinfo.numIos) :
    gpioGate env gpioIo frame device io done =
      (gpioIo (env.schedGetCurrent done) (devinfo.ios io.toNat) >>= fun _ => pure frame)
        done := by
  simp [gpioGate, hasInfo, KRun.bind_apply_of_some (doOwnDev_of_owner callerOwns),
    Nat.not_le.mpr inRange]

/-- `mgr_io_set` is called, and returns the I/O manager's status. -/
@[simp]
theorem mgrIoSet_apply
    (line : DevIo) :
    mgrIoSet env line done =
      (done ++ [.ioSet line.port line.pin], some (env.ioSetStatus done line.port line.pin)) :=
  rfl

/-- `mgr_io_reset` is called, and returns the I/O manager's status. -/
@[simp]
theorem mgrIoReset_apply
    (line : DevIo) :
    mgrIoReset env line done =
      (done ++ [.ioReset line.port line.pin], some (env.ioResetStatus done line.port line.pin)) :=
  rfl

/-- `mgr_io_read` is called, and returns the I/O manager's status and value. -/
@[simp]
theorem mgrIoRead_apply
    (line : DevIo) :
    mgrIoRead env line done =
      (done ++ [.ioRead line.port line.pin], some (env.ioReadResult done line.port line.pin)) :=
  rfl

/--
`gate_gpio_set`'s I/O sets the line when `val` holds and resets it otherwise, then answers
`STATUS_INVALID` when that call returned `K_STATUS_OKAY` and `STATUS_OK` when it did not.
-/
theorem gpioSetIo_apply
    (val : Bool)
    (current : TaskHandle)
    (line : DevIo) :
    gpioSetIo env val current line done =
      if val then
        (done ++ [.ioSet line.port line.pin, .taskSetSysreturn current
            (if env.ioSetStatus done line.port line.pin = .okay then .invalid else .ok)],
          some ())
      else
        (done ++ [.ioReset line.port line.pin, .taskSetSysreturn current
            (if env.ioResetStatus done line.port line.pin = .okay then .invalid else .ok)],
          some ()) := by
  cases val <;> simp only [gpioSetIo, KRun.bind_apply, mgrIoSet_apply, mgrIoReset_apply,
    ite_apply, Bool.false_eq_true, ↓reduceIte] <;> split <;> simp_all [KRun.emit]

/--
`gate_gpio_get`'s I/O reads the line.  A read returning `K_STATUS_OKAY` answers
`STATUS_INVALID`; any other read writes the value it left to the caller's svc-exchange
area and answers `STATUS_OK`, or panics when the caller has no metadata.
-/
theorem gpioGetIo_apply
    (current : TaskHandle)
    (line : DevIo) :
    gpioGetIo env current line done =
      if (env.ioReadResult done line.port line.pin).1 = .okay then
        (done ++ [.ioRead line.port line.pin, .taskSetSysreturn current .invalid], some ())
      else
        match env.mgrTaskGetMetadata (done ++ [.ioRead line.port line.pin]) current with
        | none =>
            (done ++ [.ioRead line.port line.pin], none)
        | some meta =>
            (done ++ [.ioRead line.port line.pin,
                .svcExchangeWrite meta.sSvcexchange (env.ioReadResult done line.port line.pin).2,
                .taskSetSysreturn current .ok],
              some ()) := by
  by_cases readOkay : (env.ioReadResult done line.port line.pin).1 = .okay
  · simp [gpioGetIo, KRun.bind_apply, KRun.emit, readOkay]
  · cases metadata : env.mgrTaskGetMetadata (done ++ [.ioRead line.port line.pin]) current <;>
      simp [gpioGetIo, KRun.bind_apply, KRun.query, KRun.emit, readOkay, metadata]

/--
`gate_gpio_toggle`'s I/O reads the line.  A read returning `K_STATUS_OKAY` answers
`STATUS_INVALID`; after any other read it sets a line that read `false` and resets one that
read `true`, then answers `STATUS_INVALID` when that call returned `K_STATUS_OKAY` and
`STATUS_OK` when it did not.
-/
theorem gpioToggleIo_apply
    (current : TaskHandle)
    (line : DevIo) :
    gpioToggleIo env current line done =
      if (env.ioReadResult done line.port line.pin).1 = .okay then
        (done ++ [.ioRead line.port line.pin, .taskSetSysreturn current .invalid], some ())
      else if (env.ioReadResult done line.port line.pin).2 = false then
        (done ++ [.ioRead line.port line.pin, .ioSet line.port line.pin,
            .taskSetSysreturn current
              (if env.ioSetStatus (done ++ [.ioRead line.port line.pin]) line.port line.pin = .okay
              then .invalid else .ok)],
          some ())
      else
        (done ++ [.ioRead line.port line.pin, .ioReset line.port line.pin,
            .taskSetSysreturn current
              (if env.ioResetStatus (done ++ [.ioRead line.port line.pin]) line.port line.pin = .okay
              then .invalid else .ok)],
          some ()) := by
  by_cases readOkay : (env.ioReadResult done line.port line.pin).1 = .okay
  · simp [gpioToggleIo, KRun.bind_apply, KRun.emit, readOkay]
  · cases level : (env.ioReadResult done line.port line.pin).2 <;>
      simp only [gpioToggleIo, KRun.bind_apply, mgrIoRead_apply, mgrIoSet_apply,
        mgrIoReset_apply, ite_apply, readOkay, level, ↓reduceIte, Bool.true_eq_false] <;>
      split <;> simp_all [KRun.emit]

/--
On a line that passed the checks, `gate_gpio_reset` resets it, then answers
`STATUS_INVALID` when `mgr_io_reset` returned `K_STATUS_OKAY` and `STATUS_OK` when it
did not.
-/
theorem gateGpioReset_of_checks_pass
    {devinfo : DevInfo}
    (hasInfo : env.mgrDeviceGetInfo done device = some devinfo)
    (callerOwns : env.mgrDeviceGetOwner done device = some (env.schedGetCurrent done))
    (inRange : io.toNat < devinfo.numIos) :
    gateGpioReset env frame device io done =
      (done ++ [.ioReset (devinfo.ios io.toNat).port (devinfo.ios io.toNat).pin,
          .taskSetSysreturn (env.schedGetCurrent done)
            (if env.ioResetStatus done (devinfo.ios io.toNat).port (devinfo.ios io.toNat).pin =
                .okay then
              .invalid
            else .ok)],
        some frame) := by
  rw [gateGpioReset, gpioGate_of_checks_pass hasInfo callerOwns inRange]
  by_cases resetOkay :
      env.ioResetStatus done (devinfo.ios io.toNat).port (devinfo.ios io.toNat).pin = .okay <;>
    simp [gpioResetIo, mgrIoReset, KRun.bind_apply, KRun.query, KRun.emit, resetOkay]

/-- A device the caller owns, with one line, and an I/O manager whose every call succeeds. -/
def healthyIoEnv :
    GateEnv where
  schedGetCurrent _ := ⟨0, 1, 1⟩
  mgrDeviceGetInfo _ _ := some ⟨1, fun _ => ⟨0, 5⟩⟩
  mgrDeviceGetOwner _ _ := some ⟨0, 1, 1⟩
  ioSetStatus _ _ _ := .okay
  ioResetStatus _ _ _ := .okay
  ioReadResult _ _ _ := (.okay, true)
  mgrTaskGetMetadata _ _ := some TaskMeta.zeroed

/--
With every I/O call returning `K_STATUS_OKAY`, each gate answers `STATUS_INVALID`;
`gate_gpio_get` writes nothing to the svc-exchange area and `gate_gpio_toggle` drives
nothing.
-/
theorem gpioGates_invalid_on_io_success :
    gateGpioSet healthyIoEnv 0x20007FC0 ⟨0⟩ 0 true [] =
        ([.ioSet 0 5, .taskSetSysreturn ⟨0, 1, 1⟩ .invalid], some 0x20007FC0) ∧
      gateGpioGet healthyIoEnv 0x20007FC0 ⟨0⟩ 0 [] =
        ([.ioRead 0 5, .taskSetSysreturn ⟨0, 1, 1⟩ .invalid], some 0x20007FC0) ∧
      gateGpioReset healthyIoEnv 0x20007FC0 ⟨0⟩ 0 [] =
        ([.ioReset 0 5, .taskSetSysreturn ⟨0, 1, 1⟩ .invalid], some 0x20007FC0) ∧
      gateGpioToggle healthyIoEnv 0x20007FC0 ⟨0⟩ 0 [] =
        ([.ioRead 0 5, .taskSetSysreturn ⟨0, 1, 1⟩ .invalid], some 0x20007FC0) := by
  decide

/-- Every gate is the shared checks applied to its own I/O routine. -/
theorem GpioCall.run_eq
    (call : GpioCall)
    (env : GateEnv)
    (frame : BitVec 32)
    (device : DevHandle)
    (io : BitVec 8) :
    call.run env frame device io = gpioGate env (call.gpioIo env) frame device io := by
  cases call <;> rfl

end Checks

/--
A GPIO gate drives or reads a line, or writes the svc-exchange area, only once the
device's info lookup succeeds, its owner is the calling task and `io` is below its I/O
count, and then only on the line `devinfo->ios[io]`.  A failed check answers
`STATUS_INVALID`, `STATUS_DENIED` or `STATUS_INVALID` and does nothing else, except a
device without an owner, on which the gate panics having done nothing.
-/
theorem gpioGate_access_control
    (env : GateEnv)
    (call : GpioCall)
    (frame : BitVec 32)
    (device : DevHandle)
    (io : BitVec 8)
    (done : List GateEffect) :
    (env.mgrDeviceGetInfo done device = none →
        call.run env frame device io done =
          (done ++ [.taskSetSysreturn (env.schedGetCurrent done) .invalid], some frame)) ∧
      (∀ devinfo, env.mgrDeviceGetInfo done device = some devinfo →
        env.mgrDeviceGetOwner done device = none →
        call.run env frame device io done = (done, none)) ∧
      (∀ devinfo devowner, env.mgrDeviceGetInfo done device = some devinfo →
        env.mgrDeviceGetOwner done device = some devowner →
        devowner ≠ env.schedGetCurrent done →
        call.run env frame device io done =
          (done ++ [.taskSetSysreturn (env.schedGetCurrent done) .denied], some frame)) ∧
      (∀ devinfo, env.mgrDeviceGetInfo done device = some devinfo →
        env.mgrDeviceGetOwner done device = some (env.schedGetCurrent done) →
        devinfo.numIos ≤ io.toNat →
        call.run env frame device io done =
          (done ++ [.taskSetSysreturn (env.schedGetCurrent done) .invalid], some frame)) ∧
      (∀ devinfo, env.mgrDeviceGetInfo done device = some devinfo →
        env.mgrDeviceGetOwner done device = some (env.schedGetCurrent done) →
        io.toNat < devinfo.numIos →
        ∃ rest, (call.run env frame device io done).1 = done ++ rest ∧
          ∀ effect ∈ rest, effect.OnLine (devinfo.ios io.toNat)) := by
  rw [GpioCall.run_eq]
  refine ⟨gpioGate_of_no_info, fun _ => gpioGate_of_no_owner, fun _ _ => gpioGate_of_other_owner,
    fun _ => gpioGate_of_io_out_of_range, fun devinfo hasInfo callerOwns inRange => ?_⟩
  rw [gpioGate_of_checks_pass hasInfo callerOwns inRange]
  exact KRun.appends_bind (call.gpioIo_appends _ _) (fun _ => KRun.appends_pure _) done

/-- A device the directory knows, with one line, but without an owner. -/
def ownerlessDeviceEnv :
    GateEnv where
  schedGetCurrent _ := ⟨0, 1, 1⟩
  mgrDeviceGetInfo _ _ := some ⟨1, fun _ => ⟨0, 5⟩⟩
  mgrDeviceGetOwner _ _ := none
  ioSetStatus _ _ _ := .other 1
  ioResetStatus _ _ _ := .other 1
  ioReadResult _ _ _ := (.other 1, false)
  mgrTaskGetMetadata _ _ := none

/-- On a device without an owner each gate panics, setting no syscall return. -/
theorem gpioGates_panic_on_ownerless_device :
    gateGpioSet ownerlessDeviceEnv 0x20007FC0 ⟨0⟩ 0 true [] = ([], none) ∧
      gateGpioGet ownerlessDeviceEnv 0x20007FC0 ⟨0⟩ 0 [] = ([], none) ∧
      gateGpioReset ownerlessDeviceEnv 0x20007FC0 ⟨0⟩ 0 [] = ([], none) ∧
      gateGpioToggle ownerlessDeviceEnv 0x20007FC0 ⟨0⟩ 0 [] = ([], none) := by
  decide

end SentryKernel
