import Mathlib.Data.BitVec
import SentryKernel.TaskMeta
import SentryKernel.KernelRun

namespace SentryKernel

/-!
# The exception dispatcher

`Default_SubHandler` reads the exception number from `IPSR`, realigns it on the `IRQn`
numbering (peripheral interrupts from `0`, core exceptions negative) and dispatches: a
hard fault halts; a memory-management or usage fault goes through `may_panic`, which
either marks the faulting task and resumes an elected one or halts; `svc` and `SysTick`
go to their own handlers; a peripheral interrupt goes to `userisr_handler`, which routes
it to the task owning the interrupt's device.

The handlers' diagnostics (`dump_frame`, `pr_debug` and the fault status registers they
print) change nothing a caller observes and are left out.  `svc_handler_rs` and
`systick_handler` are collaborators: any routine on the frame.
-/

/-- `JOB_STATE_FAULT`, the job state the trap path sets. -/
inductive JobState where
  | fault
  deriving Repr, DecidableEq

/-- `irqh_t`, the event `userisr_handler` pushes to the owner of an interrupt's device. -/
structure IrqEvent where
  irqn : Int
  id : Int
  family : Nat
  deriving Repr, DecidableEq

/-- The state-changing manager calls of the trap path. -/
inductive TrapEffect where
  | taskSetState (task : TaskHandle) (state : JobState)
  | schedElect (elected : TaskHandle)
  | taskPushEvent (event : IrqEvent) (owner : TaskHandle)
  deriving Repr, DecidableEq

/-- The kernel around the dispatcher, as far as the trap path uses it. -/
structure TrapEnv where
  /--
  `frame->lr`, the `EXC_RETURN` saved in the `stack_frame_t` at a frame pointer; a whole
  trap reads it from the words `save_context` pushed (`TrapEnv.readingFrames`).
  -/
  frameLr : BitVec 32 → BitVec 32
  schedGetCurrent : List TrapEffect → TaskHandle
  schedElect : List TrapEffect → TaskHandle
  /-- `mgr_task_get_sp`: its status, and the frame it wrote, if it wrote one. -/
  mgrTaskGetSp : List TrapEffect → TaskHandle → KStatus × Option (BitVec 32)
  /-- `mgr_device_get_devh_from_interrupt`: the device of an 8-bit IRQ number, if any. -/
  mgrDeviceGetDevhFromInterrupt : List TrapEffect → BitVec 8 → Option DevHandle
  /-- `mgr_task_get_device_owner`: the task owning a device, if any. -/
  mgrTaskGetDeviceOwner : List TrapEffect → DevHandle → Option TaskHandle
  mgrTaskPushEvent : List TrapEffect → IrqEvent → TaskHandle → KStatus
  svcHandlerRs : BitVec 32 → KRun TrapEffect (BitVec 32)
  systickHandler : BitVec 32 → KRun TrapEffect (BitVec 32)
  /-- `HANDLE_IRQ`, the handle family of interrupt events. -/
  handleIrq : Nat

/-- `IPSR_ISR_Msk`: the exception number field of `IPSR`, bits 0 to 8. -/
def ipsrIsrMsk :
    BitVec 32 :=
  0x1FF

/-- `HARDFAULT_IRQ`. -/
def hardfaultIrq :
    Int :=
  -13

/-- `MEMMANAGE_IRQ`. -/
def memmanageIrq :
    Int :=
  -12

/-- `USAGEFAULT_IRQ`. -/
def usagefaultIrq :
    Int :=
  -10

/-- `SVC_IRQ`. -/
def svcIrq :
    Int :=
  -5

/-- `SYSTICK_IRQ`. -/
def systickIrq :
    Int :=
  -1

/-- The exception number, `IPSR & IPSR_ISR_Msk`. -/
def exceptionNumber
    (ipsr : BitVec 32) :
    Nat :=
  (ipsr &&& ipsrIsrMsk).toNat

section Handlers

variable (env : TrapEnv)

/--
`may_panic`: a fault taken from a task (bit 2 of the saved `EXC_RETURN`) marks the
current task faulted and resumes the frame `mgr_task_get_sp` gives for an elected task;
a fault taken from the kernel halts.
-/
def mayPanic
    (frame : BitVec 32) :
    KRun TrapEffect (BitVec 32) :=
  if env.frameLr frame &&& 4 ≠ 0 then do
    let tsk ← KRun.query env.schedGetCurrent
    KRun.emit (.taskSetState tsk .fault)
    let elected ← KRun.query env.schedElect
    KRun.emit (.schedElect elected)
    let sp ← KRun.query fun done => env.mgrTaskGetSp done elected
    pure (sp.2.getD frame)
  else
    KRun.panic

/-- `hardfault_handler`: halt. -/
def hardfaultHandler
    (_frame : BitVec 32) :
    KRun TrapEffect (BitVec 32) :=
  KRun.panic

/-- `usagefault_handler`. -/
def usagefaultHandler
    (frame : BitVec 32) :
    KRun TrapEffect (BitVec 32) :=
  mayPanic env frame

/-- `memfault_handler`. -/
def memfaultHandler
    (frame : BitVec 32) :
    KRun TrapEffect (BitVec 32) :=
  mayPanic env frame

/-- `svc_handler`. -/
def svcHandler
    (frame : BitVec 32) :
    KRun TrapEffect (BitVec 32) :=
  env.svcHandlerRs frame

/--
`userisr_handler`: look up the device of the interrupt (through the `uint8_t` parameter
of `mgr_device_get_devh_from_interrupt`) and its owner, and push an interrupt event to
the owner; a missing device or owner, or a push returning `K_STATUS_OKAY`, panics.
-/
def userisrHandler
    (frame : BitVec 32)
    (irqn : Int) :
    KRun TrapEffect (BitVec 32) := do
  let some dev ← KRun.query fun done =>
      env.mgrDeviceGetDevhFromInterrupt done (BitVec.ofInt 8 irqn)
    | KRun.panic
  let some owner ← KRun.query fun done => env.mgrTaskGetDeviceOwner done dev
    | KRun.panic
  let ev : IrqEvent := ⟨irqn, irqn, env.handleIrq⟩
  let status ← KRun.query fun done => env.mgrTaskPushEvent done ev owner
  KRun.emit (.taskPushEvent ev owner)
  if status = .okay then KRun.panic else pure frame

/-- `Default_SubHandler`: dispatch on the exception number less 16. -/
def defaultSubHandler
    (ipsr : BitVec 32)
    (frame : BitVec 32) :
    KRun TrapEffect (BitVec 32) :=
  let it : Int := exceptionNumber ipsr - 16
  if it = hardfaultIrq then hardfaultHandler frame
  else if it = memmanageIrq then memfaultHandler env frame
  else if it = usagefaultIrq then usagefaultHandler env frame
  else if it = svcIrq then svcHandler env frame
  else if it = systickIrq then env.systickHandler frame
  else if 0 ≤ it then userisrHandler env frame it
  else pure frame

/-- The owner of the device of the 8-bit truncation of `irqn`, if both exist. -/
def irqOwner
    (done : List TrapEffect)
    (irqn : Int) :
    Option TaskHandle :=
  (env.mgrDeviceGetDevhFromInterrupt done (BitVec.ofInt 8 irqn)).bind
    (env.mgrTaskGetDeviceOwner done)

end Handlers

section Dispatch

variable {env : TrapEnv}

/-- A fault taken from the kernel halts before any manager call. -/
theorem mayPanic_of_kernel
    {frame : BitVec 32}
    (fromKernel : env.frameLr frame &&& 4 = 0)
    (done : List TrapEffect) :
    mayPanic env frame done = (done, none) := by
  rw [mayPanic, if_neg (not_not.mpr fromKernel)]
  rfl

/--
A fault taken from a task marks the task `sched_get_current` names faulted, then calls
`sched_elect` once, and resumes whatever frame pointer `mgr_task_get_sp` left: the one
it wrote for the elected task, or else the faulting frame.
-/
theorem mayPanic_of_task
    {frame : BitVec 32}
    (fromTask : env.frameLr frame &&& 4 ≠ 0)
    (done : List TrapEffect) :
    mayPanic env frame done =
      let faulted := done ++ [.taskSetState (env.schedGetCurrent done) .fault]
      let elected := env.schedElect faulted
      let after := faulted ++ [.schedElect elected]
      (after, some ((env.mgrTaskGetSp after elected).2.getD frame)) := by
  rw [mayPanic, if_pos fromTask]
  rfl

/-- Exception numbers 4 and 6, memory-management and usage faults, go through `may_panic`. -/
theorem defaultSubHandler_of_fault
    {ipsr : BitVec 32}
    (fault : exceptionNumber ipsr = 4 ∨ exceptionNumber ipsr = 6)
    (frame : BitVec 32) :
    defaultSubHandler env ipsr frame = mayPanic env frame := by
  rcases fault with number | number <;>
    simp [defaultSubHandler, number, hardfaultIrq, memmanageIrq, usagefaultIrq,
      memfaultHandler, usagefaultHandler]

/-- A hard fault, exception number 3, halts. -/
theorem defaultSubHandler_of_hardfault
    {ipsr : BitVec 32}
    (hard : exceptionNumber ipsr = 3)
    (frame : BitVec 32) :
    defaultSubHandler env ipsr frame = KRun.panic := by
  simp [defaultSubHandler, hard, hardfaultIrq, hardfaultHandler]

/-- A peripheral interrupt, exception number 16 or more, goes to `userisr_handler`. -/
theorem defaultSubHandler_of_peripheral
    {ipsr : BitVec 32}
    (peripheral : 16 ≤ exceptionNumber ipsr)
    (frame : BitVec 32) :
    defaultSubHandler env ipsr frame = userisrHandler env frame (exceptionNumber ipsr - 16) := by
  have notCore : ∀ core : Int, core < 0 → (exceptionNumber ipsr : Int) - 16 ≠ core := by
    intro core negative
    omega
  have nonnegative : (0 : Int) ≤ exceptionNumber ipsr - 16 := by
    omega
  rw [defaultSubHandler, if_neg (notCore _ (by decide)), if_neg (notCore _ (by decide)),
    if_neg (notCore _ (by decide)), if_neg (notCore _ (by decide)),
    if_neg (notCore _ (by decide)), if_pos nonnegative]

/--
`userisr_handler` panics unless the 8-bit truncation of the IRQ number has a device with
an owner; it then pushes exactly one event, `{irqn, irqn, HANDLE_IRQ}`, to that owner and
returns the frame it received exactly when the push does not return `K_STATUS_OKAY`.
-/
theorem userisrHandler_eq
    (frame : BitVec 32)
    (irqn : Int)
    (done : List TrapEffect) :
    userisrHandler env frame irqn done =
      match irqOwner env done irqn with
      | none =>
          (done, none)
      | some owner =>
          (done ++ [.taskPushEvent ⟨irqn, irqn, env.handleIrq⟩ owner],
            if env.mgrTaskPushEvent done ⟨irqn, irqn, env.handleIrq⟩ owner = .okay then none
            else some frame) := by
  unfold userisrHandler irqOwner
  cases device : env.mgrDeviceGetDevhFromInterrupt done (BitVec.ofInt 8 irqn) with
  | none =>
      simp [device]
  | some dev =>
      cases owner : env.mgrTaskGetDeviceOwner done dev with
      | none =>
          simp [device, owner]
      | some owner =>
          simp only [device, owner, KRun.query_bind, Option.some_bind, KRun.emit_bind]
          split <;> rfl

end Dispatch

/-- A fault from a task whose elected successor has no frame to give. -/
def getSpFailsEnv :
    TrapEnv where
  frameLr _ := 0xFFFFFFFD
  schedGetCurrent _ := ⟨0, 1, 1⟩
  schedElect _ := ⟨0, 2, 1⟩
  mgrTaskGetSp _ _ := (.other 1, none)
  mgrDeviceGetDevhFromInterrupt _ _ := none
  mgrTaskGetDeviceOwner _ _ := none
  mgrTaskPushEvent _ _ _ := .okay
  svcHandlerRs := pure
  systickHandler := pure
  handleIrq := 4

/--
A memory-management or usage fault from a task, when `mgr_task_get_sp` fails for the
elected task, resumes the faulting frame.
-/
theorem defaultSubHandler_fault_resumes_faulting_frame :
    defaultSubHandler getSpFailsEnv 4 0x20007FC0 [] =
        ([.taskSetState ⟨0, 1, 1⟩ .fault, .schedElect ⟨0, 2, 1⟩], some 0x20007FC0) ∧
      defaultSubHandler getSpFailsEnv 6 0x20007FC0 [] =
        ([.taskSetState ⟨0, 1, 1⟩ .fault, .schedElect ⟨0, 2, 1⟩], some 0x20007FC0) := by
  decide

/-- One device, for IRQ 0, owned by a task whose event queue is full. -/
def fullQueueEnv :
    TrapEnv where
  frameLr _ := 0
  schedGetCurrent _ := ⟨0, 1, 1⟩
  schedElect _ := ⟨0, 1, 1⟩
  mgrTaskGetSp _ _ := (.okay, none)
  mgrDeviceGetDevhFromInterrupt _ irq := if irq = 0 then some ⟨0⟩ else none
  mgrTaskGetDeviceOwner _ _ := some ⟨0, 1, 1⟩
  mgrTaskPushEvent _ _ _ := .other 1
  svcHandlerRs := pure
  systickHandler := pure
  handleIrq := 4

/--
With the owner's queue full, IRQ 0 (exception 16) and IRQ 256 (exception 272, which has
no device of its own) both return normally, the event lost; IRQ 256's event went to the
owner of IRQ 0's device.
-/
theorem defaultSubHandler_drops_irq_on_full_queue :
    defaultSubHandler fullQueueEnv 16 0x20007FC0 [] =
        ([.taskPushEvent ⟨0, 0, 4⟩ ⟨0, 1, 1⟩], some 0x20007FC0) ∧
      defaultSubHandler fullQueueEnv 272 0x20007FC0 [] =
        ([.taskPushEvent ⟨256, 256, 4⟩ ⟨0, 1, 1⟩], some 0x20007FC0) := by
  decide

end SentryKernel
