import SentryKernel.ContextSwitch
import SentryKernel.TrapDispatch

namespace SentryKernel

/-!
# A whole trap

`Default_Handler` saves the interrupted context, hands the saved frame to
`Default_SubHandler` in `r0`, and restores whatever frame the dispatcher returns.  The
two levels of the model meet here: the machine-level entry and exit sequences of
`ContextSwitch`, and the dispatcher with its manager calls of `TrapDispatch`.

What the C dispatcher leaves in the caller-saved registers and the flags, and what it or
its collaborators write to memory, is not determined by the code: `DispatchLeftovers`
takes it as a parameter.  A trap whose dispatcher gives back the frame it received,
with the saved words intact, resumes the interrupted context exactly.  That includes a
fault from a task when no replacement frame can be found: the task is marked faulted and
then resumed as if nothing had happened.

The dispatcher tells a task's fault from the kernel's by `frame->lr`.  `stack_frame_t` is
not in the sources; `save_context` pushes `r4`-`r11` and then `lr` at the frame, so here
`frame->lr` is the ninth word there, and a fault is the task's exactly when the
`EXC_RETURN` the trap was entered with selects the process stack.
-/

/-- What the dispatcher leaves besides its result: caller-saved registers, flags, memory. -/
structure DispatchLeftovers where
  r1 : BitVec 32
  r2 : BitVec 32
  r3 : BitVec 32
  r12 : BitVec 32
  lr : BitVec 32
  zFlag : Bool
  cFlag : Bool
  mem : Memory

/-- The dispatcher's return as `Default_Handler` sees it: the frame in `r0`, and the rest. -/
def DispatchLeftovers.withFrame
    (left : DispatchLeftovers)
    (frame : BitVec 32) :
    SubHandlerReturn :=
  ⟨frame, left.r1, left.r2, left.r3, left.r12, left.lr, left.zFlag, left.cFlag, left.mem⟩

/-- The dispatcher reading `frame->lr` from memory: the word after `r4`-`r11`. -/
def TrapEnv.readingFrames
    (env : TrapEnv)
    (mem : Memory) :
    TrapEnv :=
  { env with frameLr := fun frame => mem (frame + 32) }

/-- The dispatcher sees, as the saved frame's `lr`, the `EXC_RETURN` the trap was entered with. -/
theorem readingFrames_frameLr_saveContext
    (env : TrapEnv)
    (m : Machine) :
    (env.readingFrames (saveContext m).mem).frameLr ((saveContext m).reg .r0) = m.reg .lr := by
  have pushed := loadWords_saveContext m
  simp only [loadWords, calleeSaved, List.map_cons, List.map_nil, List.cons.injEq] at pushed
  simpa only [BitVec.add_assoc, BitVec.reduceAdd] using pushed.2.2.2.2.2.2.2.2.1

/--
`Default_Handler` around the dispatcher: the manager calls of the trap, and the machine it
returns to, `none` when the kernel halted.
-/
def trap
    (env : TrapEnv)
    (ipsr : BitVec 32)
    (left : DispatchLeftovers)
    (m : Machine)
    (done : List TrapEffect) :
    List TrapEffect × Option Machine :=
  let dispatched :=
    defaultSubHandler (env.readingFrames (saveContext m).mem) ipsr ((saveContext m).reg .r0) done
  (dispatched.1, dispatched.2.map fun frame => defaultHandler m (left.withFrame frame))

section WholeTrap

variable {env : TrapEnv} {ipsr : BitVec 32} {left : DispatchLeftovers} {m : Machine}
  {done : List TrapEffect}

/--
A trap whose dispatcher returns the frame it received, with the nine saved words intact,
resumes the interrupted context: `r4`-`r11`, `lr` and both stack pointers as at entry.
-/
theorem trap_resumes_interrupted_context
    (returnsFrame :
      (defaultSubHandler (env.readingFrames (saveContext m).mem) ipsr ((saveContext m).reg .r0)
          done).2 =
        some ((saveContext m).reg .r0))
    (intactWords :
      loadWords left.mem ((saveContext m).reg .r0) 9 =
        loadWords (saveContext m).mem ((saveContext m).reg .r0) 9) :
    ∃ resumed, (trap env ipsr left m done).2 = some resumed ∧
      calleeSaved.map resumed.reg = calleeSaved.map m.reg ∧
      resumed.msp = m.msp ∧ resumed.psp = m.psp :=
  ⟨defaultHandler m (left.withFrame ((saveContext m).reg .r0)),
    by simp only [trap, returnsFrame, Option.map_some'],
    defaultHandler_of_intact_frame m (left.withFrame _) rfl intactWords⟩

/--
A memory-management or usage fault from a task, when `mgr_task_get_sp` writes no frame:
the current task is marked faulted and a successor elected, yet the trap resumes the
faulted context exactly as it was.
-/
theorem trap_fault_resumes_faulted_task
    (fault : exceptionNumber ipsr = 4 ∨ exceptionNumber ipsr = 6)
    (fromTask : m.reg .lr &&& 4 ≠ 0)
    (noFrame : ∀ calls task, (env.mgrTaskGetSp calls task).2 = none)
    (intactWords :
      loadWords left.mem ((saveContext m).reg .r0) 9 =
        loadWords (saveContext m).mem ((saveContext m).reg .r0) 9) :
    (trap env ipsr left m done).1 =
        done ++ [.taskSetState (env.schedGetCurrent done) .fault,
          .schedElect (env.schedElect (done ++ [.taskSetState (env.schedGetCurrent done) .fault]))] ∧
      ∃ resumed, (trap env ipsr left m done).2 = some resumed ∧
        calleeSaved.map resumed.reg = calleeSaved.map m.reg ∧
        resumed.msp = m.msp ∧ resumed.psp = m.psp := by
  have savedFromTask := readingFrames_frameLr_saveContext env m ▸ fromTask
  have dispatched :
      defaultSubHandler (env.readingFrames (saveContext m).mem) ipsr ((saveContext m).reg .r0)
          done =
        (done ++ [.taskSetState (env.schedGetCurrent done) .fault,
            .schedElect (env.schedElect (done ++ [.taskSetState (env.schedGetCurrent done) .fault]))],
          some ((saveContext m).reg .r0)) := by
    rw [defaultSubHandler_of_fault fault, mayPanic_of_task savedFromTask]
    simp only [TrapEnv.readingFrames, noFrame, Option.getD_none, List.append_assoc,
      List.singleton_append]
  exact ⟨by simp only [trap, dispatched],
    trap_resumes_interrupted_context (by rw [dispatched]) intactWords⟩

/-- What a dispatcher leaves when it writes no memory: the saved words as they are. -/
def untouchedLeftovers
    (m : Machine) :
    DispatchLeftovers :=
  ⟨0, 0, 0, 0, 0, false, false, (saveContext m).mem⟩

/-- A memory-management fault from a task whose frame is never written resumes that task. -/
theorem trap_fault_resumes_task_without_frame :
    (exceptionNumber 4 = 4 ∨ exceptionNumber 4 = 6) ∧
      taskTrap.reg .lr &&& 4 ≠ 0 ∧
      (∀ calls task, (getSpFailsEnv.mgrTaskGetSp calls task).2 = none) ∧
      loadWords (untouchedLeftovers taskTrap).mem ((saveContext taskTrap).reg .r0) 9 =
        loadWords (saveContext taskTrap).mem ((saveContext taskTrap).reg .r0) 9 ∧
      (trap getSpFailsEnv 4 (untouchedLeftovers taskTrap) taskTrap []).1 =
          [] ++ [.taskSetState (getSpFailsEnv.schedGetCurrent []) .fault,
            .schedElect (getSpFailsEnv.schedElect
              ([] ++ [.taskSetState (getSpFailsEnv.schedGetCurrent []) .fault]))] ∧
        ∃ resumed, (trap getSpFailsEnv 4 (untouchedLeftovers taskTrap) taskTrap []).2 =
            some resumed ∧
          calleeSaved.map resumed.reg = calleeSaved.map taskTrap.reg ∧
          resumed.msp = taskTrap.msp ∧ resumed.psp = taskTrap.psp :=
  have fault : exceptionNumber 4 = 4 ∨ exceptionNumber 4 = 6 := Or.inl (by decide)
  have fromTask : taskTrap.reg .lr &&& 4 ≠ 0 := by
    decide
  have noFrame : ∀ calls task, (getSpFailsEnv.mgrTaskGetSp calls task).2 = none :=
    fun _ _ => rfl
  have intactWords :
      loadWords (untouchedLeftovers taskTrap).mem ((saveContext taskTrap).reg .r0) 9 =
        loadWords (saveContext taskTrap).mem ((saveContext taskTrap).reg .r0) 9 :=
    rfl
  ⟨fault, fromTask, noFrame, intactWords,
    trap_fault_resumes_faulted_task fault fromTask noFrame intactWords⟩

/--
A memory-management or usage fault taken in handler mode or on the main stack halts the
kernel before any manager call: no task changes state and no context is resumed.
-/
theorem trap_kernel_fault_halts
    (fault : exceptionNumber ipsr = 4 ∨ exceptionNumber ipsr = 6)
    (fromKernel : m.reg .lr &&& 4 = 0) :
    trap env ipsr left m done = (done, none) := by
  have savedFromKernel := readingFrames_frameLr_saveContext env m ▸ fromKernel
  simp only [trap, defaultSubHandler_of_fault fault, mayPanic_of_kernel savedFromKernel,
    Option.map_none']

/-- A trap from the kernel: `lr` holds `EXC_RETURN` to thread mode on the main stack. -/
def kernelTrap :
    Machine :=
  { taskTrap with reg := Function.update taskTrap.reg .lr 0xFFFFFFF9 }

/-- A usage fault taken while the kernel ran on the main stack halts, whatever the managers. -/
theorem trap_kernel_usage_fault_halts :
    (exceptionNumber 6 = 4 ∨ exceptionNumber 6 = 6) ∧ kernelTrap.reg .lr &&& 4 = 0 ∧
      trap getSpFailsEnv 6 (untouchedLeftovers kernelTrap) kernelTrap [] = ([], none) :=
  have fault : exceptionNumber 6 = 4 ∨ exceptionNumber 6 = 6 := Or.inr (by decide)
  have fromKernel : kernelTrap.reg .lr &&& 4 = 0 := by decide
  ⟨fault, fromKernel, trap_kernel_fault_halts fault fromKernel⟩

end WholeTrap

end SentryKernel
