import SentryKernel.TaskSort

namespace SentryKernel

/-!
# The task-manager init automaton, one step at a time

`task_init` drives a global context `ctx` through seven step functions, one per state of
`task_mgr_state_t`.  Each step opens with an entering-state check and then does its own
work: the magic check, the two integrity checks (not implemented yet in the source), the
runtime cell, the `.data` copy and `.bss` zeroing, the scheduler registration, and the
finalization that appends the idle task and sorts the table.

The state `TaskMgr` holds `ctx`, the runtime table and the idle task's metadata object,
and records every effect a step has outside them: the `memcpy`/`memset` calls on task
memory and the `sched_schedule` calls, in order.  The build-provisioned metadata table,
`task_initialize_sp` and `sched_schedule` are the environment `TaskInitEnv`; the
scheduler's answer may depend on every call made to it before.
-/

/-- `task_mgr_state_t`. -/
inductive TaskMgrState where
  | boot
  | discoverSanitation
  | checkMetaIntegrity
  | checkTskIntegrity
  | initLocalinfo
  | tskMap
  | tskSchedule
  | finalize
  | ready
  | errorSecurity
  | errorRuntime
  deriving Repr, DecidableEq

/-- `struct task_mgr_ctx`, the automaton's global context. -/
structure TaskMgrCtx where
  state : TaskMgrState
  numtask : Nat
  status : KStatus
  deriving Repr, DecidableEq

/-- A `memcpy` or `memset` the task manager performs on a task's memory regions. -/
inductive MemOp where
  | memcpy (dst src len : Nat)
  | memset (dst value len : Nat)
  deriving Repr, DecidableEq

/--
The task manager's state: `ctx`, the runtime table `task_get_table()`, the object
`task_idle_get_meta()` points to, and the effects performed so far on task memory and
on the scheduler.
-/
structure TaskMgr where
  ctx : TaskMgrCtx
  table : List Task
  idleMeta : TaskMeta
  memOps : List MemOp
  scheduled : List TaskHandle
  deriving Repr, DecidableEq

/--
What the automaton reads but does not own: the build constants, `__task_meta_table`,
the architecture's `task_initialize_sp`, and `sched_schedule`, whose answer is a function
of the handles scheduled before and of the handle it is given.
-/
structure TaskInitEnv extends BuildConfig where
  metaTable : Nat → TaskMeta
  taskInitializeSp : Nat → Nat → Nat
  schedSchedule : List TaskHandle → TaskHandle → KStatus

/-- The metadata a step argument points to, in the current state. -/
def TaskMgr.deref
    (env : TaskInitEnv)
    (s : TaskMgr)
    (meta : MetaRef) :
    TaskMeta :=
  meta.deref env.metaTable s.idleMeta

/-- The sort key of a runtime cell in the current state. -/
def TaskMgr.label
    (env : TaskInitEnv)
    (s : TaskMgr) :
    Task → Nat :=
  Task.label env.metaTable s.idleMeta

section Steps

variable (env : TaskInitEnv)

/--
The entering-state check that opens every step: outside `expected` the step moves to
`ERROR_SECURITY` and returns `onMismatch`, and does nothing else.
-/
def enteringStateCheck
    (expected : TaskMgrState)
    (onMismatch : KStatus)
    (s : TaskMgr)
    (body : KStatus × TaskMgr) :
    KStatus × TaskMgr :=
  if s.ctx.state = expected then
    body
  else
    (onMismatch, { s with ctx.state := .errorSecurity })

/-- `task_init_discover_sanitation(meta)`: reject a metadata with a wrong magic. -/
def taskInitDiscoverSanitation
    (meta : MetaRef)
    (s : TaskMgr) :
    KStatus × TaskMgr :=
  enteringStateCheck .discoverSanitation .securityIntegrity s <|
    if (s.deref env meta).magic ≠ env.taskMagicValue then
      (.securityIntegrity, { s with ctx.state := .errorSecurity })
    else
      (.okay, { s with ctx.state := .checkMetaIntegrity })

/-- `task_init_check_meta_integrity(meta)`: the HMAC check is still a `FIXME`. -/
def taskInitCheckMetaIntegrity
    (_meta : MetaRef)
    (s : TaskMgr) :
    KStatus × TaskMgr :=
  enteringStateCheck .checkMetaIntegrity .securityIntegrity s
    (.okay, { s with ctx.state := .checkTskIntegrity })

/-- `task_init_check_tsk_integrity(meta)`: the HMAC check is still a `FIXME`. -/
def taskInitCheckTskIntegrity
    (_meta : MetaRef)
    (s : TaskMgr) :
    KStatus × TaskMgr :=
  enteringStateCheck .checkTskIntegrity .securityIntegrity s
    (.okay, { s with ctx.state := .initLocalinfo })

/--
The cell `task_init_initiate_localinfo` forges for a pointer `meta` to `m`; the entry
address `s_text + main_offset` is a 32-bit `size_t` sum.
-/
def localinfoCell
    (meta : MetaRef)
    (m : TaskMeta) :
    Task :=
  ⟨some meta, env.taskInitializeSp m.stackTop ((m.sText + m.mainOffset) % 4294967296)⟩

/--
`task_init_initiate_localinfo(meta)`: fill the cell `ctx.numtask` with the metadata
pointer and the task's initial stack pointer.
-/
def taskInitInitiateLocalinfo
    (meta : MetaRef)
    (s : TaskMgr) :
    KStatus × TaskMgr :=
  let cell := s.ctx.numtask
  enteringStateCheck .initLocalinfo .securityIntegrity s <|
    if cell = env.maxTasks + 1 then
      (.securityIntegrity, { s with ctx.state := .errorSecurity })
    else
      (.okay,
        { s with
          table := s.table.set cell (localinfoCell env meta (s.deref env meta)),
          ctx.state := .tskMap })

/-- The `memcpy` of `.data` and `memset` of `.bss` that `task_init_map` performs. -/
def mapOps
    (m : TaskMeta) :
    List MemOp :=
  [.memcpy m.sVmaData m.sData m.dataSize, .memset m.sBss 0 m.bssSize]

/--
`task_init_map(meta)`: copy the task's `.data` image and zero its `.bss`.  It returns
`K_STATUS_OKAY` also when the entering-state check fails.
-/
def taskInitMap
    (meta : MetaRef)
    (s : TaskMgr) :
    KStatus × TaskMgr :=
  enteringStateCheck .tskMap .okay s
    (.okay,
      { s with
        memOps := s.memOps ++ mapOps (s.deref env meta),
        ctx.state := .tskSchedule })

/-- `THREAD_FLAG_AUTOSTART` is set in the metadata's flags. -/
def isAutostart
    (m : TaskMeta) :
    Prop :=
  m.flags &&& env.threadFlagAutostart ≠ 0

instance (m : TaskMeta) : Decidable (isAutostart env m) :=
  inferInstanceAs (Decidable (_ ≠ _))

/-- `if (meta->flags & THREAD_FLAG_AUTOSTART) status = sched_schedule(meta->handle);` -/
def scheduleIfAutostart
    (m : TaskMeta)
    (s : TaskMgr) :
    KStatus × TaskMgr :=
  if isAutostart env m then
    (env.schedSchedule s.scheduled m.handle, { s with scheduled := s.scheduled ++ [m.handle] })
  else
    (.okay, s)

/--
`task_init_schedule(meta)`: register an autostart task with the scheduler, then loop
back to the next entry or go to `FINALIZE` once `ctx.numtask` reaches `task_get_num()`.
It returns `K_STATUS_OKAY` also when the entering-state check fails.
-/
def taskInitSchedule
    (meta : MetaRef)
    (s : TaskMgr) :
    KStatus × TaskMgr :=
  enteringStateCheck .tskSchedule .okay s <|
    let (status, s) := scheduleIfAutostart env (s.deref env meta) s
    if status ≠ .okay then
      (status, { s with ctx.state := .errorRuntime })
    else if s.ctx.numtask = env.numTasks then
      (.okay, { s with ctx.state := .finalize })
    else
      (.okay, { s with ctx.state := .discoverSanitation })

/-- The idle metadata's fields as `task_init_finalize` first writes them. -/
def idleMetaWritten
    (idle : TaskMeta) :
    TaskMeta :=
  { idle with
    handle := { idle.handle with rerun := 0, id := env.schedIdleTaskLabel,
                                 familly := env.handleTaskid },
    magic := env.taskMagicValue,
    flags := env.threadFlagAutostart ||| env.threadFlagPaniconexit,
    stackTop := env.idleStack,
    stackSize := 256 }

/--
`task_init_finalize()`: write the idle metadata, point the cell `ctx.numtask` at it,
clear it through that pointer with `memset`, count it, and sort the table.  Its
entering-state check sets `ctx.status` and leaves `ctx.state` as it was.  `ctx.numtask`
is a `uint16_t`.
-/
def taskInitFinalize
    (s : TaskMgr) :
    KStatus × TaskMgr :=
  if s.ctx.state ≠ .finalize then
    let s := { s with ctx.status := .securityIntegrity }
    (s.ctx.status, s)
  else
    let cell := s.ctx.numtask
    let s := { s with idleMeta := idleMetaWritten env s.idleMeta }
    let s :=
      { s with table := s.table.set cell { s.table.getD cell Task.zeroed with metadata := some .idle } }
    let s := { s with idleMeta := TaskMeta.zeroed }
    let s := { s with ctx.numtask := (cell + 1) % 65536 }
    let s := { s with table := taskBasicSort env.numTasks (s.label env) s.table }
    let s := { s with ctx.status := .okay, ctx.state := .ready }
    (s.ctx.status, s)

end Steps

section StepLemmas

variable {env : TaskInitEnv}

/-- A step called in the state it expects runs its body. -/
theorem enteringStateCheck_of_eq
    {expected : TaskMgrState}
    {onMismatch : KStatus}
    {s : TaskMgr}
    {body : KStatus × TaskMgr}
    (inState : s.ctx.state = expected) :
    enteringStateCheck expected onMismatch s body = body :=
  if_pos inState

/-- A step called in another state only moves to `ERROR_SECURITY`. -/
theorem enteringStateCheck_of_ne
    {expected : TaskMgrState}
    {onMismatch : KStatus}
    {s : TaskMgr}
    {body : KStatus × TaskMgr}
    (outOfState : s.ctx.state ≠ expected) :
    enteringStateCheck expected onMismatch s body =
      (onMismatch, { s with ctx.state := .errorSecurity }) :=
  if_neg outOfState

/--
From `FINALIZE`, `task_init_finalize` points cell `ctx.numtask` at the idle metadata,
leaves that metadata cleared, counts the cell, sorts by the labels read through the
cleared metadata, and reports `READY`.
-/
theorem taskInitFinalize_of_finalize
    (s : TaskMgr)
    (inFinalize : s.ctx.state = .finalize) :
    taskInitFinalize env s =
      (.okay,
        { s with
          ctx := ⟨.ready, (s.ctx.numtask + 1) % 65536, .okay⟩,
          idleMeta := TaskMeta.zeroed,
          table := taskBasicSort env.numTasks (Task.label env.metaTable TaskMeta.zeroed)
            (s.table.set s.ctx.numtask
              { s.table.getD s.ctx.numtask Task.zeroed with metadata := some .idle }) }) := by
  simp [taskInitFinalize, inFinalize, TaskMgr.label]

end StepLemmas

/-- A build with one declared autostart task, labelled `1`, that the scheduler accepts. -/
def oneValidTaskEnv : TaskInitEnv :=
  { maxTasks := 1, taskMagicValue := 7, numTasks := 1, schedIdleTaskLabel := 255,
    handleTaskid := 1, threadFlagAutostart := 1, threadFlagPaniconexit := 2, idleStack := 8192,
    metaTable := fun _ => { TaskMeta.zeroed with magic := 7, handle := ⟨0, 1, 1⟩, flags := 1 },
    taskInitializeSp := fun top _ => top,
    schedSchedule := fun _ _ => .okay }

/-- `FINALIZE` reached with the one declared task in cell `0`. -/
def finalizeOneTask : TaskMgr :=
  ⟨⟨.finalize, 1, .okay⟩, [⟨some (.declared 0), 0⟩, Task.zeroed], TaskMeta.zeroed, [], []⟩

/--
Finalizing one declared task: the idle cell is appended and counted and the state is
`READY`, but the idle metadata it points to is all zero (label `0`, magic `0`, flags `0`,
stack size `0`), and the sort places the idle cell first.
-/
theorem taskInitFinalize_one_task :
    taskInitFinalize oneValidTaskEnv finalizeOneTask =
      (.okay,
        ⟨⟨.ready, 2, .okay⟩, [⟨some .idle, 0⟩, ⟨some (.declared 0), 0⟩], TaskMeta.zeroed,
          [], []⟩) := by
  decide

end SentryKernel
