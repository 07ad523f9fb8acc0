import Mathlib.Data.List.Basic

namespace SentryKernel

/-!
# Task metadata and the runtime task table

The build system forges one `task_meta_t` per task into the read-only `.task_list`
section; at boot the task manager turns each of them into a cell of the mutable runtime
table `task_t[CONFIG_MAX_TASKS + 1]`, the last cell being reserved for the idle task.
A runtime cell does not copy its metadata: it keeps a pointer to it, either into the
build-provisioned table or to the idle task's metadata object.

Kconfig values, link-time symbols and header constants that the kernel code reads but
does not define are gathered in `BuildConfig`, so every result holds for every build.
-/

/-- `kstatus_t`: the codes the modelled code names, and every other code as `other`. -/
inductive KStatus where
  | okay
  | securityIntegrity
  | other (code : Nat)
  deriving Repr, DecidableEq

/-- A task handle `taskh_t`, with the structured fields the task manager writes. -/
structure TaskHandle where
  rerun : Nat
  id : Nat
  familly : Nat
  deriving Repr, DecidableEq

/-- The all-zero handle, as `memset` leaves it. -/
def TaskHandle.zeroed : TaskHandle :=
  ⟨0, 0, 0⟩

/-- A device handle `devh_t`. -/
structure DevHandle where
  raw : Nat
  deriving Repr, DecidableEq

/-- The fields of `task_meta_t` that the task manager reads or writes. -/
structure TaskMeta where
  magic : Nat
  handle : TaskHandle
  flags : Nat
  sText : Nat
  mainOffset : Nat
  stackTop : Nat
  stackSize : Nat
  sData : Nat
  sVmaData : Nat
  dataSize : Nat
  sBss : Nat
  bssSize : Nat
  sSvcexchange : Nat
  deriving Repr, DecidableEq

/-- The metadata record after `memset(meta, 0x0, sizeof(task_meta_t))`. -/
def TaskMeta.zeroed : TaskMeta :=
  ⟨0, TaskHandle.zeroed, 0, 0, 0, 0, 0, 0, 0, 0, 0, 0, 0⟩

/--
A non-null `task_meta_t const *` as the task manager builds them: the address of a cell
of `__task_meta_table`, or the idle metadata that `task_idle_get_meta()` returns.
-/
inductive MetaRef where
  | declared (cell : Nat)
  | idle
  deriving Repr, DecidableEq

/-- A runtime cell `task_t`: its metadata pointer (`none` is NULL) and saved stack pointer. -/
structure Task where
  metadata : Option MetaRef
  sp : Nat
  deriving Repr, DecidableEq

/-- A cell of the runtime table after the boot-time `memset` to zero. -/
def Task.zeroed : Task :=
  ⟨none, 0⟩

/--
Constants of the build that the kernel reads without defining them: Kconfig values,
link-time symbols and uapi header values.
-/
structure BuildConfig where
  /-- `CONFIG_MAX_TASKS` -/
  maxTasks : Nat
  /-- `CONFIG_TASK_MAGIC_VALUE` -/
  taskMagicValue : Nat
  /-- `task_get_num()`: the number of tasks the build system declared -/
  numTasks : Nat
  /-- `SCHED_IDLE_TASK_LABEL` -/
  schedIdleTaskLabel : Nat
  /-- `HANDLE_TASKID` -/
  handleTaskid : Nat
  /-- `THREAD_FLAG_AUTOSTART` -/
  threadFlagAutostart : Nat
  /-- `THREAD_FLAG_PANICONEXIT` -/
  threadFlagPaniconexit : Nat
  /-- `(size_t)&_idlestack`, the link-time top of the idle stack -/
  idleStack : Nat

/-- The metadata a reference designates, given the table and the idle metadata object. -/
def MetaRef.deref
    (metaTable : Nat → TaskMeta)
    (idleMeta : TaskMeta) :
    MetaRef → TaskMeta
  | .declared cell =>
      metaTable cell
  | .idle =>
      idleMeta

/--
`table[j].metadata->handle.id`, the sort key of a runtime cell. Dereferencing NULL is
undefined in the source; the model reads it as label `0`.
-/
def Task.label
    (metaTable : Nat → TaskMeta)
    (idleMeta : TaskMeta)
    (task : Task) :
    Nat :=
  match task.metadata with
  | some ref =>
      (ref.deref metaTable idleMeta).handle.id
  | none =>
      0

end SentryKernel
