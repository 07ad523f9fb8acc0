import SentryKernel.TaskInitStep

namespace SentryKernel

/-!
# Out-of-order calls to the init automaton

A fault injected into the control flow of `task_init` can call the seven step functions
in any order, with any metadata pointer, from any context.  Each step's entering-state
check is meant to turn such a call into a security error with no other effect.

The calls are reified as `TaskInitCall` and run in sequence by `runCalls`.  A mismatched
call never touches the runtime table, the idle metadata, task memory or the scheduler,
and no step expects an error state, so the error states are absorbing over every
sequence.  Two steps do not follow the pattern: `task_init_map` and `task_init_schedule`
return `K_STATUS_OKAY` on a mismatch, and `task_init_finalize` leaves `ctx.state` as it
was instead of moving to `ERROR_SECURITY`.
-/

/-- A call to one of the seven step functions, with its metadata argument. -/
inductive TaskInitCall where
  | discoverSanitation (meta : MetaRef)
  | checkMetaIntegrity (meta : MetaRef)
  | checkTskIntegrity (meta : MetaRef)
  | initiateLocalinfo (meta : MetaRef)
  | map (meta : MetaRef)
  | schedule (meta : MetaRef)
  | finalize
  deriving Repr, DecidableEq

namespace TaskInitCall

/-- Run one call on the task manager's state. -/
def run
    (env : TaskInitEnv) :
    TaskInitCall → TaskMgr → KStatus × TaskMgr
  | .discoverSanitation meta, s =>
      taskInitDiscoverSanitation env meta s
  | .checkMetaIntegrity meta, s =>
      taskInitCheckMetaIntegrity meta s
  | .checkTskIntegrity meta, s =>
      taskInitCheckTskIntegrity meta s
  | .initiateLocalinfo meta, s =>
      taskInitInitiateLocalinfo env meta s
  | .map meta, s =>
      taskInitMap env meta s
  | .schedule meta, s =>
      taskInitSchedule env meta s
  | .finalize, s =>
      taskInitFinalize env s

/-- The state a call's entering-state check expects. -/
def expected :
    TaskInitCall → TaskMgrState
  | .discoverSanitation _ =>
      .discoverSanitation
  | .checkMetaIntegrity _ =>
      .checkMetaIntegrity
  | .checkTskIntegrity _ =>
      .checkTskIntegrity
  | .initiateLocalinfo _ =>
      .initLocalinfo
  | .map _ =>
      .tskMap
  | .schedule _ =>
      .tskSchedule
  | .finalize =>
      .finalize

/-- The status a call returns when its entering-state check fails. -/
def mismatchStatus :
    TaskInitCall → KStatus
  | .map _ =>
      .okay
  | .schedule _ =>
      .okay
  | _ =>
      .securityIntegrity

/-- The `ctx.state` a call leaves when its entering-state check fails in `state`. -/
def mismatchState
    (state : TaskMgrState) :
    TaskInitCall → TaskMgrState
  | .finalize =>
      state
  | _ =>
      .errorSecurity

end TaskInitCall

/-- Run calls in order, collecting their statuses. -/
def runCalls
    (env : TaskInitEnv) :
    List TaskInitCall → TaskMgr → List KStatus × TaskMgr
  | [], s =>
      ([], s)
  | call :: calls, s =>
      let first := call.run env s
      let rest := runCalls env calls first.2
      (first.1 :: rest.1, rest.2)

/-- `ERROR_SECURITY` or `ERROR_RUNTIME`. -/
def IsErrorState :
    TaskMgrState → Prop
  | .errorSecurity =>
      True
  | .errorRuntime =>
      True
  | _ =>
      False

/-- Two states agree on everything a step can change besides `ctx`. -/
def SameEffects
    (s s' : TaskMgr) :
    Prop :=
  s'.table = s.table ∧ s'.idleMeta = s.idleMeta ∧ s'.memOps = s.memOps ∧
    s'.scheduled = s.scheduled

section Mismatch

variable {env : TaskInitEnv}

/-- No step expects an error state. -/
theorem TaskInitCall.expected_not_error
    (call : TaskInitCall) :
    ¬IsErrorState call.expected := by
  cases call <;> simp [TaskInitCall.expected, IsErrorState]

/--
A call whose entering-state check fails returns its mismatch status and only changes
`ctx.state` (and, for `task_init_finalize`, `ctx.status`).
-/
theorem TaskInitCall.run_of_mismatch
    (call : TaskInitCall)
    {s : TaskMgr}
    (outOfState : s.ctx.state ≠ call.expected) :
    call.run env s =
      (call.mismatchStatus,
        { s with
          ctx.state := call.mismatchState s.ctx.state,
          ctx.status := if call = .finalize then .securityIntegrity else s.ctx.status }) := by
  cases call <;>
    simp_all [run, expected, mismatchStatus, mismatchState, taskInitDiscoverSanitation,
      taskInitCheckMetaIntegrity, taskInitCheckTskIntegrity, taskInitInitiateLocalinfo,
      taskInitMap, taskInitSchedule, taskInitFinalize, enteringStateCheck_of_ne]

/-- A mismatched call has no effect outside `ctx`. -/
theorem TaskInitCall.sameEffects_of_mismatch
    (call : TaskInitCall)
    {s : TaskMgr}
    (outOfState : s.ctx.state ≠ call.expected) :
    SameEffects s (call.run env s).2 := by
  simp [call.run_of_mismatch outOfState, SameEffects]

/-- A call made in an error state leaves an error state. -/
theorem TaskInitCall.isErrorState_of_error
    (call : TaskInitCall)
    {s : TaskMgr}
    (inError : IsErrorState s.ctx.state) :
    IsErrorState (call.run env s).2.ctx.state := by
  have outOfState : s.ctx.state ≠ call.expected := fun same =>
    call.expected_not_error (same ▸ inError)
  rw [call.run_of_mismatch outOfState]
  cases call
  case finalize =>
    exact inError
  all_goals exact trivial

/--
From an error state, any sequence of calls stays in the error states, has no effect
outside `ctx`, and returns exactly the calls' mismatch statuses.
-/
theorem runCalls_of_error
    (calls : List TaskInitCall)
    {s : TaskMgr}
    (inError : IsErrorState s.ctx.state) :
    IsErrorState (runCalls env calls s).2.ctx.state ∧
      SameEffects s (runCalls env calls s).2 ∧
      (runCalls env calls s).1 = calls.map TaskInitCall.mismatchStatus := by
  induction calls generalizing s with
  | nil =>
      exact ⟨inError, ⟨rfl, rfl, rfl, rfl⟩, rfl⟩
  | cons call calls inductionHypothesis =>
      have outOfState : s.ctx.state ≠ call.expected := fun same =>
        call.expected_not_error (same ▸ inError)
      obtain ⟨stillError, sameAfter, statuses⟩ :=
        inductionHypothesis (@TaskInitCall.isErrorState_of_error env call s inError)
      have sameFirst := @TaskInitCall.sameEffects_of_mismatch env call s outOfState
      refine ⟨stillError, ?_, ?_⟩
      · obtain ⟨table, idle, ops, scheduled⟩ := sameFirst
        obtain ⟨table', idle', ops', scheduled'⟩ := sameAfter
        exact ⟨table'.trans table, idle'.trans idle, ops'.trans ops, scheduled'.trans scheduled⟩
      · simp only [runCalls, List.map_cons]
        rw [statuses, call.run_of_mismatch outOfState]

/--
The task manager stopped in `ERROR_SECURITY` after one declared task was counted, its
regions mapped and the task scheduled.
-/
def securityErrorState : TaskMgr :=
  ⟨⟨.errorSecurity, 1, .securityIntegrity⟩, [⟨some (.declared 0), 0⟩, Task.zeroed],
    TaskMeta.zeroed, [.memcpy 0x20000000 0x08010000 64, .memset 0x20000040 0 32], [⟨0, 1, 1⟩]⟩

/-- Each of the seven steps called once, in the order `task_init` calls them. -/
def everyStepOnce : List TaskInitCall :=
  [.discoverSanitation (.declared 0), .checkMetaIntegrity (.declared 0),
    .checkTskIntegrity (.declared 0), .initiateLocalinfo (.declared 0), .map (.declared 0),
    .schedule (.declared 0), .finalize]

/--
Replaying every step from `ERROR_SECURITY` stays in an error state, keeps the table, the
mapped regions and the scheduled task, and returns the seven mismatch statuses.
-/
theorem runCalls_of_error_from_security_error :
    IsErrorState securityErrorState.ctx.state ∧
      IsErrorState (runCalls oneValidTaskEnv everyStepOnce securityErrorState).2.ctx.state ∧
      SameEffects securityErrorState
        (runCalls oneValidTaskEnv everyStepOnce securityErrorState).2 ∧
      (runCalls oneValidTaskEnv everyStepOnce securityErrorState).1 =
        everyStepOnce.map TaskInitCall.mismatchStatus :=
  have inError : IsErrorState securityErrorState.ctx.state := trivial
  ⟨inError, runCalls_of_error everyStepOnce inError⟩

end Mismatch

/--
Calls from `ERROR_SECURITY`: `task_init_map` and `task_init_schedule` return
`K_STATUS_OKAY`; and `task_init_finalize` called in `DISCOVER_SANITATION` leaves the
automaton in `DISCOVER_SANITATION`.
-/
theorem mismatched_map_schedule_finalize
    (env : TaskInitEnv)
    (meta : MetaRef)
    (s : TaskMgr) :
    (TaskInitCall.run env (.map meta) { s with ctx.state := .errorSecurity }).1 = .okay ∧
      (TaskInitCall.run env (.schedule meta) { s with ctx.state := .errorSecurity }).1 = .okay ∧
      (TaskInitCall.run env .finalize
        { s with ctx.state := .discoverSanitation }).2.ctx.state = .discoverSanitation := by
  simp [TaskInitCall.run, taskInitMap, taskInitSchedule, taskInitFinalize, enteringStateCheck]

end SentryKernel
