import SentryKernel.TaskInitStep

namespace SentryKernel

open List

/-!
# The boot-time pass of `task_init`

`task_init` resets `ctx` and zeroes the runtime table, then runs the six per-entry steps
on every declared metadata cell in order, storing each step's return value in
`ctx.status` and leaving the pass at the first one that is not `K_STATUS_OKAY`; after the
last entry it calls `task_init_finalize`.

The pass is described by the state it reaches after `k` entries went through
(`passedState`).  One loop iteration takes `passedState k` to `passedState (k + 1)` when
entry `k` passes, and to the failure state when it does not; the whole pass follows by
induction.  Two facts about the source show up in that description: `ctx.numtask` is
never advanced by the loop, so every entry is written to cell `0`, and therefore the last
`task_init_schedule` never selects `FINALIZE`.
-/

section Pass

variable (env : TaskInitEnv)

/--
Store a step's return value in `ctx.status`, as `task_init` does, and leave the pass
(`goto end`) unless it is `K_STATUS_OKAY`.
-/
def recordStatus
    (r : KStatus × TaskMgr) :
    Except TaskMgr TaskMgr :=
  if r.1 = .okay then
    .ok { r.2 with ctx.status := r.1 }
  else
    .error { r.2 with ctx.status := r.1 }

/-- One iteration of the loop of `task_init`, on `&__task_meta_table[cell]`. -/
def taskInitCell
    (s : TaskMgr)
    (cell : Nat) :
    Except TaskMgr TaskMgr := do
  let meta := MetaRef.declared cell
  let s ← recordStatus (taskInitDiscoverSanitation env meta s)
  let s ← recordStatus (taskInitCheckMetaIntegrity meta s)
  let s ← recordStatus (taskInitCheckTskIntegrity meta s)
  let s ← recordStatus (taskInitInitiateLocalinfo env meta s)
  let s ← recordStatus (taskInitMap env meta s)
  recordStatus (taskInitSchedule env meta s)

/-- `task_init()`: its return value and the state it leaves. -/
def taskInit
    (s : TaskMgr) :
    KStatus × TaskMgr :=
  let s := { s with ctx := ⟨.boot, 0, .okay⟩ }
  let s := { s with table := replicate (env.maxTasks + 1) Task.zeroed }
  let s := { s with ctx.state := .discoverSanitation }
  match (range env.numTasks).foldlM (taskInitCell env) s with
  | .error s =>
      (s.ctx.status, s)
  | .ok s =>
      let s := (taskInitFinalize env s).2
      (s.ctx.status, s)

/-! ### What the pass does with the first `k` entries -/

/--
The `sched_schedule` calls after those of `before`, once the entries `0 .. k - 1` went
through: one per autostart entry, in table order.
-/
def schedHistory
    (before : List TaskHandle)
    (k : Nat) :
    List TaskHandle :=
  before ++ (range k).filterMap fun i =>
    if isAutostart env (env.metaTable i) then some (env.metaTable i).handle else none

/--
Entry `i` has the right magic and, if `THREAD_FLAG_AUTOSTART` is set in its flags, the
scheduler accepts it, having been given before it the handles of the autostart entries
among `0 .. i - 1`, in table order.
-/
def EntryPasses
    (before : List TaskHandle)
    (i : Nat) :
    Prop :=
  (env.metaTable i).magic = env.taskMagicValue ∧
    ((env.metaTable i).flags &&& env.threadFlagAutostart ≠ 0 →
      env.schedSchedule
          (before ++ (range i).filterMap fun j =>
            if (env.metaTable j).flags &&& env.threadFlagAutostart ≠ 0 then
              some (env.metaTable j).handle
            else none)
          (env.metaTable i).handle = .okay)

instance (before : List TaskHandle) (i : Nat) : Decidable (EntryPasses env before i) :=
  inferInstanceAs (Decidable (_ ∧ _))

/-- The `memcpy`/`memset` calls of `task_init_map` on the entries `0 .. k - 1`. -/
def mapOpsUpTo
    (k : Nat) :
    List MemOp :=
  (range k).flatMap fun i => mapOps (env.metaTable i)

/--
The runtime table once the entries `0 .. k - 1` were given their cells: each of them was
written to cell `ctx.numtask`, which stays `0`, so only the last one remains.
-/
def passTable :
    Nat → List Task
  | 0 =>
      replicate (env.maxTasks + 1) Task.zeroed
  | k + 1 =>
      (replicate (env.maxTasks + 1) Task.zeroed).set 0
        (localinfoCell env (.declared k) (env.metaTable k))

/-- The state at the top of the loop once the entries `0 .. k - 1` went through. -/
def passedState
    (s : TaskMgr)
    (k : Nat) :
    TaskMgr where
  ctx := ⟨.discoverSanitation, 0, .okay⟩
  table := passTable env k
  idleMeta := s.idleMeta
  memOps := s.memOps ++ mapOpsUpTo env k
  scheduled := schedHistory env s.scheduled k

/--
What `task_init` returns and leaves when entry `f` is the first that does not pass: a
security error at `f`'s magic check, or else the scheduler's refusal of `f`.
-/
def firstFailure
    (s : TaskMgr)
    (f : Nat) :
    KStatus × TaskMgr :=
  if (env.metaTable f).magic ≠ env.taskMagicValue then
    (.securityIntegrity,
      { passedState env s f with ctx := ⟨.errorSecurity, 0, .securityIntegrity⟩ })
  else
    let status := env.schedSchedule (schedHistory env s.scheduled f) (env.metaTable f).handle
    (status, { passedState env s (f + 1) with ctx := ⟨.errorRuntime, 0, status⟩ })

end Pass

section PassLemmas

variable {env : TaskInitEnv}

/-- The scheduler history, with the autostart test written out. -/
theorem schedHistory_eq
    (before : List TaskHandle)
    (k : Nat) :
    schedHistory env before k =
      before ++ (range k).filterMap fun i =>
        if (env.metaTable i).flags &&& env.threadFlagAutostart ≠ 0 then
          some (env.metaTable i).handle
        else none :=
  rfl

/-- `EntryPasses` in the terms of the model: `isAutostart` and the scheduler history. -/
theorem entryPasses_iff
    {before : List TaskHandle}
    {i : Nat} :
    EntryPasses env before i ↔
      (env.metaTable i).magic = env.taskMagicValue ∧
        (isAutostart env (env.metaTable i) →
          env.schedSchedule (schedHistory env before i) (env.metaTable i).handle = .okay) :=
  Iff.rfl

/-- The memory operations of the mapped entries, with each `memcpy` and `memset` written out. -/
theorem mapOpsUpTo_eq
    (k : Nat) :
    mapOpsUpTo env k =
      (range k).flatMap fun i =>
        [.memcpy (env.metaTable i).sVmaData (env.metaTable i).sData (env.metaTable i).dataSize,
          .memset (env.metaTable i).sBss 0 (env.metaTable i).bssSize] :=
  rfl

/-- After `k` entries the table holds the last one's cell in cell `0`, and zeroes after it. -/
theorem passTable_eq
    (k : Nat) :
    ∃ first, passTable env k = first :: replicate env.maxTasks Task.zeroed ∧
      first.metadata = if k = 0 then none else some (.declared (k - 1)) := by
  cases k
  case zero =>
    exact ⟨Task.zeroed, rfl, rfl⟩
  case succ k =>
    exact ⟨localinfoCell env (.declared k) (env.metaTable k), rfl, rfl⟩

/-- The scheduler history grows by the handle of each autostart entry. -/
theorem schedHistory_succ
    (before : List TaskHandle)
    (k : Nat) :
    schedHistory env before (k + 1) =
      schedHistory env before k ++
        if isAutostart env (env.metaTable k) then [(env.metaTable k).handle] else [] := by
  by_cases autostart : isAutostart env (env.metaTable k) <;>
    simp [schedHistory, range_succ, autostart]

/-- The memory operations grow by those of each mapped entry. -/
theorem mapOpsUpTo_succ
    (k : Nat) :
    mapOpsUpTo env (k + 1) = mapOpsUpTo env k ++ mapOps (env.metaTable k) := by
  simp [mapOpsUpTo, range_succ]

/-- Each entry overwrites cell `0`. -/
theorem passTable_succ
    (k : Nat) :
    passTable env (k + 1) =
      (passTable env k).set 0 (localinfoCell env (.declared k) (env.metaTable k)) := by
  cases k <;> simp [passTable]

/-- An entry that passes takes the loop from `passedState k` to `passedState (k + 1)`. -/
theorem taskInitCell_of_passes
    (s : TaskMgr)
    {k : Nat}
    (below : k < env.numTasks)
    (passes : EntryPasses env s.scheduled k) :
    taskInitCell env (passedState env s k) k = .ok (passedState env s (k + 1)) := by
  obtain ⟨magicOk, accepted⟩ := entryPasses_iff.mp passes
  have notLast : (0 : Nat) ≠ env.numTasks := by
    omega
  by_cases autostart : isAutostart env (env.metaTable k) <;>
    simp [taskInitCell, recordStatus, taskInitDiscoverSanitation, taskInitCheckMetaIntegrity,
      taskInitCheckTskIntegrity, taskInitInitiateLocalinfo, taskInitMap, taskInitSchedule,
      enteringStateCheck, scheduleIfAutostart, passedState, TaskMgr.deref, MetaRef.deref,
      magicOk, autostart, accepted, notLast, schedHistory_succ, mapOpsUpTo_succ,
      passTable_succ, Bind.bind, Except.bind]

/-- The first entry that does not pass ends the loop in the failure state. -/
theorem taskInitCell_of_fails
    (s : TaskMgr)
    {k : Nat}
    (fails : ¬EntryPasses env s.scheduled k) :
    taskInitCell env (passedState env s k) k = .error (firstFailure env s k).2 := by
  by_cases magicOk : (env.metaTable k).magic = env.taskMagicValue
  · obtain ⟨autostart, refused⟩ : isAutostart env (env.metaTable k) ∧
        env.schedSchedule (schedHistory env s.scheduled k) (env.metaTable k).handle ≠ .okay := by
      simpa [entryPasses_iff, magicOk] using fails
    simp [taskInitCell, recordStatus, taskInitDiscoverSanitation, taskInitCheckMetaIntegrity,
      taskInitCheckTskIntegrity, taskInitInitiateLocalinfo, taskInitMap, taskInitSchedule,
      enteringStateCheck, scheduleIfAutostart, passedState, firstFailure, TaskMgr.deref,
      MetaRef.deref, magicOk, autostart, refused, schedHistory_succ, mapOpsUpTo_succ,
      passTable_succ, Bind.bind, Except.bind]
  · simp [taskInitCell, recordStatus, taskInitDiscoverSanitation, enteringStateCheck,
      passedState, firstFailure, TaskMgr.deref, MetaRef.deref, magicOk, Bind.bind, Except.bind]

/-- The loop over the entries `0 .. k - 1` when all of them pass. -/
theorem taskInitLoop_of_passes
    (s : TaskMgr)
    {k : Nat}
    (upTo : k ≤ env.numTasks)
    (allPass : ∀ i < k, EntryPasses env s.scheduled i) :
    (range k).foldlM (taskInitCell env) (passedState env s 0) = .ok (passedState env s k) := by
  induction k with
  | zero =>
      rfl
  | succ k inductionHypothesis =>
      rw [range_succ, foldlM_append,
        inductionHypothesis (by omega) fun i below => allPass i (by omega)]
      simp only [foldlM_cons, foldlM_nil, Bind.bind, Except.bind,
        taskInitCell_of_passes s (by omega) (allPass k (by omega))]
      rfl

/-- The state `task_init` enters its loop with. -/
theorem passedState_zero
    (s : TaskMgr) :
    passedState env s 0 =
      { s with ctx := ⟨.discoverSanitation, 0, .okay⟩,
               table := replicate (env.maxTasks + 1) Task.zeroed } := by
  simp [passedState, passTable, mapOpsUpTo, schedHistory]

/-- `task_init` is its loop from `passedState 0`, then finalization if the loop completed. -/
theorem taskInit_eq_loop
    (s : TaskMgr) :
    taskInit env s =
      match (range env.numTasks).foldlM (taskInitCell env) (passedState env s 0) with
      | .error s =>
          (s.ctx.status, s)
      | .ok s =>
          ((taskInitFinalize env s).2.ctx.status, (taskInitFinalize env s).2) := by
  rw [passedState_zero]
  rfl

/-- When entry `f` is the first that does not pass, `task_init` ends in `firstFailure`. -/
theorem taskInit_of_first_failure
    (s : TaskMgr)
    {f : Nat}
    (below : f < env.numTasks)
    (earlierPass : ∀ i < f, EntryPasses env s.scheduled i)
    (fails : ¬EntryPasses env s.scheduled f) :
    taskInit env s = firstFailure env s f := by
  obtain ⟨later, numTasks_eq⟩ : ∃ later, env.numTasks = f + (later + 1) :=
    ⟨env.numTasks - f - 1, by omega⟩
  have loopToF := taskInitLoop_of_passes s below.le earlierPass
  rw [taskInit_eq_loop, numTasks_eq, range_add, foldlM_append, loopToF, range_succ_eq_map]
  simp only [map_cons, Nat.add_zero, foldlM_cons, Bind.bind, Except.bind,
    taskInitCell_of_fails s fails]
  by_cases magicOk : (env.metaTable f).magic = env.taskMagicValue <;>
    simp [firstFailure, magicOk]

end PassLemmas

section Agreeing

variable {env : TaskInitEnv} {metaTable' : Nat → TaskMeta}

/-- The scheduler history only reads the entries before `k`. -/
theorem schedHistory_agree
    {k : Nat}
    (before : List TaskHandle)
    (agree : ∀ i < k, metaTable' i = env.metaTable i) :
    schedHistory { env with metaTable := metaTable' } before k = schedHistory env before k := by
  unfold schedHistory
  congr 1
  exact filterMap_congr fun i member => by simp [agree i (mem_range.mp member), isAutostart]

/-- Whether entry `k` passes only reads the entries up to `k`. -/
theorem entryPasses_agree
    {k : Nat}
    (before : List TaskHandle)
    (agree : ∀ i ≤ k, metaTable' i = env.metaTable i) :
    EntryPasses { env with metaTable := metaTable' } before k ↔ EntryPasses env before k := by
  have history := schedHistory_agree before fun i below => agree i below.le
  simp only [entryPasses_iff, isAutostart] at history ⊢
  simp [history, agree k le_rfl]

/-- The state after `k` entries only reads the entries before `k`. -/
theorem passedState_agree
    {k : Nat}
    (s : TaskMgr)
    (agree : ∀ i < k, metaTable' i = env.metaTable i) :
    passedState { env with metaTable := metaTable' } s k = passedState env s k := by
  have ops : mapOpsUpTo { env with metaTable := metaTable' } k = mapOpsUpTo env k :=
    flatMap_congr fun i member => by simp [agree i (mem_range.mp member)]
  have table : passTable { env with metaTable := metaTable' } k = passTable env k := by
    cases k with
    | zero =>
        rfl
    | succ k =>
        simp [passTable, localinfoCell, agree k (Nat.lt_succ_self k)]
  simp only [passedState, ops, table, schedHistory_agree s.scheduled agree]

/-- The failure state at `f` only reads the entries up to `f`. -/
theorem firstFailure_agree
    {f : Nat}
    (s : TaskMgr)
    (agree : ∀ i ≤ f, metaTable' i = env.metaTable i) :
    firstFailure { env with metaTable := metaTable' } s f = firstFailure env s f := by
  simp only [firstFailure, agree f le_rfl,
    schedHistory_agree s.scheduled fun i below => agree i below.le,
    passedState_agree s fun i below => agree i below.le,
    @passedState_agree env metaTable' (f + 1) s fun i below => agree i (Nat.lt_succ_iff.mp below)]

end Agreeing

/-- A state before boot: empty logs, zeroed idle metadata. -/
def bootState : TaskMgr :=
  ⟨⟨.boot, 0, .okay⟩, [], TaskMeta.zeroed, [], []⟩

/-- A build with two declared autostart entries, the second with a wrong magic. -/
def secondMagicBadEnv : TaskInitEnv :=
  { oneValidTaskEnv with
    maxTasks := 2, numTasks := 2,
    metaTable := fun cell => { TaskMeta.zeroed with magic := 7 - 7 * cell, flags := 1 } }

section FailClosed

variable (env : TaskInitEnv)

/-- The number of entries whose cell was written and memory mapped before the failure at `f`. -/
def reachedBy
    (f : Nat) :
    Nat :=
  if (env.metaTable f).magic = env.taskMagicValue then f + 1 else f

/--
What `task_init` does when entry `f` is the first whose magic is wrong or whose scheduling
is refused.
-/
structure FailsClosedAt
    (s : TaskMgr)
    (f : Nat) :
    Prop where
  /-- `.data` is copied and `.bss` zeroed exactly for the entries before `f`, and for `f`
  when its scheduling failed. -/
  mapsExactly :
    (taskInit env s).2.memOps =
      s.memOps ++ (range (reachedBy env f)).flatMap fun i =>
        [.memcpy (env.metaTable i).sVmaData (env.metaTable i).sData (env.metaTable i).dataSize,
          .memset (env.metaTable i).sBss 0 (env.metaTable i).bssSize]
  /-- `sched_schedule` is called exactly for the autostart entries among those, in order. -/
  schedulesExactly :
    (taskInit env s).2.scheduled =
      s.scheduled ++ (range (reachedBy env f)).filterMap fun i =>
        if (env.metaTable i).flags &&& env.threadFlagAutostart ≠ 0 then
          some (env.metaTable i).handle
        else none
  /-- No entry after `f` is read: changing them changes nothing. -/
  readsNothingAfter :
    ∀ metaTable' : Nat → TaskMeta, (∀ i ≤ f, metaTable' i = env.metaTable i) →
      taskInit { env with metaTable := metaTable' } s = taskInit env s
  /-- The idle task is not appended: its metadata is untouched and not counted. -/
  idleUntouched : (taskInit env s).2.idleMeta = s.idleMeta ∧ (taskInit env s).2.ctx.numtask = 0
  /-- The table is not sorted and has no idle cell: cell `0` holds the last entry the pass
  reached, every other cell is still zero. -/
  tableUnsorted :
    ∃ first, (taskInit env s).2.table = first :: replicate env.maxTasks Task.zeroed ∧
      first.metadata =
        if reachedBy env f = 0 then none else some (.declared (reachedBy env f - 1))
  /-- A wrong magic is a security error. -/
  magicError :
    (env.metaTable f).magic ≠ env.taskMagicValue →
      (taskInit env s).1 = .securityIntegrity ∧ (taskInit env s).2.ctx.state = .errorSecurity
  /-- A refused scheduling is a runtime error carrying the scheduler's status. -/
  scheduleError :
    (env.metaTable f).magic = env.taskMagicValue →
      (taskInit env s).1 =
          env.schedSchedule
            (s.scheduled ++ (range f).filterMap fun i =>
              if (env.metaTable i).flags &&& env.threadFlagAutostart ≠ 0 then
                some (env.metaTable i).handle
              else none)
            (env.metaTable f).handle ∧
        (taskInit env s).2.ctx.state = .errorRuntime

end FailClosed

/--
`task_init` fails closed at the first entry whose magic is wrong or whose scheduling the
scheduler refuses, whatever the table holds after it and whatever the scheduler answers.
-/
theorem taskInit_fails_closed
    (env : TaskInitEnv)
    (s : TaskMgr)
    {f : Nat}
    (below : f < env.numTasks)
    (earlierPass : ∀ i < f, EntryPasses env s.scheduled i)
    (fails : ¬EntryPasses env s.scheduled f) :
    FailsClosedAt env s f := by
  have result := taskInit_of_first_failure s below earlierPass fails
  refine ⟨?_, ?_, ?readsNothingAfter, ?_, ?tableUnsorted, ?_, ?_⟩
  case readsNothingAfter =>
    intro metaTable' agree
    have sameEarlier : ∀ i < f, EntryPasses { env with metaTable := metaTable' } s.scheduled i :=
      fun i earlier =>
        (entryPasses_agree s.scheduled fun j atMost => agree j (by omega)).mpr
          (earlierPass i earlier)
    have sameFails : ¬EntryPasses { env with metaTable := metaTable' } s.scheduled f :=
      mt (entryPasses_agree s.scheduled agree).mp fails
    rw [@taskInit_of_first_failure { env with metaTable := metaTable' } s f below sameEarlier
      sameFails, firstFailure_agree s agree, result]
  case tableUnsorted =>
    rw [result]
    obtain ⟨first, table, firstCell⟩ := @passTable_eq env (reachedBy env f)
    refine ⟨first, ?_, firstCell⟩
    by_cases magicOk : (env.metaTable f).magic = env.taskMagicValue <;>
      simpa [firstFailure, reachedBy, passedState, magicOk] using table
  all_goals
    by_cases magicOk : (env.metaTable f).magic = env.taskMagicValue <;>
      simp [result, firstFailure, reachedBy, passedState, magicOk, mapOpsUpTo_eq,
        schedHistory_eq]

/-- Two declared entries, the second with a wrong magic: the pass stops at its magic check. -/
theorem taskInit_fails_closed_at_second_magic :
    1 < secondMagicBadEnv.numTasks ∧
      (∀ i < 1, EntryPasses secondMagicBadEnv bootState.scheduled i) ∧
      ¬EntryPasses secondMagicBadEnv bootState.scheduled 1 ∧
      FailsClosedAt secondMagicBadEnv bootState 1 :=
  ⟨by decide, by decide, by decide,
    taskInit_fails_closed secondMagicBadEnv bootState (by decide) (by decide) (by decide)⟩

/-! ### The pass never reaches `FINALIZE` -/

/--
When every declared entry passes, the last `task_init_schedule` still compares
`ctx.numtask = 0` with `task_get_num()` and loops back to `DISCOVER_SANITATION`, so
`task_init_finalize` fails its entering-state check: `task_init` returns
`K_SECURITY_INTEGRITY` without appending the idle task or sorting.
-/
theorem taskInit_of_all_pass
    (env : TaskInitEnv)
    (s : TaskMgr)
    (allPass : ∀ i < env.numTasks, EntryPasses env s.scheduled i) :
    taskInit env s =
      (.securityIntegrity, { passedState env s env.numTasks with ctx.status := .securityIntegrity }) := by
  rw [taskInit_eq_loop, taskInitLoop_of_passes s le_rfl allPass]
  simp [taskInitFinalize, passedState]

/-- `task_init` never returns `K_STATUS_OKAY`, for any table, build or scheduler. -/
theorem taskInit_status_ne_okay
    (env : TaskInitEnv)
    (s : TaskMgr) :
    (taskInit env s).1 ≠ .okay := by
  by_cases allPass : ∀ i < env.numTasks, EntryPasses env s.scheduled i
  · simp [taskInit_of_all_pass env s allPass]
  · push_neg at allPass
    obtain ⟨f, ⟨below, fails⟩, earlierPass⟩ : ∃ f, (f < env.numTasks ∧
        ¬EntryPasses env s.scheduled f) ∧ ∀ i < f, EntryPasses env s.scheduled i :=
      ⟨Nat.find allPass, Nat.find_spec allPass, fun i earlier => by
        by_contra failsEarlier
        exact Nat.find_min allPass earlier
          ⟨earlier.trans (Nat.find_spec allPass).1, failsEarlier⟩⟩
    rw [taskInit_of_first_failure s below earlierPass fails]
    by_cases magicOk : (env.metaTable f).magic = env.taskMagicValue
    · obtain ⟨-, refused⟩ : isAutostart env (env.metaTable f) ∧
          env.schedSchedule (schedHistory env s.scheduled f) (env.metaTable f).handle ≠ .okay := by
        simpa [entryPasses_iff, magicOk] using fails
      simp [firstFailure, magicOk, refused]
    · simp [firstFailure, magicOk]

/--
One declared autostart task with the right magic and a scheduler that accepts it:
`task_init` returns `K_SECURITY_INTEGRITY`, stays in `DISCOVER_SANITATION`, and the table
holds the task's cell and no idle cell.
-/
theorem taskInit_one_valid_task :
    (taskInit oneValidTaskEnv bootState).1 = .securityIntegrity ∧
      (taskInit oneValidTaskEnv bootState).2.ctx.state = .discoverSanitation ∧
      (taskInit oneValidTaskEnv bootState).2.table = [⟨some (.declared 0), 0⟩, Task.zeroed] := by
  decide

end SentryKernel
