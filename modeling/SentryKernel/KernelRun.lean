import Mathlib.Data.List.Basic

namespace SentryKernel

/-!
# Kernel routines: manager calls, answers and panics

The trap handlers and the syscall gates are short straight-line C functions that ask
other managers questions (`sched_get_current`, `mgr_device_get_info`), call managers
that change kernel state (`mgr_task_set_state`, `sched_elect`, `mgr_io_set`), and may
halt the kernel with `panic()`.

A routine is modelled as a function from the state-changing calls made so far to the
calls made after it, in order, and its return value, `none` when it panicked.  A
collaborator's answer is a function of the calls made so far, so a theorem that holds
for every such function holds for every behaviour of the collaborator.  The calls made
before a panic stay visible, which is what "halts without changing any task state"
is about.
-/

/--
A kernel routine: from the state-changing calls made so far, the calls after it and its
return value, `none` when it panicked.
-/
def KRun
    (ε α : Type) :
    Type :=
  List ε → List ε × Option α

namespace KRun

variable {ε α β : Type}

/-- Return a value. -/
protected def pure
    (a : α) :
    KRun ε α :=
  fun done => (done, some a)

/-- Run `x`, then `f` on its value; a panic ends the routine. -/
protected def bind
    (x : KRun ε α)
    (f : α → KRun ε β) :
    KRun ε β :=
  fun done =>
    match x done with
    | (after, some a) =>
        f a after
    | (after, none) =>
        (after, none)

instance : Monad (KRun ε) where
  pure := KRun.pure
  bind := KRun.bind

/-- Call a manager that changes kernel state. -/
def emit
    (effect : ε) :
    KRun ε Unit :=
  fun done => (done ++ [effect], some ())

/-- Ask a collaborator, whose answer may depend on every call made so far. -/
def query
    (answer : List ε → α) :
    KRun ε α :=
  fun done => (done, some (answer done))

/-- `panic()`: halt the kernel. -/
def panic :
    KRun ε α :=
  fun done => (done, none)

@[simp]
theorem pure_apply
    (a : α)
    (done : List ε) :
    (pure a : KRun ε α) done = (done, some a) :=
  rfl

@[simp]
theorem emit_bind
    (effect : ε)
    (f : Unit → KRun ε β)
    (done : List ε) :
    (emit effect >>= f) done = f () (done ++ [effect]) :=
  rfl

@[simp]
theorem query_bind
    (answer : List ε → α)
    (f : α → KRun ε β)
    (done : List ε) :
    (query answer >>= f) done = f (answer done) done :=
  rfl

@[simp]
theorem panic_apply
    (done : List ε) :
    (panic : KRun ε α) done = (done, none) :=
  rfl

@[simp]
theorem panic_bind
    (f : α → KRun ε β)
    (done : List ε) :
    (panic >>= f) done = (done, none) :=
  rfl

@[simp]
theorem pure_bind
    (a : α)
    (f : α → KRun ε β) :
    (pure a >>= f : KRun ε β) = f a :=
  rfl

theorem bind_apply
    (x : KRun ε α)
    (f : α → KRun ε β)
    (done : List ε) :
    (x >>= f) done =
      match x done with
      | (after, some a) => f a after
      | (after, none) => (after, none) :=
  rfl

/-- A step that returns lets the rest of the routine run after it. -/
theorem bind_apply_of_some
    {x : KRun ε α}
    {f : α → KRun ε β}
    {done after : List ε}
    {a : α}
    (run : x done = (after, some a)) :
    (x >>= f) done = f a after := by
  rw [bind_apply, run]

/-- A step that panics ends the routine. -/
theorem bind_apply_of_none
    {x : KRun ε α}
    {f : α → KRun ε β}
    {done after : List ε}
    (run : x done = (after, none)) :
    (x >>= f) done = (after, none) := by
  rw [bind_apply, run]

/-- A routine that returned went through a first step that returned. -/
theorem bind_returns
    {x : KRun ε α}
    {f : α → KRun ε β}
    {done after : List ε}
    {b : β}
    (run : (x >>= f) done = (after, some b)) :
    ∃ a middle, x done = (middle, some a) ∧ f a middle = (after, some b) := by
  rw [bind_apply] at run
  rcases firstResult : x done with ⟨middle, _ | a⟩ <;> rw [firstResult] at run
  case none =>
    cases run
  case some =>
    exact ⟨a, middle, rfl, run⟩

section Appends

/-- Every call `x` makes, whatever was called before it, satisfies `allowed`. -/
def Appends
    (allowed : ε → Prop)
    (x : KRun ε α) :
    Prop :=
  ∀ done, ∃ rest, (x done).1 = done ++ rest ∧ ∀ effect ∈ rest, allowed effect

variable {allowed : ε → Prop}

theorem appends_pure
    (a : α) :
    Appends allowed (pure a : KRun ε α) :=
  fun _ => ⟨[], by simp, by simp⟩

theorem appends_panic :
    Appends allowed (panic : KRun ε α) :=
  fun _ => ⟨[], by simp, by simp⟩

theorem appends_query
    (answer : List ε → α) :
    Appends allowed (query answer) :=
  fun _ => ⟨[], by simp [query], by simp⟩

theorem appends_emit
    {effect : ε}
    (isAllowed : allowed effect) :
    Appends allowed (emit effect) :=
  fun _ => ⟨[effect], rfl, by simpa using isAllowed⟩

theorem appends_bind
    {x : KRun ε α}
    {f : α → KRun ε β}
    (first : Appends allowed x)
    (next : ∀ a, Appends allowed (f a)) :
    Appends allowed (x >>= f) := by
  intro done
  obtain ⟨before, firstRun, beforeAllowed⟩ := first done
  rw [bind_apply]
  rcases firstResult : x done with ⟨after, _ | a⟩ <;> rw [firstResult] at firstRun
  case none =>
    exact ⟨before, firstRun, beforeAllowed⟩
  case some =>
    obtain ⟨later, nextRun, laterAllowed⟩ := next a after
    refine ⟨before ++ later, by rw [nextRun, ← List.append_assoc, ← firstRun], ?_⟩
    simp only [List.mem_append]
    rintro effect (early | late)
    exacts [beforeAllowed effect early, laterAllowed effect late]

theorem appends_ite
    {c : Prop}
    [Decidable c]
    {x y : KRun ε α}
    (whenTrue : Appends allowed x)
    (whenFalse : Appends allowed y) :
    Appends allowed (if c then x else y) := by
  split
  exacts [whenTrue, whenFalse]

end Appends

section Bounds

/-- `x` makes at most `n` calls, whatever was called before it. -/
def AppendsAtMost
    (n : Nat)
    (x : KRun ε α) :
    Prop :=
  ∀ done, ∃ rest, (x done).1 = done ++ rest ∧ rest.length ≤ n

variable {n m : Nat}

theorem AppendsAtMost.mono
    {x : KRun ε α}
    (bound : AppendsAtMost n x)
    (le : n ≤ m) :
    AppendsAtMost m x := fun done =>
  let ⟨rest, run, length⟩ := bound done
  ⟨rest, run, length.trans le⟩

theorem appendsAtMost_pure
    (a : α) :
    AppendsAtMost 0 (pure a : KRun ε α) :=
  fun _ => ⟨[], by simp, le_rfl⟩

theorem appendsAtMost_emit
    (effect : ε) :
    AppendsAtMost 1 (emit effect) :=
  fun _ => ⟨[effect], rfl, le_rfl⟩

theorem appendsAtMost_query
    (answer : List ε → α) :
    AppendsAtMost 0 (query answer) :=
  fun _ => ⟨[], by simp [query], le_rfl⟩

theorem appendsAtMost_bind
    {x : KRun ε α}
    {f : α → KRun ε β}
    (first : AppendsAtMost n x)
    (next : ∀ a, AppendsAtMost m (f a)) :
    AppendsAtMost (n + m) (x >>= f) := by
  intro done
  obtain ⟨before, firstRun, beforeLength⟩ := first done
  rw [bind_apply]
  rcases firstResult : x done with ⟨after, _ | a⟩ <;> rw [firstResult] at firstRun
  case none =>
    exact ⟨before, firstRun, by omega⟩
  case some =>
    obtain ⟨later, nextRun, laterLength⟩ := next a after
    refine ⟨before ++ later, by rw [nextRun, ← List.append_assoc, ← firstRun], ?_⟩
    rw [List.length_append]
    omega

/-- A branch makes at most as many calls as its longer arm. -/
theorem appendsAtMost_ite
    {c : Prop}
    [Decidable c]
    {x y : KRun ε α}
    (whenTrue : AppendsAtMost n x)
    (whenFalse : AppendsAtMost m y) :
    AppendsAtMost (max n m) (if c then x else y) := by
  split
  exacts [whenTrue.mono (le_max_left n m), whenFalse.mono (le_max_right n m)]

end Bounds

end KRun

end SentryKernel
