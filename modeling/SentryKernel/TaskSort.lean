import SentryKernel.TaskMeta
import Mathlib.Data.List.Perm.Basic
import Mathlib.Data.List.Sort
import Mathlib.Data.List.Chain

namespace SentryKernel

open List

/-!
# The runtime-table sort of `task_init_finalize`

`task_basic_sort` orders the cells `0 .. task_get_num()` of the runtime table by label
with adjacent swaps, in nested index loops.  The source leaves the outer loop as soon as
a pass *did* swap something, the opposite of its own comment ("If no two elements were
swapped, beaking").  This module shows that the loops compute exactly one bubble pass over
those cells: the pass is described on lists (`bubble`), the inner loop is shown to
compute it, and the early exit is shown to make every later pass redundant.
-/

/-- `task_swap(&table[i], &table[j])`: exchange two whole cells through a pivot. -/
def taskSwap
    (table : List Task)
    (i j : Nat) :
    List Task :=
  (table.set j (table.getD i Task.zeroed)).set i (table.getD j Task.zeroed)

/--
The inner loop `for (j = ...; j < task_get_num() - i; j++)` of `task_basic_sort`, from
index `j` with `remaining` iterations left.  It swaps neighbours whose labels are out of
order and reports whether it swapped.
-/
def sortPass
    (label : Task → Nat) :
    (remaining j : Nat) → List Task → Bool → List Task × Bool
  | 0, _, table, swapped =>
      (table, swapped)
  | remaining + 1, j, table, swapped =>
      if label (table.getD j Task.zeroed) > label (table.getD (j + 1) Task.zeroed) then
        sortPass label remaining (j + 1) (taskSwap table j (j + 1)) true
      else
        sortPass label remaining (j + 1) table swapped

/--
The outer loop `for (i = ...; i < task_get_num() + 1; i++)` of `task_basic_sort`, from
pass `i` with `remaining` passes left.  It breaks when the pass it just ran swapped.
-/
def sortPasses
    (label : Task → Nat)
    (num : Nat) :
    (remaining i : Nat) → List Task → List Task
  | 0, _, table =>
      table
  | remaining + 1, i, table =>
      let (table, swapped) := sortPass label (num - i) 0 table false
      if swapped then
        table
      else
        sortPasses label num remaining (i + 1) table

/-- `task_basic_sort(table)`, where `num` is `task_get_num()`. -/
def taskBasicSort
    (num : Nat)
    (label : Task → Nat)
    (table : List Task) :
    List Task :=
  sortPasses label num (num + 1) 0 table

/-! ### One bubble pass on lists -/

/--
One bubble pass over `carried :: cells`: the carried cell moves right past every cell
with a smaller label.  The flag records whether it moved at all.
-/
def bubble
    (label : Task → Nat)
    (carried : Task) :
    List Task → List Task × Bool
  | [] =>
      ([carried], false)
  | next :: rest =>
      if label carried > label next then
        ((bubble label carried rest).1.cons next, true)
      else
        ((bubble label next rest).1.cons carried, (bubble label next rest).2)

section Bubble

variable {label : Task → Nat}

/-- A bubble pass permutes its cells. -/
theorem bubble_perm
    (carried : Task)
    (cells : List Task) :
    (bubble label carried cells).1 ~ carried :: cells := by
  induction cells generalizing carried with
  | nil =>
      rfl
  | cons next rest inductionHypothesis =>
      by_cases outOfOrder : label carried > label next
      · simp only [bubble, outOfOrder, ↓reduceIte]
        exact ((inductionHypothesis carried).cons next).trans (Perm.swap carried next rest)
      · simp only [bubble, outOfOrder, ↓reduceIte]
        exact (inductionHypothesis next).cons carried

/-- A bubble pass keeps the number of cells. -/
theorem bubble_length
    (carried : Task)
    (cells : List Task) :
    (bubble label carried cells).1.length = cells.length + 1 :=
  (bubble_perm carried cells).length_eq

/-- A pass that swapped nothing leaves its cells as they were. -/
theorem bubble_of_not_swapped
    {carried : Task}
    {cells : List Task}
    (notSwapped : (bubble label carried cells).2 = false) :
    (bubble label carried cells).1 = carried :: cells := by
  induction cells generalizing carried with
  | nil =>
      rfl
  | cons next rest inductionHypothesis =>
      by_cases outOfOrder : label carried > label next
      · simp [bubble, outOfOrder] at notSwapped
      · simp only [bubble, outOfOrder, ↓reduceIte] at notSwapped ⊢
        rw [inductionHypothesis notSwapped]

/-- A pass swaps nothing exactly when the labels already ascend. -/
theorem bubble_not_swapped_iff
    (carried : Task)
    (cells : List Task) :
    (bubble label carried cells).2 = false ↔
      Chain (fun first second => label first ≤ label second) carried cells := by
  induction cells generalizing carried with
  | nil =>
      simp [bubble]
  | cons next rest inductionHypothesis =>
      by_cases outOfOrder : label carried > label next
      · simp [bubble, outOfOrder]
      · have inOrder : label carried ≤ label next :=
          Nat.le_of_not_gt outOfOrder
        simp [bubble, outOfOrder, inOrder, inductionHypothesis]

end Bubble

/-! ### The index loops compute one bubble pass -/

/-- Metadata labelled `3, 2, 1` in table order. -/
def descendingMetaTable
    (cell : Nat) :
    TaskMeta :=
  { TaskMeta.zeroed with handle := ⟨0, 3 - cell, 0⟩ }

/-- Three runtime cells pointing to the first three metadata cells, in order. -/
def threeCells : List Task :=
  [⟨some (.declared 0), 0⟩, ⟨some (.declared 1), 0⟩, ⟨some (.declared 2), 0⟩]

section Loops

variable {label : Task → Nat}

/-- Swapping the two cells after a prefix exchanges them in place. -/
theorem taskSwap_append
    (pre rest : List Task)
    (first second : Task) :
    taskSwap (pre ++ first :: second :: rest) pre.length (pre.length + 1) =
      pre ++ second :: first :: rest := by
  simp [taskSwap, getElem_append_right]

/--
The inner loop, started at the cell after `pre` and run for `remaining` iterations,
performs one bubble pass over the `remaining + 1` cells it visits.
-/
theorem sortPass_eq_bubble
    (remaining : Nat)
    (pre rest : List Task)
    (carried : Task)
    (swapped : Bool)
    (inBounds : remaining ≤ rest.length) :
    sortPass label remaining pre.length (pre ++ carried :: rest) swapped =
      (pre ++ (bubble label carried (rest.take remaining)).1 ++ rest.drop remaining,
        swapped || (bubble label carried (rest.take remaining)).2) := by
  induction remaining generalizing pre rest carried swapped with
  | zero =>
      simp [sortPass, bubble]
  | succ remaining inductionHypothesis =>
      obtain ⟨next, rest, rfl⟩ : ∃ next tail, rest = next :: tail :=
        exists_cons_of_length_pos (by omega)
      have inBounds' : remaining ≤ rest.length := by
        simpa using inBounds
      have cellAt : (pre ++ carried :: next :: rest).getD pre.length Task.zeroed = carried := by
        simp [getElem_append_right]
      have nextAt :
          (pre ++ carried :: next :: rest).getD (pre.length + 1) Task.zeroed = next := by
        simp [getElem_append_right]
      by_cases outOfOrder : label carried > label next
      · have moved := inductionHypothesis (pre ++ [next]) rest carried true inBounds'
        simp only [length_append, length_singleton, append_assoc, singleton_append] at moved
        rw [sortPass, cellAt, nextAt, if_pos outOfOrder, taskSwap_append, moved]
        simp [bubble, outOfOrder]
      · have kept := inductionHypothesis (pre ++ [carried]) rest next swapped inBounds'
        simp only [length_append, length_singleton, append_assoc, singleton_append] at kept
        rw [sortPass, cellAt, nextAt, if_neg outOfOrder, kept]
        simp [bubble, outOfOrder]

/-- The inner loop from cell `0`, over a table with enough cells. -/
theorem sortPass_zero
    (remaining : Nat)
    (carried : Task)
    (rest : List Task)
    (swapped : Bool)
    (inBounds : remaining ≤ rest.length) :
    sortPass label remaining 0 (carried :: rest) swapped =
      ((bubble label carried (rest.take remaining)).1 ++ rest.drop remaining,
        swapped || (bubble label carried (rest.take remaining)).2) := by
  simpa using sortPass_eq_bubble remaining [] rest carried swapped inBounds

/-- Once a full pass found the labels ascending, every later outer iteration is a no-op. -/
theorem sortPasses_of_ascending
    {num : Nat}
    {carried : Task}
    {rest : List Task}
    (inBounds : num ≤ rest.length)
    (ascending :
      Chain (fun first second => label first ≤ label second) carried (rest.take num))
    (remaining i : Nat) :
    sortPasses label num remaining i (carried :: rest) = carried :: rest := by
  induction remaining generalizing i with
  | zero =>
      rfl
  | succ remaining inductionHypothesis =>
      have shorter :
          Chain (fun first second => label first ≤ label second) carried
            (rest.take (num - i)) := by
        have prefixChain :=
          (show Chain' _ (carried :: rest.take num) from ascending).take (num - i + 1)
        simpa [take_take, Nat.min_eq_left (Nat.sub_le num i)] using prefixChain
      have notSwapped := (bubble_not_swapped_iff carried (rest.take (num - i))).mpr shorter
      simp only [sortPasses, sortPass_zero (num - i) carried rest false (by omega),
        Bool.false_or, notSwapped, bubble_of_not_swapped notSwapped, cons_append,
        take_append_drop, Bool.false_eq_true, ↓reduceIte, inductionHypothesis]

/--
`task_basic_sort` performs exactly one bubble pass over the cells `0 .. num`: the pass
that swaps ends the sort, and a pass that swaps nothing found them already in order.
-/
theorem taskBasicSort_eq_bubble
    (num : Nat)
    (carried : Task)
    (rest : List Task)
    (inBounds : num ≤ rest.length) :
    taskBasicSort num label (carried :: rest) =
      (bubble label carried (rest.take num)).1 ++ rest.drop num := by
  cases swappedFlag : (bubble label carried (rest.take num)).2 with
  | true =>
      simp [taskBasicSort, sortPasses, sortPass_zero num carried rest false inBounds,
        swappedFlag]
  | false =>
      have ascending := (bubble_not_swapped_iff carried (rest.take num)).mp swappedFlag
      simp only [taskBasicSort, sortPasses, Nat.sub_zero,
        sortPass_zero num carried rest false inBounds, Bool.false_or, swappedFlag,
        bubble_of_not_swapped swappedFlag, cons_append, take_append_drop,
        Bool.false_eq_true, ↓reduceIte]
      exact sortPasses_of_ascending inBounds ascending num 1

/-- `task_basic_sort` permutes the table. -/
theorem taskBasicSort_perm
    (num : Nat)
    (carried : Task)
    (rest : List Task)
    (inBounds : num ≤ rest.length) :
    taskBasicSort num label (carried :: rest) ~ carried :: rest := by
  rw [taskBasicSort_eq_bubble num carried rest inBounds]
  calc (bubble label carried (rest.take num)).1 ++ rest.drop num
      ~ (carried :: rest.take num) ++ rest.drop num :=
        (bubble_perm carried (rest.take num)).append_right _
    _ = carried :: rest := by
        simp

/-- Sorting three tasks labelled `3, 2, 1`, which swaps twice, permutes them. -/
theorem taskBasicSort_perm_of_descending_three :
    2 ≤ threeCells.tail.length ∧
      taskBasicSort 2 (Task.label descendingMetaTable TaskMeta.zeroed) threeCells ~ threeCells :=
  ⟨le_rfl, taskBasicSort_perm 2 ⟨some (.declared 0), 0⟩ threeCells.tail le_rfl⟩

/-- `task_basic_sort` leaves every cell after `task_get_num()` untouched. -/
theorem taskBasicSort_drop
    (num : Nat)
    (carried : Task)
    (rest : List Task)
    (inBounds : num ≤ rest.length) :
    (taskBasicSort num label (carried :: rest)).drop (num + 1) = rest.drop num := by
  have passLength : (bubble label carried (rest.take num)).1.length = num + 1 := by
    simp [bubble_length, inBounds]
  rw [taskBasicSort_eq_bubble num carried rest inBounds, ← passLength, drop_left]

/--
Sorting three tasks labelled `3, 2, 1` leaves a fourth cell, the smallest label of all,
where it is.
-/
theorem taskBasicSort_drop_of_descending_four :
    2 ≤ (threeCells.tail ++ [(⟨some (.declared 3), 0⟩ : Task)]).length ∧
      (taskBasicSort 2 (Task.label descendingMetaTable TaskMeta.zeroed)
          (threeCells ++ [(⟨some (.declared 3), 0⟩ : Task)])).drop (2 + 1) =
        (threeCells.tail ++ [(⟨some (.declared 3), 0⟩ : Task)]).drop 2 :=
  ⟨by decide,
    taskBasicSort_drop 2 ⟨some (.declared 0), 0⟩
      (threeCells.tail ++ [(⟨some (.declared 3), 0⟩ : Task)]) (by decide)⟩

end Loops

/--
Three declared tasks labelled `3, 2, 1` in table order: the one bubble pass moves the
largest label last and the sort stops there, labels `2, 1, 3`, not ascending.
-/
theorem taskBasicSort_descending_three :
    (taskBasicSort 2 (Task.label descendingMetaTable TaskMeta.zeroed) threeCells).map
        (Task.label descendingMetaTable TaskMeta.zeroed) = [2, 1, 3] := by
  decide

end SentryKernel
