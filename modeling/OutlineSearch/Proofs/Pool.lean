import Mathlib.Data.List.Perm.Basic

/-!
# A pool of workers

A pool works on tasks that are numbered in the order in which they were submitted.  They are
begun in this order, a limited number of them at a time, but they may finish in any order,
and those that have finished may be collected in any order.  However that goes, it comes to
an end, and then each task has been collected once.
-/

namespace OutlineSearch

/-- The tasks of a pool of workers by what has become of them. -/
structure Pool where
  waiting : List Nat
  running : List Nat
  finished : List Nat
  /-- The tasks that have been collected, in the order in which that happened. -/
  collected : List Nat

namespace Pool

/-- The pool to which this number of tasks has been submitted. -/
def submitted (tasks : Nat) : Pool := ⟨List.range tasks, [], [], []⟩

/-- What can happen next: a free worker begins the next task, one that is running finishes,
or one that has finished is collected. -/
inductive Step (workers : Nat) : Pool → Pool → Prop where
  | begin {task : Nat} {waiting running finished collected : List Nat}
      (free : running.length < workers) :
      Step workers ⟨task :: waiting, running, finished, collected⟩
        ⟨waiting, running ++ [task], finished, collected⟩
  | finish {task : Nat} {waiting before after finished collected : List Nat} :
      Step workers ⟨waiting, before ++ task :: after, finished, collected⟩
        ⟨waiting, before ++ after, finished ++ [task], collected⟩
  | collect {task : Nat} {waiting running before after collected : List Nat} :
      Step workers ⟨waiting, running, before ++ task :: after, collected⟩
        ⟨waiting, running, before ++ after, collected ++ [task]⟩

/-- However it goes on from here, it comes to an end, and this holds there. -/
inductive Ends (workers : Nat) (holds : Pool → Prop) : Pool → Prop where
  | intro {pool : Pool} (atEnd : (∀ next, ¬Step workers pool next) → holds pool)
      (later : ∀ next, Step workers pool next → Ends workers holds next) :
      Ends workers holds pool

/-- All tasks of a pool. -/
def tasks (pool : Pool) : List Nat :=
  pool.waiting ++ pool.running ++ pool.finished ++ pool.collected

/-- The number of steps that remain. -/
def remaining (pool : Pool) : Nat :=
  3 * pool.waiting.length + 2 * pool.running.length + pool.finished.length

variable {workers : Nat} {pool next : Pool}

theorem Step.remaining (step : Step workers pool next) :
    next.remaining + 1 = pool.remaining := by
  cases step <;> simp [Pool.remaining] <;> omega

/-- No task is lost or done twice. -/
theorem Step.tasks_perm (step : Step workers pool next) : next.tasks.Perm pool.tasks := by
  rw [List.perm_iff_count]
  intro task
  cases step <;> simp [tasks, List.count_cons] <;> omega

/-- Nobody waits forever: while there is something to do, something can be done. -/
theorem exists_step (positive : 0 < workers) (unfinished : pool.remaining ≠ 0) :
    ∃ next, Step workers pool next := by
  obtain ⟨waiting, running, finished, collected⟩ := pool
  cases running with
  | cons task running =>
      have step : Step workers ⟨waiting, [] ++ task :: running, finished, collected⟩ _ := .finish
      exact ⟨_, step⟩
  | nil =>
      cases finished with
      | cons task finished =>
          have step : Step workers ⟨waiting, [], [] ++ task :: finished, collected⟩ _ := .collect
          exact ⟨_, step⟩
      | nil =>
          cases waiting with
          | cons task waiting => exact ⟨_, .begin positive⟩
          | nil => exact (unfinished rfl).elim

theorem collected_of_remaining_eq_zero (done : pool.remaining = 0) :
    pool.collected = pool.tasks := by
  obtain ⟨waiting, running, finished, collected⟩ := pool
  have lengths : waiting.length = 0 ∧ running.length = 0 ∧ finished.length = 0 := by
    simp only [remaining] at done
    omega
  simp only [List.length_eq_zero_iff] at lengths
  obtain ⟨rfl, rfl, rfl⟩ := lengths
  rfl

theorem Ends.imp {holds holdsToo : Pool → Prop} (follows : ∀ pool, holds pool → holdsToo pool)
    (ends : Ends workers holds pool) : Ends workers holdsToo pool := by
  induction ends with
  | intro atEnd _ induction => exact .intro (fun stuck => follows _ (atEnd stuck)) induction

/-- In the end every task has been collected, and only once. -/
theorem ends_collected (positive : 0 < workers) (pool : Pool) :
    Ends workers (fun last => last.collected.Perm pool.tasks) pool := by
  -- Each step takes one off what remains, and keeps the tasks.
  induction measure : pool.remaining generalizing pool with
  | zero =>
      refine .intro (fun _ => .of_eq (collected_of_remaining_eq_zero measure)) ?_
      intro next step
      have less := step.remaining
      omega
  | succ remaining induction =>
      refine .intro (fun stuck => ?_) fun next step => ?_
      · have unfinished : pool.remaining ≠ 0 := by omega
        obtain ⟨next, step⟩ := exists_step positive unfinished
        exact (stuck next step).elim
      · have less := step.remaining
        exact (induction next (by omega)).imp fun _ collected => collected.trans step.tasks_perm

end Pool

end OutlineSearch
