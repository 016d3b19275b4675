import Mathlib.Data.List.Basic

/-!
# A queue of jobs

Jobs run in the order in which they were put into a queue. While a job waits, the jobs before it
are the only ones that still run before it; a job that is put into the queue runs after it.

## Main definitions

* `RunsAfter` — a job waits, and every job that runs before it has a property.
-/

namespace Lib.JobQueue

universe u
variable {α : Type u} {job next : α} {queue : List α} {P Q : α → Prop}

/-- The job is in the queue, and the jobs before it have the property. -/
def RunsAfter (job : α) (P : α → Prop) (queue : List α) : Prop :=
  ∃ before after, queue = before ++ job :: after ∧ ∀ j ∈ before, P j

theorem RunsAfter.mono (h : RunsAfter job P queue) (hPQ : ∀ j ∈ queue, P j → Q j) :
    RunsAfter job Q queue := by
  obtain ⟨before, after, rfl, hbefore⟩ := h
  exact ⟨before, after, rfl, fun j hj => hPQ j (List.mem_append_left _ hj) (hbefore j hj)⟩

/-- A job that is put into the queue runs later. -/
theorem RunsAfter.append (h : RunsAfter job P queue) (jobs : List α) :
    RunsAfter job P (queue ++ jobs) := by
  obtain ⟨before, after, rfl, hbefore⟩ := h
  exact ⟨before, after ++ jobs, by simp, hbefore⟩

/-- The last job runs after all others. -/
theorem runsAfter_concat (h : ∀ j ∈ queue, P j) : RunsAfter job P (queue ++ [job]) :=
  ⟨queue, [], rfl, h⟩

/-- **The next job** is the one that waits, or has the property and leaves it waiting. -/
theorem RunsAfter.pop (h : RunsAfter job P (next :: queue)) :
    next = job ∨ P next ∧ RunsAfter job P queue := by
  obtain ⟨before, after, hqueue, hbefore⟩ := h
  cases before with
  | nil =>
      rw [List.nil_append, List.cons.injEq] at hqueue
      exact .inl hqueue.1
  | cons j before =>
      rw [List.cons_append, List.cons.injEq] at hqueue
      obtain ⟨rfl, hqueue⟩ := hqueue
      exact .inr ⟨hbefore next List.mem_cons_self, before, after, hqueue,
        fun j hj => hbefore j (List.mem_cons_of_mem _ hj)⟩

end Lib.JobQueue
