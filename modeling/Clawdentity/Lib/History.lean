import Mathlib.Data.List.Basic

/-!
# Histories

A history is the list of what has happened, the last entry first. It is legal where each entry
is allowed by the entries before it.

## Main definitions

* `Legal Allowed log` — every entry is allowed where it stands.
* `Legal.allowed` — what a legal history says about an entry in the middle.
-/

namespace Lib.History

universe u
variable {E : Type u} {Allowed : List E → E → Prop} {log before : List E} {e : E}

/-- Every entry is allowed by the entries before it. -/
def Legal (Allowed : List E → E → Prop) : List E → Prop
  | [] => True
  | e :: past => Allowed past e ∧ Legal Allowed past

@[simp] theorem legal_nil : Legal Allowed [] := trivial

@[simp] theorem legal_cons : Legal Allowed (e :: before) ↔ Allowed before e ∧ Legal Allowed before :=
  Iff.rfl

/-- The past of a legal history is legal. -/
theorem Legal.past {later : List E} (h : Legal Allowed (later ++ before)) :
    Legal Allowed before := by
  induction later with
  | nil => exact h
  | cons e later ih => exact ih h.2

/-- An entry of a legal history is allowed by those before it. -/
theorem Legal.allowed {later : List E} (h : Legal Allowed (later ++ e :: before)) :
    Allowed before e :=
  h.past.1

/-- Every entry of a legal history is allowed by some part of it. -/
theorem Legal.allowed_of_mem (h : Legal Allowed log) (he : e ∈ log) :
    ∃ later past, log = later ++ e :: past ∧ Allowed past e := by
  obtain ⟨later, past, rfl⟩ := List.append_of_mem he
  exact ⟨later, past, rfl, h.allowed⟩

end Lib.History
