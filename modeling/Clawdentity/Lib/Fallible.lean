import Mathlib.Order.Basic

/-!
# Fallible computations

Small rules for `Except`: a check that fails with a given error, and when a
sequence of computations succeeds.
-/

namespace Lib

universe u v
variable {ε : Type u} {α β : Type v}

/-- Go on when the test passes, else fail with the error. -/
def check (b : Bool) (e : ε) : Except ε PUnit.{v + 1} := if b then .ok ⟨⟩ else .error e

@[simp] theorem check_eq_ok {b : Bool} {e : ε} {u : PUnit.{v + 1}} :
    check b e = .ok u ↔ b = true := by
  cases b <;> simp [check]

/-- A sequence succeeds exactly when its first part does and the rest does after it. -/
theorem bind_eq_ok {x : Except ε α} {f : α → Except ε β} {b : β} :
    (x >>= f) = .ok b ↔ ∃ a, x = .ok a ∧ f a = .ok b := by
  cases x with
  | error e => simp [bind, Except.bind]
  | ok a => simp [bind, Except.bind]

/-- Changing the errors does not change what succeeds. -/
@[simp] theorem mapError_eq_ok {ε ε' α : Type*} {x : Except ε α} {f : ε → ε'} {a : α} :
    x.mapError f = .ok a ↔ x = .ok a := by
  cases x with
  | error e => simp [Except.mapError]
  | ok b => simp [Except.mapError]

/-- A function of a result. -/
theorem map_eq_ok {ε α β : Type*} {x : Except ε α} {f : α → β} {b : β} :
    x.map f = .ok b ↔ ∃ a, x = .ok a ∧ f a = b := by
  cases x with
  | error e => simp [Except.map]
  | ok a => simp [Except.map]

/-- A value that must be there. -/
theorem elim_eq_ok {ε α : Type*} {o : Option α} {e : ε} {a : α} :
    o.elim (.error e) .ok = Except.ok a ↔ o = some a := by
  cases o with
  | none => simp
  | some b => simp

/-- A function that succeeds on every item succeeds on the list. -/
theorem mapM_eq_some_map {α β : Type*} {f : α → Option β} {g : α → β} {l : List α}
    (h : ∀ a ∈ l, f a = some (g a)) : l.mapM f = some (l.map g) := by
  induction l with
  | nil => rfl
  | cons a l ih =>
      have hrest := ih fun b hb => h b (List.mem_cons_of_mem a hb)
      rw [List.mapM_cons, h a List.mem_cons_self, hrest]
      rfl

/-- What a function gives for a list, it gives for one of the items. -/
theorem exists_of_mem_mapM {α β : Type*} {f : α → Option β} {l : List α} {bs : List β}
    (h : l.mapM f = some bs) {b : β} (hb : b ∈ bs) : ∃ a ∈ l, f a = some b := by
  induction l generalizing bs with
  | nil =>
      cases h
      cases hb
  | cons a l ih =>
      simp only [List.mapM_cons, Option.bind_eq_bind, Option.bind_eq_some_iff, pure,
        Option.some.injEq] at h
      obtain ⟨c, hc, cs, hcs, rfl⟩ := h
      rcases List.mem_cons.mp hb with rfl | hb
      · exact ⟨a, List.mem_cons_self, hc⟩
      · obtain ⟨x, hx, hfx⟩ := ih hcs hb
        exact ⟨x, List.mem_cons_of_mem a hx, hfx⟩

/-- A check of every item passes exactly when each of them does. -/
theorem forM_eq_ok {ε : Type u} {α : Type*} {f : α → Except ε PUnit.{v + 1}} {l : List α} :
    l.forM f = .ok ⟨⟩ ↔ ∀ a ∈ l, f a = .ok ⟨⟩ := by
  induction l with
  | nil => exact ⟨fun _ => by simp, fun _ => rfl⟩
  | cons a l ih =>
      rw [List.forM, bind_eq_ok]
      constructor
      · rintro ⟨_, ha, hl⟩
        exact List.forall_mem_cons.mpr ⟨ha, ih.mp hl⟩
      · intro h
        obtain ⟨ha, hl⟩ := List.forall_mem_cons.mp h
        exact ⟨⟨⟩, ha, ih.mpr hl⟩

end Lib
