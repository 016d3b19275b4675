import Mathlib.Order.Basic

/-!
# Runs of a system with a partial step function

A system is a step function `σ → ε → Option σ`: an event carries every choice of
the environment, and `none` says that the event is not enabled in the state. A
run is the list of its events. `exec` threads the state through a run, and
`AllSteps` says that every step of a run meets a condition on the state before
the step and on the event taken there.

## Main definitions

* `exec step s es` — the state after the events `es`, if all of them are enabled.
* `AllSteps step Ok s es` — every step of the run from `s` meets `Ok`.
* `exec_invariant` — what a step preserves, a run preserves.
* `allSteps_of_invariant` — what an invariant gives holds along a run.
-/

namespace Lib.Run

universe u v
variable {σ : Type u} {ε : Type v}

/-- Take the events of a run in order. -/
def exec (step : σ → ε → Option σ) (s : σ) : List ε → Option σ
  | [] => some s
  | e :: es => (step s e).bind fun t => exec step t es

/-- Every step of the run meets `Ok` at the state in which it is taken. -/
def AllSteps (step : σ → ε → Option σ) (Ok : σ → ε → Prop) (s : σ) : List ε → Prop
  | [] => True
  | e :: es => Ok s e ∧ ∀ t, step s e = some t → AllSteps step Ok t es

variable {step : σ → ε → Option σ} {Ok : σ → ε → Prop}

instance AllSteps.decidable [∀ s e, Decidable (Ok s e)] :
    ∀ (s : σ) (es : List ε), Decidable (AllSteps step Ok s es)
  | _, [] => isTrue trivial
  | s, e :: es =>
      match h : step s e with
      | none => decidable_of_iff (Ok s e) (by simp [AllSteps, h])
      | some t =>
          have := AllSteps.decidable t es
          decidable_of_iff (Ok s e ∧ AllSteps step Ok t es) (by simp [AllSteps, h])

@[simp] theorem exec_nil (s : σ) : exec step s [] = some s := rfl

theorem exec_cons_eq_some {s t : σ} {e : ε} {es : List ε} :
    exec step s (e :: es) = some t ↔ ∃ m, step s e = some m ∧ exec step m es = some t := by
  simp only [exec, Option.bind_eq_some_iff]

/-- A run over an appended list goes through the state after the first part. -/
theorem exec_append {s : σ} (es fs : List ε) :
    exec step s (es ++ fs) = (exec step s es).bind fun t => exec step t fs := by
  induction es generalizing s with
  | nil => rfl
  | cons e es ih =>
      simp only [List.cons_append, exec, Option.bind_assoc]
      congr 1
      funext t
      exact ih

/-- **The invariant rule.** A predicate that every step meeting `Ok` preserves is
preserved by every run all of whose steps meet `Ok`. -/
theorem exec_invariant (Inv : σ → Prop)
    (hstep : ∀ s e t, Inv s → Ok s e → step s e = some t → Inv t) :
    ∀ {es : List ε} {s t : σ}, Inv s → AllSteps step Ok s es → exec step s es = some t → Inv t := by
  intro es
  induction es with
  | nil =>
      intro s t hs _ hrun
      simp only [exec_nil, Option.some.injEq] at hrun
      exact hrun ▸ hs
  | cons e es ih =>
      intro s t hs hok hrun
      obtain ⟨m, hm, hrest⟩ := exec_cons_eq_some.mp hrun
      exact ih (hstep s e m hs hok.1 hm) (hok.2 m hm) hrest

/-- The invariant rule for a predicate on the state and the events that led to it. -/
theorem exec_invariant_events (Inv : List ε → σ → Prop)
    (hstep : ∀ past s e t, Inv past s → step s e = some t → Inv (past ++ [e]) t) {es : List ε}
    {s t : σ} (hs : Inv [] s) (hrun : exec step s es = some t) : Inv es t := by
  suffices hpast : ∀ {es past : List ε} {s t : σ}, Inv past s → exec step s es = some t →
      Inv (past ++ es) t from hpast hs hrun
  intro es
  induction es with
  | nil =>
      intro past s t hs hrun
      cases hrun
      rwa [List.append_nil]
  | cons e es ih =>
      intro past s t hs hrun
      obtain ⟨m, hm, hrest⟩ := exec_cons_eq_some.mp hrun
      have hlast := ih (hstep past s e m hs hm) hrest
      rwa [List.append_assoc, List.singleton_append] at hlast

/-- A run over an appended list meets a condition if its two parts do. -/
theorem allSteps_append {es fs : List ε} {s : σ} :
    AllSteps step Ok s (es ++ fs) ↔
      AllSteps step Ok s es ∧ ∀ t, exec step s es = some t → AllSteps step Ok t fs := by
  induction es generalizing s with
  | nil => simp [AllSteps]
  | cons e es ih =>
      simp only [List.cons_append, AllSteps, exec_cons_eq_some, ih]
      constructor
      · intro ⟨hok, hrest⟩
        exact ⟨⟨hok, fun t ht => (hrest t ht).1⟩, fun u ⟨t, ht, hu⟩ => (hrest t ht).2 u hu⟩
      · intro ⟨⟨hok, hrest⟩, hlast⟩
        exact ⟨hok, fun t ht => ⟨hrest t ht, fun u hu => hlast u ⟨t, ht, hu⟩⟩⟩

/-- A condition that the events of a run meet in every state holds along the run. -/
theorem allSteps_of_forall {es : List ε} (h : ∀ e ∈ es, ∀ s, Ok s e) (s : σ) :
    AllSteps step Ok s es := by
  induction es generalizing s with
  | nil => trivial
  | cons e es ih =>
      refine ⟨h e List.mem_cons_self s, ?_⟩
      intro t _
      exact ih (fun e' he' => h e' (List.mem_cons_of_mem e he')) t

/-- Two conditions that hold along a run hold together. -/
theorem allSteps_and {Ok' : σ → ε → Prop} {es : List ε} {s : σ} (h : AllSteps step Ok s es)
    (h' : AllSteps step Ok' s es) : AllSteps step (fun s e => Ok s e ∧ Ok' s e) s es := by
  induction es generalizing s with
  | nil => trivial
  | cons e es ih => exact ⟨⟨h.1, h'.1⟩, fun t ht => ih (h.2 t ht) (h'.2 t ht)⟩

/-- Two conditions that say the same wherever the invariant holds say the same of a run, whose
events keep the invariant. -/
theorem allSteps_congr_mem (Inv : σ → Prop) {Ok' : σ → ε → Prop} {es : List ε}
    (hstep : ∀ e ∈ es, ∀ s t, Inv s → Ok s e → step s e = some t → Inv t)
    (hiff : ∀ s e, Inv s → (Ok' s e ↔ Ok s e)) {s : σ} (hs : Inv s) :
    AllSteps step Ok' s es ↔ AllSteps step Ok s es := by
  induction es generalizing s with
  | nil => exact Iff.rfl
  | cons e es ih =>
      have hrest : ∀ t, Ok s e → step s e = some t →
          (AllSteps step Ok' t es ↔ AllSteps step Ok t es) := by
        intro t hok ht
        exact ih (fun e' he' => hstep e' (List.mem_cons_of_mem e he'))
          (hstep e List.mem_cons_self s t hs hok ht)
      constructor
      · intro ⟨hok', hall⟩
        have hok := (hiff s e hs).mp hok'
        exact ⟨hok, fun t ht => (hrest t hok ht).mp (hall t ht)⟩
      · intro ⟨hok, hall⟩
        exact ⟨(hiff s e hs).mpr hok, fun t ht => (hrest t hok ht).mpr (hall t ht)⟩

/-- Two conditions that say the same wherever the invariant holds say the same of a run. -/
theorem allSteps_congr (Inv : σ → Prop) {Ok' : σ → ε → Prop}
    (hstep : ∀ s e t, Inv s → Ok s e → step s e = some t → Inv t)
    (hiff : ∀ s e, Inv s → (Ok' s e ↔ Ok s e)) {es : List ε} {s : σ} (hs : Inv s) :
    AllSteps step Ok' s es ↔ AllSteps step Ok s es :=
  allSteps_congr_mem Inv (fun e _ s t => hstep s e t) hiff hs

/-- A condition that the invariant gives holds along the runs whose steps keep it. -/
theorem allSteps_of_invariant (Inv : σ → Prop) {Ok' : σ → ε → Prop}
    (hstep : ∀ s e t, Inv s → Ok s e → step s e = some t → Inv t)
    (himp : ∀ s e, Inv s → Ok s e → Ok' s e) {es : List ε} {s : σ} (hs : Inv s)
    (h : AllSteps step Ok s es) : AllSteps step Ok' s es := by
  induction es generalizing s with
  | nil => trivial
  | cons e es ih =>
      refine ⟨himp s e hs h.1, ?_⟩
      intro t ht
      exact ih (hstep s e t hs h.1 ht) (h.2 t ht)

/-- The invariant rule for a predicate that every step preserves. -/
theorem exec_invariant_of_step (Inv : σ → Prop)
    (hstep : ∀ s e t, Inv s → step s e = some t → Inv t) {es : List ε} {s t : σ}
    (hs : Inv s) (hrun : exec step s es = some t) : Inv t :=
  exec_invariant Inv (fun s e t hi (_ : True) h => hstep s e t hi h) hs
    (allSteps_of_forall (fun _ _ _ => trivial) s) hrun

end Lib.Run
