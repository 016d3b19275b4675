import Clawdentity.Lib.Custody
import Mathlib.Data.Int.Notation

/-!
# Things that are tried until they succeed

A thing is tried again and again, by whoever holds it, until a try succeeds, and no more often than
a limit allows. A log has every try as it begins and as it ends. The ledger compares the log with
what is held: each thing once, with the number of its tries.

## Main definitions

* `Attempt` — an entry of the log.
* `FinalSuccess` — nothing comes after a success.
* `Ledger` — what the log says about the things that are held.
-/

namespace Lib.Attempts

open Custody

variable {κ : Type}

inductive Outcome
  | begun
  | failed
  | succeeded
  deriving DecidableEq

/-- A try begins or ends. -/
structure Attempt (κ : Type) where
  key : κ
  outcome : Outcome
  deriving DecidableEq

/-- Nothing comes after a success. -/
def FinalSuccess (log : List (Attempt κ)) : Prop :=
  log.Pairwise fun earlier later => earlier.outcome = .succeeded → later.key ≠ earlier.key

def Succeeded (log : List (Attempt κ)) (k : κ) : Prop := ⟨k, .succeeded⟩ ∈ log

variable [DecidableEq κ]

/-- The tries of a thing that have begun. -/
def begunCount (log : List (Attempt κ)) (k : κ) : ℕ := log.count ⟨k, .begun⟩

/-- What the log says about the things that are held, each with the number of its tries. The
counters of programs are signed. -/
structure Ledger (limit : ℤ) (log : List (Attempt κ)) (held : List (κ × ℤ)) : Prop where
  distinct : Distinct Prod.fst held
  counted : ∀ t ∈ held, (begunCount log t.1 : ℤ) = t.2
  limited : ∀ k, (begunCount log k : ℤ) ≤ limit
  unfinished : ∀ k, Succeeded log k → ∀ t ∈ held, t.1 ≠ k
  final : FinalSuccess log

variable {limit : ℤ} {log : List (Attempt κ)} {held after : List (κ × ℤ)} {k : κ} {n : ℤ}

theorem Ledger.nil (h : 0 ≤ limit) : Ledger limit ([] : List (Attempt κ)) [] where
  distinct := List.nodup_nil
  counted t ht := by cases ht
  limited k := by simpa [begunCount] using h
  unfinished k hk := by cases hk
  final := List.Pairwise.nil

/-- Things may be dropped, and the others change hands. -/
theorem Ledger.subperm (h : Ledger limit log held) (hsub : after.Subperm held) :
    Ledger limit log after where
  distinct := h.distinct.subperm hsub
  counted t ht := h.counted t (hsub.subset ht)
  limited := h.limited
  unfinished k hk t ht := h.unfinished k hk t (hsub.subset ht)
  final := h.final

/-- A new thing, that the log does not know. -/
theorem Ledger.add (h : Ledger limit log held) (hlog : ∀ a ∈ log, a.key ≠ k)
    (hheld : ∀ t ∈ held, t.1 ≠ k) : Ledger limit log ((k, 0) :: held) where
  distinct := h.distinct.concat hheld
  counted t ht := by
    obtain rfl | ht := List.mem_cons.mp ht
    · have hcount : begunCount log k = 0 := List.count_eq_zero.mpr fun hmem => hlog _ hmem rfl
      rw [hcount]
      rfl
    · exact h.counted t ht
  limited := h.limited
  unfinished k' hk' t ht := by
    obtain rfl | ht := List.mem_cons.mp ht
    · exact (hlog _ hk').symm
    · exact h.unfinished k' hk' t ht
  final := h.final

/-! ## One more entry in the log -/

theorem begunCount_append (log : List (Attempt κ)) (k k' : κ) (o : Outcome) :
    begunCount (log ++ [⟨k, o⟩]) k' =
      begunCount log k' + if o = .begun ∧ k = k' then 1 else 0 := by
  rw [begunCount, List.count_append, List.count_singleton, begunCount]
  congr 1
  by_cases hk : k = k' <;> cases o <;> simp [hk]

omit [DecidableEq κ] in
theorem succeeded_append {k' : κ} {o : Outcome} (h : Succeeded (log ++ [⟨k, o⟩]) k') :
    Succeeded log k' ∨ k' = k ∧ o = .succeeded := by
  rw [Succeeded, List.mem_append, List.mem_singleton, Attempt.mk.injEq] at h
  exact h.imp_right fun heq => ⟨heq.1, heq.2.symm⟩

/-- The thing that is tried is held, so it has not succeeded before. -/
theorem Ledger.final_append (h : Ledger limit log ((k, n) :: held)) (o : Outcome) :
    FinalSuccess (log ++ [⟨k, o⟩]) := by
  refine List.pairwise_append.mpr ⟨h.final, List.pairwise_singleton _ _, ?_⟩
  intro earlier hearlier later hlater hsucceeded
  obtain rfl := List.mem_singleton.mp hlater
  apply h.unfinished earlier.key _ (k, n) List.mem_cons_self
  rw [Succeeded, ← hsucceeded]
  exact hearlier

/-- The keys of the other things. -/
theorem Ledger.ne_of_mem (h : Ledger limit log ((k, n) :: held)) {t : κ × ℤ} (ht : t ∈ held) :
    t.1 ≠ k := by
  intro heq
  obtain ⟨hnotMem, _⟩ := List.nodup_cons.mp h.distinct
  exact hnotMem (List.mem_map.mpr ⟨t, ht, heq⟩)

theorem Ledger.unfinished_append (h : Ledger limit log ((k, n) :: held)) {o : Outcome}
    (ho : o ≠ .succeeded) (n' : ℤ) :
    ∀ k', Succeeded (log ++ [⟨k, o⟩]) k' → ∀ t ∈ (k, n') :: held, t.1 ≠ k' := by
  intro k' hk' t ht
  obtain hk' | hk' := succeeded_append hk'
  · obtain rfl | ht := List.mem_cons.mp ht
    · exact h.unfinished k' hk' (k, n) List.mem_cons_self
    · exact h.unfinished k' hk' t (List.mem_cons_of_mem _ ht)
  · exact absurd hk'.2 ho

/-- **A try begins**, below the limit. -/
theorem Ledger.begin (h : Ledger limit log ((k, n) :: held)) (hn : n < limit) :
    Ledger limit (log ++ [⟨k, .begun⟩]) ((k, n + 1) :: held) where
  distinct := h.distinct
  counted t ht := by
    have hk : (begunCount log k : ℤ) = n := h.counted (k, n) List.mem_cons_self
    rw [begunCount_append]
    obtain rfl | ht := List.mem_cons.mp ht
    · simp
      omega
    · simpa [(h.ne_of_mem ht).symm] using h.counted t (List.mem_cons_of_mem _ ht)
  limited k' := by
    have hk : (begunCount log k : ℤ) = n := h.counted (k, n) List.mem_cons_self
    have hlimit := h.limited k'
    rw [begunCount_append]
    by_cases heq : k = k'
    · subst heq
      simp
      omega
    · simpa [heq] using hlimit
  unfinished := h.unfinished_append (by simp) _
  final := h.final_append _

/-- **A try fails**, and the thing is held on. -/
theorem Ledger.fail (h : Ledger limit log ((k, n) :: held)) :
    Ledger limit (log ++ [⟨k, .failed⟩]) ((k, n) :: held) where
  distinct := h.distinct
  counted t ht := by simpa [begunCount_append] using h.counted t ht
  limited k' := by simpa [begunCount_append] using h.limited k'
  unfinished := h.unfinished_append (by simp) _
  final := h.final_append _

/-- **A try succeeds**, and nobody holds the thing any more. -/
theorem Ledger.succeed (h : Ledger limit log ((k, n) :: held)) :
    Ledger limit (log ++ [⟨k, .succeeded⟩]) held where
  distinct := (List.nodup_cons.mp h.distinct).2
  counted t ht := by simpa [begunCount_append] using h.counted t (List.mem_cons_of_mem _ ht)
  limited k' := by simpa [begunCount_append] using h.limited k'
  unfinished k' hk' t ht := by
    obtain hk' | hk' := succeeded_append hk'
    · exact h.unfinished k' hk' t (List.mem_cons_of_mem _ ht)
    · rw [hk'.1]
      exact h.ne_of_mem ht
  final := h.final_append _

end Lib.Attempts
