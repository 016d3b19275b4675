import Mathlib.Algebra.Order.Group.Defs
import Mathlib.Algebra.Order.Monoid.Defs
import Mathlib.Data.List.MinMax

/-!
# Counting in fixed windows

A counter opens a window when it is used with none open, counts the uses in the window, and
refuses them beyond a limit. Windows of one length do not overlap, so that a span of this length
meets at most two of them.

## Main definitions

* `Bounded` — the uses that were counted, in windows that do not overlap.
* `Counts` — the open window of the counter, if any.
* `Bounded.open`, `Bounded.use` — a use that opens a window, and one in the open window.
* `Bounded.span_le` — the uses in a span.
-/

namespace Lib.FixedWindow

universe u

/-- A use, with the start of the window in which it was counted. -/
structure Use (τ : Type u) where
  start : τ
  time : τ

variable {τ : Type u} [AddCommMonoid τ] [LinearOrder τ] [IsOrderedCancelAddMonoid τ]
  {window start now now' : τ} {limit n : ℕ} {log : List (Use τ)}

/-- The uses lie in their windows, the windows do not overlap, and none has more uses than the
limit. -/
structure Bounded (window : τ) (limit : ℕ) (log : List (Use τ)) : Prop where
  within : ∀ u ∈ log, u.start ≤ u.time ∧ u.time < u.start + window
  spaced : ∀ u ∈ log, ∀ v ∈ log, u.start < v.start → u.start + window ≤ v.start
  count : ∀ start, log.countP (fun u => decide (u.start = start)) ≤ limit

/-- The open window of the counter and its number of uses; without one, all windows are over. -/
def Counts (window now : τ) (log : List (Use τ)) : Option (τ × ℕ) → Prop
  | none => ∀ u ∈ log, u.start + window ≤ now
  | some (start, n) => n = log.countP (fun u => decide (u.start = start)) ∧ 0 < n ∧
      (∀ u ∈ log, u.start ≤ start) ∧ start ≤ now

omit [IsOrderedCancelAddMonoid τ] in
theorem bounded_nil : Bounded window limit [] :=
  ⟨nofun, nofun, fun _ => Nat.zero_le _⟩

omit [IsOrderedCancelAddMonoid τ] in
theorem Counts.later {counter : Option (τ × ℕ)} (h : Counts window now log counter)
    (hnow : now ≤ now') : Counts window now' log counter := by
  cases counter with
  | none => exact fun u hu => (h u hu).trans hnow
  | some counter => exact ⟨h.1, h.2.1, h.2.2.1, h.2.2.2.trans hnow⟩

/-- A window that is over is closed. -/
theorem Counts.close (h : Counts window now log (some (start, n))) (hover : start + window ≤ now') :
    Counts window now' log none :=
  fun u hu => (add_le_add_left (h.2.2.1 u hu) window).trans hover

omit [AddCommMonoid τ] [IsOrderedCancelAddMonoid τ] in
theorem countP_concat (u : Use τ) (start : τ) :
    (log ++ [u]).countP (fun u => decide (u.start = start)) =
      log.countP (fun u => decide (u.start = start)) + if u.start = start then 1 else 0 := by
  rw [List.countP_append, List.countP_singleton]
  simp

/-- **A use that opens a window.** -/
theorem Bounded.open (h : Bounded window limit log) (hcounts : Counts window now log none)
    (hwindow : 0 < window) (hlimit : 0 < limit) :
    Bounded window limit (log ++ [⟨now, now⟩]) ∧
      Counts window now (log ++ [⟨now, now⟩]) (some (now, 1)) := by
  have hbefore : ∀ u ∈ log, u.start < now := fun u hu =>
    (lt_add_of_pos_right _ hwindow).trans_le (hcounts u hu)
  have hnone : log.countP (fun u => decide (u.start = now)) = 0 :=
    List.countP_eq_zero.mpr fun u hu => by simpa using (hbefore u hu).ne
  refine ⟨⟨fun u hu => ?_, fun u hu v hv huv => ?_, fun start => ?_⟩, ?_, Nat.one_pos,
    fun u hu => ?_, le_rfl⟩
  · obtain hu | hu := List.mem_append.mp hu
    · exact h.within u hu
    · rw [List.mem_singleton.mp hu]
      exact ⟨le_rfl, lt_add_of_pos_right _ hwindow⟩
  · obtain hv | hv := List.mem_append.mp hv
    · obtain hu | hu := List.mem_append.mp hu
      · exact h.spaced u hu v hv huv
      · rw [List.mem_singleton.mp hu] at huv
        exact absurd huv (hbefore v hv).not_gt
    · rw [List.mem_singleton.mp hv] at huv ⊢
      obtain hu | hu := List.mem_append.mp hu
      · exact hcounts u hu
      · rw [List.mem_singleton.mp hu] at huv
        exact absurd huv (lt_irrefl _)
  · rw [countP_concat]
    split
    · rename_i heq
      rw [← heq, hnone]
      exact hlimit
    · exact h.count start
  · rw [countP_concat, hnone, if_pos rfl]
  · obtain hu | hu := List.mem_append.mp hu
    · exact (hbefore u hu).le
    · rw [List.mem_singleton.mp hu]

omit [IsOrderedCancelAddMonoid τ] in
/-- **A use in the open window.** -/
theorem Bounded.use (h : Bounded window limit log)
    (hcounts : Counts window now log (some (start, n))) (hopen : now < start + window)
    (hlimit : n < limit) :
    Bounded window limit (log ++ [⟨start, now⟩]) ∧
      Counts window now (log ++ [⟨start, now⟩]) (some (start, n + 1)) := by
  obtain ⟨hcount, hpos, hlast, hnow⟩ := hcounts
  obtain ⟨w, hw, hstart⟩ := List.countP_pos_iff.mp (hcount ▸ hpos)
  obtain rfl := of_decide_eq_true hstart
  refine ⟨⟨fun u hu => ?_, fun u hu v hv huv => ?_, fun start => ?_⟩, ?_, Nat.succ_pos n,
    fun u hu => ?_, hnow⟩
  · obtain hu | hu := List.mem_append.mp hu
    · exact h.within u hu
    · rw [List.mem_singleton.mp hu]
      exact ⟨hnow, hopen⟩
  · obtain hv | hv := List.mem_append.mp hv
    · obtain hu | hu := List.mem_append.mp hu
      · exact h.spaced u hu v hv huv
      · rw [List.mem_singleton.mp hu] at huv
        exact absurd huv (hlast v hv).not_gt
    · rw [List.mem_singleton.mp hv] at huv ⊢
      obtain hu | hu := List.mem_append.mp hu
      · exact h.spaced u hu w hw huv
      · rw [List.mem_singleton.mp hu] at huv
        exact absurd huv (lt_irrefl _)
  · rw [countP_concat]
    split
    · rename_i heq
      rw [← heq, ← hcount]
      exact hlimit
    · exact h.count start
  · rw [countP_concat, ← hcount, if_pos rfl]
  · obtain hu | hu := List.mem_append.mp hu
    · exact hlast u hu
    · rw [List.mem_singleton.mp hu]

/-- What one of two tests accepts is counted by them. -/
theorem countP_le_add {α : Type u} {p q r : α → Bool} {l : List α}
    (h : ∀ a ∈ l, p a = true → q a = true ∨ r a = true) : l.countP p ≤ l.countP q + l.countP r := by
  induction l with
  | nil => simp
  | cons a l ih =>
      have htail := ih fun b hb => h b (List.mem_cons_of_mem a hb)
      have hhead := h a List.mem_cons_self
      rw [List.countP_cons, List.countP_cons, List.countP_cons]
      split
      · obtain hq | hr := hhead (by assumption)
        · rw [if_pos hq]
          omega
        · rw [if_pos hr]
          omega
      · omega

/-- **A span of the length of a window** has at most the uses of two windows. -/
theorem Bounded.span_le (h : Bounded window limit log) (t : τ) :
    log.countP (fun u => decide (t ≤ u.time ∧ u.time ≤ t + window)) ≤ 2 * limit := by
  -- `u` is in the first window of the span; a window that is neither this one nor that of `v`
  -- would start after the span
  cases hfirst :
      (log.filter fun u => decide (t ≤ u.time ∧ u.time ≤ t + window)).argmin Use.start with
  | none =>
      rw [List.argmin_eq_none, List.filter_eq_nil_iff] at hfirst
      rw [List.countP_eq_zero.mpr hfirst]
      exact Nat.zero_le _
  | some u =>
      obtain ⟨hu, hspan⟩ := List.mem_filter.mp (List.argmin_mem hfirst)
      have hbegin : t + window < u.start + window + window :=
        add_lt_add_left ((of_decide_eq_true hspan).1.trans_lt (h.within u hu).2) window
      have hleast : ∀ v ∈ log, (t ≤ v.time ∧ v.time ≤ t + window) → u.start ≤ v.start :=
        fun v hv hin => List.le_of_mem_argmin (List.mem_filter.mpr ⟨hv, decide_eq_true hin⟩) hfirst
      have hafter : ∀ v ∈ log, ∀ w ∈ log, (t ≤ w.time ∧ w.time ≤ t + window) →
          u.start < v.start → v.start < w.start → False := by
        intro v hv w hw hin huv hvw
        have hsecond := add_le_add_left (h.spaced u hu v hv huv) window
        have hthird := hsecond.trans (h.spaced v hv w hw hvw)
        exact absurd (hbegin.trans_le (hthird.trans (h.within w hw).1)) hin.2.not_gt
      have htwo : ∃ second, ∀ v ∈ log, (t ≤ v.time ∧ v.time ≤ t + window) →
          v.start = u.start ∨ v.start = second := by
        by_cases hother : ∃ v ∈ log, (t ≤ v.time ∧ v.time ≤ t + window) ∧ v.start ≠ u.start
        · obtain ⟨v, hv, hin, hne⟩ := hother
          refine ⟨v.start, fun w hw hinw => ?_⟩
          by_contra hnot
          obtain ⟨hwu, hwv⟩ := not_or.mp hnot
          have hv' := lt_of_le_of_ne (hleast v hv hin) (Ne.symm hne)
          have hw' := lt_of_le_of_ne (hleast w hw hinw) (Ne.symm hwu)
          obtain hlt | hlt := lt_or_gt_of_ne hwv
          · exact hafter w hw v hv hin hw' hlt
          · exact hafter v hv w hw hinw hv' hlt
        · refine ⟨u.start, fun v hv hin => .inl ?_⟩
          by_contra hne
          exact hother ⟨v, hv, hin, hne⟩
      obtain ⟨second, htwo⟩ := htwo
      have hsum := countP_le_add (q := fun u' => decide (u'.start = u.start))
        (r := fun u' => decide (u'.start = second))
        (p := fun u' => decide (t ≤ u'.time ∧ u'.time ≤ t + window)) (l := log) fun v hv hin => by
          simpa using htwo v hv (of_decide_eq_true hin)
      have hone := h.count u.start
      have hother := h.count second
      omega

end Lib.FixedWindow
