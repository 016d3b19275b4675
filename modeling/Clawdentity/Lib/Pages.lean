import Mathlib.Data.List.Basic
import Mathlib.Order.Basic

/-!
# Pages after a cursor

Rows in descending order are read in pages. A page is fetched with one row more than its limit,
to see whether another follows; the key of its last row is then the cursor after which the next
page starts. Reading goes on until a page has no cursor.

## Main definitions

* `page` — the page of the rows that were fetched.
* `Follows` — the pages that are read, each with the cursor of the one before.
* `follows_after` — they are the rows, in full pages.
-/

namespace Lib.Pages

universe u v w
variable {α : Type u} {κ : Type v}

/-- A page, and the cursor of the next one. -/
structure Page (α : Type u) (κ : Type v) where
  rows : List α
  nextCursor : Option κ
  deriving DecidableEq

/-- The page of the rows that were fetched, one more than the limit where there are more. -/
def page (key : α → κ) (limit : ℕ) (fetched : List α) : Page α κ :=
  if limit < fetched.length then
    { rows := fetched.take limit, nextCursor := (fetched.take limit).getLast?.map key }
  else { rows := fetched, nextCursor := none }

/-- The pages that are read from a cursor on. -/
inductive Follows (fetch : Option κ → Option (Page α κ)) : Option κ → List (Page α κ) → Prop
  | last {cursor : Option κ} {rows : List α} (h : fetch cursor = some ⟨rows, none⟩) :
      Follows fetch cursor [⟨rows, none⟩]
  | next {cursor : Option κ} {rows : List α} {c : κ} {pages : List (Page α κ)}
      (h : fetch cursor = some ⟨rows, some c⟩) (rest : Follows fetch (some c) pages) :
      Follows fetch cursor (⟨rows, some c⟩ :: pages)

/-- The pages are the rows, and all but the last are full. -/
structure Cover (limit : ℕ) (rows : List α) (pages : List (Page α κ)) : Prop where
  rows : pages.flatMap Page.rows = rows
  full : ∀ p ∈ pages.dropLast, p.rows.length = limit

section
variable {ℓ : Type w} [Preorder ℓ] [DecidableLT ℓ] (key : α → κ) (rank : κ → ℓ)

/-- The rows after a cursor. -/
def after (cursor : Option κ) (rows : List α) : List α :=
  rows.filter fun r => cursor.all fun c => decide (rank (key r) < rank c)

variable {key rank}

/-- The rows after one of the rows are those that follow it. -/
theorem after_of_append {before rest : List α} {r : α}
    (h : (before ++ r :: rest).Pairwise fun a b => rank (key b) < rank (key a)) :
    after key rank (some (key r)) (before ++ r :: rest) = rest := by
  obtain ⟨_, htail, hcross⟩ := List.pairwise_append.mp h
  obtain ⟨hrest, _⟩ := List.pairwise_cons.mp htail
  have hbefore : before.filter (fun a => decide (rank (key a) < rank (key r))) = [] := by
    rw [List.filter_eq_nil_iff]
    intro a ha
    rw [decide_eq_true_iff]
    exact lt_asymm (hcross a ha r List.mem_cons_self)
  have hself : decide (rank (key r) < rank (key r)) = false := decide_eq_false (lt_irrefl _)
  have hafter : rest.filter (fun a => decide (rank (key a) < rank (key r))) = rest :=
    List.filter_eq_self.mpr fun a ha => decide_eq_true (hrest a ha)
  simp only [after, Option.all_some, List.filter_append, hbefore, List.nil_append,
    List.filter_cons, hself, Bool.false_eq_true, if_false, hafter]

/-- A later cursor leaves what is after it of the rows after an earlier one. -/
theorem after_after {cursor : Option κ} {rows : List α} {r : α}
    (h : r ∈ after key rank cursor rows) :
    after key rank (some (key r)) (after key rank cursor rows) =
      after key rank (some (key r)) rows := by
  obtain ⟨_, hr⟩ := List.mem_filter.mp h
  unfold after
  rw [List.filter_filter]
  refine List.filter_congr fun a _ => ?_
  cases cursor with
  | none => simp
  | some c =>
      simp only [Option.all_some, decide_eq_true_eq, Bool.and_eq_left_iff_imp] at hr ⊢
      exact fun hlt => lt_trans hlt hr

/-- **The pages from a cursor on** are the rows after it, where each is fetched with one row more
than the limit. -/
theorem follows_after {fetch : Option κ → Option (Page α κ)} {limit : ℕ} {rows : List α}
    (hlimit : 0 < limit) (hrows : rows.Pairwise fun a b => rank (key b) < rank (key a))
    (hfetch : ∀ cursor, (∀ c ∈ cursor, ∃ r ∈ rows, key r = c) →
      fetch cursor = some (page key limit ((after key rank cursor rows).take (limit + 1))))
    (cursor : Option κ) (hcursor : ∀ c ∈ cursor, ∃ r ∈ rows, key r = c) :
    ∃ pages, Follows fetch cursor pages ∧ Cover limit (after key rank cursor rows) pages := by
  -- induction on the number of rows after the cursor, of which a full page leaves fewer
  induction hn : (after key rank cursor rows).length using Nat.strongRecOn generalizing cursor with
  | _ n ih =>
    have hpage := hfetch cursor hcursor
    obtain hlong | hshort := Nat.lt_or_ge limit (after key rank cursor rows).length
    · -- the last row of the page is `r`, and the rows after it are `rest`
      obtain ⟨before, r, hfirst⟩ : ∃ before r,
          (after key rank cursor rows).take limit = before ++ [r] := by
        obtain hnil | hfirst := List.eq_nil_or_concat' ((after key rank cursor rows).take limit)
        · have hlength := congrArg List.length hnil
          rw [List.length_take, Nat.min_eq_left (Nat.le_of_lt hlong), List.length_nil] at hlength
          omega
        · exact hfirst
      have hsplit : after key rank cursor rows =
          before ++ r :: (after key rank cursor rows).drop limit := by
        conv_lhs => rw [← List.take_append_drop limit (after key rank cursor rows), hfirst]
        simp
      have hr : r ∈ after key rank cursor rows := by
        rw [hsplit]
        exact List.mem_append_right _ List.mem_cons_self
      have hrest : after key rank (some (key r)) rows =
          (after key rank cursor rows).drop limit := by
        have hsorted : (after key rank cursor rows).Pairwise
            fun a b => rank (key b) < rank (key a) := hrows.sublist List.filter_sublist
        rw [← after_after hr]
        rw [hsplit] at hsorted
        conv_lhs => rw [hsplit]
        exact after_of_append hsorted
      have hnext : fetch cursor = some ⟨(after key rank cursor rows).take limit, some (key r)⟩ := by
        have hmore : limit < ((after key rank cursor rows).take (limit + 1)).length := by
          rw [List.length_take]
          omega
        rw [hpage, page, if_pos hmore, List.take_take, Nat.min_eq_left (Nat.le_succ limit), hfirst,
          List.getLast?_concat, Option.map_some]
      obtain ⟨pages, hpages, hcover⟩ := ih ((after key rank cursor rows).drop limit).length
        (by rw [List.length_drop]; omega) (some (key r))
        (by
          rintro c ⟨⟩
          exact ⟨r, (List.mem_filter.mp hr).1, rfl⟩)
        (by rw [hrest])
      refine ⟨_, .next hnext hpages, ?_, ?_⟩
      · rw [List.flatMap_cons, hcover.rows, hrest, List.take_append_drop]
      · intro p hp
        rw [List.dropLast_cons_of_ne_nil (by cases hpages <;> simp)] at hp
        obtain rfl | hp := List.mem_cons.mp hp
        · rw [List.length_take, Nat.min_eq_left (Nat.le_of_lt hlong)]
        · exact hcover.full p hp
    · have hall : (after key rank cursor rows).take (limit + 1) = after key rank cursor rows :=
        List.take_of_length_le (by omega)
      have hlast : fetch cursor = some ⟨after key rank cursor rows, none⟩ := by
        rw [hpage, hall, page, if_neg (by omega)]
      exact ⟨_, .last hlast, by simp, by simp⟩

end

end Lib.Pages
