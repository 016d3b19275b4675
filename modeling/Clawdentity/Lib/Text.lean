import Mathlib.Data.List.DropRight

/-!
# Trimming and splitting

Texts are lists over any character type, and a test says which characters are
blank. Two languages with different character types and different blanks share
these definitions.
-/

namespace Lib.Text

universe u
variable {α : Type u} {blank : α → Bool}

/-- Drop the blanks at both ends. -/
def trim (blank : α → Bool) (l : List α) : List α := (l.dropWhile blank).rdropWhile blank

/-- Only a text of blanks is trimmed to nothing. -/
theorem trim_eq_nil_iff {l : List α} : trim blank l = [] ↔ ∀ x ∈ l, blank x = true := by
  rw [trim, List.rdropWhile_eq_nil_iff]
  constructor
  · intro h x hx
    rw [← List.takeWhile_append_dropWhile (p := blank) (l := l), List.mem_append] at hx
    rcases hx with hx | hx
    · exact List.mem_takeWhile_imp hx
    · exact h x hx
  · intro h x hx
    exact h x ((List.dropWhile_sublist blank).subset hx)

/-- A text without blanks is trimmed already. -/
theorem trim_eq_self {l : List α} (h : ∀ x ∈ l, blank x = false) : trim blank l = l := by
  have hdrop : l.dropWhile blank = l := by
    cases l with
    | nil => rfl
    | cons x l => simp [h x List.mem_cons_self]
  rw [trim, hdrop, List.rdropWhile_eq_self_iff]
  intro hne
  simp [h _ (List.getLast_mem hne)]

/-- A trimmed text is trimmed already. -/
theorem trim_trim (l : List α) : trim blank (trim blank l) = trim blank l := by
  have hdrop : (trim blank l).dropWhile blank = trim blank l := by
    rw [List.dropWhile_eq_self_iff]
    intro hpos hblank
    -- what is left begins where the text without its leading blanks begins
    obtain ⟨rest, hrest⟩ := List.rdropWhile_prefix blank (l.dropWhile blank)
    cases htrim : trim blank l with
    | nil => simp [htrim] at hpos
    | cons x m =>
        rw [← trim, htrim] at hrest
        have hhead := List.head_dropWhile_not (l := l) blank (by rw [← hrest]; simp)
        simp only [← hrest, List.cons_append, List.head_cons] at hhead
        simp only [htrim, List.getElem_cons_zero] at hblank
        rw [hhead] at hblank
        cases hblank
  rw [trim, hdrop]
  exact List.rdropWhile_idempotent blank (l.dropWhile blank)

/-- A text that neither begins nor ends with a blank is trimmed. -/
theorem trim_eq_self_of_ends {l : List α} (hhead : ∀ x, l.head? = some x → blank x = false)
    (hlast : ∀ x, l.getLast? = some x → blank x = false) : trim blank l = l := by
  have hdrop : l.dropWhile blank = l := by
    cases l with
    | nil => rfl
    | cons x l => simp [hhead x rfl]
  rw [trim, hdrop, List.rdropWhile_eq_self_iff]
  intro hne
  simp [hlast _ (List.getLast?_eq_some_getLast hne)]

/-- A trimmed text does not end with a blank. -/
theorem getLast_not_blank {l : List α} (h : trim blank l = l) {x : α}
    (hx : l.getLast? = some x) : blank x = false := by
  have hne : l ≠ [] := by
    intro hnil
    rw [hnil] at hx
    cases hx
  have hself : (trim blank l).rdropWhile blank = trim blank l := List.rdropWhile_idempotent blank _
  rw [h, List.rdropWhile_eq_self_iff] at hself
  have hlast := hself hne
  rw [List.getLast?_eq_some_getLast hne] at hx
  cases hx
  exact Bool.eq_false_iff.mpr hlast

theorem mem_of_mem_trim {l : List α} {x : α} (h : x ∈ trim blank l) : x ∈ l :=
  (List.dropWhile_sublist blank).subset ((List.rdropWhile_prefix blank _).subset h)

/-- Splitting after a change of the characters that keeps the separator apart. -/
theorem splitOn_map {β : Type*} [DecidableEq α] [DecidableEq β] (f : α → β) (sep : α) {l : List α}
    (h : ∀ x ∈ l, f x = f sep → x = sep) :
    (l.map f).splitOn (f sep) = (l.splitOn sep).map (List.map f) := by
  simp only [List.splitOn]
  induction l with
  | nil => rfl
  | cons x l ih =>
      have hrest : ∀ y ∈ l, f y = f sep → y = sep := fun y hy => h y (List.mem_cons_of_mem x hy)
      rw [List.map_cons, List.splitOnP_cons_eq_if_modifyHead, List.splitOnP_cons_eq_if_modifyHead,
        ih hrest]
      by_cases hx : x = sep
      · subst hx
        simp
      · have hfx : f x ≠ f sep := fun hf => hx (h x List.mem_cons_self hf)
        simp only [beq_iff_eq, hx, hfx, if_false]
        cases l.splitOnP (fun y => y == sep) <;> rfl

/-- A text in front that does not have the separator joins the first part. -/
theorem splitOn_append [DecidableEq α] {sep : α} {front : List α} (h : sep ∉ front) (l : List α) :
    (front ++ l).splitOn sep = (l.splitOn sep).modifyHead (front ++ ·) := by
  simp only [List.splitOn]
  induction front with
  | nil =>
      rw [List.nil_append]
      cases l.splitOnP (fun y => y == sep) <;> rfl
  | cons x front ih =>
      have hx : x ≠ sep := fun heq => h (heq ▸ List.mem_cons_self)
      have hrest : sep ∉ front := fun hmem => h (List.mem_cons_of_mem x hmem)
      rw [List.cons_append, List.splitOnP_cons_eq_if_modifyHead, ih hrest]
      simp only [beq_iff_eq, hx, if_false]
      cases l.splitOnP (fun y => y == sep) <;> rfl

/-- A part up to the first separator. -/
theorem splitOn_append_sep [DecidableEq α] {sep : α} {front : List α} (h : sep ∉ front)
    (l : List α) : (front ++ sep :: l).splitOn sep = front :: l.splitOn sep := by
  have hsep : (sep :: l).splitOn sep = [] :: l.splitOn sep := by
    simp [List.splitOn, List.splitOnP_cons_eq_if_modifyHead]
  rw [splitOn_append h, hsep, List.modifyHead_cons, List.append_nil]

/-- A text without the separator. -/
theorem splitOn_of_notMem [DecidableEq α] {sep : α} {l : List α} (h : sep ∉ l) :
    l.splitOn sep = [l] := by
  have happend := splitOn_append h []
  rw [List.append_nil] at happend
  rw [happend]
  simp

/-- Splitting after each character was written as a text, where only the separator is
written with the new separator. -/
theorem splitOn_flatMap {β : Type*} [DecidableEq α] [DecidableEq β] {f : α → List β} {sep : α}
    {sep' : β} (hsep : f sep = [sep']) (h : ∀ x, x ≠ sep → sep' ∉ f x) (l : List α) :
    (l.flatMap f).splitOn sep' = (l.splitOn sep).map fun part => part.flatMap f := by
  induction l with
  | nil => rfl
  | cons x l ih =>
      rw [List.flatMap_cons]
      simp only [List.splitOn] at ih ⊢
      rw [List.splitOnP_cons_eq_if_modifyHead]
      by_cases hx : x = sep
      · subst hx
        rw [hsep, List.singleton_append, List.splitOnP_cons_eq_if_modifyHead, ih]
        simp
      · have happend := splitOn_append (h x hx) (l.flatMap f)
        simp only [List.splitOn] at happend
        rw [happend, ih]
        simp only [beq_iff_eq, hx, if_false]
        cases l.splitOnP (fun y => y == sep) <;> rfl

/-- No part has the separator in it. -/
theorem notMem_of_mem_splitOn [DecidableEq α] {sep : α} {l part : List α}
    (h : part ∈ l.splitOn sep) : sep ∉ part := by
  induction l generalizing part with
  | nil =>
      rw [List.splitOn_nil, List.mem_singleton] at h
      rw [h]
      exact List.not_mem_nil
  | cons x l ih =>
      rw [List.splitOn_cons_eq_if_modifyHead] at h
      split at h
      · rcases List.mem_cons.mp h with rfl | h
        · exact List.not_mem_nil
        · exact ih h
      · rename_i hx
        cases hparts : l.splitOn sep with
        | nil => exact absurd hparts (List.splitOn_ne_nil sep l)
        | cons first rest =>
            rw [hparts] at ih h
            rcases List.mem_cons.mp h with rfl | h
            · intro hmem
              rcases List.mem_cons.mp hmem with heq | hmem
              · exact hx (beq_iff_eq.mpr heq.symm)
              · exact ih List.mem_cons_self hmem
            · exact ih (List.mem_cons_of_mem first h)

theorem mem_intercalate {sep x : α} {parts : List (List α)} (h : x ∈ [sep].intercalate parts) :
    x = sep ∨ ∃ part ∈ parts, x ∈ part := by
  induction parts with
  | nil => cases h
  | cons part parts ih =>
      cases parts with
      | nil =>
          rw [List.intercalate_singleton] at h
          exact .inr ⟨part, List.mem_cons_self, h⟩
      | cons next parts =>
          rw [List.intercalate_cons_cons, List.mem_append, List.mem_append] at h
          rcases h with (h | h) | h
          · exact .inr ⟨part, List.mem_cons_self, h⟩
          · exact .inl (List.mem_singleton.mp h)
          · rcases ih h with h | ⟨p, hp, hx⟩
            · exact .inl h
            · exact .inr ⟨p, List.mem_cons_of_mem part hp, hx⟩

/-- A character of a text is the separator or stands in one of the parts. -/
theorem eq_or_mem_of_mem_splitOn [DecidableEq α] (sep : α) {x : α} {l : List α} (h : x ∈ l) :
    x = sep ∨ ∃ part ∈ l.splitOn sep, x ∈ part := by
  refine mem_intercalate ?_
  rwa [List.intercalate_splitOn]

/-! ## Texts around a separator -/

/-- The part before the first separator and what comes after it. -/
theorem append_sep_inj {sep : α} {a b x y : List α} (ha : sep ∉ a) (hb : sep ∉ b)
    (h : a ++ sep :: x = b ++ sep :: y) : a = b ∧ x = y := by
  induction a generalizing b with
  | nil =>
      cases b with
      | nil => exact ⟨rfl, (List.cons.inj h).2⟩
      | cons u b => exact absurd ((List.cons.inj h).1 ▸ List.mem_cons_self) hb
  | cons u a ih =>
      cases b with
      | nil => exact absurd ((List.cons.inj h).1 ▸ List.mem_cons_self) ha
      | cons v b =>
          obtain ⟨rfl, hrest⟩ := List.cons.inj h
          have hparts := ih (fun hmem => ha (List.mem_cons_of_mem u hmem))
            (fun hmem => hb (List.mem_cons_of_mem u hmem)) hrest
          exact ⟨by rw [hparts.1], hparts.2⟩

/-- The part after the last separator and what comes before it. -/
theorem append_sep_inj_last {sep : α} {a b x y : List α} (ha : sep ∉ a) (hb : sep ∉ b)
    (h : x ++ sep :: a = y ++ sep :: b) : x = y ∧ a = b := by
  have hreverse := congrArg List.reverse h
  simp only [List.reverse_append, List.reverse_cons, List.append_assoc,
    List.singleton_append] at hreverse
  have hparts := append_sep_inj (fun hmem => ha (List.mem_reverse.mp hmem))
    (fun hmem => hb (List.mem_reverse.mp hmem)) hreverse
  exact ⟨List.reverse_injective hparts.2, List.reverse_injective hparts.1⟩

/-- The parts of a joined text, where only the last part may have the separator in it. -/
theorem intercalate_concat_inj {sep : α} {parts parts' : List (List α)} {x x' : List α}
    (hlength : parts.length = parts'.length) (hparts : ∀ part ∈ parts, sep ∉ part)
    (hparts' : ∀ part ∈ parts', sep ∉ part)
    (h : [sep].intercalate (parts ++ [x]) = [sep].intercalate (parts' ++ [x'])) :
    parts = parts' ∧ x = x' := by
  induction parts generalizing parts' with
  | nil =>
      obtain rfl := List.length_eq_zero_iff.mp hlength.symm
      simpa using h
  | cons part parts ih =>
      cases parts' with
      | nil => cases hlength
      | cons part' parts' =>
          have hjoin : ∀ (part : List α) (parts : List (List α)) (x : List α),
              [sep].intercalate (part :: parts ++ [x]) =
                part ++ sep :: [sep].intercalate (parts ++ [x]) := by
            intro part parts x
            cases parts <;> simp [List.intercalate_cons_cons]
          rw [hjoin, hjoin] at h
          obtain ⟨rfl, hrest⟩ := append_sep_inj (hparts part List.mem_cons_self)
            (hparts' part' List.mem_cons_self) h
          obtain ⟨rfl, hx⟩ := ih (Nat.succ.inj hlength)
            (fun p hp => hparts p (List.mem_cons_of_mem part hp))
            (fun p hp => hparts' p (List.mem_cons_of_mem part hp)) hrest
          exact ⟨rfl, hx⟩

end Lib.Text
