import Clawdentity.Lib.Text

/-!
# Quoted texts

A text that was quoted and broken over lines is read without its blanks and without the quotes
around it. Reading twice is reading once where no blanks separate the quotes around the text.

## Main definitions

* `unquote` — the text as it is read.
* `Quoted` — blanks, quotes, a middle, quotes and blanks.
* `unquote_idempotent_iff`.
-/

namespace Lib.Text

universe u
variable {α : Type u} {blank : α → Bool}

/-- Neither end of the text is in the class. -/
def FreeEnds (p : α → Bool) (l : List α) : Prop :=
  (∀ x ∈ l.head?, p x = false) ∧ ∀ x ∈ l.getLast?, p x = false

/-- What is trimmed lies around the trimmed text. -/
theorem trim_parts (p : α → Bool) (l : List α) :
    ∃ a b, l = a ++ trim p l ++ b ∧ (∀ x ∈ a, p x = true) ∧ ∀ x ∈ b, p x = true := by
  refine ⟨l.takeWhile p, (l.dropWhile p).rtakeWhile p, ?_, fun x hx => List.mem_takeWhile_imp hx,
    fun x hx => List.mem_rtakeWhile_imp hx⟩
  rw [trim, List.append_assoc, List.rdropWhile_append_rtakeWhile,
    List.takeWhile_append_dropWhile]

theorem freeEnds_trim (p : α → Bool) (l : List α) : FreeEnds p (trim p l) := by
  refine ⟨fun x hx => ?_, fun x hx => getLast_not_blank (trim_trim l) hx⟩
  cases htrim : trim p l with
  | nil =>
      rw [htrim] at hx
      cases hx
  | cons y rest =>
      obtain ⟨tail, htail⟩ := List.rdropWhile_prefix p (l.dropWhile p)
      rw [← trim, htrim] at htail
      have hhead := List.head_dropWhile_not (l := l) p (by rw [← htail]; simp)
      simp only [← htail, List.cons_append, List.head_cons] at hhead
      rw [htrim] at hx
      cases hx
      exact hhead

theorem trim_eq_self_iff {p : α → Bool} {l : List α} : trim p l = l ↔ FreeEnds p l := by
  constructor
  · intro h
    rw [← h]
    exact freeEnds_trim p l
  · exact fun h => trim_eq_self_of_ends h.1 h.2

/-- **Trimming what is around a text** with free ends. -/
theorem trim_append_append {p : α → Bool} {a b c : List α} (ha : ∀ x ∈ a, p x = true)
    (hb : ∀ x ∈ b, p x = true) (hc : FreeEnds p c) : trim p (a ++ c ++ b) = c := by
  have hdropA : (a ++ c ++ b).dropWhile p = (c ++ b).dropWhile p := by
    rw [List.append_assoc, List.dropWhile_append_of_pos ha]
  cases c with
  | nil =>
      rw [trim_eq_nil_iff]
      intro x hx
      rw [List.append_nil] at hx
      exact (List.mem_append.mp hx).elim (ha x) (hb x)
  | cons y rest =>
      have hy : p y = false := hc.1 y rfl
      have hdrop : (y :: rest ++ b).dropWhile p = y :: rest ++ b := by
        rw [List.cons_append, List.dropWhile_cons_of_neg (by rw [hy]; exact Bool.false_ne_true)]
      rw [trim, hdropA, hdrop, List.rdropWhile, List.reverse_append,
        List.dropWhile_append_of_pos fun x hx => hb x (List.mem_reverse.mp hx),
        ← List.rdropWhile, List.rdropWhile_eq_self_iff]
      intro hne
      rw [hc.2 _ (List.getLast?_eq_some_getLast hne)]
      exact Bool.false_ne_true

section
variable {quote : α → Bool} {l m : List α}

/-- The text without blanks, and without the quotes that are around the trimmed text. -/
def unquote (blank quote : α → Bool) (l : List α) : List α :=
  (trim blank (trim quote (trim blank l))).filter fun x => !blank x

/-- The text is blanks, quotes, a middle, quotes and blanks. -/
def Quoted (blank quote : α → Bool) (l m : List α) : Prop :=
  ∃ w₀ q₀ q₁ w₁, l = w₀ ++ q₀ ++ m ++ q₁ ++ w₁ ∧ (∀ x ∈ w₀, blank x = true) ∧
    (∀ x ∈ q₀, quote x = true) ∧ (∀ x ∈ q₁, quote x = true) ∧ ∀ x ∈ w₁, blank x = true

theorem filter_blank {a : List α} (h : ∀ x ∈ a, blank x = true) :
    a.filter (fun x => !blank x) = [] := by
  rw [List.filter_eq_nil_iff]
  intro x hx
  simp [h x hx]

theorem filter_trim (l : List α) :
    (trim blank l).filter (fun x => !blank x) = l.filter fun x => !blank x := by
  obtain ⟨a, b, hl, ha, hb⟩ := trim_parts blank l
  conv_rhs => rw [hl]
  rw [List.filter_append, List.filter_append, filter_blank ha, filter_blank hb, List.nil_append,
    List.append_nil]

theorem unquote_eq (l : List α) :
    unquote blank quote l = (trim quote (trim blank l)).filter fun x => !blank x :=
  filter_trim _

theorem not_blank_of_mem_unquote {x : α} (h : x ∈ unquote blank quote l) : blank x = false := by
  simpa using (List.mem_filter.mp h).2

/-- Unquoting again trims only quotes. -/
theorem unquote_unquote (l : List α) :
    unquote blank quote (unquote blank quote l) = trim quote (unquote blank quote l) := by
  have hvisible : ∀ x ∈ unquote blank quote l, blank x = false :=
    fun x hx => not_blank_of_mem_unquote hx
  rw [unquote_eq, trim_eq_self hvisible, List.filter_eq_self]
  intro x hx
  simp [hvisible x (mem_of_mem_trim hx)]

/-! ### Texts around a middle -/

/-- A text whose ends are free in front and behind. -/
theorem freeEnds_append {p : α → Bool} {a b c : List α} (ha : ∀ x ∈ a.head?, p x = false)
    (hb : ∀ x ∈ b.getLast?, p x = false) (hc : FreeEnds p c) (hne : c ≠ []) :
    FreeEnds p (a ++ c ++ b) := by
  constructor
  · intro x hx
    cases a with
    | nil =>
        rw [List.nil_append, List.head?_append_of_ne_nil _ hne] at hx
        exact hc.1 x hx
    | cons y rest => exact ha x hx
  · intro x hx
    obtain rfl | hbne := List.eq_nil_or_concat' b
    · rw [List.append_nil, List.getLast?_append_of_ne_nil _ hne] at hx
      exact hc.2 x hx
    · obtain ⟨front, y, rfl⟩ := hbne
      rw [List.getLast?_append_of_ne_nil _ (by simp)] at hx
      exact hb x hx

/-- The ends of a text with visible ends are those of its visible characters. -/
theorem freeEnds_of_filter (hblank : FreeEnds blank l)
    (hquote : FreeEnds quote (l.filter fun x => !blank x)) : FreeEnds quote l := by
  constructor
  · intro x hx
    cases l with
    | nil => cases hx
    | cons y rest =>
        have hx : y = x := Option.some.inj hx
        subst hx
        refine hquote.1 y ?_
        rw [List.filter_cons_of_pos (by simp [hblank.1 y rfl])]
        exact rfl
  · intro x hx
    obtain rfl | ⟨front, y, rfl⟩ := List.eq_nil_or_concat' l
    · cases hx
    · rw [List.getLast?_concat] at hx
      have hx : y = x := Option.some.inj hx
      subst hx
      refine hquote.2 y ?_
      rw [List.filter_append, List.filter_cons_of_pos (by simp [hblank.2 y (by simp)])]
      simp

/-- Blanks, quotes and blanks, where the last blanks follow quotes. -/
theorem exists_before {w q u : List α} (hw : ∀ x ∈ w, blank x = true)
    (hu : ∀ x ∈ u, blank x = true) :
    ∃ w' u', w ++ q ++ u = w' ++ (q ++ u') ∧ (∀ x ∈ w', blank x = true) ∧
      (∀ x ∈ u', blank x = true) ∧ (q = [] → u' = []) := by
  by_cases hq : q = []
  · refine ⟨w ++ u, [], by simp [hq], fun x hx => ?_, nofun, fun _ => rfl⟩
    exact (List.mem_append.mp hx).elim (hw x) (hu x)
  · exact ⟨w, u, List.append_assoc _ _ _, hw, hu, fun hnil => absurd hnil hq⟩

/-- Blanks, quotes and blanks, where the first blanks precede quotes. -/
theorem exists_behind {w q u : List α} (hw : ∀ x ∈ w, blank x = true)
    (hu : ∀ x ∈ u, blank x = true) :
    ∃ w' u', u ++ q ++ w = u' ++ q ++ w' ∧ (∀ x ∈ w', blank x = true) ∧
      (∀ x ∈ u', blank x = true) ∧ (q = [] → u' = []) := by
  by_cases hq : q = []
  · refine ⟨u ++ w, [], by simp [hq], fun x hx => ?_, nofun, fun _ => rfl⟩
    exact (List.mem_append.mp hx).elim (hu x) (hw x)
  · exact ⟨w, u, rfl, hw, hu, fun hnil => absurd hnil hq⟩

/-- A text without visible characters but quotes at its ends is read as nothing. -/
theorem unquote_of_blank (hdisjoint : ∀ x, quote x = true → blank x = false)
    (h : Quoted blank quote l m) (hm : ∀ x ∈ m, blank x = true) : unquote blank quote l = [] := by
  obtain ⟨w₀, q₀, q₁, w₁, rfl, hw₀, hq₀, hq₁, hw₁⟩ := h
  have hfree : ∀ {q : List α}, (∀ x ∈ q, quote x = true) → FreeEnds blank q := fun hq =>
    ⟨fun x hx => hdisjoint x (hq x (List.mem_of_head? hx)),
      fun x hx => hdisjoint x (hq x (List.mem_of_getLast? hx))⟩
  rw [unquote_eq]
  by_cases hne₀ : q₀ = []
  · have hl : w₀ ++ q₀ ++ m ++ q₁ ++ w₁ = w₀ ++ m ++ q₁ ++ w₁ := by simp [hne₀]
    rw [hl, trim_append_append (fun x hx => (List.mem_append.mp hx).elim (hw₀ x) (hm x)) hw₁
      (hfree hq₁), trim_eq_nil_iff.mpr hq₁, List.filter_nil]
  · by_cases hne₁ : q₁ = []
    · have hl : w₀ ++ q₀ ++ m ++ q₁ ++ w₁ = w₀ ++ q₀ ++ (m ++ w₁) := by simp [hne₁]
      rw [hl, trim_append_append hw₀ (fun x hx => (List.mem_append.mp hx).elim (hm x) (hw₁ x))
        (hfree hq₀), trim_eq_nil_iff.mpr hq₀, List.filter_nil]
    · have hl : w₀ ++ q₀ ++ m ++ q₁ ++ w₁ = w₀ ++ (q₀ ++ m ++ q₁) ++ w₁ := by simp
      have hends : FreeEnds blank (q₀ ++ m ++ q₁) := by
        rw [List.append_assoc]
        refine ⟨fun x hx => ?_, fun x hx => ?_⟩
        · rw [List.head?_append_of_ne_nil _ hne₀] at hx
          exact (hfree hq₀).1 x hx
        · rw [← List.append_assoc, List.getLast?_append_of_ne_nil _ hne₁] at hx
          exact (hfree hq₁).2 x hx
      have hplain : ∀ x ∈ m, quote x = false := fun x hx => by
        by_contra hquote
        have hvisible := hdisjoint x (by simpa using hquote)
        rw [hm x hx] at hvisible
        cases hvisible
      have hmiddle : FreeEnds quote m := ⟨fun x hx => hplain x (List.mem_of_head? hx),
        fun x hx => hplain x (List.mem_of_getLast? hx)⟩
      rw [hl, trim_append_append hw₀ hw₁ hends, trim_append_append hq₀ hq₁ hmiddle,
        filter_blank hm]

/-- **A quoted text is read as its visible characters** where these have free ends. -/
theorem unquote_of_quoted (hdisjoint : ∀ x, quote x = true → blank x = false)
    (h : Quoted blank quote l m) (hfree : FreeEnds quote (m.filter fun x => !blank x)) :
    unquote blank quote l = m.filter fun x => !blank x := by
  by_cases hm : ∀ x ∈ m, blank x = true
  · rw [unquote_of_blank hdisjoint h hm, filter_blank hm]
  obtain ⟨w₀, q₀, q₁, w₁, rfl, hw₀, hq₀, hq₁, hw₁⟩ := h
  -- The blanks at the ends of the middle belong to the quotes, or to the blanks around the text.
  obtain ⟨u, v, hparts, hu, hv⟩ := trim_parts blank m
  have hne : trim blank m ≠ [] := fun hnil => hm (trim_eq_nil_iff.mp hnil)
  obtain ⟨w₀', u', hbefore, hw₀', hu', hnil₀⟩ := exists_before (q := q₀) hw₀ hu
  obtain ⟨w₁', v', hbehind, hw₁', hv', hnil₁⟩ := exists_behind (q := q₁) hw₁ hv
  have hl : w₀ ++ q₀ ++ m ++ q₁ ++ w₁ =
      w₀' ++ ((q₀ ++ u') ++ trim blank m ++ (v' ++ q₁)) ++ w₁' := by
    calc w₀ ++ q₀ ++ m ++ q₁ ++ w₁
        = (w₀ ++ q₀ ++ u) ++ trim blank m ++ (v ++ q₁ ++ w₁) := by
          conv_lhs => rw [hparts]
          simp only [List.append_assoc]
      _ = _ := by
          rw [hbefore, hbehind]
          simp only [List.append_assoc]
  have hvisible : ∀ {q : List α}, (∀ x ∈ q, quote x = true) → ∀ x ∈ q, blank x = false :=
    fun hq x hx => hdisjoint x (hq x hx)
  have htrimmed : FreeEnds blank ((q₀ ++ u') ++ trim blank m ++ (v' ++ q₁)) := by
    refine freeEnds_append (fun x hx => ?_) (fun x hx => ?_) (freeEnds_trim blank m) hne
    · by_cases hq : q₀ = []
      · simp [hq, hnil₀ hq] at hx
      · rw [List.head?_append_of_ne_nil _ hq] at hx
        exact hvisible hq₀ x (List.mem_of_head? hx)
    · by_cases hq : q₁ = []
      · simp [hq, hnil₁ hq] at hx
      · rw [List.getLast?_append_of_ne_nil _ hq] at hx
        exact hvisible hq₁ x (List.mem_of_getLast? hx)
  have hplain : ∀ {w : List α}, (∀ x ∈ w, blank x = true) → ∀ x ∈ w, quote x = false :=
    fun hw x hx => by
      by_contra hquote
      have := hdisjoint x (by simpa using hquote)
      rw [hw x hx] at this
      cases this
  have hmiddle : FreeEnds quote (u' ++ trim blank m ++ v') :=
    freeEnds_append (fun x hx => hplain hu' x (List.mem_of_head? hx))
      (fun x hx => hplain hv' x (List.mem_of_getLast? hx))
      (freeEnds_of_filter (freeEnds_trim blank m) (by rw [filter_trim]; exact hfree)) hne
  have hinner : (q₀ ++ u') ++ trim blank m ++ (v' ++ q₁) =
      q₀ ++ (u' ++ trim blank m ++ v') ++ q₁ := by
    simp only [List.append_assoc]
  rw [unquote_eq, hl, trim_append_append hw₀' hw₁' htrimmed, hinner,
    trim_append_append hq₀ hq₁ hmiddle, List.filter_append, List.filter_append, filter_blank hu',
    filter_blank hv', List.nil_append, List.append_nil, filter_trim]

/-- **Reading again changes nothing** exactly when the quotes around the text are not separated by
blanks. -/
theorem unquote_idempotent_iff (hdisjoint : ∀ x, quote x = true → blank x = false) :
    unquote blank quote (unquote blank quote l) = unquote blank quote l ↔
      ∃ m, Quoted blank quote l m ∧ FreeEnds quote (m.filter fun x => !blank x) := by
  constructor
  · intro h
    rw [unquote_unquote, trim_eq_self_iff, unquote_eq] at h
    obtain ⟨w₀, w₁, hl, hw₀, hw₁⟩ := trim_parts blank l
    obtain ⟨q₀, q₁, htrim, hq₀, hq₁⟩ := trim_parts quote (trim blank l)
    refine ⟨trim quote (trim blank l), ⟨w₀, q₀, q₁, w₁, ?_, hw₀, hq₀, hq₁, hw₁⟩, h⟩
    calc l = w₀ ++ trim blank l ++ w₁ := hl
      _ = w₀ ++ (q₀ ++ trim quote (trim blank l) ++ q₁) ++ w₁ := by rw [← htrim]
      _ = _ := by simp only [List.append_assoc]
  · rintro ⟨m, hquoted, hfree⟩
    rw [unquote_unquote, unquote_of_quoted hdisjoint hquoted hfree, trim_eq_self_iff]
    exact hfree

/-- A text that is read the same again is its visible characters without the quotes around
them. -/
theorem unquote_eq_trim_filter (hdisjoint : ∀ x, quote x = true → blank x = false)
    (h : unquote blank quote (unquote blank quote l) = unquote blank quote l) :
    unquote blank quote l = trim quote (l.filter fun x => !blank x) := by
  have hself : ∀ {q : List α}, (∀ x ∈ q, quote x = true) → q.filter (fun x => !blank x) = q := by
    intro q hq
    rw [List.filter_eq_self]
    intro x hx
    simp [hdisjoint x (hq x hx)]
  obtain ⟨q₀, q₁, htrim, hq₀, hq₁⟩ := trim_parts quote (trim blank l)
  have hfilter : l.filter (fun x => !blank x) = q₀ ++ unquote blank quote l ++ q₁ := by
    rw [← filter_trim, unquote_eq]
    conv_lhs => rw [htrim]
    rw [List.filter_append, List.filter_append, hself hq₀, hself hq₁]
  rw [unquote_unquote, trim_eq_self_iff] at h
  rw [hfilter, trim_append_append hq₀ hq₁ h]

end

end Lib.Text
