import Mathlib.Data.List.Nodup
import Mathlib.Data.List.Perm.Subperm

/-!
# What is in one hand at a time

Things that have a key are handed on from one holder to the next. The holdings are a list without
two of one key; a step replaces one of them by another with its key, and may drop some.

## Main definitions

* `Distinct` — no key is held twice.
* `Distinct.replace` — a holding is handed on.
* `exists_others`, `exists_flatMap_others` — the holdings of pieces of code, when one of them goes
  on.
-/

namespace Lib.Custody

variable {α β κ : Type} {key : α → κ} {before after rest : List α} {x x' y : α}

/-- No key is held twice. -/
def Distinct (key : α → κ) (held : List α) : Prop := (held.map key).Nodup

theorem Distinct.subperm (h : Distinct key before) (hsub : after.Subperm before) :
    Distinct key after := by
  obtain ⟨l, hperm, hsublist⟩ := hsub
  exact (hperm.map key).nodup_iff.mp (h.sublist (hsublist.map key))

theorem Distinct.eq (h : Distinct key before) (hx : x ∈ before) (hy : y ∈ before)
    (hkey : key x = key y) : x = y :=
  List.inj_on_of_nodup_map h hx hy hkey

/-- A thing that nobody holds is taken in hand. -/
theorem Distinct.concat (h : Distinct key before) (hnew : ∀ y ∈ before, key y ≠ key x) :
    Distinct key (x :: before) := by
  refine List.nodup_cons.mpr ⟨?_, h⟩
  intro hmem
  obtain ⟨y, hy, heq⟩ := List.mem_map.mp hmem
  exact hnew y hy heq

/-- **A holding is handed on.** Every other that is left was there before, and has another key. -/
theorem Distinct.replace (h : Distinct key before) (hbefore : before.Perm (x :: rest))
    (hafter : after.Subperm (x' :: rest)) (hkey : key x' = key x) :
    Distinct key after ∧ ∀ y ∈ after, y = x' ∨ y ∈ before ∧ key y ≠ key x := by
  have hsplit : Distinct key (x :: rest) := h.subperm hbefore.symm.subperm
  obtain ⟨hx, _⟩ := List.nodup_cons.mp hsplit
  have hrenamed : Distinct key (x' :: rest) := by
    rw [Distinct, List.map_cons, hkey]
    exact hsplit
  refine ⟨hrenamed.subperm hafter, ?_⟩
  intro y hy
  rcases List.mem_cons.mp (hafter.subset hy) with heq | hrest
  · exact .inl heq
  · refine .inr ⟨hbefore.mem_iff.mpr (List.mem_cons_of_mem x hrest), ?_⟩
    intro hsame
    exact hx (hsame ▸ List.mem_map_of_mem hrest)

/-! ## Pieces of code with their tags -/

theorem set_zip {calls : List α} {tags : List β} {i : ℕ} {c : α} {t : β} (ht : tags[i]? = some t) :
    (calls.set i c).zip tags = (calls.zip tags).set i (c, t) := by
  induction calls generalizing tags i with
  | nil => rfl
  | cons call calls ih =>
      cases tags with
      | nil => cases ht
      | cons tag tags =>
          cases i with
          | zero =>
              cases ht
              rfl
          | succ i => exact congrArg ((call, tag) :: ·) (ih ht)

/-- The others stay as they are when one of the pieces goes on. -/
theorem exists_others {calls : List α} {tags : List β} {i : ℕ} {c : α} {t : β}
    (hc : calls[i]? = some c) (ht : tags[i]? = some t) :
    ∃ others, (calls.zip tags).Perm ((c, t) :: others) ∧
      ∀ c', ((calls.set i c').zip tags).Perm ((c', t) :: others) := by
  have hzip : (calls.zip tags)[i]? = some (c, t) := List.getElem?_zip_eq_some.mpr ⟨hc, ht⟩
  obtain ⟨hi, hget⟩ := List.getElem?_eq_some_iff.mp hzip
  refine ⟨(calls.zip tags).eraseIdx i, ?_, fun c' => ?_⟩
  · have hperm := List.getElem_cons_eraseIdx_perm hi
    rw [hget] at hperm
    exact hperm.symm
  · rw [set_zip ht]
    exact List.set_perm_cons_eraseIdx hi (c', t)

/-- What the pieces of code hold together, when one of them goes on. -/
theorem exists_flatMap_others (f : α → List β) {calls : List α} {i : ℕ} {c : α}
    (hc : calls[i]? = some c) :
    ∃ others, (calls.flatMap f).Perm (f c ++ others) ∧
      ∀ c', ((calls.set i c').flatMap f).Perm (f c' ++ others) := by
  obtain ⟨hi, hget⟩ := List.getElem?_eq_some_iff.mp hc
  refine ⟨(calls.eraseIdx i).flatMap f, ?_, fun c' => ?_⟩
  · have hperm := (List.getElem_cons_eraseIdx_perm hi).flatMap_right f
    rw [hget] at hperm
    exact hperm.symm
  · exact (List.set_perm_cons_eraseIdx hi c').flatMap_right f

end Lib.Custody
