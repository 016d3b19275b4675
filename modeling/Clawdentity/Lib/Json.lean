import Mathlib.Data.Rat.Defs
import Mathlib.Data.List.Basic

/-!
# JSON values

JSON trees over any type of strings, so that two languages with different strings
share them. A number is the rational that it denotes. The fields of an object
stand in their order, and no key is meant to occur twice.

## Main definitions

* `Json S` — values whose strings and keys are of type `S`.
* `Json.get?` — a field of an object.
* `Json.depth` — how deep arrays and objects are nested.
* `Json.object` — an object from a list of named fields, some of which are undefined.
* `Json.traverse`, `Json.map` — the same tree over other strings, with partial conversions
  and with total ones.
-/

namespace Lib

universe u

inductive Json (S : Type u)
  | null
  | bool (b : Bool)
  | num (n : ℚ)
  | str (s : S)
  | arr (items : List (Json S))
  | obj (fields : List (S × Json S))

namespace Json
variable {S : Type u}

mutual

/-- The nesting of arrays and objects; a scalar has depth zero. -/
def depth : Json S → ℕ
  | .arr items => depthItems items + 1
  | .obj fields => depthFields fields + 1
  | _ => 0

def depthItems : List (Json S) → ℕ
  | [] => 0
  | v :: rest => max v.depth (depthItems rest)

def depthFields : List (S × Json S) → ℕ
  | [] => 0
  | (_, v) :: rest => max v.depth (depthFields rest)

end

mutual

private def decEqJson [DecidableEq S] : (a b : Json S) → Decidable (a = b)
  | .null, .null => isTrue rfl
  | .bool a, .bool b => decidable_of_iff (a = b) (by simp)
  | .num a, .num b => decidable_of_iff (a = b) (by simp)
  | .str a, .str b => decidable_of_iff (a = b) (by simp)
  | .arr a, .arr b =>
      match decEqItems a b with
      | isTrue h => isTrue (by rw [h])
      | isFalse h => isFalse (by simpa using h)
  | .obj a, .obj b =>
      match decEqFields a b with
      | isTrue h => isTrue (by rw [h])
      | isFalse h => isFalse (by simpa using h)
  | .null, .bool _ | .null, .num _ | .null, .str _ | .null, .arr _ | .null, .obj _
  | .bool _, .null | .bool _, .num _ | .bool _, .str _ | .bool _, .arr _ | .bool _, .obj _
  | .num _, .null | .num _, .bool _ | .num _, .str _ | .num _, .arr _ | .num _, .obj _
  | .str _, .null | .str _, .bool _ | .str _, .num _ | .str _, .arr _ | .str _, .obj _
  | .arr _, .null | .arr _, .bool _ | .arr _, .num _ | .arr _, .str _ | .arr _, .obj _
  | .obj _, .null | .obj _, .bool _ | .obj _, .num _ | .obj _, .str _ | .obj _, .arr _ =>
      isFalse (by simp)

private def decEqItems [DecidableEq S] : (a b : List (Json S)) → Decidable (a = b)
  | [], [] => isTrue rfl
  | [], _ :: _ | _ :: _, [] => isFalse (by simp)
  | v :: a, w :: b =>
      match decEqJson v w, decEqItems a b with
      | isTrue h, isTrue h' => isTrue (by rw [h, h'])
      | isFalse h, _ => isFalse (by simp [h])
      | _, isFalse h => isFalse (by simp [h])

private def decEqFields [DecidableEq S] : (a b : List (S × Json S)) → Decidable (a = b)
  | [], [] => isTrue rfl
  | [], _ :: _ | _ :: _, [] => isFalse (by simp)
  | (k, v) :: a, (l, w) :: b =>
      match decEq k l, decEqJson v w, decEqFields a b with
      | isTrue h, isTrue h', isTrue h'' => isTrue (by rw [h, h', h''])
      | isFalse h, _, _ => isFalse (by simp [h])
      | _, isFalse h, _ => isFalse (by simp [h])
      | _, _, isFalse h => isFalse (by simp [h])

end

instance [DecidableEq S] : DecidableEq (Json S) := decEqJson

/-- The value of a field; `none` for a missing field and outside of objects. -/
def get? [DecidableEq S] (v : Json S) (key : S) : Option (Json S) :=
  match v with
  | .obj fields => fields.lookup key
  | _ => none

/-- The string, if the value is one. -/
def str? : Json S → Option S
  | .str s => some s
  | _ => none

/-- The number, if the value is one. -/
def num? : Json S → Option ℚ
  | .num n => some n
  | _ => none

/-- The integer, if the value is one. -/
def int? (v : Json S) : Option ℤ :=
  v.num?.bind fun n => if n.den = 1 then some n.num else none

/-! ## Objects with optional fields -/

section Object
variable {κ : Type*} [DecidableEq κ] {β : Type*}

/-- The object of the fields that are defined, under the names of their keys. -/
def object (name : κ → S) (fields : List (κ × Option (Json S))) : Json S :=
  .obj (fields.filterMap fun f => f.2.map fun v => (name f.1, v))

/-- The first defined field with the key. -/
def lookupField (key : κ) : List (κ × Option β) → Option β
  | [] => none
  | f :: rest => if f.1 = key then f.2.or (lookupField key rest) else lookupField key rest

@[simp] theorem lookupField_nil (key : κ) : lookupField key ([] : List (κ × Option β)) = none := rfl

@[simp] theorem lookupField_cons (key k : κ) (v : Option β) (rest : List (κ × Option β)) :
    lookupField key ((k, v) :: rest) =
      if k = key then v.or (lookupField key rest) else lookupField key rest := rfl

/-- A field of an object, by its key. -/
theorem get?_object [DecidableEq S] {name : κ → S} (hname : Function.Injective name) (key : κ)
    (fields : List (κ × Option (Json S))) :
    (object name fields).get? (name key) = lookupField key fields := by
  induction fields with
  | nil => rfl
  | cons f rest ih =>
      obtain ⟨k, v⟩ := f
      simp only [object, get?] at ih
      simp only [object, get?, lookupField_cons]
      cases v with
      | none => simp [ih]
      | some v =>
          by_cases hk : k = key
          · subst hk
            simp
          · have hne : (name key == name k) = false := by
              rw [beq_eq_false_iff_ne]
              intro h
              exact hk (hname h).symm
            simp [List.lookup_cons, hne, hk, ih]

omit [DecidableEq κ] in
/-- The keys of an object are names of its fields. -/
theorem mem_keys_object {name : κ → S} {fields : List (κ × Option (Json S))}
    {e : S × Json S} (h : e ∈ fields.filterMap fun f => f.2.map fun v => (name f.1, v)) :
    ∃ f ∈ fields, e.1 = name f.1 := by
  obtain ⟨f, hf, he⟩ := List.mem_filterMap.mp h
  obtain ⟨v, _, rfl⟩ := Option.map_eq_some_iff.mp he
  exact ⟨f, hf, rfl⟩

/-- A defined field is one of the list. -/
theorem mem_of_lookupField {key : κ} {fields : List (κ × Option β)} {v : β}
    (h : lookupField key fields = some v) : (key, some v) ∈ fields := by
  induction fields with
  | nil => cases h
  | cons f rest ih =>
      obtain ⟨k, w⟩ := f
      rw [lookupField_cons] at h
      by_cases hk : k = key
      · rw [if_pos hk] at h
        cases w with
        | none => exact List.mem_cons_of_mem _ (ih h)
        | some w =>
            cases h
            rw [hk]
            exact List.mem_cons_self
      · rw [if_neg hk] at h
        exact List.mem_cons_of_mem _ (ih h)

end Object

/-! ## Conversions -/

section Traverse
variable {T : Type*} (str : S → Option T) (num : ℚ → Option ℚ)

mutual

/-- Convert every string and number; `none` where one of them cannot be converted. -/
def traverse : Json S → Option (Json T)
  | .null => some .null
  | .bool b => some (.bool b)
  | .num n => (num n).map .num
  | .str s => (str s).map .str
  | .arr items => (traverseItems items).map .arr
  | .obj fields => (traverseFields fields).map .obj

def traverseItems : List (Json S) → Option (List (Json T))
  | [] => some []
  | v :: rest => (traverse v).bind fun w => (traverseItems rest).map (w :: ·)

def traverseFields : List (S × Json S) → Option (List (T × Json T))
  | [] => some []
  | (k, v) :: rest =>
      (str k).bind fun l => (traverse v).bind fun w => (traverseFields rest).map ((l, w) :: ·)

end

end Traverse

section Map
variable {T : Type*} (str : S → T) (num : ℚ → ℚ)

mutual

/-- Convert every string and number. -/
def map : Json S → Json T
  | .null => .null
  | .bool b => .bool b
  | .num n => .num (num n)
  | .str s => .str (str s)
  | .arr items => .arr (mapItems items)
  | .obj fields => .obj (mapFields fields)

def mapItems : List (Json S) → List (Json T)
  | [] => []
  | v :: rest => map v :: mapItems rest

def mapFields : List (S × Json S) → List (T × Json T)
  | [] => []
  | (k, v) :: rest => (str k, map v) :: mapFields rest

end

end Map

section
variable {T : Type*} {str : S → Option T} {num : ℚ → Option ℚ} {κ : Type*} {name : κ → S}
  {name' : κ → T}

/-- An object is converted where all its defined fields are. -/
theorem traverse_object_isSome (hname : ∀ k, str (name k) = some (name' k))
    (fields : List (κ × Option (Json S))) :
    ((object name fields).traverse str num).isSome = true ↔
      ∀ f ∈ fields, ∀ v, f.2 = some v → (v.traverse str num).isSome = true := by
  simp only [object, traverse, Option.isSome_map]
  induction fields with
  | nil => simp [traverseFields]
  | cons f rest ih =>
      obtain ⟨k, v⟩ := f
      cases v with
      | none => simpa using ih
      | some v =>
          cases hv : v.traverse str num with
          | none => simp [traverseFields, hname, hv]
          | some u => simpa [traverseFields, hname, hv] using ih

/-- A field of a converted object. -/
theorem get?_traverse_object [DecidableEq κ] [DecidableEq T]
    (hname : ∀ k, str (name k) = some (name' k)) (hinj : Function.Injective name') (key : κ)
    {fields : List (κ × Option (Json S))} {w : Json T}
    (h : (object name fields).traverse str num = some w) :
    w.get? (name' key) = (lookupField key fields).bind fun v => v.traverse str num := by
  obtain ⟨entries, hentries, rfl⟩ := Option.map_eq_some_iff.mp h
  simp only [get?]
  clear h
  induction fields generalizing entries with
  | nil =>
      cases hentries
      rfl
  | cons f rest ih =>
      obtain ⟨k, v⟩ := f
      rw [lookupField_cons]
      cases v with
      | none =>
          have hrest := ih entries (by simpa using hentries)
          rw [hrest]
          by_cases hk : k = key <;> simp [hk]
      | some v =>
          simp only [List.filterMap_cons, Option.map_some, traverseFields, hname,
            Option.bind_some, Option.bind_eq_some_iff, Option.map_eq_some_iff] at hentries
          obtain ⟨u, hu, entries', hentries', rfl⟩ := hentries
          by_cases hk : k = key
          · subst hk
            simp [hu]
          · have hne : (name' key == name' k) = false := by
              rw [beq_eq_false_iff_ne]
              intro heq
              exact hk (hinj heq).symm
            rw [List.lookup_cons, hne, if_neg hk]
            exact ih entries' hentries'

/-- A field of a converted value, under a key that no other key is converted to. -/
theorem get?_traverse [DecidableEq S] [DecidableEq T] {key : S} {key' : T}
    (hkey : str key = some key') (hinj : ∀ k, str k = some key' → k = key) {v : Json S}
    {w : Json T} (h : v.traverse str num = some w) :
    w.get? key' = (v.get? key).bind fun u => u.traverse str num := by
  cases v with
  | obj fields =>
      obtain ⟨entries, hentries, rfl⟩ := Option.map_eq_some_iff.mp h
      simp only [get?]
      clear h
      induction fields generalizing entries with
      | nil =>
          cases hentries
          rfl
      | cons f rest ih =>
          obtain ⟨k, v⟩ := f
          simp only [traverseFields, Option.bind_eq_some_iff, Option.map_eq_some_iff] at hentries
          obtain ⟨l, hl, u, hu, entries', hentries', rfl⟩ := hentries
          by_cases hk : key = k
          · subst hk
            obtain rfl : key' = l := Option.some.inj (hkey.symm.trans hl)
            simp [hu]
          · have hne : key' ≠ l := fun heq => hk (hinj k (heq ▸ hl)).symm
            rw [List.lookup_cons, List.lookup_cons, beq_eq_false_iff_ne.mpr hne,
              beq_eq_false_iff_ne.mpr hk]
            exact ih entries' hentries'
  | null | bool | num | str | arr =>
      simp only [traverse, Option.map_eq_some_iff, Option.some.injEq] at h
      first
        | (subst h; rfl)
        | (obtain ⟨_, _, rfl⟩ := h; rfl)

theorem depth_object_le {n : ℕ} (fields : List (κ × Option (Json S))) :
    (object name fields).depth ≤ n + 1 ↔ ∀ f ∈ fields, ∀ v, f.2 = some v → v.depth ≤ n := by
  simp only [object, depth, Nat.add_le_add_iff_right]
  induction fields with
  | nil => simp [depthFields]
  | cons f rest ih =>
      obtain ⟨k, v⟩ := f
      cases v with
      | none => simpa using ih
      | some v =>
          simp only [List.filterMap_cons, Option.map_some, depthFields, Nat.max_le, ih,
            List.forall_mem_cons, Option.some.injEq, forall_eq']

end

end Json
end Lib
