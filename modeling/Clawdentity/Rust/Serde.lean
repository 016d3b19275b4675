import Clawdentity.Js.Value
import Clawdentity.Rust.Text

/-!
# JSON between the two languages

`serde_json` reads the text that `JSON.stringify` writes. The tree is the same, but
a string with a lone surrogate and a tree that is nested too deep are errors, and a
number is what the crate makes of its decimal digits. These limits belong to the
crate and are parameters.

## Main definitions

* `Serde` — the limits of the crate.
* `Serde.read` — the value that Rust reads from a value of JavaScript.
* `getString`, `getOptString`, `getBool`, `getI64` — typed fields.
-/

namespace Clawdentity.Rust

open Js Lib

/-- `serde_json::Value`. -/
abbrev RValue := Json RString

/-- What `serde_json` does with numbers and deep trees. -/
structure Serde where
  /-- The number that is read from the digits that JavaScript writes. -/
  number : ℚ → Option ℚ
  /-- How deep arrays and objects may be nested. -/
  maxDepth : ℕ

/-- `serde_json::from_str` on the text of a value of JavaScript. -/
def Serde.read (serde : Serde) (v : Value) : Option RValue :=
  if v.depth ≤ serde.maxDepth then v.traverse ofJs serde.number else none

/-- The same value, with all its numbers as they are. -/
def sameValue (v : Value) : Option RValue := v.traverse ofJs some

/-- `JSON.parse` on the text of a value of Rust; the numbers are those that JavaScript makes
of their digits. -/
def toJsValue (number : ℚ → ℚ) (v : RValue) : Value := v.map toJs number

/-- An optional string as Rust reads it. -/
def ofJsOpt : Option JsString → Option (Option RString)
  | none => some none
  | some s => (ofJs s).map some

/-- The limits of the crate on the examples: numbers as they are, and 127 levels. -/
def exampleSerde : Serde := ⟨some, 127⟩

/-! ## Typed fields -/

/-- A field of type `String`. -/
def getString (v : RValue) (key : String) : Option RString := (v.get? (rs key)).bind Json.str?

/-- A field of type `Option<String>`: missing and null are `None`. -/
def getOptString (v : RValue) (key : String) : Option (Option RString) :=
  match v.get? (rs key) with
  | none => some none
  | some .null => some none
  | some w => w.str?.map some

/-- A field of type `bool`. -/
def getBool (v : RValue) (key : String) : Option Bool :=
  match v.get? (rs key) with
  | some (.bool b) => some b
  | _ => none

/-- A field of type `i64`. -/
def getI64 (v : RValue) (key : String) : Option ℤ :=
  ((v.get? (rs key)).bind Json.int?).filter fun n => decide (-2 ^ 63 ≤ n ∧ n < 2 ^ 63)

/-! ## Reading an object -/

section
variable {serde : Serde} {fields : List (String × Option Value)} {w : RValue} {key : String}

/-- What a field of an object is read as. -/
theorem get?_read (h : (object fields).traverse ofJs serde.number = some w) (key : String) :
    w.get? (rs key) = (Json.lookupField key fields).bind fun v => v.traverse ofJs serde.number :=
  Json.get?_traverse_object ofJs_js rs_injective key h

theorem getString_read (h : (object fields).traverse ofJs serde.number = some w) {s : JsString}
    (hfield : Json.lookupField key fields = some (.str s)) : getString w key = ofJs s := by
  rw [getString, get?_read h, hfield]
  cases hs : ofJs s <;> simp [Json.traverse, hs, Json.str?]

/-- A string that stands in an object that was read has been decoded. -/
theorem ofJs_of_read (h : (object fields).traverse ofJs serde.number = some w) {s : JsString}
    (hfield : Json.lookupField key fields = some (.str s)) : ∃ r, ofJs s = some r := by
  have hall := (Json.traverse_object_isSome ofJs_js fields).mp (Option.isSome_of_eq_some h)
  have hs := hall _ (Json.mem_of_lookupField hfield) (.str s) rfl
  exact Option.isSome_iff_exists.mp (by simpa [Json.traverse] using hs)

theorem getOptString_read (h : (object fields).traverse ofJs serde.number = some w)
    {s : Option JsString} (hfield : Json.lookupField key fields = s.map .str) :
    getOptString w key = ofJsOpt s := by
  cases s with
  | none =>
      have hget : w.get? (rs key) = none := by rw [get?_read h, hfield]; rfl
      simp [getOptString, hget, ofJsOpt]
  | some t =>
      obtain ⟨r, hr⟩ := ofJs_of_read h hfield
      have hget : w.get? (rs key) = some (.str r) := by
        rw [get?_read h, hfield]
        simp [Json.traverse, hr]
      simp [getOptString, hget, ofJsOpt, hr, Json.str?]

theorem getBool_read (h : (object fields).traverse ofJs serde.number = some w) {b : Bool}
    (hfield : Json.lookupField key fields = some (.bool b)) : getBool w key = some b := by
  simp [getBool, get?_read h, hfield, Json.traverse]

theorem getI64_read (h : (object fields).traverse ofJs serde.number = some w) {n : ℚ}
    (hfield : Json.lookupField key fields = some (.num n)) :
    getI64 w key = ((serde.number n).bind fun m => (Json.num m : RValue).int?).filter
      fun n => decide (-2 ^ 63 ≤ n ∧ n < 2 ^ 63) := by
  rw [getI64, get?_read h, hfield]
  cases hn : serde.number n <;> simp [Json.traverse, hn]

end

/-! ## Reading any value -/

/-- A string field of a value that was read is the field of JavaScript. -/
theorem getString_of_read {serde : Serde} {v : Value} {w : RValue} (h : serde.read v = some w)
    {key : String} {r : RString} :
    getString w key = some r ↔ getStr v key = some (toJs r) := by
  have htraverse : v.traverse ofJs serde.number = some w := by
    unfold Serde.read at h
    split at h
    · exact h
    · cases h
  have hkey : ∀ k, ofJs k = some (rs key) → k = js key := by
    intro k hk
    rw [ofJs_eq_some.mp hk, toJs_rs]
  rw [getString, Json.get?_traverse (ofJs_js key) hkey htraverse, getStr]
  cases v.get? (js key) with
  | none => simp
  | some u =>
      cases u with
      | str s => simp [Json.traverse, Json.str?, Option.bind_eq_some_iff, ofJs_eq_some]
      | null | bool | num | arr | obj => simp [Json.traverse, Json.str?, Option.bind_eq_some_iff]

end Clawdentity.Rust
