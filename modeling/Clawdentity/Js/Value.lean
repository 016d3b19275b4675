import Clawdentity.Js.Text
import Clawdentity.Lib.Json

/-!
# JavaScript values

Values that pass through `JSON.stringify`, `JSON.parse` or structured storage are
JSON trees over JavaScript strings. An undefined value is `none`; objects are
written with `object`, which leaves undefined fields out.
-/

namespace Clawdentity.Js

open Lib

/-- A value other than `undefined`. -/
abbrev Value := Json JsString

/-- An object literal, without its undefined fields. -/
def object (fields : List (String × Option Value)) : Value := Json.object js fields

@[simp] theorem get?_object (key : String) (fields : List (String × Option Value)) :
    (object fields).get? (js key) = Json.lookupField key fields :=
  Json.get?_object js_injective key fields

/-- A field that must be a string. -/
def getStr (v : Value) (key : String) : Option JsString := (v.get? (js key)).bind Json.str?

/-- A field that may be undefined: `none` where it is neither undefined nor a string. -/
def getOptStr (v : Value) (key : String) : Option (Option JsString) :=
  match v.get? (js key) with
  | none => some none
  | some w => w.str?.map some

/-- A field that must be a boolean. -/
def getBool (v : Value) (key : String) : Option Bool :=
  match v.get? (js key) with
  | some (.bool b) => some b
  | _ => none

/-- A field that must be a number. -/
def getNum (v : Value) (key : String) : Option ℚ := (v.get? (js key)).bind Json.num?

section
variable {fields : List (String × Option Value)} {key : String}

theorem getStr_object {s : JsString} (h : Json.lookupField key fields = some (.str s)) :
    getStr (object fields) key = some s := by
  simp [getStr, h, Json.str?]

theorem getOptStr_object {s : Option JsString}
    (h : Json.lookupField key fields = s.map .str) :
    getOptStr (object fields) key = some s := by
  cases s with
  | none => simp [getOptStr, h]
  | some s => simp [getOptStr, h, Json.str?]

theorem getNum_object {n : ℚ} (h : Json.lookupField key fields = some (.num n)) :
    getNum (object fields) key = some n := by
  simp [getNum, h, Json.num?]

end

/-- The value is an object whose keys are all in the list. -/
def strictKeys (v : Value) (keys : List String) : Bool :=
  match v with
  | .obj fields => fields.all fun f => f.1 ∈ keys.map js
  | _ => false

theorem strictKeys_object {fields : List (String × Option Value)} {keys : List String}
    (h : ∀ f ∈ fields, f.1 ∈ keys) : strictKeys (object fields) keys = true := by
  simp only [strictKeys, object, Json.object, List.all_eq_true, decide_eq_true_eq]
  intro e he
  obtain ⟨f, hf, hname⟩ := Json.mem_keys_object he
  rw [hname]
  exact List.mem_map_of_mem (h f hf)

end Clawdentity.Js
