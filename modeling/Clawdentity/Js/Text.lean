import Clawdentity.Lib.Text
import Clawdentity.Lib.Utf16
import Mathlib.Algebra.Group.Int.Defs
import Mathlib.Algebra.Group.Nat.Defs

/-!
# JavaScript strings

A string is a list of UTF-16 code units, as the language has it. The functions
here are those of the standard library that the TypeScript packages call.
-/

namespace Clawdentity.Js

/-- A string: any list of UTF-16 code units, lone surrogates included. -/
abbrev JsString := List UInt16

instance : LawfulBEq JsString := inferInstance

/-- A string literal of ASCII characters, whose bytes are its code units. -/
def js (s : String) : JsString := s.toByteArray.data.toList.map UInt8.toUInt16

theorem js_injective : Function.Injective js := by
  intro a b h
  have hbytes : a.toByteArray.data.toList = b.toByteArray.data.toList := by
    refine List.map_injective_iff.mpr ?_ h
    intro x y hxy
    have := congrArg UInt16.toNat hxy
    simpa [UInt8.toNat_inj] using this
  have harr : a.toByteArray = b.toByteArray := by
    cases ha : a.toByteArray
    cases hb : b.toByteArray
    simpa [ha, hb] using hbytes
  exact String.toByteArray_inj.mp harr

/-- A property of every unit, from the run of the check over the list. -/
theorem forall_mem_of_all {s : JsString} {p : UInt16 → Prop} [DecidablePred p]
    (h : s.all (fun u => decide (p u)) = true) : ∀ u ∈ s, p u :=
  fun u hu => of_decide_eq_true (List.all_eq_true.mp h u hu)

@[simp] theorem js_eq_js {a b : String} : js a = js b ↔ a = b := js_injective.eq_iff

/-- ECMAScript `WhiteSpace` and `LineTerminator`, which `trim` strips. It has the
byte order mark `U+FEFF`, and it does not have `U+0085`. -/
def isWhiteSpace (u : UInt16) : Bool :=
  let n := u.toNat
  (0x09 ≤ n && n ≤ 0x0D) || n == 0x20 || n == 0xA0 || n == 0x1680 ||
    (0x2000 ≤ n && n ≤ 0x200A) || n == 0x2028 || n == 0x2029 || n == 0x202F ||
    n == 0x205F || n == 0x3000 || n == 0xFEFF

/-- `String.prototype.trim`. -/
def trim (s : JsString) : JsString := Lib.Text.trim isWhiteSpace s

/-- `value.trim().length > 0`, the check written `isNonEmptyString` in several files. -/
def isNonEmptyString (s : JsString) : Bool := !(trim s).isEmpty

@[simp] theorem trim_trim (s : JsString) : trim (trim s) = trim s := Lib.Text.trim_trim s

/-- Every unit is a visible character of ASCII. -/
def IsGraphic (s : JsString) : Prop := ∀ u ∈ s, 0x20 < u.toNat ∧ u.toNat < 0x7F

theorem IsGraphic.trim_eq {s : JsString} (h : IsGraphic s) : trim s = s := by
  refine Lib.Text.trim_eq_self ?_
  intro u hu
  have hrange := h u hu
  simp only [isWhiteSpace]
  simp
  omega

/-- An ASCII decimal digit, the regular expression class `\d`. -/
def isDigit (u : UInt16) : Bool := 0x30 ≤ u.toNat && u.toNat ≤ 0x39

/-- The decimal value of a list of digits. -/
def digitsToNat (s : JsString) : ℕ := s.foldl (fun n u => 10 * n + (u.toNat - 0x30)) 0

/-- The characters `encodeURIComponent` leaves as they are. -/
def isUriUnreserved (c : Char) : Bool :=
  c.isAlphanum || c ∈ ['-', '_', '.', '!', '~', '*', Char.ofNat 0x27, '(', ')']

/-- An upper-case hexadecimal digit. -/
def hexDigit (n : ℕ) : Char := if n < 10 then Char.ofNat (0x30 + n) else Char.ofNat (0x37 + n)

/-- The percent escape of one byte. -/
def percentByte (b : UInt8) : List Char := ['%', hexDigit (b.toNat / 16), hexDigit (b.toNat % 16)]

/-- `encodeURIComponent`; `none` where it throws `URIError`, at a lone surrogate. -/
def encodeURIComponent (s : JsString) : Option JsString :=
  (Lib.Utf16.decode s).map fun cs => Lib.Utf16.encode <| cs.flatMap fun c =>
    if isUriUnreserved c then [c] else (String.utf8EncodeChar c).flatMap percentByte

end Clawdentity.Js
