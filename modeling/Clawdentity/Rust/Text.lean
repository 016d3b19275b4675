import Clawdentity.Js.Text

/-!
# Rust strings

A Rust string is a list of Unicode scalar values. A JavaScript string that crosses
over to Rust is decoded from UTF-16; one with a lone surrogate has no counterpart.
The two languages trim different characters: Rust has `U+0085` among its white
space, and JavaScript has `U+FEFF`.
-/

namespace Clawdentity.Rust

open Js Lib

/-- `String` and `&str`. -/
abbrev RString := List Char

instance : LawfulBEq RString := inferInstance

/-- A string literal of ASCII characters. -/
def rs (s : String) : RString := (js s).map Utf16.ofUnit

/-- `char::is_whitespace`: the Unicode property `White_Space`. -/
def isWhitespace (c : Char) : Bool :=
  let n := c.toNat
  (0x09 ≤ n && n ≤ 0x0D) || n == 0x20 || n == 0x85 || n == 0xA0 || n == 0x1680 ||
    (0x2000 ≤ n && n ≤ 0x200A) || n == 0x2028 || n == 0x2029 || n == 0x202F || n == 0x205F ||
    n == 0x3000

/-- `str::trim`. -/
def trim (s : RString) : RString := Text.trim isWhitespace s

theorem trim_trim (s : RString) : trim (trim s) = trim s := Text.trim_trim s

/-- A text with a visible character is not blank. -/
theorem trim_isEmpty_of_mem {s : RString} {c : Char} (hmem : c ∈ s)
    (hvisible : isWhitespace c = false) : (trim s).isEmpty = false := by
  rw [Bool.eq_false_iff]
  intro hempty
  have hblank := Text.trim_eq_nil_iff.mp (List.isEmpty_iff.mp hempty) c hmem
  rw [hvisible] at hblank
  cases hblank

def isAsciiLowercase (c : Char) : Bool := 0x61 ≤ c.toNat && c.toNat ≤ 0x7A

def isAsciiDigit (c : Char) : Bool := 0x30 ≤ c.toNat && c.toNat ≤ 0x39

/-- `char::to_ascii_lowercase`. -/
def toAsciiLowercase (c : Char) : Char :=
  if 0x41 ≤ c.toNat && c.toNat ≤ 0x5A then Char.ofNat (c.toNat + 0x20) else c

/-- A JavaScript string as Rust reads it from JSON; `none` at a lone surrogate, where
`serde_json` answers an error. -/
def ofJs (s : JsString) : Option RString := Utf16.decode s

/-- A Rust string as JavaScript reads it from JSON. -/
def toJs (s : RString) : JsString := Utf16.encode s

@[simp] theorem ofJs_toJs (s : RString) : ofJs (toJs s) = some s := Utf16.decode_encode s

/-- **A text of Rust is the string that was read.** -/
theorem ofJs_eq_some {s : JsString} {r : RString} : ofJs s = some r ↔ s = toJs r := by
  constructor
  · intro h
    exact (Utf16.encode_of_decode h).symm
  · rintro rfl
    exact ofJs_toJs r

/-- A text of visible characters is the same in both languages. -/
theorem ofJs_graphic {s : JsString} (h : IsGraphic s) : ofJs s = some (s.map Utf16.ofUnit) := by
  refine Utf16.decode_of_basic ?_
  intro u hu
  have hrange := h u hu
  omega

theorem toJs_graphic {s : JsString} (h : IsGraphic s) : toJs (s.map Utf16.ofUnit) = s := by
  refine Utf16.encode_map_ofUnit ?_
  intro u hu
  have hrange := h u hu
  omega

theorem trim_graphic {s : JsString} (h : IsGraphic s) :
    trim (s.map Utf16.ofUnit) = s.map Utf16.ofUnit := by
  refine Text.trim_eq_self ?_
  intro c hc
  obtain ⟨u, hu, rfl⟩ := List.mem_map.mp hc
  have hrange := h u hu
  simp only [isWhitespace, Utf16.ofUnit_toNat (by omega : u.toNat < 0xD800)]
  simp
  omega

theorem js_lt {u : UInt16} {s : String} (h : u ∈ js s) : u.toNat < 0x100 := by
  obtain ⟨b, _, rfl⟩ := List.mem_map.mp h
  have := b.toNat_lt
  simpa using this

theorem ofJs_js (s : String) : ofJs (js s) = some (rs s) := by
  refine Utf16.decode_of_basic fun u hu => ?_
  have := js_lt hu
  omega

/-- Where JavaScript splits at an ASCII character, Rust splits at the same one. -/
theorem splitOn_toJs {u : UInt16} (hu : u.toNat < 0x80) (s : RString) :
    (toJs s).splitOn u = (s.splitOn (Utf16.ofUnit u)).map toJs := by
  have hunit := Utf16.ofUnit_toNat (by omega : u.toNat < 0xD800)
  refine Text.splitOn_flatMap ?_ ?_ s
  · rw [Utf16.encodeChar, hunit, if_pos (by omega), UInt16.ofNat_toNat]
  · intro c hc hmem
    have hnat := Utf16.toNat_of_mem_encodeChar hu hmem
    exact hc (Char.toNat_inj.mp (hnat.trans hunit.symm))

theorem toJs_rs (s : String) : toJs (rs s) = js s := by
  refine Utf16.encode_map_ofUnit ?_
  intro u hu
  have := js_lt hu
  omega

/-- A text without surrogates is written the same in both languages. -/
theorem eq_map_of_basic {s : RString} (h : ∀ u ∈ toJs s, u.toNat < 0xD800) :
    s = (toJs s).map Utf16.ofUnit := by
  have hsame := Utf16.decode_of_basic h
  rw [toJs, Utf16.decode_encode] at hsame
  exact Option.some.inj hsame

theorem map_ofUnit_inj {a b : JsString} (ha : ∀ u ∈ a, u.toNat < 0xD800)
    (hb : ∀ u ∈ b, u.toNat < 0xD800) (h : a.map Utf16.ofUnit = b.map Utf16.ofUnit) : a = b := by
  induction a generalizing b with
  | nil =>
      have hnil := List.map_eq_nil_iff.mp h.symm
      exact hnil.symm
  | cons u a ih =>
      cases b with
      | nil => cases h
      | cons v b =>
          obtain ⟨hhead, htail⟩ := List.cons.inj h
          have huv := Utf16.ofUnit_inj (ha u List.mem_cons_self) (hb v List.mem_cons_self) hhead
          rw [huv, ih (fun x hx => ha x (List.mem_cons_of_mem u hx))
            (fun x hx => hb x (List.mem_cons_of_mem v hx)) htail]

theorem rs_injective : Function.Injective rs := by
  intro a b h
  refine js_injective (map_ofUnit_inj ?_ ?_ h)
  · intro u hu
    have := js_lt hu
    omega
  · intro u hu
    have := js_lt hu
    omega

@[simp] theorem rs_eq_rs {a b : String} : rs a = rs b ↔ a = b := rs_injective.eq_iff

end Clawdentity.Rust
