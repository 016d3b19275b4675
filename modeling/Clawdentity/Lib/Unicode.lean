import Clawdentity.Lib.Utf16

/-!
# Letter case

Languages take the upper case of a text from the same table of the Unicode standard, which maps
a character to one or more characters. JavaScript applies it to the code points of a string, and
so keeps a lone surrogate as it is.

## Main definitions

* `UppercaseMapping` — the table.
* `UppercaseMapping.text`, `UppercaseMapping.units` — the upper case of a text and of any list of
  code units.
-/

namespace Lib

open Utf16

/-- `Uppercase_Mapping` of every character, special casing included. -/
structure UppercaseMapping where
  upper : Char → List Char
  /-- No letter has a line feed in its upper case. -/
  lineFeed : ∀ c, '\n' ∈ upper c → c = '\n'

namespace UppercaseMapping
variable (unicode : UppercaseMapping)

/-- The upper case of a text. -/
def text (cs : List Char) : List Char := cs.flatMap unicode.upper

/-- The upper case of a code point. -/
def codePoint : UInt16 ⊕ Char → List UInt16
  | .inl u => [u]
  | .inr c => encode (unicode.upper c)

/-- The upper case of any list of code units. -/
def units (us : List UInt16) : List UInt16 := (codePoints us).flatMap unicode.codePoint

/-- On a well-formed text the two are the same. -/
theorem units_encode (cs : List Char) : unicode.units (encode cs) = encode (unicode.text cs) := by
  rw [units, codePoints_encode, text]
  induction cs with
  | nil => rfl
  | cons c cs ih =>
      rw [List.map_cons, List.flatMap_cons, List.flatMap_cons, encode_append, ih]
      rfl

theorem lineFeed_of_mem_text {cs : List Char} (h : '\n' ∈ unicode.text cs) : '\n' ∈ cs := by
  obtain ⟨c, hc, hmem⟩ := List.mem_flatMap.mp h
  exact unicode.lineFeed c hmem ▸ hc

theorem lineFeed_of_mem_units {us : List UInt16} (h : toUnit '\n' ∈ unicode.units us) :
    toUnit '\n' ∈ us := by
  obtain ⟨point, hpoint, hmem⟩ := List.mem_flatMap.mp h
  cases point with
  | inl u =>
      have hu := isSurrogate_of_mem_codePoints hpoint
      rw [← List.mem_singleton.mp hmem] at hu
      exact absurd hu (by decide)
  | inr c =>
      obtain ⟨d, hd, hunit⟩ := List.mem_flatMap.mp hmem
      have hnat := toNat_of_mem_encodeChar (by decide) hunit
      have hline : d = '\n' := Char.toNat_inj.mp hnat
      rw [unicode.lineFeed c (hline ▸ hd)] at hpoint
      exact mem_of_mem_codePoints (by decide) hpoint

end UppercaseMapping

end Lib
