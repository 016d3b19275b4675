import Clawdentity.Js.Text
import Clawdentity.Lib.Bytes

/-!
# Texts in a URI

What `encodeURIComponent` writes can be read back: every character stands for itself or for its
bytes in UTF-8, two hexadecimal digits each.

## Main definitions

* `percentDecode` — the bytes that are read.
* `encodeURIComponent_inj` — two texts are not written alike.
-/

namespace Clawdentity.Js

open Lib

/-- What `encodeURIComponent` writes for a character. -/
def uriChar (c : Char) : List Char :=
  if isUriUnreserved c then [c] else (String.utf8EncodeChar c).flatMap percentByte

theorem encodeURIComponent_eq (s : JsString) :
    encodeURIComponent s = (Utf16.decode s).map fun cs => Utf16.encode (cs.flatMap uriChar) := rfl

/-! ## Reading back -/

/-- The value of an upper-case hexadecimal digit. -/
def hexValue (c : Char) : ℕ := if c.toNat ≤ 0x39 then c.toNat - 0x30 else c.toNat - 0x37

theorem hexValue_hexDigit {n : ℕ} (h : n < 16) : hexValue (hexDigit n) = n := by
  have hall : ∀ n : Fin 16, hexValue (hexDigit n) = n.val := by decide
  exact hall ⟨n, h⟩

/-- The bytes of a text with percent escapes. -/
def percentDecode : List Char → List UInt8
  | '%' :: high :: low :: rest =>
      UInt8.ofNat (16 * hexValue high + hexValue low) :: percentDecode rest
  | c :: rest => UInt8.ofNat c.toNat :: percentDecode rest
  | [] => []

theorem percentDecode_percentByte (b : UInt8) (rest : List Char) :
    percentDecode (percentByte b ++ rest) = b :: percentDecode rest := by
  have hb := b.toNat_lt
  have hvalue : 16 * (b.toNat / 16) + b.toNat % 16 = b.toNat := by omega
  simp only [percentByte, List.cons_append, List.nil_append, percentDecode,
    hexValue_hexDigit (show b.toNat / 16 < 16 by omega),
    hexValue_hexDigit (show b.toNat % 16 < 16 by omega), hvalue, UInt8.ofNat_toNat]

theorem percentDecode_flatMap (bytes : List UInt8) (rest : List Char) :
    percentDecode (bytes.flatMap percentByte ++ rest) = bytes ++ percentDecode rest := by
  induction bytes with
  | nil => rfl
  | cons b bytes ih =>
      rw [List.flatMap_cons, List.append_assoc, percentDecode_percentByte, ih, List.cons_append]

/-- The characters that stand for themselves are ASCII, and no percent sign or bar is one. -/
theorem isUriUnreserved_range {c : Char} (h : isUriUnreserved c = true) :
    c.toNat < 0x80 ∧ c ≠ '%' ∧ c ≠ '|' := by
  have hcase : ∀ d : Char, c = d → c.toNat = d.toNat := fun d hd => by rw [hd]
  have halphanum : c.isAlphanum = (decide (c.val ≥ 65 ∧ c.val ≤ 90) ||
      (c.val ≥ 97 && c.val ≤ 122) || (c.val ≥ 48 && c.val ≤ 57)) := rfl
  simp only [isUriUnreserved, halphanum, Bool.or_eq_true, Bool.and_eq_true, decide_eq_true_eq,
    UInt32.le_iff_toNat_le, ge_iff_le, List.mem_cons, List.not_mem_nil, or_false] at h
  change (((65 ≤ c.toNat ∧ c.toNat ≤ 90) ∨ (97 ≤ c.toNat ∧ c.toNat ≤ 122)) ∨
    (48 ≤ c.toNat ∧ c.toNat ≤ 57)) ∨ _ at h
  have hpercent : ('%' : Char).toNat = 37 := rfl
  have hbar : ('|' : Char).toNat = 124 := rfl
  rcases h with h | h
  · exact ⟨by omega, fun hc => by have := hcase _ hc; omega,
      fun hc => by have := hcase _ hc; omega⟩
  · rcases h with rfl | rfl | rfl | rfl | rfl | rfl | rfl | rfl | rfl <;> decide

theorem percentDecode_uriChar (c : Char) (rest : List Char) :
    percentDecode (uriChar c ++ rest) = String.utf8EncodeChar c ++ percentDecode rest := by
  unfold uriChar
  split
  · rename_i h
    obtain ⟨hlt, hne, _⟩ := isUriUnreserved_range h
    have hbyte : String.utf8EncodeChar c = [UInt8.ofNat c.toNat] :=
      if_pos (Nat.le_of_lt_succ hlt)
    rw [hbyte, List.singleton_append, percentDecode]
    · rfl
    · exact fun _ _ _ heq _ => hne heq
  · exact percentDecode_flatMap _ rest

theorem percentDecode_flatMap_uriChar (cs : List Char) :
    percentDecode (cs.flatMap uriChar) = utf8 cs := by
  induction cs with
  | nil => rfl
  | cons c cs ih => rw [List.flatMap_cons, percentDecode_uriChar, ih, utf8, utf8, List.flatMap_cons]

/-- **Two texts are not written alike.** -/
theorem encodeURIComponent_inj {s t e : JsString} (hs : encodeURIComponent s = some e)
    (ht : encodeURIComponent t = some e) : s = t := by
  rw [encodeURIComponent_eq] at hs ht
  obtain ⟨cs, hcs, rfl⟩ := Option.map_eq_some_iff.mp hs
  obtain ⟨ds, hds, heq⟩ := Option.map_eq_some_iff.mp ht
  have htexts : ds.flatMap uriChar = cs.flatMap uriChar := by
    have hdecode := congrArg Utf16.decode heq
    rw [Utf16.decode_encode, Utf16.decode_encode] at hdecode
    exact Option.some.inj hdecode
  have hbytes := congrArg percentDecode htexts
  rw [percentDecode_flatMap_uriChar, percentDecode_flatMap_uriChar] at hbytes
  rw [← Utf16.encode_of_decode hcs, ← Utf16.encode_of_decode hds, utf8_injective hbytes]

/-- No bar is written. -/
theorem bar_notMem_uriChar (c : Char) : '|' ∉ uriChar c := by
  unfold uriChar
  split
  · rename_i h
    rw [List.mem_singleton]
    exact fun heq => (isUriUnreserved_range h).2.2 heq.symm
  · intro hmem
    obtain ⟨b, _, hb⟩ := List.mem_flatMap.mp hmem
    have hdigit : ∀ n : Fin 16, hexDigit n ≠ '|' := by decide
    have hlt := b.toNat_lt
    simp only [percentByte, List.mem_cons, List.not_mem_nil, or_false] at hb
    rcases hb with hb | hb | hb
    · exact absurd hb (by decide)
    · exact hdigit ⟨b.toNat / 16, by omega⟩ hb.symm
    · exact hdigit ⟨b.toNat % 16, by omega⟩ hb.symm

theorem bar_notMem_encodeURIComponent {s e : JsString} (h : encodeURIComponent s = some e) :
    0x7C ∉ e := by
  rw [encodeURIComponent_eq] at h
  obtain ⟨cs, _, rfl⟩ := Option.map_eq_some_iff.mp h
  intro hmem
  obtain ⟨c, hc, hunit⟩ := List.mem_flatMap.mp hmem
  have hnat := Utf16.toNat_of_mem_encodeChar (by decide) hunit
  have hbar : c = '|' := Char.toNat_inj.mp hnat
  obtain ⟨d, _, hd⟩ := List.mem_flatMap.mp hc
  exact bar_notMem_uriChar d (hbar ▸ hd)

/-- It throws exactly at a lone surrogate. -/
theorem encodeURIComponent_eq_none {s : JsString} :
    encodeURIComponent s = none ↔ Utf16.decode s = none := by
  rw [encodeURIComponent_eq, Option.map_eq_none_iff]

end Clawdentity.Js
