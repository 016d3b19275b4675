import Mathlib.Data.Nat.Notation
import Mathlib.Tactic.Cases

/-!
# Texts as bytes, and bytes as texts

A text is written as bytes in UTF-8, and bytes are written as text in base64url without
padding.

## Main definitions

* `utf8` — the bytes of a text, which no other text has.
* `Base64url.encode`, `Base64url.decode` — the text of some bytes, and the strict decoder: it
  refuses a text that `encode` does not write.
-/

namespace Lib

/-- The bytes of a text. -/
def utf8 (cs : List Char) : List UInt8 := cs.flatMap String.utf8EncodeChar

theorem utf8_injective : Function.Injective utf8 := by
  intro a b h
  have hbytes : a.utf8Encode = b.utf8Encode := congrArg List.toByteArray h
  refine String.ofList_injective (String.toByteArray_inj.mp ?_)
  rw [String.toByteArray_ofList, String.toByteArray_ofList, hbytes]

namespace Base64url

/-- The character of six bits. -/
def digit (n : ℕ) : Char :=
  if n < 26 then Char.ofNat (0x41 + n)
  else if n < 52 then Char.ofNat (0x61 + (n - 26))
  else if n < 62 then Char.ofNat (0x30 + (n - 52))
  else if n = 62 then '-' else '_'

/-- The six bits of a character. -/
def value (c : Char) : Option ℕ :=
  let n := c.toNat
  if 0x41 ≤ n ∧ n ≤ 0x5A then some (n - 0x41)
  else if 0x61 ≤ n ∧ n ≤ 0x7A then some (n - 0x61 + 26)
  else if 0x30 ≤ n ∧ n ≤ 0x39 then some (n - 0x30 + 52)
  else if n = 0x2D then some 62
  else if n = 0x5F then some 63
  else none

def encode : List UInt8 → List Char
  | a :: b :: c :: rest =>
      digit (a.toNat / 4) :: digit (a.toNat % 4 * 16 + b.toNat / 16) ::
        digit (b.toNat % 16 * 4 + c.toNat / 64) :: digit (c.toNat % 64) :: encode rest
  | [a, b] =>
      [digit (a.toNat / 4), digit (a.toNat % 4 * 16 + b.toNat / 16), digit (b.toNat % 16 * 4)]
  | [a] => [digit (a.toNat / 4), digit (a.toNat % 4 * 16)]
  | [] => []

/-- The bits that the last character has beyond the last byte are zero. -/
def decode : List Char → Option (List UInt8)
  | w :: x :: y :: z :: rest => do
      let w ← value w
      let x ← value x
      let y ← value y
      let z ← value z
      let bytes ← decode rest
      return UInt8.ofNat (w * 4 + x / 16) :: UInt8.ofNat (x % 16 * 16 + y / 4) ::
        UInt8.ofNat (y % 4 * 64 + z) :: bytes
  | [w, x, y] => do
      let w ← value w
      let x ← value x
      let y ← value y
      if y % 4 = 0 then some [UInt8.ofNat (w * 4 + x / 16), UInt8.ofNat (x % 16 * 16 + y / 4)]
      else none
  | [w, x] => do
      let w ← value w
      let x ← value x
      if x % 16 = 0 then some [UInt8.ofNat (w * 4 + x / 16)] else none
  | [_] => none
  | [] => some []

theorem value_digit {n : ℕ} (h : n < 64) : value (digit n) = some n := by
  have hall : ∀ n : Fin 64, value (digit n) = some n.val := by decide
  exact hall ⟨n, h⟩

/-- **What is encoded is decoded.** -/
theorem decode_encode (bytes : List UInt8) : decode (encode bytes) = some bytes := by
  induction bytes using encode.induct with
  | case1 a b c rest ih =>
      have ha := a.toNat_lt
      have hb := b.toNat_lt
      have hc := c.toNat_lt
      have h₁ : a.toNat / 4 * 4 + (a.toNat % 4 * 16 + b.toNat / 16) / 16 = a.toNat := by omega
      have h₂ : (a.toNat % 4 * 16 + b.toNat / 16) % 16 * 16 +
          (b.toNat % 16 * 4 + c.toNat / 64) / 4 = b.toNat := by omega
      have h₃ : (b.toNat % 16 * 4 + c.toNat / 64) % 4 * 64 + c.toNat % 64 = c.toNat := by omega
      rw [encode, decode, value_digit (by omega), value_digit (by omega), value_digit (by omega),
        value_digit (by omega), ih]
      simp only [Option.bind_eq_bind, Option.bind_some, Option.pure_def, h₁, h₂, h₃,
        UInt8.ofNat_toNat]
  | case2 a b =>
      have ha := a.toNat_lt
      have hb := b.toNat_lt
      have h₁ : a.toNat / 4 * 4 + (a.toNat % 4 * 16 + b.toNat / 16) / 16 = a.toNat := by omega
      have h₂ : (a.toNat % 4 * 16 + b.toNat / 16) % 16 * 16 + b.toNat % 16 * 4 / 4 = b.toNat := by
        omega
      rw [encode, decode, value_digit (by omega), value_digit (by omega), value_digit (by omega)]
      simp only [Option.bind_eq_bind, Option.bind_some, h₁, h₂,
        if_pos (show b.toNat % 16 * 4 % 4 = 0 by omega), UInt8.ofNat_toNat]
  | case3 a =>
      have ha := a.toNat_lt
      have h₁ : a.toNat / 4 * 4 + a.toNat % 4 * 16 / 16 = a.toNat := by omega
      rw [encode, decode, value_digit (by omega), value_digit (by omega)]
      simp only [Option.bind_eq_bind, Option.bind_some, h₁,
        if_pos (show a.toNat % 4 * 16 % 16 = 0 by omega), UInt8.ofNat_toNat]
  | case4 => rfl

/-- A character of the alphabet. -/
def IsDigit (c : Char) : Prop := (value c).isSome

instance : DecidablePred IsDigit := fun c => inferInstanceAs (Decidable ((value c).isSome = true))

theorem isDigit_digit {n : ℕ} (h : n < 64) : IsDigit (digit n) := by
  rw [IsDigit, value_digit h]
  rfl

theorem isDigit_of_mem_encode {bytes : List UInt8} {c : Char} (h : c ∈ encode bytes) :
    IsDigit c := by
  induction bytes using encode.induct with
  | case1 a b d rest ih =>
      have ha := a.toNat_lt
      have hb := b.toNat_lt
      have hd := d.toNat_lt
      simp only [encode, List.mem_cons] at h
      rcases h with rfl | rfl | rfl | rfl | h
      · exact isDigit_digit (by omega)
      · exact isDigit_digit (by omega)
      · exact isDigit_digit (by omega)
      · exact isDigit_digit (by omega)
      · exact ih h
  | case2 a b =>
      have ha := a.toNat_lt
      have hb := b.toNat_lt
      simp only [encode, List.mem_cons, List.not_mem_nil, or_false] at h
      rcases h with rfl | rfl | rfl
      · exact isDigit_digit (by omega)
      · exact isDigit_digit (by omega)
      · exact isDigit_digit (by omega)
  | case3 a =>
      have ha := a.toNat_lt
      simp only [encode, List.mem_cons, List.not_mem_nil, or_false] at h
      rcases h with rfl | rfl
      · exact isDigit_digit (by omega)
      · exact isDigit_digit (by omega)
  | case4 => cases h

theorem isDigit_of_value {c : Char} {n : ℕ} (h : value c = some n) : IsDigit c := by
  rw [IsDigit, h]
  rfl

/-- Only a text over the alphabet is decoded. -/
theorem isDigit_of_decode {cs : List Char} {bytes : List UInt8} (h : decode cs = some bytes) :
    ∀ c ∈ cs, IsDigit c := by
  induction cs using decode.induct generalizing bytes with
  | case1 w x y z rest ih =>
      simp only [decode, Option.bind_eq_bind, Option.bind_eq_some_iff] at h
      obtain ⟨_, hw, _, hx, _, hy, _, hz, _, hrest, _⟩ := h
      simp only [List.forall_mem_cons]
      exact ⟨isDigit_of_value hw, isDigit_of_value hx, isDigit_of_value hy, isDigit_of_value hz,
        ih hrest⟩
  | case2 w x y =>
      simp only [decode, Option.bind_eq_bind, Option.bind_eq_some_iff] at h
      obtain ⟨_, hw, _, hx, _, hy, _⟩ := h
      simp only [List.forall_mem_cons]
      exact ⟨isDigit_of_value hw, isDigit_of_value hx, isDigit_of_value hy,
        List.forall_mem_nil _⟩
  | case3 w x =>
      simp only [decode, Option.bind_eq_bind, Option.bind_eq_some_iff] at h
      obtain ⟨_, hw, _, hx, _⟩ := h
      simp only [List.forall_mem_cons]
      exact ⟨isDigit_of_value hw, isDigit_of_value hx, List.forall_mem_nil _⟩
  | case4 => cases h
  | case5 => exact List.forall_mem_nil _

/-- The alphabet has no white space and no quotation mark. -/
theorem IsDigit.range {c : Char} (h : IsDigit c) :
    0x2D ≤ c.toNat ∧ c.toNat ≤ 0x7A ∧ c.toNat ≠ 0x60 := by
  simp only [IsDigit, value] at h
  split at h
  · omega
  split at h
  · omega
  split at h
  · omega
  split at h
  · omega
  split at h
  · omega
  · cases h

theorem IsDigit.lt {c : Char} (h : IsDigit c) : c.toNat < 0x80 := by
  have hrange := h.range
  omega

theorem encode_eq_nil_iff {bytes : List UInt8} : encode bytes = [] ↔ bytes = [] := by
  cases bytes using encode.fun_cases with
  | case1 => simp [encode]
  | case2 => simp [encode]
  | case3 => simp [encode]
  | case4 => simp [encode]

end Base64url

end Lib
