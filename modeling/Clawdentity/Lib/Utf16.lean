import Mathlib.Data.List.Basic
import Mathlib.Data.Char

/-!
# UTF-16

A JavaScript-style string is any list of 16-bit code units, so it may hold a
surrogate without its partner. `encode` writes a list of Unicode scalar values
as code units, and `decode` reads the scalar values back: it answers `none`
exactly on the ill-formed strings.
-/

namespace Lib.Utf16

/-- A high surrogate, which opens a pair. -/
def isHigh (u : UInt16) : Bool := 0xD800 ≤ u.toNat && u.toNat < 0xDC00

/-- A low surrogate, which closes a pair. -/
def isLow (u : UInt16) : Bool := 0xDC00 ≤ u.toNat && u.toNat < 0xE000

/-- The scalar value that a surrogate pair stands for. -/
def ofPair (u v : UInt16) : Char :=
  Char.ofNat (0x10000 + (u.toNat - 0xD800) * 0x400 + (v.toNat - 0xDC00))

/-- The code units of one scalar value: one unit in the basic plane, else a pair. -/
def encodeChar (c : Char) : List UInt16 :=
  if c.toNat < 0x10000 then [UInt16.ofNat c.toNat]
  else [UInt16.ofNat (0xD800 + (c.toNat - 0x10000) / 0x400),
    UInt16.ofNat (0xDC00 + (c.toNat - 0x10000) % 0x400)]

/-- The code units of a well-formed text. -/
def encode (cs : List Char) : List UInt16 := cs.flatMap encodeChar

/-- The scalar values of a list of code units, or `none` at a lone surrogate. -/
def decode : List UInt16 → Option (List Char)
  | [] => some []
  | [u] => if isHigh u || isLow u then none else some [Char.ofNat u.toNat]
  | u :: v :: us =>
      if isHigh u then
        if isLow v then (decode us).map (ofPair u v :: ·) else none
      else if isLow u then none
      else (decode (v :: us)).map (Char.ofNat u.toNat :: ·)

@[simp] theorem encode_nil : encode [] = [] := rfl

@[simp] theorem encode_cons (c : Char) (cs : List Char) :
    encode (c :: cs) = encodeChar c ++ encode cs := rfl

theorem encode_append (cs ds : List Char) : encode (cs ++ ds) = encode cs ++ encode ds := by
  simp [encode]

/-- A unit outside the surrogate range is decoded by itself. -/
theorem decode_cons_of_basic {u : UInt16} (hh : isHigh u = false) (hl : isLow u = false)
    (us : List UInt16) : decode (u :: us) = (decode us).map (Char.ofNat u.toNat :: ·) := by
  cases us with
  | nil => simp [decode, hh, hl]
  | cons v us => simp [decode, hh, hl]

/-- The scalar value of a unit outside the surrogate range. -/
def ofUnit (u : UInt16) : Char := Char.ofNat u.toNat

/-- A text without surrogates is decoded unit by unit. -/
theorem decode_of_basic {us : List UInt16} (h : ∀ u ∈ us, u.toNat < 0xD800) :
    decode us = some (us.map ofUnit) := by
  induction us with
  | nil => rfl
  | cons u us ih =>
      have hu := h u List.mem_cons_self
      have hh : isHigh u = false := by simp only [isHigh]; simp; omega
      have hl : isLow u = false := by simp only [isLow]; simp; omega
      rw [decode_cons_of_basic hh hl, ih fun v hv => h v (List.mem_cons_of_mem u hv)]
      rfl

theorem ofUnit_toNat {u : UInt16} (h : u.toNat < 0xD800) : (ofUnit u).toNat = u.toNat := by
  have hvalid : u.toNat.isValidChar := .inl h
  rw [ofUnit, Char.ofNat, dif_pos hvalid]
  rfl

theorem ofUnit_inj {u v : UInt16} (hu : u.toNat < 0xD800) (hv : v.toNat < 0xD800)
    (h : ofUnit u = ofUnit v) : u = v := by
  have := congrArg Char.toNat h
  rw [ofUnit_toNat hu, ofUnit_toNat hv] at this
  exact UInt16.toNat_inj.mp this

/-- Without surrogates, each unit encodes its own scalar value. -/
theorem encode_map_ofUnit {us : List UInt16} (h : ∀ u ∈ us, u.toNat < 0xD800) :
    encode (us.map ofUnit) = us := by
  induction us with
  | nil => rfl
  | cons u us ih =>
      have hu := h u List.mem_cons_self
      have hchar : encodeChar (ofUnit u) = [u] := by
        rw [encodeChar, ofUnit_toNat hu, if_pos (by omega), UInt16.ofNat_toNat]
      rw [List.map_cons, encode_cons, hchar, ih fun v hv => h v (List.mem_cons_of_mem u hv)]
      rfl

private theorem toNat_valid (c : Char) : c.toNat < 0xD800 ∨ 0xDFFF < c.toNat ∧ c.toNat < 0x110000 :=
  c.valid

/-- The unit of a scalar value of the basic plane. -/
def toUnit (c : Char) : UInt16 := UInt16.ofNat c.toNat

theorem toUnit_toNat {c : Char} (h : c.toNat < 0x10000) : (toUnit c).toNat = c.toNat := by
  simp only [toUnit, UInt16.toNat_ofNat']
  omega

/-- A text of the basic plane is encoded character by character. -/
theorem encode_of_basic {cs : List Char} (h : ∀ c ∈ cs, c.toNat < 0x10000) :
    encode cs = cs.map toUnit := by
  induction cs with
  | nil => rfl
  | cons c cs ih =>
      have hchar : encodeChar c = [toUnit c] := by
        rw [encodeChar, if_pos (h c List.mem_cons_self)]
        rfl
      rw [encode_cons, hchar, ih fun d hd => h d (List.mem_cons_of_mem c hd)]
      rfl

/-- An ASCII unit is written for its own character only. -/
theorem toNat_of_mem_encodeChar {c : Char} {u : UInt16} (hu : u.toNat < 0x80)
    (h : u ∈ encodeChar c) : c.toNat = u.toNat := by
  have hc := toNat_valid c
  rw [encodeChar] at h
  split at h
  · rw [List.mem_singleton.mp h, UInt16.toNat_ofNat']
    omega
  · simp only [List.mem_cons, List.not_mem_nil, or_false] at h
    rcases h with rfl | rfl
    · simp only [UInt16.toNat_ofNat'] at hu
      omega
    · simp only [UInt16.toNat_ofNat'] at hu
      omega

/-- The units of a scalar value, and that they stand for it. -/
theorem encodeChar_cases (c : Char) :
    (∃ u, encodeChar c = [u] ∧ isHigh u = false ∧ isLow u = false ∧ ofUnit u = c) ∨
      ∃ u v, encodeChar c = [u, v] ∧ isHigh u = true ∧ isLow v = true ∧ ofPair u v = c := by
  have hc := toNat_valid c
  by_cases h : c.toNat < 0x10000
  · have hu : (UInt16.ofNat c.toNat).toNat = c.toNat := by
      simp only [UInt16.toNat_ofNat']; omega
    refine .inl ⟨UInt16.ofNat c.toNat, if_pos h, ?_, ?_, ?_⟩
    · simp only [isHigh, hu]; simp; omega
    · simp only [isLow, hu]; simp; omega
    · rw [ofUnit, hu, Char.ofNat_toNat]
  · have hu : (UInt16.ofNat (0xD800 + (c.toNat - 0x10000) / 0x400)).toNat =
        0xD800 + (c.toNat - 0x10000) / 0x400 := by
      simp only [UInt16.toNat_ofNat']; omega
    have hv : (UInt16.ofNat (0xDC00 + (c.toNat - 0x10000) % 0x400)).toNat =
        0xDC00 + (c.toNat - 0x10000) % 0x400 := by
      simp only [UInt16.toNat_ofNat']; omega
    refine .inr ⟨_, _, if_neg h, ?_, ?_, ?_⟩
    · simp only [isHigh, hu]; simp; omega
    · simp only [isLow, hv]; simp; omega
    · rw [ofPair, hu, hv]
      have hsum : 0x10000 + (0xD800 + (c.toNat - 0x10000) / 0x400 - 0xD800) * 0x400 +
          (0xDC00 + (c.toNat - 0x10000) % 0x400 - 0xDC00) = c.toNat := by omega
      rw [hsum, Char.ofNat_toNat]

/-- Decoding undoes the encoding of the first scalar value. -/
theorem decode_encodeChar_append (c : Char) (us : List UInt16) :
    decode (encodeChar c ++ us) = (decode us).map (c :: ·) := by
  rcases encodeChar_cases c with ⟨u, henc, hhigh, hlow, rfl⟩ | ⟨u, v, henc, hhigh, hlow, rfl⟩
  · rw [henc, List.singleton_append, decode_cons_of_basic hhigh hlow, ofUnit]
  · rw [henc]
    simp only [List.cons_append, List.nil_append, decode, hhigh, hlow, if_true]

/-- **Encoding then decoding is the identity.** -/
@[simp] theorem decode_encode (cs : List Char) : decode (encode cs) = some cs := by
  induction cs with
  | nil => rfl
  | cons c cs ih => rw [encode_cons, decode_encodeChar_append, ih]; rfl

/-! ## Code points -/

/-- A unit that is half of a pair. -/
def isSurrogate (u : UInt16) : Bool := isHigh u || isLow u

/-- A code point that is one unit: a lone surrogate, or a scalar value of the basic plane. -/
def codeUnit (u : UInt16) : UInt16 ⊕ Char := if isSurrogate u then .inl u else .inr (ofUnit u)

/-- The code points of any list of code units. -/
def codePoints : List UInt16 → List (UInt16 ⊕ Char)
  | [] => []
  | [u] => [codeUnit u]
  | u :: v :: us =>
      if isHigh u && isLow v then .inr (ofPair u v) :: codePoints us
      else codeUnit u :: codePoints (v :: us)

/-- The character that stands for a code point in a well-formed text; for a lone surrogate
that is `U+FFFD`. -/
def scalar : UInt16 ⊕ Char → Char
  | .inl _ => Char.ofNat 0xFFFD
  | .inr c => c

/-- The conversion to a `USVString`. -/
def toScalars (us : List UInt16) : List Char := (codePoints us).map scalar

/-- A unit that opens no pair is a code point by itself. -/
theorem codePoints_cons {u : UInt16} {us : List UInt16}
    (h : isHigh u = false ∨ ∀ v, us.head? = some v → isLow v = false) :
    codePoints (u :: us) = codeUnit u :: codePoints us := by
  cases us with
  | nil => rfl
  | cons v us =>
      have hpair : (isHigh u && isLow v) = false := by
        rcases h with hu | hv
        · rw [hu, Bool.false_and]
        · rw [hv v rfl, Bool.and_false]
      rw [codePoints, hpair]
      rfl

theorem codePoints_encodeChar_append (c : Char) (us : List UInt16) :
    codePoints (encodeChar c ++ us) = .inr c :: codePoints us := by
  rcases encodeChar_cases c with ⟨u, henc, hhigh, hlow, rfl⟩ | ⟨u, v, henc, hhigh, hlow, rfl⟩
  · rw [henc, List.singleton_append, codePoints_cons (.inl hhigh), codeUnit, isSurrogate, hhigh,
      hlow]
    rfl
  · rw [henc]
    simp only [List.cons_append, List.nil_append, codePoints, hhigh, hlow, Bool.and_self, if_true]

/-- The code points of a well-formed text are its scalar values. -/
theorem codePoints_encode (cs : List Char) : codePoints (encode cs) = cs.map .inr := by
  induction cs with
  | nil => rfl
  | cons c cs ih => rw [encode_cons, codePoints_encodeChar_append, ih, List.map_cons]

@[simp] theorem toScalars_encode (cs : List Char) : toScalars (encode cs) = cs := by
  rw [toScalars, codePoints_encode, List.map_map]
  exact List.map_id cs

/-- A unit that is no low surrogate separates the code points around it. -/
theorem codePoints_append {u : UInt16} (hu : isLow u = false) (us vs : List UInt16) :
    codePoints (us ++ u :: vs) = codePoints us ++ codePoints (u :: vs) := by
  induction us using codePoints.induct with
  | case1 => rfl
  | case2 v =>
      refine codePoints_cons (.inr ?_)
      intro w hw
      cases hw
      exact hu
  | case3 v w us hpair ih =>
      simp only [List.cons_append, codePoints, hpair, if_true, ih]
  | case4 v w us hpair ih =>
      simp only [List.cons_append] at ih
      simp only [List.cons_append, codePoints, hpair, ih]
      rfl

theorem isSurrogate_of_mem_codePoints {u : UInt16} {us : List UInt16}
    (h : .inl u ∈ codePoints us) : isSurrogate u = true := by
  have hunit : ∀ v, codeUnit v = .inl u → isSurrogate u = true := by
    intro v hv
    unfold codeUnit at hv
    split at hv
    · cases hv
      assumption
    · cases hv
  induction us using codePoints.induct with
  | case1 => cases h
  | case2 v => exact hunit v (List.mem_singleton.mp h).symm
  | case3 v w us hpair ih =>
      rw [codePoints, if_pos hpair] at h
      rcases List.mem_cons.mp h with h | h
      · cases h
      · exact ih h
  | case4 v w us hpair ih =>
      rw [codePoints, if_neg hpair] at h
      rcases List.mem_cons.mp h with h | h
      · exact hunit v h.symm
      · exact ih h

theorem toNat_ofNat {n : ℕ} (h : n.isValidChar) : (Char.ofNat n).toNat = n := by
  rw [Char.ofNat, dif_pos h]
  rfl

/-- A pair stands for a character beyond the basic plane. -/
theorem le_ofPair {u v : UInt16} (h : (isHigh u && isLow v) = true) :
    0x10000 ≤ (ofPair u v).toNat := by
  simp only [isHigh, isLow, Bool.and_eq_true, decide_eq_true_eq] at h
  have hvalid : (0x10000 + (u.toNat - 0xD800) * 0x400 + (v.toNat - 0xDC00)).isValidChar :=
    .inr ⟨by omega, by omega⟩
  rw [ofPair, toNat_ofNat hvalid]
  omega

/-- A character before the surrogates is read from its own unit. -/
theorem mem_of_mem_codePoints {c : Char} {us : List UInt16} (hc : c.toNat < 0xD800)
    (h : .inr c ∈ codePoints us) : toUnit c ∈ us := by
  have hunit : ∀ v, codeUnit v = .inr c → toUnit c = v := by
    intro v hv
    unfold codeUnit at hv
    split at hv
    · cases hv
    · rename_i hsurrogate
      cases hv
      have hbasic : v.toNat.isValidChar := by
        simp only [isSurrogate, isHigh, isLow, Bool.or_eq_true, Bool.and_eq_true,
          decide_eq_true_eq] at hsurrogate
        have hv := v.toNat_lt
        simp only [Nat.isValidChar]
        omega
      rw [toUnit, ofUnit, toNat_ofNat hbasic, UInt16.ofNat_toNat]
  induction us using codePoints.induct with
  | case1 => cases h
  | case2 v => exact List.mem_singleton.mpr (hunit v (List.mem_singleton.mp h).symm)
  | case3 v w us hpair ih =>
      rw [codePoints, if_pos hpair] at h
      rcases List.mem_cons.mp h with h | h
      · have hle := le_ofPair hpair
        rw [← Sum.inr.inj h] at hle
        omega
      · exact List.mem_cons_of_mem v (List.mem_cons_of_mem w (ih h))
  | case4 v w us hpair ih =>
      rw [codePoints, if_neg hpair] at h
      rcases List.mem_cons.mp h with h | h
      · rw [hunit v h.symm]
        exact List.mem_cons_self
      · exact List.mem_cons_of_mem v (ih h)

/-- A unit outside the surrogates separates the texts around it. -/
theorem toScalars_append {u : UInt16} (hu : isSurrogate u = false) (us vs : List UInt16) :
    toScalars (us ++ u :: vs) = toScalars us ++ ofUnit u :: toScalars vs := by
  simp only [isSurrogate, Bool.or_eq_false_iff] at hu
  rw [toScalars, codePoints_append hu.2, codePoints_cons (.inl hu.1), List.map_append,
    List.map_cons, codeUnit, isSurrogate, hu.1, hu.2]
  rfl

theorem toScalars_intercalate {u : UInt16} (hu : isSurrogate u = false)
    (parts : List (List UInt16)) :
    toScalars ([u].intercalate parts) = [ofUnit u].intercalate (parts.map toScalars) := by
  induction parts with
  | nil => rfl
  | cons part parts ih =>
      cases parts with
      | nil => simp
      | cons next parts =>
          rw [List.intercalate_cons_cons, List.append_assoc, List.singleton_append,
            toScalars_append hu, ih]
          simp [List.intercalate_cons_cons]

/-- A character before the surrogates is read from its own unit. -/
theorem mem_of_mem_toScalars {c : Char} {us : List UInt16} (hc : c.toNat < 0xD800)
    (h : c ∈ toScalars us) : toUnit c ∈ us := by
  obtain ⟨point, hpoint, hscalar⟩ := List.mem_map.mp h
  cases point with
  | inl u =>
      rw [← hscalar, scalar] at hc
      exact absurd hc (by decide)
  | inr d =>
      obtain rfl : d = c := hscalar
      exact mem_of_mem_codePoints hc hpoint

/-! ## Encoding a decoded text -/

/-- The units of a scalar value that stands for them. -/
theorem encodeChar_ofPair {u v : UInt16} (hu : isHigh u = true) (hv : isLow v = true) :
    encodeChar (ofPair u v) = [u, v] := by
  simp only [isHigh, isLow, Bool.and_eq_true, decide_eq_true_eq] at hu hv
  have hvalid : (0x10000 + (u.toNat - 0xD800) * 0x400 + (v.toNat - 0xDC00)).isValidChar :=
    .inr ⟨by omega, by omega⟩
  have hnat : (ofPair u v).toNat =
      0x10000 + (u.toNat - 0xD800) * 0x400 + (v.toNat - 0xDC00) := by
    rw [ofPair, toNat_ofNat hvalid]
  have hhigh : 0xD800 + ((ofPair u v).toNat - 0x10000) / 0x400 = u.toNat := by omega
  have hlow : 0xDC00 + ((ofPair u v).toNat - 0x10000) % 0x400 = v.toNat := by omega
  rw [encodeChar, if_neg (by omega), hhigh, hlow, UInt16.ofNat_toNat, UInt16.ofNat_toNat]

theorem encodeChar_ofNat {u : UInt16} (hhigh : isHigh u = false) (hlow : isLow u = false) :
    encodeChar (Char.ofNat u.toNat) = [u] := by
  have hlt := u.toNat_lt
  have hvalid : u.toNat.isValidChar := by
    simp only [isHigh, isLow, Bool.and_eq_false_iff, decide_eq_false_iff_not] at hhigh hlow
    simp only [Nat.isValidChar]
    omega
  rw [encodeChar, toNat_ofNat hvalid, if_pos (by omega), UInt16.ofNat_toNat]

/-- **Only its own units are decoded to a text.** -/
theorem encode_of_decode {us : List UInt16} {cs : List Char} (h : decode us = some cs) :
    encode cs = us := by
  induction us using decode.induct generalizing cs with
  | case1 =>
      cases h
      rfl
  | case2 u hu => simp [decode, hu] at h
  | case3 u hu =>
      simp only [Bool.not_eq_true, Bool.or_eq_false_iff] at hu
      simp only [decode, hu, Bool.or_self, Bool.false_eq_true, if_false, Option.some.injEq] at h
      rw [← h, encode_cons, encodeChar_ofNat hu.1 hu.2, encode_nil, List.append_nil]
  | case4 u v us hu hv ih =>
      simp only [decode, hu, hv, if_true, Option.map_eq_some_iff] at h
      obtain ⟨rest, hrest, rfl⟩ := h
      rw [encode_cons, encodeChar_ofPair hu hv, ih hrest]
      rfl
  | case5 u v us hu hv => simp [decode, hu, hv] at h
  | case6 u v us hu hl => simp [decode, hu, hl] at h
  | case7 u v us hu hl ih =>
      rw [Bool.not_eq_true] at hu hl
      simp only [decode, hu, hl, Bool.false_eq_true, if_false, Option.map_eq_some_iff] at h
      obtain ⟨rest, hrest, rfl⟩ := h
      rw [encode_cons, encodeChar_ofNat hu hl, ih hrest]
      rfl

end Lib.Utf16
