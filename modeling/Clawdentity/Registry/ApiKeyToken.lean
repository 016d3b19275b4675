import Clawdentity.Registry.AgentAuth

/-!
# Comparison of secrets

The registry compares hashes and secrets with `constantTimeEqual`, whose loop runs over all code
units of the longer string. It collects the differences in one number with `^` and `|`, and these
operators work on 32 bits: of a length they see only the remainder modulo `2 ^ 32`.

## Main definitions

* `constantTimeEqual` — the comparison.
* `NulPadded` — one string is the other followed by a multiple of `2 ^ 32` NUL characters.
* `resolvePatLookupRow` — the row of a personal access token, which it is compared with.

## Main results

* `constantTimeEqual_decides` — the strings that compare equal: equal ones, and below `2 ^ 32` units
  no others.
* `resolvePatLookupRow_ok` — a token resolves only to a row that holds its hash.
-/

namespace Clawdentity.ApiKeyToken

open Js AgentAuth

/-! ## Bits that are collected in a loop -/

/-- **What a loop collects with `|`** is zero only where every part is. -/
theorem foldl_or_eq_zero_iff {α : Type*} {w : ℕ} (f : α → BitVec w) (l : List α) (m : BitVec w) :
    l.foldl (fun m a => m ||| f a) m = 0#w ↔ m = 0#w ∧ ∀ a ∈ l, f a = 0#w := by
  induction l generalizing m with
  | nil => simp
  | cons a l ih =>
    rw [List.foldl_cons, ih, BitVec.or_eq_zero_iff, and_assoc]
    simp

/-! ## The comparison -/

/-- `ToInt32` of a length or of a code unit: its lowest 32 bits. -/
def toInt32 (n : ℕ) : BitVec 32 := BitVec.ofNat 32 n

/-- `index < s.length ? s.charCodeAt(index) : 0`. -/
def codeAt (s : JsString) (index : ℕ) : ℕ := if h : index < s.length then s[index].toNat else 0

def constantTimeEqual (left right : JsString) : Bool :=
  let maxLength := max left.length right.length
  let mismatch := toInt32 left.length ^^^ toInt32 right.length
  let mismatch := (List.range maxLength).foldl
    (fun mismatch index =>
      mismatch ||| (toInt32 (codeAt left index) ^^^ toInt32 (codeAt right index)))
    mismatch
  mismatch == 0

theorem toInt32_eq_iff (m n : ℕ) : toInt32 m = toInt32 n ↔ m % 2 ^ 32 = n % 2 ^ 32 := by
  simp [toInt32, BitVec.toNat_eq]

theorem codeAt_lt (s : JsString) (index : ℕ) : codeAt s index < 2 ^ 16 := by
  rw [codeAt]
  split
  · exact UInt16.toNat_lt _
  · decide

@[simp] theorem codeAt_of_le {s : JsString} {index : ℕ} (h : s.length ≤ index) :
    codeAt s index = 0 := dif_neg (by omega)

/-- A code unit keeps its value in 32 bits. -/
theorem toInt32_codeAt_eq_iff (left right : JsString) (index : ℕ) :
    toInt32 (codeAt left index) = toInt32 (codeAt right index) ↔
      codeAt left index = codeAt right index := by
  have hleft := codeAt_lt left index
  have hright := codeAt_lt right index
  rw [toInt32_eq_iff]
  omega

/-- What the loop decides: the lengths agree in 32 bits, and so do all code units, where a string
has NUL behind its end. -/
theorem constantTimeEqual_eq_true_iff (left right : JsString) :
    constantTimeEqual left right = true ↔
      left.length % 2 ^ 32 = right.length % 2 ^ 32 ∧
        ∀ index, codeAt left index = codeAt right index := by
  rw [constantTimeEqual, beq_iff_eq]
  refine (foldl_or_eq_zero_iff
    (fun index => toInt32 (codeAt left index) ^^^ toInt32 (codeAt right index)) _ _).trans ?_
  rw [BitVec.xor_eq_zero_iff, toInt32_eq_iff]
  apply and_congr_right
  intro _
  constructor
  · intro h index
    by_cases hlt : index < max left.length right.length
    · have hxor := h index (List.mem_range.mpr hlt)
      rwa [BitVec.xor_eq_zero_iff, toInt32_codeAt_eq_iff] at hxor
    · rw [codeAt_of_le (by omega), codeAt_of_le (by omega)]
  · intro h index _
    rw [BitVec.xor_eq_zero_iff, toInt32_codeAt_eq_iff]
    exact h index

/-- Strings with the same code units differ only in NUL characters behind the shorter one. -/
theorem eq_append_of_codeAt {left right : JsString} (hle : left.length ≤ right.length)
    (h : ∀ index, codeAt left index = codeAt right index) :
    right = left ++ List.replicate (right.length - left.length) 0 := by
  apply List.ext_getElem
  · simp
    omega
  · intro index hright _
    have hcode := h index
    rw [codeAt, codeAt, dif_pos hright] at hcode
    by_cases hleft : index < left.length
    · rw [dif_pos hleft] at hcode
      rw [List.getElem_append_left hleft]
      exact UInt16.toNat_inj.mp hcode.symm
    · rw [dif_neg hleft] at hcode
      rw [List.getElem_append_right (by omega), List.getElem_replicate]
      exact UInt16.toNat_inj.mp hcode.symm

theorem codeAt_append_replicate (s : JsString) (n index : ℕ) :
    codeAt (s ++ List.replicate n 0) index = codeAt s index := by
  by_cases hlt : index < s.length
  · rw [codeAt, codeAt, dif_pos hlt, dif_pos (by simp; omega), List.getElem_append_left hlt]
  · rw [codeAt_of_le (s := s) (by omega), codeAt]
    split
    · rw [List.getElem_append_right (by omega), List.getElem_replicate]
      rfl
    · rfl

/-- The second string is the first one, followed by a multiple of `2 ^ 32` NUL characters. -/
def NulPadded (s t : JsString) : Prop := ∃ k, 0 < k ∧ t = s ++ List.replicate (k * 2 ^ 32) 0

theorem constantTimeEqual_of_nulPadded {s t : JsString} (h : NulPadded s t) :
    constantTimeEqual s t = true := by
  obtain ⟨k, -, rfl⟩ := h
  rw [constantTimeEqual_eq_true_iff]
  constructor
  · simp
  · intro index
    exact (codeAt_append_replicate s _ index).symm

theorem constantTimeEqual_comm (left right : JsString) :
    constantTimeEqual left right = constantTimeEqual right left := by
  rw [Bool.eq_iff_iff, constantTimeEqual_eq_true_iff, constantTimeEqual_eq_true_iff]
  simp only [eq_comm]

theorem eq_or_nulPadded {left right : JsString} (hle : left.length ≤ right.length)
    (h : constantTimeEqual left right = true) : left = right ∨ NulPadded left right := by
  rw [constantTimeEqual_eq_true_iff] at h
  have happend := eq_append_of_codeAt hle h.2
  by_cases heq : left.length = right.length
  · left
    simpa [heq] using happend.symm
  · right
    refine ⟨(right.length - left.length) / 2 ^ 32, by omega, ?_⟩
    have hmul : (right.length - left.length) / 2 ^ 32 * 2 ^ 32 = right.length - left.length := by
      omega
    rwa [hmul]

/-- A padded string has at least `2 ^ 32` code units. -/
theorem NulPadded.le_length {s t : JsString} (h : NulPadded s t) : 2 ^ 32 ≤ t.length := by
  obtain ⟨k, hk, rfl⟩ := h
  rw [List.length_append, List.length_replicate]
  omega

/-- The strings that compare equal. -/
theorem constantTimeEqual_iff_padded (left right : JsString) :
    constantTimeEqual left right = true ↔
      left = right ∨ NulPadded left right ∨ NulPadded right left := by
  constructor
  · intro h
    by_cases hle : left.length ≤ right.length
    · exact (eq_or_nulPadded hle h).imp_right Or.inl
    · rw [constantTimeEqual_comm] at h
      exact (eq_or_nulPadded (by omega) h).imp Eq.symm Or.inr
  · intro h
    obtain rfl | h | h := h
    · simp [constantTimeEqual_eq_true_iff]
    · exact constantTimeEqual_of_nulPadded h
    · rw [constantTimeEqual_comm]
      exact constantTimeEqual_of_nulPadded h

theorem constantTimeEqual_iff_eq {left right : JsString} (hleft : left.length < 2 ^ 32)
    (hright : right.length < 2 ^ 32) : constantTimeEqual left right = true ↔ left = right := by
  rw [constantTimeEqual_iff_padded]
  apply or_iff_left
  intro h
  obtain h | h := h
  · have := h.le_length
    omega
  · have := h.le_length
    omega

def PAT_TOKEN_MARKER : JsString := js "clw_pat_"
def PAT_LOOKUP_ENTROPY_LENGTH : ℕ := 8

def deriveApiKeyLookupPrefix (token : JsString) : JsString :=
  PAT_TOKEN_MARKER ++ (token.drop PAT_TOKEN_MARKER.length).take PAT_LOOKUP_ENTROPY_LENGTH

inductive HumanRole
  | admin
  | user

/-- A row of `api_keys`, joined with its human. -/
structure ApiKeyQueryRow where
  apiKeyId : JsString
  keyPrefix : JsString
  keyHash : JsString
  apiKeyActive : Bool
  apiKeyName : JsString
  humanId : JsString
  humanDid : JsString
  humanDisplayName : JsString
  humanRole : HumanRole
  humanActive : Bool
  humanOnboardingSource : Option JsString
  humanAgentLimit : Option ℕ

def apiKeyInvalid : AppError := ⟨401, "API_KEY_INVALID", "API key is invalid"⟩
def apiKeyRevoked : AppError := ⟨401, "API_KEY_REVOKED", "API key is revoked"⟩

def bootstrapSecretInvalid : AppError :=
  ⟨401, "ADMIN_BOOTSTRAP_UNAUTHORIZED", "Bootstrap secret is invalid"⟩

def assertBootstrapSecretAuthorized (provided expected : JsString) : Except AppError Unit :=
  if !constantTimeEqual provided expected then .error bootstrapSecretInvalid else .ok ()

/-- The row of a token. The rows of the query are those with the prefix of the token. -/
def resolvePatLookupRow (hashApiKeyToken : JsString → JsString)
    (apiKeys : List ApiKeyQueryRow) (token : JsString) : Except AppError ApiKeyQueryRow :=
  let tokenHash := hashApiKeyToken token
  let tokenPrefix := deriveApiKeyLookupPrefix token
  let lookupResult := apiKeys.filter fun row => row.keyPrefix = tokenPrefix
  match lookupResult.find? fun row => constantTimeEqual row.keyHash tokenHash with
  | none => .error apiKeyInvalid
  | some matchedRow =>
    if !matchedRow.apiKeyActive then .error apiKeyRevoked
    else if !matchedRow.humanActive then .error apiKeyInvalid
    else .ok matchedRow

/-- **Tokens.** A token resolves only to a row of an active key and an active human that holds the
hash of the token; hashes of a fixed length are far below `2 ^ 32` units. -/
theorem resolvePatLookupRow_ok {hashApiKeyToken : JsString → JsString}
    {apiKeys : List ApiKeyQueryRow} {token : JsString} {row : ApiKeyQueryRow}
    (hhash : (hashApiKeyToken token).length < 2 ^ 32)
    (hrows : ∀ row ∈ apiKeys, row.keyHash.length < 2 ^ 32)
    (h : resolvePatLookupRow hashApiKeyToken apiKeys token = .ok row) :
    row ∈ apiKeys ∧ row.keyHash = hashApiKeyToken token ∧
      row.apiKeyActive = true ∧ row.humanActive = true := by
  simp only [resolvePatLookupRow] at h
  split at h
  · cases h
  · rename_i matchedRow hfind
    have hmem := List.mem_of_find?_eq_some hfind
    have hequal := List.find?_some hfind
    rw [List.mem_filter] at hmem
    by_cases hkey : matchedRow.apiKeyActive = true
    · by_cases hhuman : matchedRow.humanActive = true
      · simp only [hkey, hhuman, Bool.not_true, Bool.false_eq_true, if_false] at h
        obtain rfl := Except.ok.inj h
        have hhashes := (constantTimeEqual_iff_eq (hrows _ hmem.1) hhash).mp hequal
        exact ⟨hmem.1, hhashes, hkey, hhuman⟩
      · simp [hkey, hhuman] at h
    · simp [hkey] at h

/-- The equality of hashes in the checks of the agent tokens is what the comparison computes. -/
theorem refreshTokenMatches_eq {platform : Platform} {session : SessionRow} {token : JsString}
    (hsession : session.refreshKeyHash.length < 2 ^ 32)
    (hhash : (platform.hashAgentToken token).length < 2 ^ 32) :
    refreshTokenMatches platform session token =
      (decide (session.refreshKeyPrefix = deriveRefreshTokenLookupPrefix token) &&
        constantTimeEqual session.refreshKeyHash (platform.hashAgentToken token)) := by
  have heq : decide (session.refreshKeyHash = platform.hashAgentToken token) =
      constantTimeEqual session.refreshKeyHash (platform.hashAgentToken token) := by
    rw [Bool.eq_iff_iff, decide_eq_true_iff]
    exact (constantTimeEqual_iff_eq hsession hhash).symm
  rw [refreshTokenMatches, heq]

end Clawdentity.ApiKeyToken
