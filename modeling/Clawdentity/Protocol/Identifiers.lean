import Clawdentity.Js.Text

/-!
# Identifiers of the protocol package

The TypeScript parsers of ULIDs, DIDs and group ids. A parser that throws answers
`none`.

## Main definitions

* `isUlid` — what `parseUlid` accepts.
* `parseDid`, `parseAgentDid`, `parseGroupId`.
-/

namespace Clawdentity.Protocol

open Js

/-! ## ULIDs -/

/-- The characters of `ULID_PATTERN`: upper-case Crockford base 32. -/
def isCrockford (u : UInt16) : Bool :=
  let n := u.toNat
  (0x30 ≤ n && n ≤ 0x39) || (0x41 ≤ n && n ≤ 0x48) || n == 0x4A || n == 0x4B || n == 0x4D ||
    n == 0x4E || (0x50 ≤ n && n ≤ 0x54) || (0x56 ≤ n && n ≤ 0x5A)

/-- The value of a Crockford digit, its index in `0123456789ABCDEFGHJKMNPQRSTVWXYZ`. -/
def crockfordDigit (u : UInt16) : ℕ :=
  let n := u.toNat
  if n ≤ 0x39 then n - 0x30
  else if n ≤ 0x48 then n - 0x37
  else if n ≤ 0x4B then n - 0x38
  else if n ≤ 0x4E then n - 0x39
  else if n ≤ 0x54 then n - 0x3A
  else n - 0x3B

/-- `decodeTime`: the first ten digits. It throws above `2 ^ 48 - 1`. -/
def decodeTime (value : JsString) : ℕ :=
  (value.take 10).foldl (fun n u => 32 * n + crockfordDigit u) 0

/-- `parseUlid` accepts the text. -/
def isUlid (value : JsString) : Bool :=
  value.length = 26 && value.all isCrockford && decide (decodeTime value ≤ 2 ^ 48 - 1)

/-! ## DIDs -/

inductive DidEntity
  | human
  | agent
  deriving DecidableEq, Repr

structure ParsedDid where
  authority : JsString
  entity : DidEntity
  ulid : JsString
  deriving DecidableEq

def MAX_AUTHORITY_LENGTH : ℕ := 253

def isLowerAlnum (u : UInt16) : Bool :=
  let n := u.toNat
  (0x30 ≤ n && n ≤ 0x39) || (0x61 ≤ n && n ≤ 0x7A)

/-- `DNS_LABEL_REGEX`: lower-case letters, digits and inner hyphens. -/
def isDnsLabel (label : JsString) : Bool :=
  label.head?.any isLowerAlnum && label.getLast?.any isLowerAlnum &&
    label.all fun u => isLowerAlnum u || u == 0x2D

/-- `ensureDidAuthority` does not throw. -/
def isDidAuthority (authority : JsString) : Bool :=
  !authority.isEmpty && authority.length ≤ MAX_AUTHORITY_LENGTH &&
    2 ≤ (authority.splitOn 0x2E).length && (authority.splitOn 0x2E).all isDnsLabel

def parseEntity (entity : JsString) : Option DidEntity :=
  if entity = js "human" then some .human
  else if entity = js "agent" then some .agent
  else none

def parseDid (value : JsString) : Option ParsedDid :=
  match value.splitOn 0x3A with
  | [scheme, method, authority, rawEntity, ulid] => do
      if scheme = js "did" && method = js "cdi" && isDidAuthority authority then
        let entity ← parseEntity rawEntity
        if isUlid ulid then some { authority, entity, ulid } else none
      else none
  | _ => none

def parseAgentDid (value : JsString) : Option ParsedDid :=
  (parseDid value).filter fun parsed => parsed.entity = .agent

def parseHumanDid (value : JsString) : Option ParsedDid :=
  (parseDid value).filter fun parsed => parsed.entity = .human

def isAgentDid (value : JsString) : Bool := (parseAgentDid value).isSome

def DidEntity.text : DidEntity → JsString
  | .human => js "human"
  | .agent => js "agent"

theorem parseEntity_eq_some {raw : JsString} {entity : DidEntity} :
    parseEntity raw = some entity ↔ raw = entity.text := by
  unfold parseEntity
  split
  · rename_i h
    subst h
    cases entity <;> simp [DidEntity.text]
  · split
    · rename_i h
      subst h
      cases entity <;> simp [DidEntity.text]
    · cases entity <;> simp [DidEntity.text, *]

/-- **What `parseDid` answers**, by the parts of the DID. -/
theorem parseDid_iff {value : JsString} {parsed : ParsedDid} :
    parseDid value = some parsed ↔
      value.splitOn 0x3A =
          [js "did", js "cdi", parsed.authority, parsed.entity.text, parsed.ulid] ∧
        isDidAuthority parsed.authority = true ∧ isUlid parsed.ulid = true := by
  unfold parseDid
  constructor
  · intro h
    split at h
    · rename_i scheme method authority rawEntity ulid hparts
      simp only [Option.bind_eq_bind, Option.ite_none_right_eq_some, Option.bind_eq_some_iff,
        Bool.and_eq_true, decide_eq_true_eq, Option.some.injEq] at h
      obtain ⟨⟨⟨rfl, rfl⟩, hauthority⟩, entity, hentity, hulid, rfl⟩ := h
      rw [parseEntity_eq_some] at hentity
      exact ⟨by rw [hparts, hentity], hauthority, hulid⟩
    · cases h
  · rintro ⟨hparts, hauthority, hulid⟩
    have hentity := parseEntity_eq_some.mpr (rfl : parsed.entity.text = parsed.entity.text)
    simp [hparts, hauthority, hulid, hentity]

/-- **The agent DIDs**, by their parts. -/
theorem isAgentDid_iff {value : JsString} :
    isAgentDid value = true ↔ ∃ authority ulid,
      value.splitOn 0x3A = [js "did", js "cdi", authority, js "agent", ulid] ∧
      isDidAuthority authority = true ∧ isUlid ulid = true := by
  simp only [isAgentDid, parseAgentDid, Option.isSome_filter, Option.any_eq_true,
    decide_eq_true_eq, parseDid_iff]
  constructor
  · rintro ⟨⟨authority, entity, ulid⟩, ⟨hparts, hauthority, hulid⟩, rfl⟩
    exact ⟨authority, ulid, hparts, hauthority, hulid⟩
  · rintro ⟨authority, ulid, hparts, hauthority, hulid⟩
    exact ⟨⟨authority, .agent, ulid⟩, ⟨hparts, hauthority, hulid⟩, rfl⟩

/-! ## The units of an identifier -/

theorem isLowerAlnum_lt {u : UInt16} (h : isLowerAlnum u = true) : u.toNat < 0x80 := by
  simp [isLowerAlnum] at h
  omega

theorem isCrockford_lt {u : UInt16} (h : isCrockford u = true) : u.toNat < 0x80 := by
  simp [isCrockford] at h
  omega

theorem isUlid_lt {s : JsString} (h : isUlid s = true) : ∀ u ∈ s, u.toNat < 0x80 := by
  simp only [isUlid, Bool.and_eq_true, List.all_eq_true] at h
  intro u hu
  exact isCrockford_lt (h.1.2 u hu)

theorem isUlid_range {s : JsString} (h : isUlid s = true) :
    ∀ u ∈ s, 0x20 < u.toNat ∧ u.toNat < 0x7B := by
  simp only [isUlid, Bool.and_eq_true, List.all_eq_true] at h
  intro u hu
  have hcrockford := h.1.2 u hu
  simp [isCrockford] at hcrockford
  omega

theorem isUlid_graphic {s : JsString} (h : isUlid s = true) : IsGraphic s := by
  intro u hu
  have hrange := isUlid_range h u hu
  omega

theorem isDnsLabel_lt {label : JsString} (h : isDnsLabel label = true) :
    ∀ u ∈ label, u.toNat < 0x80 := by
  simp only [isDnsLabel, Bool.and_eq_true, List.all_eq_true, Bool.or_eq_true,
    beq_iff_eq] at h
  intro u hu
  rcases h.2 u hu with h | h
  · exact isLowerAlnum_lt h
  · rw [h]
    decide

/-- The units of an authority. -/
def isAuthorityUnit (u : UInt16) : Bool := isLowerAlnum u || u == 0x2D || u == 0x2E

theorem isAuthorityUnit_of_labels {authority : JsString}
    (h : ∀ label ∈ authority.splitOn 0x2E, isDnsLabel label = true) :
    ∀ u ∈ authority, isAuthorityUnit u = true := by
  intro u hu
  rcases Lib.Text.eq_or_mem_of_mem_splitOn 0x2E hu with rfl | ⟨label, hlabel, hmem⟩
  · rfl
  · have hunits := h label hlabel
    simp only [isDnsLabel, Bool.and_eq_true, List.all_eq_true, Bool.or_eq_true] at hunits
    simp only [isAuthorityUnit, Bool.or_eq_true]
    exact .inl (hunits.2 u hmem)

/-- Two labels or more, of any length. -/
def isDottedName (authority : JsString) : Bool :=
  2 ≤ (authority.splitOn 0x2E).length && (authority.splitOn 0x2E).all isDnsLabel

/-- An authority is a dotted name that is not too long. -/
theorem isDidAuthority_eq (authority : JsString) :
    isDidAuthority authority =
      (isDottedName authority && decide (authority.length ≤ MAX_AUTHORITY_LENGTH)) := by
  cases authority with
  | nil => decide
  | cons u rest =>
      simp only [isDidAuthority, isDottedName, List.isEmpty_cons, Bool.not_false, Bool.true_and]
      rw [Bool.and_assoc, Bool.and_comm]

theorem isDottedName_units {authority : JsString} (h : isDottedName authority = true) :
    ∀ u ∈ authority, isAuthorityUnit u = true := by
  simp only [isDottedName, Bool.and_eq_true, List.all_eq_true] at h
  exact isAuthorityUnit_of_labels h.2

theorem isDottedName_of_isDidAuthority {authority : JsString}
    (h : isDidAuthority authority = true) : isDottedName authority = true := by
  rw [isDidAuthority_eq, Bool.and_eq_true] at h
  exact h.1

theorem isDidAuthority_units {authority : JsString} (h : isDidAuthority authority = true) :
    ∀ u ∈ authority, isAuthorityUnit u = true :=
  isDottedName_units (isDottedName_of_isDidAuthority h)

theorem isAuthorityUnit_lt {u : UInt16} (h : isAuthorityUnit u = true) : u.toNat < 0x80 := by
  simp only [isAuthorityUnit, Bool.or_eq_true, beq_iff_eq] at h
  rcases h with (h | rfl) | rfl
  · exact isLowerAlnum_lt h
  · decide
  · decide

theorem isAuthorityUnit_range {u : UInt16} (h : isAuthorityUnit u = true) :
    0x2D ≤ u.toNat ∧ (u.toNat < 0x41 ∨ 0x5A < u.toNat) ∧ u.toNat < 0x7B := by
  simp only [isAuthorityUnit, isLowerAlnum, Bool.or_eq_true, beq_iff_eq, Bool.and_eq_true,
    decide_eq_true_eq] at h
  rcases h with ((h | h) | rfl) | rfl
  · omega
  · omega
  · decide
  · decide

/-- A DID has letters, digits, hyphens, dots and colons: no unit from `{` on. -/
theorem parseDid_range {did : JsString} {parsed : ParsedDid} (h : parseDid did = some parsed) :
    ∀ u ∈ did, 0x20 < u.toNat ∧ u.toNat < 0x7B := by
  obtain ⟨hparts, hauthority, hulid⟩ := parseDid_iff.mp h
  intro u hu
  rcases Lib.Text.eq_or_mem_of_mem_splitOn 0x3A hu with rfl | ⟨part, hpart, hmem⟩
  · decide
  · rw [hparts] at hpart
    simp only [List.mem_cons, List.not_mem_nil, or_false] at hpart
    have hliteral : ∀ v ∈ js "did" ++ js "cdi" ++ parsed.entity.text,
        0x20 < v.toNat ∧ v.toNat < 0x7B := by
      cases parsed.entity with
      | human => exact forall_mem_of_all (by decide)
      | agent => exact forall_mem_of_all (by decide)
    simp only [List.mem_append] at hliteral
    rcases hpart with rfl | rfl | rfl | rfl | rfl
    · exact hliteral u (.inl (.inl hmem))
    · exact hliteral u (.inl (.inr hmem))
    · have hrange := isAuthorityUnit_range (isDidAuthority_units hauthority u hmem)
      omega
    · exact hliteral u (.inr hmem)
    · exact isUlid_range hulid u hmem

theorem parseDid_lt {did : JsString} {parsed : ParsedDid} (h : parseDid did = some parsed) :
    ∀ u ∈ did, u.toNat < 0x80 := by
  intro u hu
  have hrange := parseDid_range h u hu
  omega

theorem isAgentDid_range {did : JsString} (h : isAgentDid did = true) :
    ∀ u ∈ did, 0x20 < u.toNat ∧ u.toNat < 0x7B := by
  rw [isAgentDid, parseAgentDid, Option.isSome_filter, Option.any_eq_true] at h
  obtain ⟨parsed, hparsed, _⟩ := h
  exact parseDid_range hparsed

theorem isAgentDid_graphic {did : JsString} (h : isAgentDid did = true) : IsGraphic did := by
  intro u hu
  have hrange := isAgentDid_range h u hu
  omega

theorem ne_nil_of_isAgentDid {did : JsString} (h : isAgentDid did = true) : did ≠ [] := by
  intro hnil
  subst hnil
  exact absurd h (by decide)

theorem ne_nil_of_isUlid {id : JsString} (h : isUlid id = true) : id ≠ [] := by
  intro hnil
  subst hnil
  exact absurd h (by decide)

theorem isAgentDid_lt {did : JsString} (h : isAgentDid did = true) :
    ∀ u ∈ did, u.toNat < 0x80 := by
  intro u hu
  have hrange := isAgentDid_graphic h u hu
  omega

/-! ## Making agent DIDs -/

/-- `makeAgentDid`; `none` where it throws. -/
def makeAgentDid (authority id : JsString) : Option JsString :=
  if isDidAuthority authority && isUlid id then
    some (js "did:cdi:" ++ authority ++ js ":agent:" ++ id)
  else none

theorem colon_notMem_of_isDidAuthority {authority : JsString}
    (h : isDidAuthority authority = true) : 0x3A ∉ authority := by
  intro hmem
  have hrange := isDidAuthority_units h 0x3A hmem
  exact absurd hrange (by decide)

theorem colon_notMem_of_isUlid {id : JsString} (h : isUlid id = true) : 0x3A ∉ id := by
  intro hmem
  simp only [isUlid, Bool.and_eq_true, List.all_eq_true] at h
  exact absurd (h.1.2 0x3A hmem) (by decide)

/-- `makeDid`; `none` where it throws. -/
def makeDid (authority : JsString) (entity : DidEntity) (id : JsString) : Option JsString :=
  if isDidAuthority authority && isUlid id then
    some (js "did:cdi:" ++ authority ++ js ":" ++ entity.text ++ js ":" ++ id)
  else none

def makeHumanDid (authority id : JsString) : Option JsString := makeDid authority .human id

theorem makeAgentDid_eq (authority id : JsString) :
    makeAgentDid authority id = makeDid authority .agent id := by
  have hentity : js ":agent:" = js ":" ++ js "agent" ++ js ":" := by decide
  simp only [makeAgentDid, makeDid, hentity, DidEntity.text, List.append_assoc]

/-- **What `makeDid` makes is parsed to what it was made of.** -/
theorem parseDid_of_makeDid {authority id did : JsString} {entity : DidEntity}
    (h : makeDid authority entity id = some did) :
    parseDid did = some { authority, entity, ulid := id } := by
  simp only [makeDid, Option.ite_none_right_eq_some, Bool.and_eq_true, Option.some.injEq] at h
  obtain ⟨⟨hauthority, hid⟩, rfl⟩ := h
  refine parseDid_iff.mpr ⟨?_, hauthority, hid⟩
  have hscheme : js "did:cdi:" = js "did" ++ 0x3A :: (js "cdi" ++ [0x3A]) := by decide
  have hcolon : js ":" = [0x3A] := by decide
  have hdid : (0x3A : UInt16) ∉ js "did" := by decide
  have hcdi : (0x3A : UInt16) ∉ js "cdi" := by decide
  have hentity : (0x3A : UInt16) ∉ entity.text := by cases entity <;> decide
  rw [hscheme, hcolon]
  simp only [List.append_assoc, List.cons_append, List.nil_append]
  rw [Lib.Text.splitOn_append_sep hdid, Lib.Text.splitOn_append_sep hcdi,
    Lib.Text.splitOn_append_sep (colon_notMem_of_isDidAuthority hauthority),
    Lib.Text.splitOn_append_sep hentity, Lib.Text.splitOn_of_notMem (colon_notMem_of_isUlid hid)]

/-- **What `makeAgentDid` makes is an agent DID.** -/
theorem isAgentDid_of_makeAgentDid {authority id did : JsString}
    (h : makeAgentDid authority id = some did) : isAgentDid did = true := by
  rw [makeAgentDid_eq] at h
  rw [isAgentDid, parseAgentDid, parseDid_of_makeDid h]
  rfl

/-! ## Group ids -/

def GROUP_ID_PREFIX : JsString := js "grp_"

def parseGroupId (value : JsString) : Option JsString :=
  let normalized := trim value
  if GROUP_ID_PREFIX.isPrefixOf normalized && isUlid (normalized.drop GROUP_ID_PREFIX.length) then
    some normalized
  else none

def isGroupId (value : JsString) : Bool := (parseGroupId value).isSome

theorem parseGroupId_eq {value groupId : JsString} (h : parseGroupId value = some groupId) :
    groupId = trim value := by
  simp only [parseGroupId, Option.ite_none_right_eq_some, Option.some.injEq] at h
  exact h.2.symm

end Clawdentity.Protocol
