import Clawdentity.Protocol.Identifiers
import Clawdentity.Rust.Text

/-!
# Identifiers of the Rust crates

The Rust parsers of DIDs and group ids, and what they make of an identifier that
the TypeScript parsers accept. The Rust parser wants labels of at most 63 characters;
it does not limit the whole authority, it takes `localhost` and IP addresses, and
the ULID crate reads both cases.

## Main definitions

* `parseDid`, `parseAgentDid`, `parseGroupId`.
* `isAgentDid_map_iff` — which agent DIDs of TypeScript are agent DIDs of Rust.
* `isAgentDid_toJs`, `isGroupId_toJs` — which identifiers of Rust TypeScript accepts.
-/

namespace Clawdentity.Rust

open Js Lib
open Protocol (DidEntity)

/-! ## Parsers -/

structure ParsedDid where
  authority : RString
  entity : DidEntity
  ulid : RString
  deriving DecidableEq

def isValidDnsLabel (value : RString) : Bool :=
  !value.isEmpty && value.length ≤ 63 && value.head? ≠ some '-' && value.getLast? ≠ some '-' &&
    value.all fun c => isAsciiLowercase c || isAsciiDigit c || c == '-'

def isValidDnsAuthority (value : RString) : Bool :=
  2 ≤ (value.splitOn '.').length && (value.splitOn '.').all isValidDnsLabel

/-- A decimal octet without leading zeros. -/
def isIpv4Octet (part : RString) : Bool :=
  1 ≤ part.length && part.length ≤ 3 && part.all isAsciiDigit &&
    (part.length = 1 || part.head? ≠ some '0') &&
    decide (part.foldl (fun n c => 10 * n + (c.toNat - 0x30)) 0 ≤ 255)

def isIpv4Addr (value : RString) : Bool :=
  (value.splitOn '.').length = 4 && (value.splitOn '.').all isIpv4Octet

def isHexDigit (c : Char) : Bool :=
  isAsciiDigit c || (0x41 ≤ c.toNat && c.toNat ≤ 0x46) || (0x61 ≤ c.toNat && c.toNat ≤ 0x66)

/-- A group of an IPv6 address: one to four hexadecimal digits. -/
def isIpv6Group (part : RString) : Bool :=
  1 ≤ part.length && part.length ≤ 4 && part.all isHexDigit

/-- The number of groups that the parts stand for; the last part may be an IPv4 address, which
stands for two. -/
def ipv6Groups : List RString → Option ℕ
  | [] => some 0
  | [last] => if isIpv6Group last then some 1 else if isIpv4Addr last then some 2 else none
  | part :: rest => if isIpv6Group part then (ipv6Groups rest).map (· + 1) else none

/-- The texts before and after the first `::`. -/
def splitDoubleColon : RString → Option (RString × RString)
  | ':' :: ':' :: rest => some ([], rest)
  | c :: rest => (splitDoubleColon rest).map fun parts => (c :: parts.1, parts.2)
  | [] => none

/-- The parts between colons; an empty text has none. -/
def colonParts (value : RString) : List RString := if value.isEmpty then [] else value.splitOn ':'

/-- An IPv6 address has eight groups, of which `::` leaves out at least one. -/
def isIpv6Addr (value : RString) : Bool :=
  match splitDoubleColon value with
  | none => ipv6Groups (value.splitOn ':') = some 8
  | some (head, tail) =>
      (colonParts head).all isIpv6Group &&
        (ipv6Groups (colonParts tail)).any fun n => (colonParts head).length + n ≤ 7

/-- `value.parse::<IpAddr>().is_ok()`. -/
def isIpAddr (value : RString) : Bool := isIpv4Addr value || isIpv6Addr value

def normalizeDidAuthority (value : RString) : Option RString :=
  let authority := (trim value).map toAsciiLowercase
  if authority = rs "localhost" || isIpAddr authority || isValidDnsAuthority authority then
    some authority
  else none

/-- `DidEntity::as_str`. -/
def entityText : DidEntity → RString
  | .human => rs "human"
  | .agent => rs "agent"

/-- `DidEntity::from_str`. -/
def parseEntity (value : RString) : Option DidEntity :=
  if value = rs "human" then some .human
  else if value = rs "agent" then some .agent
  else none

section
variable (ulidFromString : RString → Bool)

/-- `parse_did`; `Ulid::from_string` of the ULID crate is a parameter. -/
def parseDid (value : RString) : Option ParsedDid :=
  match value.splitOn ':' with
  | [scheme, method, rawAuthority, rawEntity, rawUlid] => do
      if scheme = rs "did" && method = rs "cdi" then
        let authority ← normalizeDidAuthority rawAuthority
        if authority = rawAuthority then
          let entity ← parseEntity rawEntity
          if ulidFromString rawUlid then some { authority, entity, ulid := rawUlid } else none
        else none
      else none
  | _ => none

def parseAgentDid (value : RString) : Option ParsedDid :=
  (parseDid ulidFromString value).filter fun did => did.entity = .agent

def parseHumanDid (value : RString) : Option ParsedDid :=
  (parseDid ulidFromString value).filter fun did => did.entity = .human

def isAgentDid (value : RString) : Bool := (parseAgentDid ulidFromString value).isSome

/-- `make_did`. -/
def makeDid (authority : RString) (entity : DidEntity) (ulid : RString) : Option RString := do
  let authority ← normalizeDidAuthority authority
  if ulidFromString ulid then
    some (rs "did:cdi:" ++ authority ++ rs ":" ++ entityText entity ++ rs ":" ++ ulid)
  else none

def makeHumanDid (authority ulid : RString) : Option RString :=
  makeDid ulidFromString authority .human ulid

def makeAgentDid (authority ulid : RString) : Option RString :=
  makeDid ulidFromString authority .agent ulid

def GROUP_ID_PREFIX : RString := rs "grp_"

def parseGroupId (value : RString) : Option RString :=
  let normalized := trim value
  if GROUP_ID_PREFIX.isPrefixOf normalized &&
      ulidFromString (normalized.drop GROUP_ID_PREFIX.length) then
    some normalized
  else none

def isGroupId (value : RString) : Bool := (parseGroupId ulidFromString value).isSome

end

/-! ## Authorities with a colon -/

theorem colon_of_splitDoubleColon {value : RString} {parts : RString × RString}
    (h : splitDoubleColon value = some parts) : ':' ∈ value := by
  induction value generalizing parts with
  | nil => cases h
  | cons c rest ih =>
      unfold splitDoubleColon at h
      split at h
      · rename_i heq
        rw [heq]
        exact List.mem_cons_self
      · rename_i heq
        cases heq
        obtain ⟨found, hfound, _⟩ := Option.map_eq_some_iff.mp h
        exact List.mem_cons_of_mem c (ih hfound)
      · cases h

/-- Only an IPv6 address has colons in it. -/
theorem isIpv6Addr_of_notMem {value : RString} (h : ':' ∉ value) : isIpv6Addr value = false := by
  have hnone : splitDoubleColon value = none := by
    cases hsplit : splitDoubleColon value with
    | none => rfl
    | some parts => exact absurd (colon_of_splitDoubleColon hsplit) h
  rw [isIpv6Addr, hnone, Text.splitOn_of_notMem h]
  simp only [ipv6Groups]
  split
  · rfl
  · split <;> rfl

/-! ## Identifiers that TypeScript accepts -/

/-- The ULID crate reads what `parseUlid` accepts. -/
def ReadsUlids (ulidFromString : RString → Bool) : Prop :=
  ∀ s, Protocol.isUlid s = true → ulidFromString (s.map Utf16.ofUnit) = true

/-- No label of the authority of the DID is longer than 63 characters. -/
def hasShortLabels (did : JsString) : Bool :=
  ((did.splitOn 0x3A)[2]?.getD []).splitOn 0x2E |>.all fun label => label.length ≤ 63

/-- Rust leaves an authority as it is. -/
theorem trim_lower_authority {authority : JsString}
    (h : ∀ u ∈ authority, Protocol.isAuthorityUnit u = true) :
    (trim (authority.map Utf16.ofUnit)).map toAsciiLowercase = authority.map Utf16.ofUnit := by
  have htrim : trim (authority.map Utf16.ofUnit) = authority.map Utf16.ofUnit := by
    refine Text.trim_eq_self ?_
    intro c hc
    obtain ⟨u, hu, rfl⟩ := List.mem_map.mp hc
    have hr := Protocol.isAuthorityUnit_range (h u hu)
    simp only [isWhitespace, Utf16.ofUnit_toNat (by omega : u.toNat < 0xD800)]
    simp
    omega
  rw [htrim, List.map_map]
  refine List.map_congr_left ?_
  intro u hu
  have hr := Protocol.isAuthorityUnit_range (h u hu)
  simp only [Function.comp_apply, toAsciiLowercase,
    Utf16.ofUnit_toNat (by omega : u.toNat < 0xD800)]
  rw [if_neg]
  simp
  omega

/-- A label of TypeScript is one of Rust where it is short. -/
theorem isValidDnsLabel_map {label : JsString} (h : Protocol.isDnsLabel label = true) :
    isValidDnsLabel (label.map Utf16.ofUnit) = decide (label.length ≤ 63) := by
  have hlt := Protocol.isDnsLabel_lt h
  simp only [Protocol.isDnsLabel, Bool.and_eq_true, List.all_eq_true, Bool.or_eq_true,
    beq_iff_eq] at h
  obtain ⟨⟨hhead, hlast⟩, hall⟩ := h
  have hnot : ∀ u, Protocol.isLowerAlnum u = true → Utf16.ofUnit u ≠ '-' := by
    intro u hu heq
    have hn := congrArg Char.toNat heq
    rw [Utf16.ofUnit_toNat (by have := Protocol.isLowerAlnum_lt hu; omega)] at hn
    have hdash : ('-' : Char).toNat = 0x2D := rfl
    rw [hdash] at hn
    simp [Protocol.isLowerAlnum] at hu
    omega
  have hnonempty : (label.map Utf16.ofUnit).isEmpty = false := by
    cases label with
    | nil => simp at hhead
    | cons u label => rfl
  have hfirst : (label.map Utf16.ofUnit).head? ≠ some '-' := by
    rw [List.head?_map]
    intro heq
    obtain ⟨u, hu, huc⟩ := Option.map_eq_some_iff.mp heq
    rw [hu] at hhead
    exact hnot u (by simpa using hhead) huc
  have hend : (label.map Utf16.ofUnit).getLast? ≠ some '-' := by
    rw [List.getLast?_map]
    intro heq
    obtain ⟨u, hu, huc⟩ := Option.map_eq_some_iff.mp heq
    rw [hu] at hlast
    exact hnot u (by simpa using hlast) huc
  have hchars : (label.map Utf16.ofUnit).all
      (fun c => isAsciiLowercase c || isAsciiDigit c || c == '-') = true := by
    rw [List.all_eq_true]
    intro c hc
    obtain ⟨u, hu, rfl⟩ := List.mem_map.mp hc
    have hn := Utf16.ofUnit_toNat (by have := hlt u hu; omega : u.toNat < 0xD800)
    rcases hall u hu with hu' | rfl
    · simp only [isAsciiLowercase, isAsciiDigit, hn]
      simp [Protocol.isLowerAlnum] at hu'
      simp
      omega
    · rfl
  rw [isValidDnsLabel, hchars, hnonempty, decide_eq_true hfirst, decide_eq_true hend,
    List.length_map]
  simp

/-- A dotted name is an authority of Rust where all its labels are short. -/
theorem normalizeDidAuthority_map {authority : JsString}
    (h : Protocol.isDottedName authority = true) :
    normalizeDidAuthority (authority.map Utf16.ofUnit) =
      if (authority.splitOn 0x2E).all fun label => label.length ≤ 63 then
        some (authority.map Utf16.ofUnit)
      else none := by
  have hunits := Protocol.isDottedName_units h
  simp only [Protocol.isDottedName, Bool.and_eq_true, List.all_eq_true, decide_eq_true_eq] at h
  have hsplit : (authority.map Utf16.ofUnit).splitOn '.' =
      (authority.splitOn 0x2E).map (List.map Utf16.ofUnit) := by
    refine Text.splitOn_map Utf16.ofUnit 0x2E ?_
    intro u hu heq
    have := Protocol.isAuthorityUnit_lt (hunits u hu)
    exact Utf16.ofUnit_inj (by omega) (by decide) heq
  have hlocal : authority.map Utf16.ofUnit ≠ rs "localhost" := by
    intro heq
    have hone : ((rs "localhost").splitOn '.').length = 1 := by decide
    rw [← heq, hsplit, List.length_map] at hone
    omega
  have hdns : isValidDnsAuthority (authority.map Utf16.ofUnit) =
      (authority.splitOn 0x2E).all fun label => label.length ≤ 63 := by
    rw [isValidDnsAuthority, hsplit, List.length_map, decide_eq_true h.1, Bool.true_and,
      List.all_map, Bool.eq_iff_iff, List.all_eq_true, List.all_eq_true]
    constructor
    · intro hall label hlabel
      have := hall label hlabel
      rwa [Function.comp_apply, isValidDnsLabel_map (h.2 label hlabel)] at this
    · intro hall label hlabel
      rw [Function.comp_apply, isValidDnsLabel_map (h.2 label hlabel)]
      exact hall label hlabel
  have hcolon : ':' ∉ authority.map Utf16.ofUnit := by
    intro hmem
    obtain ⟨u, hu, heq⟩ := List.mem_map.mp hmem
    have hrange := Protocol.isAuthorityUnit_range (hunits u hu)
    have hnat := congrArg Char.toNat heq
    rw [Utf16.ofUnit_toNat (by omega)] at hnat
    have hcode : (':').toNat = 0x3A := rfl
    have hunit : u = 0x3A := UInt16.toNat_inj.mp (hnat.trans hcode)
    exact absurd (hunits u hu) (by rw [hunit]; decide)
  -- the parts of an IPv4 address are short, so that it is a DNS authority as well
  have hip : isIpAddr (authority.map Utf16.ofUnit) = true →
      (authority.splitOn 0x2E).all (fun label => label.length ≤ 63) = true := by
    intro hip
    simp only [isIpAddr, isIpv6Addr_of_notMem hcolon, Bool.or_false, isIpv4Addr, hsplit,
      Bool.and_eq_true, List.all_map, List.all_eq_true] at hip
    rw [List.all_eq_true]
    intro label hlabel
    have hoctet := hip.2 label hlabel
    simp only [Function.comp_apply, isIpv4Octet, List.length_map, Bool.and_eq_true,
      decide_eq_true_eq] at hoctet
    rw [decide_eq_true_eq]
    omega
  simp only [normalizeDidAuthority, trim_lower_authority hunits, hdns]
  by_cases hshort : (authority.splitOn 0x2E).all (fun label => label.length ≤ 63) = true
  · rw [hshort, Bool.or_true, if_pos rfl]
  · have hnoip : isIpAddr (authority.map Utf16.ofUnit) = false := by
      rw [Bool.eq_false_iff]
      exact fun hyes => hshort (hip hyes)
    rw [Bool.not_eq_true] at hshort
    rw [hshort, hnoip, decide_eq_false hlocal]
    rfl

/-! ## DIDs and group ids -/

theorem ofJs_agentDid {did : JsString} (h : Protocol.isAgentDid did = true) :
    ofJs did = some (did.map Utf16.ofUnit) := ofJs_graphic (Protocol.isAgentDid_graphic h)

section
variable {ulidFromString : RString → Bool}

/-- **The agent DIDs of TypeScript that Rust accepts** are those with short labels. -/
theorem isAgentDid_map_iff (hulids : ReadsUlids ulidFromString) {did : JsString}
    (h : Protocol.isAgentDid did = true) :
    isAgentDid ulidFromString (did.map Utf16.ofUnit) = hasShortLabels did := by
  have hlt := Protocol.isAgentDid_lt h
  obtain ⟨authority, ulid, hparts, hauthority, hulid⟩ := Protocol.isAgentDid_iff.mp h
  have hsplit : (did.map Utf16.ofUnit).splitOn ':' =
      [rs "did", rs "cdi", authority.map Utf16.ofUnit, rs "agent", ulid.map Utf16.ofUnit] := by
    have hmap : (did.map Utf16.ofUnit).splitOn (Utf16.ofUnit 0x3A) =
        (did.splitOn 0x3A).map (List.map Utf16.ofUnit) := by
      refine Text.splitOn_map Utf16.ofUnit 0x3A ?_
      intro u hu heq
      have := hlt u hu
      exact Utf16.ofUnit_inj (by omega) (by decide) heq
    rw [hparts] at hmap
    exact hmap
  have hentity : parseEntity (rs "agent") = some .agent := by simp [parseEntity]
  simp only [isAgentDid, parseAgentDid, parseDid, hsplit, hasShortLabels, hparts]
  rw [normalizeDidAuthority_map (Protocol.isDottedName_of_isDidAuthority hauthority)]
  by_cases hshort : (authority.splitOn 0x2E).all (fun label => label.length ≤ 63) = true
  · simp [hshort, hentity, hulids ulid hulid]
  · rw [Bool.not_eq_true] at hshort
    simp [hshort]

/-- A group id of TypeScript that is trimmed is one of Rust. -/
theorem isGroupId_map (hulids : ReadsUlids ulidFromString) {groupId : JsString}
    (h : Protocol.parseGroupId groupId = some groupId) :
    ofJs groupId = some (groupId.map Utf16.ofUnit) ∧
      isGroupId ulidFromString (groupId.map Utf16.ofUnit) = true := by
  simp only [Protocol.parseGroupId] at h
  split at h
  · rename_i hcheck
    rw [Option.some.inj h] at hcheck
    simp only [Bool.and_eq_true] at hcheck
    obtain ⟨ulid, rfl⟩ := List.isPrefixOf_iff_prefix.mp hcheck.1
    have hulid : Protocol.isUlid ulid = true := by simpa using hcheck.2
    have hchars : ∀ u ∈ Protocol.GROUP_ID_PREFIX ++ ulid, 0x30 ≤ u.toNat ∧ u.toNat < 0x80 := by
      intro u hu
      rcases List.mem_append.mp hu with hu | hu
      · have hliteral : ∀ v ∈ Protocol.GROUP_ID_PREFIX, 0x30 ≤ v.toNat ∧ v.toNat < 0x80 :=
          forall_mem_of_all (by decide)
        exact hliteral u hu
      · simp only [Protocol.isUlid, Bool.and_eq_true, List.all_eq_true] at hulid
        have hcrockford := hulid.1.2 u hu
        simp [Protocol.isCrockford] at hcrockford
        omega
    have htrim : trim ((Protocol.GROUP_ID_PREFIX ++ ulid).map Utf16.ofUnit) =
        (Protocol.GROUP_ID_PREFIX ++ ulid).map Utf16.ofUnit := by
      refine Text.trim_eq_self ?_
      intro c hc
      obtain ⟨u, hu, rfl⟩ := List.mem_map.mp hc
      have hr := hchars u hu
      simp only [isWhitespace, Utf16.ofUnit_toNat (by omega : u.toNat < 0xD800)]
      simp
      omega
    refine ⟨Utf16.decode_of_basic fun u hu => by have := hchars u hu; omega, ?_⟩
    have hmap : (Protocol.GROUP_ID_PREFIX ++ ulid).map Utf16.ofUnit =
        GROUP_ID_PREFIX ++ ulid.map Utf16.ofUnit := by
      rw [List.map_append]
      rfl
    rw [hmap] at htrim
    have hpre : GROUP_ID_PREFIX.isPrefixOf (GROUP_ID_PREFIX ++ ulid.map Utf16.ofUnit) = true :=
      List.isPrefixOf_iff_prefix.mpr (List.prefix_append _ _)
    simp only [isGroupId, parseGroupId, htrim, hmap, hpre, List.drop_left, hulids ulid hulid,
      Bool.and_true, if_true, Option.isSome_some]
  · cases h

end

/-! ## Identifiers that Rust accepts -/

/-- The ULID crate reads texts of visible ASCII characters only. -/
def ReadsVisible (ulidFromString : RString → Bool) : Prop :=
  ∀ s, ulidFromString s = true → ∀ c ∈ s, 0x20 < c.toNat ∧ c.toNat < 0x7F

/-- What is left to ask of an agent DID of Rust for TypeScript: its authority is not
`localhost` and not too long, and its ULID is in the canonical form. -/
def isPlainDid (did : RString) : Bool :=
  match did.splitOn ':' with
  | [_, _, authority, _, ulid] =>
      authority ≠ rs "localhost" && authority.length ≤ Protocol.MAX_AUTHORITY_LENGTH &&
        Protocol.isUlid (toJs ulid)
  | _ => false

/-- The ULID of the group id is in the canonical form. -/
def isPlainGroupId (groupId : RString) : Bool :=
  Protocol.isUlid (toJs (groupId.drop GROUP_ID_PREFIX.length))

theorem toJs_basic {s : RString} (h : ∀ c ∈ s, c.toNat < 0x80) : toJs s = s.map Utf16.toUnit := by
  refine Utf16.encode_of_basic ?_
  intro c hc
  have := h c hc
  omega

/-- A label of lower-case letters, digits and inner hyphens is one of TypeScript. -/
theorem isDnsLabel_toJs {label : RString} (hne : label ≠ []) (hhead : label.head? ≠ some '-')
    (hlast : label.getLast? ≠ some '-')
    (hall : ∀ c ∈ label, (isAsciiLowercase c || isAsciiDigit c || c == '-') = true) :
    Protocol.isDnsLabel (toJs label) = true := by
  have hrange : ∀ c ∈ label, c.toNat < 0x80 := by
    intro c hc
    have := hall c hc
    simp only [isAsciiLowercase, isAsciiDigit, Bool.or_eq_true, Bool.and_eq_true,
      decide_eq_true_eq, beq_iff_eq] at this
    rcases this with (h | h) | rfl
    · omega
    · omega
    · decide
  have hunit : ∀ c ∈ label, c ≠ '-' → Protocol.isLowerAlnum (Utf16.toUnit c) = true := by
    intro c hc hdash
    have hc' := hall c hc
    have hnat := Utf16.toUnit_toNat (c := c) (by have := hrange c hc; omega)
    simp only [isAsciiLowercase, isAsciiDigit, Bool.or_eq_true, Bool.and_eq_true,
      decide_eq_true_eq, beq_iff_eq, hdash, or_false] at hc'
    simp only [Protocol.isLowerAlnum, hnat, Bool.or_eq_true, Bool.and_eq_true, decide_eq_true_eq]
    omega
  obtain ⟨first, hfirst⟩ : ∃ c, label.head? = some c := by
    cases label with
    | nil => exact absurd rfl hne
    | cons c label => exact ⟨c, rfl⟩
  have hend := List.getLast?_eq_some_getLast hne
  rw [toJs_basic hrange]
  simp only [Protocol.isDnsLabel, List.head?_map, List.getLast?_map, hfirst, hend,
    Option.map_some, Option.any_some, Bool.and_eq_true, List.all_eq_true, List.mem_map,
    forall_exists_index, and_imp, forall_apply_eq_imp_iff₂, Bool.or_eq_true, beq_iff_eq]
  refine ⟨⟨?_, ?_⟩, ?_⟩
  · exact hunit first (List.mem_of_head? hfirst) (fun h => hhead (by rw [hfirst, h]))
  · exact hunit _ (List.getLast_mem hne) (fun h => hlast (by rw [hend, h]))
  · intro c hc
    by_cases hdash : c = '-'
    · subst hdash
      exact .inr rfl
    · exact .inl (hunit c hc hdash)

theorem isDnsLabel_of_isValidDnsLabel {label : RString} (h : isValidDnsLabel label = true) :
    Protocol.isDnsLabel (toJs label) = true := by
  simp only [isValidDnsLabel, Bool.and_eq_true, Bool.not_eq_true', List.isEmpty_eq_false_iff,
    decide_eq_true_eq, List.all_eq_true] at h
  obtain ⟨⟨⟨⟨hne, _⟩, hhead⟩, hlast⟩, hall⟩ := h
  exact isDnsLabel_toJs hne hhead hlast hall

/-- The octets of an IPv4 address are labels. -/
theorem isDnsLabel_of_isIpv4Octet {part : RString} (h : isIpv4Octet part = true) :
    Protocol.isDnsLabel (toJs part) = true := by
  simp only [isIpv4Octet, Bool.and_eq_true, decide_eq_true_eq, List.all_eq_true] at h
  obtain ⟨⟨⟨⟨hlength, _⟩, hall⟩, _⟩, _⟩ := h
  have hdash : '-' ∉ part := fun hmem => absurd (hall _ hmem) (by decide)
  refine isDnsLabel_toJs ?_ ?_ ?_ ?_
  · intro hnil
    rw [hnil] at hlength
    cases hlength
  · exact fun hhead => hdash (List.mem_of_head? hhead)
  · exact fun hlast => hdash (List.mem_of_getLast? hlast)
  · intro c hc
    simp [hall c hc]

theorem toJs_length_of_dotted {authority : RString}
    (h : Protocol.isDottedName (toJs authority) = true) :
    (toJs authority).length = authority.length := by
  have hbasic : ∀ u ∈ toJs authority, u.toNat < 0xD800 := by
    intro u hu
    have hrange := Protocol.isAuthorityUnit_range (Protocol.isDottedName_units h u hu)
    omega
  conv_rhs => rw [eq_map_of_basic hbasic]
  rw [List.length_map]

/-- An authority of Rust other than `localhost` is a dotted name. -/
theorem isDottedName_of_normalize {authority : RString}
    (h : normalizeDidAuthority authority = some authority) (hcolon : ':' ∉ authority)
    (hlocal : authority ≠ rs "localhost") : Protocol.isDottedName (toJs authority) = true := by
  simp only [normalizeDidAuthority, Option.ite_none_right_eq_some, Option.some.injEq] at h
  obtain ⟨hkind, hsame⟩ := h
  rw [hsame] at hkind
  -- an address or a name has two parts or more, and each is a label
  have hparts : 2 ≤ (authority.splitOn '.').length ∧
      ∀ label ∈ authority.splitOn '.', Protocol.isDnsLabel (toJs label) = true := by
    simp only [hlocal, decide_false, Bool.false_or, Bool.or_eq_true, isIpAddr, isIpv4Addr,
      isIpv6Addr_of_notMem hcolon, Bool.false_eq_true, or_false, isValidDnsAuthority,
      Bool.and_eq_true, decide_eq_true_eq, List.all_eq_true] at hkind
    rcases hkind with ⟨hfour, hall⟩ | ⟨htwo, hall⟩
    · exact ⟨by omega, fun label hlabel => isDnsLabel_of_isIpv4Octet (hall label hlabel)⟩
    · exact ⟨htwo, fun label hlabel => isDnsLabel_of_isValidDnsLabel (hall label hlabel)⟩
  have hsplit : (toJs authority).splitOn 0x2E = (authority.splitOn '.').map toJs :=
    splitOn_toJs (u := 0x2E) (by decide) authority
  rw [Protocol.isDottedName, hsplit, List.length_map, decide_eq_true hparts.1, Bool.true_and,
    List.all_map, List.all_eq_true]
  exact hparts.2

/-- **The authorities of Rust that TypeScript accepts.** -/
theorem isDidAuthority_toJs {authority : RString}
    (h : normalizeDidAuthority authority = some authority) (hcolon : ':' ∉ authority) :
    Protocol.isDidAuthority (toJs authority) =
      (authority ≠ rs "localhost" && authority.length ≤ Protocol.MAX_AUTHORITY_LENGTH) := by
  by_cases hlocal : authority = rs "localhost"
  · subst hlocal
    decide
  · have hdotted := isDottedName_of_normalize h hcolon hlocal
    rw [Protocol.isDidAuthority_eq, hdotted, toJs_length_of_dotted hdotted]
    simp [hlocal]

section
variable {ulidFromString : RString → Bool}

theorem parseEntity_eq_some {raw : RString} {entity : DidEntity} :
    parseEntity raw = some entity ↔ raw = entityText entity := by
  unfold parseEntity
  split
  · rename_i h
    subst h
    cases entity <;> simp [entityText]
  · split
    · rename_i h
      subst h
      cases entity <;> simp [entityText]
    · cases entity <;> simp [entityText, *]

/-- **What `parse_did` answers**, by the parts of the DID. -/
theorem parseDid_iff {value : RString} {parsed : ParsedDid} :
    parseDid ulidFromString value = some parsed ↔
      value.splitOn ':' =
          [rs "did", rs "cdi", parsed.authority, entityText parsed.entity, parsed.ulid] ∧
        normalizeDidAuthority parsed.authority = some parsed.authority ∧
        ulidFromString parsed.ulid = true := by
  unfold parseDid
  constructor
  · intro h
    split at h
    · rename_i scheme method authority rawEntity ulid hparts
      simp only [Option.bind_eq_bind, Option.ite_none_right_eq_some, Option.bind_eq_some_iff,
        Bool.and_eq_true, decide_eq_true_eq, Option.some.injEq] at h
      obtain ⟨⟨rfl, rfl⟩, normalized, hnormalized, rfl, entity, hentity, hulid, rfl⟩ := h
      rw [parseEntity_eq_some] at hentity
      exact ⟨by rw [hparts, hentity], hnormalized, hulid⟩
    · cases h
  · rintro ⟨hparts, hauthority, hulid⟩
    have hentity := parseEntity_eq_some.mpr (rfl : entityText parsed.entity = _)
    simp [hparts, hauthority, hulid, hentity]

/-- The agent DIDs of Rust, by their parts. -/
theorem isAgentDid_iff {value : RString} :
    isAgentDid ulidFromString value = true ↔ ∃ authority ulid,
      value.splitOn ':' = [rs "did", rs "cdi", authority, rs "agent", ulid] ∧
      normalizeDidAuthority authority = some authority ∧ ulidFromString ulid = true := by
  simp only [isAgentDid, parseAgentDid, Option.isSome_filter, Option.any_eq_true,
    decide_eq_true_eq, parseDid_iff]
  constructor
  · rintro ⟨⟨authority, entity, ulid⟩, ⟨hparts, hauthority, hulid⟩, rfl⟩
    exact ⟨authority, ulid, hparts, hauthority, hulid⟩
  · rintro ⟨authority, ulid, hparts, hauthority, hulid⟩
    exact ⟨⟨authority, .agent, ulid⟩, ⟨hparts, hauthority, hulid⟩, rfl⟩

/-- **The agent DIDs of Rust that TypeScript accepts** are the plain ones. -/
theorem isAgentDid_toJs {did : RString} (h : isAgentDid ulidFromString did = true) :
    Protocol.isAgentDid (toJs did) = isPlainDid did := by
  obtain ⟨authority, ulid, hparts, hauthority, _⟩ := isAgentDid_iff.mp h
  have hsplit : (toJs did).splitOn 0x3A =
      [js "did", js "cdi", toJs authority, js "agent", toJs ulid] := by
    have hsplit := splitOn_toJs (u := 0x3A) (by decide) did
    have hcolon : Utf16.ofUnit 0x3A = ':' := rfl
    rw [hcolon, hparts] at hsplit
    rw [hsplit]
    simp only [List.map_cons, List.map_nil, toJs_rs]
  have hcolon : ':' ∉ authority := Text.notMem_of_mem_splitOn (l := did) (by simp [hparts])
  rw [Bool.eq_iff_iff, Protocol.isAgentDid_iff, isPlainDid, hparts, hsplit]
  simp only [← isDidAuthority_toJs hauthority hcolon, Bool.and_eq_true]
  constructor
  · rintro ⟨authority', ulid', heq, hauthority', hulid'⟩
    simp only [List.cons.injEq, true_and, and_true] at heq
    obtain ⟨rfl, rfl⟩ := heq
    exact ⟨hauthority', hulid'⟩
  · intro ⟨hauthority', hulid'⟩
    exact ⟨toJs authority, toJs ulid, rfl, hauthority', hulid'⟩

/-- **The group ids of Rust that TypeScript accepts** are the plain ones. -/
theorem isGroupId_toJs (hvisible : ReadsVisible ulidFromString) {groupId : RString}
    (h : isGroupId ulidFromString groupId = true) (htrim : trim groupId = groupId) :
    Protocol.isGroupId (toJs groupId) = isPlainGroupId groupId := by
  simp only [isGroupId, parseGroupId, htrim] at h
  split at h
  case isFalse => simp at h
  rename_i hcheck
  rw [Bool.and_eq_true] at hcheck
  obtain ⟨ulid, rfl⟩ := List.isPrefixOf_iff_prefix.mp hcheck.1
  have hulid : ulidFromString ulid = true := by simpa using hcheck.2
  have htext : toJs (GROUP_ID_PREFIX ++ ulid) = Protocol.GROUP_ID_PREFIX ++ toJs ulid := by
    rw [toJs, Utf16.encode_append]
    exact congrArg (· ++ toJs ulid) (toJs_rs "grp_")
  have hgraphic : IsGraphic (Protocol.GROUP_ID_PREFIX ++ toJs ulid) := by
    intro u hu
    rcases List.mem_append.mp hu with hu | hu
    · have hliteral : ∀ v ∈ Protocol.GROUP_ID_PREFIX, 0x20 < v.toNat ∧ v.toNat < 0x7F :=
        forall_mem_of_all (by decide)
      exact hliteral u hu
    · have hrange := hvisible ulid hulid
      rw [toJs_basic fun c hc => by have := hrange c hc; omega] at hu
      obtain ⟨c, hc, rfl⟩ := List.mem_map.mp hu
      have := hrange c hc
      rw [Utf16.toUnit_toNat (by omega)]
      exact this
  have hstarts : Protocol.GROUP_ID_PREFIX.isPrefixOf (Protocol.GROUP_ID_PREFIX ++ toJs ulid) =
      true := List.isPrefixOf_iff_prefix.mpr (List.prefix_append _ _)
  rw [Protocol.isGroupId, Protocol.parseGroupId, htext, hgraphic.trim_eq, hstarts, isPlainGroupId,
    List.drop_left, List.drop_left]
  by_cases hcanonical : Protocol.isUlid (toJs ulid) = true
  · simp [hcanonical]
  · simp [hcanonical]

end

/-- `Ulid::from_string`, as it answers on the examples: 26 characters of Crockford's
alphabet, in either case. -/
def exampleUlidFromString (value : RString) : Bool :=
  value.length = 26 && value.all fun c =>
    let upper := if 0x61 ≤ c.toNat then c.toNat - 0x20 else c.toNat
    isAsciiDigit c || (0x41 ≤ upper && upper ≤ 0x5A && upper ≠ 0x49 && upper ≠ 0x4C &&
      upper ≠ 0x4F && upper ≠ 0x55)

theorem readsUlids_example : ReadsUlids exampleUlidFromString := by
  intro s hs
  have hlt := Protocol.isUlid_lt hs
  simp only [Protocol.isUlid, Bool.and_eq_true, List.all_eq_true, decide_eq_true_eq] at hs
  simp only [exampleUlidFromString, List.length_map, Bool.and_eq_true, List.all_eq_true,
    decide_eq_true_eq, List.mem_map, forall_exists_index, and_imp, forall_apply_eq_imp_iff₂]
  refine ⟨hs.1.1, ?_⟩
  intro u hu
  have hcrockford := hs.1.2 u hu
  have hrange := hlt u hu
  simp only [Protocol.isCrockford] at hcrockford
  simp only [isAsciiDigit, Utf16.ofUnit_toNat (by omega : u.toNat < 0xD800)]
  have hcase : ¬ 0x61 ≤ u.toNat := by
    simp at hcrockford
    omega
  rw [if_neg hcase]
  simp at hcrockford ⊢
  omega

theorem readsVisible_example : ReadsVisible exampleUlidFromString := by
  intro s hs c hc
  simp only [exampleUlidFromString, Bool.and_eq_true, List.all_eq_true, Bool.or_eq_true,
    isAsciiDigit, decide_eq_true_eq] at hs
  rcases hs.2 c hc with h | h
  · omega
  · split at h
    · omega
    · omega

end Clawdentity.Rust
