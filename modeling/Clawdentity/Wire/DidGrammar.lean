import Clawdentity.Rust.Identifiers

/-!
# DIDs in the two languages

The TypeScript parser and the Rust parser of DIDs take the same five parts. They differ in what
they ask of the authority and of the ULID: one limits the whole authority, the other each label;
one knows `localhost`; and the ULID crate reads more than the canonical form.

## Main definitions

* `ParsesAlike` — the two parsers give the same answer on a text.
* `DidsAgree` — the texts on which they do.
* `did_grammar` — that these are the texts, and what is parsed of a DID that was made.
-/

namespace Clawdentity.Wire.DidGrammar

open Js Lib Rust
open Protocol (DidEntity)

/-! ## One grammar -/

/-- A parsed DID of Rust, as JavaScript has it. -/
def toJsDid (parsed : Rust.ParsedDid) : Protocol.ParsedDid where
  authority := toJs parsed.authority
  entity := parsed.entity
  ulid := toJs parsed.ulid

/-- Both parsers refuse the text, or both accept it with the same parts. -/
def ParsesAlike (ulidFromString : RString → Bool) (value : RString) : Prop :=
  Protocol.parseDid (toJs value) = (Rust.parseDid ulidFromString value).map toJsDid

/-- No label is longer than 63 characters. -/
def ShortLabels (authority : JsString) : Prop :=
  ∀ label ∈ authority.splitOn 0x2E, label.length ≤ 63

/-- The two languages treat the authority alike, for an id that the ULID crate reads: it is not
`localhost`, and a dotted name is in the limits of both or of none. With an id that is not in
the canonical form, it is in the limits of none. -/
def AuthorityAgrees (authority ulid : RString) : Prop :=
  authority ≠ rs "localhost" ∧
    (Protocol.isDottedName (toJs authority) = true →
      if Protocol.isUlid (toJs ulid) = true then
        (authority.length ≤ Protocol.MAX_AUTHORITY_LENGTH ↔ ShortLabels (toJs authority))
      else ¬ShortLabels (toJs authority))

/-- Where the text has the parts of a DID and an id that the ULID crate reads, the two languages
treat its authority alike. -/
def DidsAgree (ulidFromString : RString → Bool) (value : RString) : Prop :=
  ∀ authority entity ulid,
    value.splitOn ':' = [rs "did", rs "cdi", authority, entityText entity, ulid] →
      ulidFromString ulid = true → AuthorityAgrees authority ulid

/-- The ULID crate reads no text with a colon. -/
def ReadsNoColons (ulidFromString : RString → Bool) : Prop :=
  ∀ s, ulidFromString s = true → ':' ∉ s

/-! ## The parts of a text -/

section
variable {ulidFromString : RString → Bool} {value authority ulid : RString} {entity : DidEntity}

instance : Decidable (ParsesAlike ulidFromString value) := inferInstanceAs (Decidable (_ = _))

instance (authority : JsString) : Decidable (ShortLabels authority) :=
  inferInstanceAs (Decidable (∀ _ ∈ _, _))

instance : Decidable (AuthorityAgrees authority ulid) := inferInstanceAs (Decidable (_ ∧ _))

theorem toJs_injective : Function.Injective toJs := by
  intro a b h
  have hread := congrArg ofJs h
  rw [ofJs_toJs, ofJs_toJs] at hread
  exact Option.some.inj hread

theorem toJs_entityText (entity : DidEntity) : toJs (entityText entity) = entity.text := by
  cases entity with
  | human => exact toJs_rs "human"
  | agent => exact toJs_rs "agent"

theorem splitOn_toJs_colon (value : RString) :
    (toJs value).splitOn 0x3A = (value.splitOn ':').map toJs :=
  splitOn_toJs (u := 0x3A) (by decide) value

/-- The parts that TypeScript finds are those of Rust. -/
theorem parts_of_toJs {authority ulid : JsString}
    (h : (toJs value).splitOn 0x3A = [js "did", js "cdi", authority, entity.text, ulid]) :
    ∃ authority' ulid', authority = toJs authority' ∧ ulid = toJs ulid' ∧
      value.splitOn ':' = [rs "did", rs "cdi", authority', entityText entity, ulid'] := by
  rw [splitOn_toJs_colon] at h
  obtain ⟨scheme, rest, hvalue, hscheme, h⟩ := List.map_eq_cons_iff.mp h
  obtain ⟨method, rest, rfl, hmethod, h⟩ := List.map_eq_cons_iff.mp h
  obtain ⟨authority', rest, rfl, hauthority, h⟩ := List.map_eq_cons_iff.mp h
  obtain ⟨rawEntity, rest, rfl, hentity, h⟩ := List.map_eq_cons_iff.mp h
  obtain ⟨ulid', rest, rfl, hulid, h⟩ := List.map_eq_cons_iff.mp h
  obtain rfl := List.map_eq_nil_iff.mp h
  refine ⟨authority', ulid', hauthority.symm, hulid.symm, ?_⟩
  rw [hvalue, toJs_injective (hscheme.trans (toJs_rs "did").symm),
    toJs_injective (hmethod.trans (toJs_rs "cdi").symm),
    toJs_injective (hentity.trans (toJs_entityText entity).symm)]

/-- What TypeScript answers on a text with the parts of a DID. -/
theorem parseDid_toJs
    (hparts : value.splitOn ':' = [rs "did", rs "cdi", authority, entityText entity, ulid]) :
    Protocol.parseDid (toJs value) =
      if Protocol.isDidAuthority (toJs authority) && Protocol.isUlid (toJs ulid) then
        some ⟨toJs authority, entity, toJs ulid⟩
      else none := by
  have hentity : Protocol.parseEntity entity.text = some entity :=
    Protocol.parseEntity_eq_some.mpr rfl
  simp only [Protocol.parseDid, splitOn_toJs_colon, hparts, List.map_cons, List.map_nil, toJs_rs,
    toJs_entityText, hentity]
  cases Protocol.isDidAuthority (toJs authority) <;> simp

/-- What Rust answers on it. -/
theorem parseDid_rust
    (hparts : value.splitOn ':' = [rs "did", rs "cdi", authority, entityText entity, ulid]) :
    Rust.parseDid ulidFromString value =
      if normalizeDidAuthority authority = some authority ∧ ulidFromString ulid = true then
        some ⟨authority, entity, ulid⟩
      else none := by
  split
  · rename_i h
    exact parseDid_iff.mpr ⟨hparts, h.1, h.2⟩
  · rename_i h
    rw [Option.eq_none_iff_forall_ne_some]
    rintro ⟨authority', entity', ulid'⟩ heq
    obtain ⟨hparts', hauthority, hulid⟩ := parseDid_iff.mp heq
    rw [hparts] at hparts'
    simp only [List.cons.injEq, true_and, and_true] at hparts'
    obtain ⟨rfl, _, rfl⟩ := hparts'
    exact h ⟨hauthority, hulid⟩

/-- The authorities of Rust: `localhost`, and the dotted names with short labels. -/
theorem normalizeDidAuthority_iff (hcolon : ':' ∉ authority) :
    normalizeDidAuthority authority = some authority ↔
      authority = rs "localhost" ∨
        (Protocol.isDottedName (toJs authority) = true ∧ ShortLabels (toJs authority)) := by
  by_cases hlocal : authority = rs "localhost"
  · subst hlocal
    simp only [true_or, iff_true]
    decide
  simp only [hlocal, false_or]
  have hmap : Protocol.isDottedName (toJs authority) = true →
      (normalizeDidAuthority authority = some authority ↔ ShortLabels (toJs authority)) := by
    intro hdotted
    have hnormalize := normalizeDidAuthority_map hdotted
    have hbasic : ∀ u ∈ toJs authority, u.toNat < 0xD800 := by
      intro u hu
      have hrange := Protocol.isAuthorityUnit_range (Protocol.isDottedName_units hdotted u hu)
      omega
    rw [← eq_map_of_basic hbasic] at hnormalize
    rw [hnormalize]
    simp [ShortLabels]
  constructor
  · intro h
    have hdotted := isDottedName_of_normalize h hcolon hlocal
    exact ⟨hdotted, (hmap hdotted).mp h⟩
  · intro h
    exact (hmap h.1).mpr h.2

/-- A text with the parts of a DID is parsed alike where the authority is treated alike. -/
theorem parsesAlike_of_parts (hulids : ReadsUlids ulidFromString)
    (hparts : value.splitOn ':' = [rs "did", rs "cdi", authority, entityText entity, ulid]) :
    ParsesAlike ulidFromString value ↔
      (ulidFromString ulid = true → AuthorityAgrees authority ulid) := by
  have hcolon : ':' ∉ authority := Text.notMem_of_mem_splitOn (l := value) (by simp [hparts])
  have hanswers : ParsesAlike ulidFromString value ↔
      ((Protocol.isDidAuthority (toJs authority) && Protocol.isUlid (toJs ulid)) = true ↔
        normalizeDidAuthority authority = some authority ∧ ulidFromString ulid = true) := by
    rw [ParsesAlike, parseDid_toJs hparts, parseDid_rust hparts]
    split
    · rename_i hts
      split
      · rename_i hrust
        simp [toJsDid, hrust, hts]
      · rename_i hrust
        simp [hrust, hts]
    · rename_i hts
      split
      · rename_i hrust
        simp [hrust, hts]
      · rename_i hrust
        simp [hrust, hts]
  have hcanonical : Protocol.isUlid (toJs ulid) = true → ulidFromString ulid = true := by
    intro h
    have hread := hulids _ h
    have hbasic : ∀ u ∈ toJs ulid, u.toNat < 0xD800 := by
      intro u hu
      have hlt := Protocol.isUlid_lt h u hu
      omega
    rwa [← eq_map_of_basic hbasic] at hread
  have hlocal : authority = rs "localhost" → Protocol.isDottedName (toJs authority) = false := by
    rintro rfl
    decide
  have hlength : Protocol.isDottedName (toJs authority) = true →
      (toJs authority).length = authority.length := toJs_length_of_dotted
  rw [hanswers, normalizeDidAuthority_iff hcolon, Protocol.isDidAuthority_eq, AuthorityAgrees]
  simp only [Bool.and_eq_true, decide_eq_true_eq]
  -- what remains is about which of the six facts hold
  by_cases hdotted : Protocol.isDottedName (toJs authority) = true
  · have hname : authority ≠ rs "localhost" := by
      intro heq
      exact Bool.false_ne_true ((hlocal heq).symm.trans hdotted)
    rw [hlength hdotted]
    by_cases hulid : Protocol.isUlid (toJs ulid) = true
    · simp [hdotted, hname, hulid, hcanonical hulid]
    · cases hread : ulidFromString ulid <;> simp [hdotted, hname, hulid]
  · cases hread : ulidFromString ulid <;> simp [hdotted]

/-- **The texts that are parsed alike.** -/
theorem parsesAlike_iff (hulids : ReadsUlids ulidFromString) (value : RString) :
    ParsesAlike ulidFromString value ↔ DidsAgree ulidFromString value := by
  constructor
  · intro h authority entity ulid hparts
    exact (parsesAlike_of_parts hulids hparts).mp h
  intro h
  by_cases hshape : ∃ authority entity ulid,
      value.splitOn ':' = [rs "did", rs "cdi", authority, entityText entity, ulid]
  · obtain ⟨authority, entity, ulid, hparts⟩ := hshape
    exact (parsesAlike_of_parts hulids hparts).mpr (h authority entity ulid hparts)
  · -- a text without the parts of a DID is none in either language
    have hts : Protocol.parseDid (toJs value) = none := by
      rw [Option.eq_none_iff_forall_ne_some]
      intro parsed heq
      obtain ⟨authority, ulid, _, _, hparts⟩ := parts_of_toJs (Protocol.parseDid_iff.mp heq).1
      exact hshape ⟨authority, parsed.entity, ulid, hparts⟩
    have hrust : Rust.parseDid ulidFromString value = none := by
      rw [Option.eq_none_iff_forall_ne_some]
      intro parsed heq
      exact hshape ⟨parsed.authority, parsed.entity, parsed.ulid, (parseDid_iff.mp heq).1⟩
    rw [ParsesAlike, hts, hrust]
    rfl

/-- A string with a lone surrogate, which is no text of Rust, is no DID of TypeScript. -/
theorem parseDid_of_ofJs_none {value : JsString} (h : ofJs value = none) :
    Protocol.parseDid value = none := by
  rw [Option.eq_none_iff_forall_ne_some]
  intro parsed heq
  have hlt := Protocol.parseDid_lt heq
  have hread : ofJs value = some (value.map Utf16.ofUnit) := by
    refine Utf16.decode_of_basic ?_
    intro u hu
    have := hlt u hu
    omega
  rw [h] at hread
  cases hread

/-! ## Making DIDs -/

/-- **What `make_did` makes is parsed to what it was made of** where the authority is as
`normalize_did_authority` leaves it and is no IPv6 address. -/
theorem parseDid_of_makeDid (hcolons : ReadsNoColons ulidFromString) {did : RString}
    (h : Rust.makeDid ulidFromString authority entity ulid = some did) :
    Rust.parseDid ulidFromString did = some { authority, entity, ulid } ↔
      normalizeDidAuthority authority = some authority ∧ ':' ∉ authority := by
  constructor
  · intro hparse
    obtain ⟨hparts, hauthority, _⟩ := parseDid_iff.mp hparse
    exact ⟨hauthority, Text.notMem_of_mem_splitOn (l := did) (by simp [hparts])⟩
  · rintro ⟨hauthority, hcolon⟩
    simp only [Rust.makeDid, hauthority, Option.bind_eq_bind, Option.bind_some,
      Option.ite_none_right_eq_some, Option.some.injEq] at h
    obtain ⟨hulid, rfl⟩ := h
    refine parseDid_iff.mpr ⟨?_, hauthority, hulid⟩
    have hscheme : rs "did:cdi:" = rs "did" ++ ':' :: (rs "cdi" ++ [':']) := by decide
    have hsep : rs ":" = [':'] := by decide
    have hdid : ':' ∉ rs "did" := by decide
    have hcdi : ':' ∉ rs "cdi" := by decide
    have hentity : ':' ∉ entityText entity := by cases entity <;> decide
    rw [hscheme, hsep]
    simp only [List.append_assoc, List.cons_append, List.nil_append]
    rw [Text.splitOn_append_sep hdid, Text.splitOn_append_sep hcdi, Text.splitOn_append_sep hcolon,
      Text.splitOn_append_sep hentity, Text.splitOn_of_notMem (hcolons ulid hulid)]

/-- **The grammar of DIDs in the two languages.** They parse a text alike exactly where they
treat its authority alike; what TypeScript makes is parsed to what it was made of; and what Rust
makes is, exactly where the authority is in its normal form and is no IPv6 address. -/
theorem did_grammar (hulids : ReadsUlids ulidFromString) (hcolons : ReadsNoColons ulidFromString) :
    (∀ value, ParsesAlike ulidFromString value ↔ DidsAgree ulidFromString value) ∧
    (∀ value, ofJs value = none → Protocol.parseDid value = none) ∧
    (∀ authority entity id did, Protocol.makeDid authority entity id = some did →
      Protocol.parseDid did = some { authority, entity, ulid := id }) ∧
    ∀ authority entity ulid did, Rust.makeDid ulidFromString authority entity ulid = some did →
      (Rust.parseDid ulidFromString did = some { authority, entity, ulid } ↔
        normalizeDidAuthority authority = some authority ∧ ':' ∉ authority) := by
  refine ⟨parsesAlike_iff hulids, fun _ => parseDid_of_ofJs_none, ?_, ?_⟩
  · intro authority entity id did
    exact Protocol.parseDid_of_makeDid
  · intro authority entity ulid did
    exact parseDid_of_makeDid hcolons

end

/-- A DID of a registry that runs on the local host. -/
def exampleDid : RString := rs "did:cdi:localhost:agent:01HF7YAT00M5H6RVQ6Q6N1W30X"

/-- **Only Rust takes the authority `localhost`.** -/
theorem not_parsesAlike : ¬ParsesAlike exampleUlidFromString exampleDid := by decide

theorem readsNoColons_example : ReadsNoColons exampleUlidFromString := by
  intro s hs hmem
  simp only [exampleUlidFromString, Bool.and_eq_true, List.all_eq_true] at hs
  exact absurd (hs.2 ':' hmem) (by decide)

/-- The DID of the hosted registry is parsed alike, and one that names an IPv6 address is made
and not parsed. -/
theorem exampleDids_grammar :
    ParsesAlike exampleUlidFromString
      (rs "did:cdi:registry.clawdentity.com:agent:01HF7YAT00M5H6RVQ6Q6N1W30X") ∧
    Rust.parseDid exampleUlidFromString (rs "did:cdi:::1:agent:01HF7YAT00M5H6RVQ6Q6N1W30X") ≠
      some ⟨rs "::1", .agent, rs "01HF7YAT00M5H6RVQ6Q6N1W30X"⟩ := by
  obtain ⟨halike, _, _, hmade⟩ := did_grammar readsUlids_example readsNoColons_example
  constructor
  · refine (halike _).mpr ?_
    intro authority entity ulid hparts _
    have hsplit : (rs "did:cdi:registry.clawdentity.com:agent:01HF7YAT00M5H6RVQ6Q6N1W30X").splitOn
        ':' = [rs "did", rs "cdi", rs "registry.clawdentity.com", rs "agent",
          rs "01HF7YAT00M5H6RVQ6Q6N1W30X"] := by decide
    rw [hsplit] at hparts
    simp only [List.cons.injEq, true_and, and_true] at hparts
    obtain ⟨rfl, _, rfl⟩ := hparts
    exact ⟨by decide, by decide⟩
  · rw [ne_eq, hmade (rs "::1") .agent (rs "01HF7YAT00M5H6RVQ6Q6N1W30X")
      (rs "did:cdi:::1:agent:01HF7YAT00M5H6RVQ6Q6N1W30X") (by decide)]
    decide

end Clawdentity.Wire.DidGrammar
