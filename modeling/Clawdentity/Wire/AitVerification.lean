import Clawdentity.Rust.AitVerify
import Clawdentity.Sdk.AitJwt
import Clawdentity.Wire.DidGrammar

/-!
# Agent identity tokens in the two languages

A token is given to the TypeScript verifier and to the Rust verifier, with the same keys, the
same expected issuer and at the same time. What either checks falls in three parts: what both
check, what only TypeScript checks, and what only Rust checks.

## Main definitions

* `Reading` — what a token holds that both verifiers read.
* `SharedChecks`, `OnlyTypeScript`, `OnlyRust` — the three parts.
* `AcceptedAlike`, `AitsAgree` — the verifiers accept the same, and the condition for it.
* `FollowsProtocol` — the validation rules of the protocol.
* `ait_verification` — where the verifiers agree.
-/

namespace Clawdentity.Wire.AitVerification

open Js Lib Rust
open Protocol (AitToken AitClaims ED25519_PUBLIC_KEY_LENGTH MAX_SAFE_INTEGER)
open AitJwt (Jose RegistryAitVerificationKey verifyAIT)
open DidGrammar (toJs_injective parts_of_toJs parseDid_toJs)

/-! ## The checks -/

/-- What both verifiers read of a token, with the key that it names. -/
structure Reading where
  key : RegistryVerificationKey
  publicKey : List UInt8
  iss : JsString
  sub : RString
  ownerDid : RString
  jti : RString
  exp : ℤ
  authority : RString
  agentUlid : RString
  ownerUlid : RString

/-- The JSON crate reads the integers that JavaScript represents as they are. -/
def ReadsIntegers (serde : Serde) : Prop :=
  ∀ n : ℕ, n ≤ MAX_SAFE_INTEGER → serde.number n = some (n : ℚ)

section
variable (toLowerCase : JsString → JsString) (jose : Jose) (ulidFromString : RString → Bool)
  (parseUrl : RString → Option (Option RString)) (serde : Serde) (token : AitToken)
  (keys : List RegistryVerificationKey) (expectedIssuer : Option RString) (now : ℤ)

/-- A key of the registry, as the TypeScript verifier has it. -/
def toRegistryKey (key : RegistryVerificationKey) : RegistryAitVerificationKey where
  kid := toJs key.kid
  jwk := { x := toJs key.x }

/-- What both verifiers check: the `kid` names a key under which the signature verifies, the
token is not expired, an expected issuer is the issuer, and `sub` and `ownerDid` are an agent
and a human of one authority. -/
structure SharedChecks (r : Reading) : Prop where
  kid : getStr token.header "kid" = some (toJs r.key.kid)
  key : (keys.find? fun key => key.kid = r.key.kid) = some r.key
  publicKey : jose.importJWK (toJs r.key.x) = some r.publicKey
  signature : token.verifies r.publicKey = true
  names : ∀ field ∈ token.claims, (ofJs field.1).isSome = true
  iss : getStr token.payload "iss" = some r.iss
  sub : getStr token.payload "sub" = some (toJs r.sub)
  ownerDid : getStr token.payload "ownerDid" = some (toJs r.ownerDid)
  jti : getStr token.payload "jti" = some (toJs r.jti)
  exp : readI64 serde token.payload "exp" = some r.exp
  notExpired : now < r.exp
  issuer : ∀ expected, expectedIssuer = some expected → expected ≠ [] → r.iss = toJs expected
  agent : r.sub.splitOn ':' = [rs "did", rs "cdi", r.authority, entityText .agent, r.agentUlid]
  owner : r.ownerDid.splitOn ':' =
    [rs "did", rs "cdi", r.authority, entityText .human, r.ownerUlid]
  agentUlid : ulidFromString r.agentUlid = true
  ownerUlid : ulidFromString r.ownerUlid = true

/-- What only TypeScript checks: the algorithm, the type and the extensions of the header, the
other claims with the times between them, `nbf`, and the canonical form of what DIDs are made
of. -/
structure OnlyTypeScript (r : Reading) : Prop where
  alg : getStr token.header "alg" = some (js "EdDSA")
  typ : getStr token.header "typ" = some (js "AIT")
  kid : r.key.kid ≠ []
  crit : jose.understandsCrit token.header = true
  schema : ∃ claims, AitClaims.ofJson token.payload = some claims ∧ claims.FollowsSchema ∧
    (claims.nbf : ℤ) ≤ now
  host : Protocol.parseIssuerHostname toLowerCase r.iss = some (toJs r.authority)
  authority : Protocol.isDidAuthority (toJs r.authority) = true
  agentUlid : Protocol.isUlid (toJs r.agentUlid) = true
  ownerUlid : Protocol.isUlid (toJs r.ownerUlid) = true

/-- What only Rust checks: that it can read the header, the key and the issuer, that the URL
crate finds the authority in the issuer, and that the authority is one of its own. An empty
issuer is compared as well. -/
structure OnlyRust (r : Reading) : Prop where
  header : (serde.read token.header).isSome = true
  key : ∃ bytes, Base64url.decode r.key.x = some bytes ∧ bytes.length = ED25519_PUBLIC_KEY_LENGTH
  host : ∃ iss host, r.iss = toJs iss ∧ parseUrl iss = some (some host) ∧
    normalizeDidAuthority host = some r.authority
  authority : normalizeDidAuthority r.authority = some r.authority
  issuer : expectedIssuer = some [] → r.iss = []

def AcceptedByTypeScript : Prop :=
  ∃ claims, verifyAIT toLowerCase jose token (keys.map toRegistryKey) (expectedIssuer.map toJs) now =
    .ok claims

def AcceptedByRust : Prop :=
  ∃ claims, verifyAitToken ulidFromString parseUrl serde token keys expectedIssuer now = .ok claims

/-- Both verifiers accept the token, or both refuse it. -/
def AcceptedAlike : Prop :=
  AcceptedByTypeScript toLowerCase jose token keys expectedIssuer now ↔
    AcceptedByRust ulidFromString parseUrl serde token keys expectedIssuer now

/-- A token that passes what both check passes what only one of them checks for both of them or
for none. -/
def AitsAgree : Prop :=
  ∀ r, SharedChecks jose ulidFromString serde token keys expectedIssuer now r →
    (OnlyTypeScript toLowerCase jose token now r ↔
      OnlyRust parseUrl serde token expectedIssuer r)

/-- The validation rules of the protocol, without the rule about revoked tokens. -/
structure FollowsProtocol : Prop where
  alg : getStr token.header "alg" = some (js "EdDSA")
  typ : getStr token.header "typ" = some (js "AIT")
  signature : ∃ key ∈ keys, getStr token.header "kid" = some (toJs key.kid) ∧
    ∃ publicKey, jose.importJWK (toJs key.x) = some publicKey ∧ token.verifies publicKey = true
  sub : ∃ sub did, getStr token.payload "sub" = some sub ∧ Protocol.parseDid sub = some did
  ownerDid : ∃ ownerDid did, getStr token.payload "ownerDid" = some ownerDid ∧
    Protocol.parseDid ownerDid = some did
  cnf : ∃ cnf bytes, (token.payload.get? (js "cnf")).bind Protocol.AitCnf.ofJson = some cnf ∧
    Protocol.decodeBase64url cnf.jwk.x = some bytes ∧ bytes.length = ED25519_PUBLIC_KEY_LENGTH
  times : ∃ iat nbf exp : ℕ, Protocol.getSeconds token.payload "iat" = some iat ∧
    Protocol.getSeconds token.payload "nbf" = some nbf ∧
    Protocol.getSeconds token.payload "exp" = some exp ∧ nbf < exp ∧ iat < exp ∧
    (nbf : ℤ) ≤ now ∧ now ≤ exp
  jti : ∃ jti, getStr token.payload "jti" = some jti ∧ Protocol.isUlid jti = true

end

section
variable {toLowerCase : JsString → JsString} {jose : Jose} {ulidFromString : RString → Bool}
  {parseUrl : RString → Option (Option RString)} {serde : Serde} {token : AitToken}
  {keys : List RegistryVerificationKey} {expectedIssuer : Option RString} {now : ℤ}

/-- A token holds one reading at most. -/
theorem SharedChecks.unique {r r' : Reading}
    (h : SharedChecks jose ulidFromString serde token keys expectedIssuer now r)
    (h' : SharedChecks jose ulidFromString serde token keys expectedIssuer now r') : r = r' := by
  have hkid : r.key.kid = r'.key.kid := toJs_injective (Option.some.inj (h.kid.symm.trans h'.kid))
  have hkey : r.key = r'.key := by
    have hfind := h'.key
    rw [← hkid, h.key] at hfind
    exact Option.some.inj hfind
  have hpublic : r.publicKey = r'.publicKey := by
    have himport := h'.publicKey
    rw [← hkey, h.publicKey] at himport
    exact Option.some.inj himport
  have hsub : r.sub = r'.sub := toJs_injective (Option.some.inj (h.sub.symm.trans h'.sub))
  have howner : r.ownerDid = r'.ownerDid :=
    toJs_injective (Option.some.inj (h.ownerDid.symm.trans h'.ownerDid))
  have hjti : r.jti = r'.jti := toJs_injective (Option.some.inj (h.jti.symm.trans h'.jti))
  have hiss : r.iss = r'.iss := Option.some.inj (h.iss.symm.trans h'.iss)
  have hexp : r.exp = r'.exp := Option.some.inj (h.exp.symm.trans h'.exp)
  have hagent := h'.agent
  rw [← hsub, h.agent] at hagent
  have hhuman := h'.owner
  rw [← howner, h.owner] at hhuman
  simp only [List.cons.injEq, true_and, and_true] at hagent hhuman
  cases r
  cases r'
  simp_all

/-! ## Numbers, keys and ULIDs -/

/-- A number of seconds is read by Rust as it is. -/
theorem readI64_of_getSeconds (hserde : ReadsIntegers serde) {v : Value} {key : String} {n : ℕ}
    (h : Protocol.getSeconds v key = some n) : readI64 serde v key = some (n : ℤ) := by
  obtain ⟨q, hq, hint⟩ := Option.bind_eq_some_iff.mp h
  have hle := Protocol.parseNonnegativeInt_le hint
  have hval := Protocol.eq_of_parseNonnegativeInt hint
  subst hval
  have hrange : -2 ^ 63 ≤ (n : ℤ) ∧ (n : ℤ) < 2 ^ 63 := by
    simp only [MAX_SAFE_INTEGER] at hle
    omega
  simp [readI64, hq, hserde n hle, Json.int?, Json.num?]
  omega

theorem ulid_of_canonical (hulids : ReadsUlids ulidFromString) {ulid : RString}
    (h : Protocol.isUlid (toJs ulid) = true) : ulidFromString ulid = true := by
  have hread := hulids _ h
  have hbasic : ∀ u ∈ toJs ulid, u.toNat < 0xD800 := by
    intro u hu
    have hlt := Protocol.isUlid_lt h u hu
    omega
  rwa [← eq_map_of_basic hbasic] at hread

/-- A key that Rust decodes is decoded alike by TypeScript. -/
theorem decodeBase64url_toJs {x : RString} {bytes : List UInt8}
    (h : Base64url.decode x = some bytes) : Protocol.decodeBase64url (toJs x) = some bytes := by
  have hbasic : ∀ u ∈ toJs x, u.toNat < 0xD800 := by
    have hascii : ∀ c ∈ x, c.toNat < 0x80 :=
      fun c hc => (Base64url.isDigit_of_decode h c hc).lt
    rw [toJs_basic hascii]
    intro u hu
    obtain ⟨c, hc, rfl⟩ := List.mem_map.mp hu
    have hlt := hascii c hc
    rw [Utf16.toUnit_toNat (by omega)]
    omega
  rw [Protocol.decodeBase64url, ← eq_map_of_basic hbasic, h]

theorem find?_toRegistryKey (kid : RString) :
    ((keys.map toRegistryKey).find? fun item => item.kid = toJs kid) =
      (keys.find? fun key => key.kid = kid).map toRegistryKey := by
  have hsame : ((fun item : RegistryAitVerificationKey => decide (item.kid = toJs kid)) ∘
      toRegistryKey) = fun key : RegistryVerificationKey => decide (key.kid = kid) := by
    funext key
    simp [toRegistryKey, toJs_injective.eq_iff]
  rw [List.find?_map, hsame]

/-! ## What TypeScript accepts -/

/-- The claims of a schema without control of the names are read by Rust as well. -/
theorem names_of_strict {keys : List String} (h : strictKeys token.payload keys = true) :
    ∀ field ∈ token.claims, (ofJs field.1).isSome = true := by
  simp only [strictKeys, AitToken.payload, List.all_eq_true, decide_eq_true_eq] at h
  intro field hfield
  obtain ⟨key, _, hkey⟩ := List.mem_map.mp (h field hfield)
  rw [← hkey, ofJs_js]
  rfl

theorem exists_toJs_of_parseDid {value : JsString} {parsed : Protocol.ParsedDid}
    (h : Protocol.parseDid value = some parsed) : ∃ r, value = toJs r := by
  have hlt := Protocol.parseDid_lt h
  refine ⟨value.map Utf16.ofUnit, (Utf16.encode_map_ofUnit ?_).symm⟩
  intro u hu
  have := hlt u hu
  omega

theorem exists_toJs_of_isUlid {value : JsString} (h : Protocol.isUlid value = true) :
    ∃ r, value = toJs r := by
  have hlt := Protocol.isUlid_lt h
  refine ⟨value.map Utf16.ofUnit, (Utf16.encode_map_ofUnit ?_).symm⟩
  intro u hu
  have := hlt u hu
  omega

/-- The parts of a DID of TypeScript, as Rust has them. -/
theorem parts_of_parseDid {value : RString} {parsed : Protocol.ParsedDid}
    (h : Protocol.parseDid (toJs value) = some parsed) :
    ∃ authority ulid, parsed.authority = toJs authority ∧ parsed.ulid = toJs ulid ∧
      value.splitOn ':' = [rs "did", rs "cdi", authority, entityText parsed.entity, ulid] ∧
      Protocol.isDidAuthority (toJs authority) = true ∧ Protocol.isUlid (toJs ulid) = true := by
  obtain ⟨hparts, hauthority, hulid⟩ := Protocol.parseDid_iff.mp h
  obtain ⟨authority, ulid, hauth, hul, hsplit⟩ := parts_of_toJs hparts
  exact ⟨authority, ulid, hauth, hul, hsplit, hauth ▸ hauthority, hul ▸ hulid⟩

theorem toRegistryKey_injective : Function.Injective toRegistryKey := by
  rintro ⟨kid, x⟩ ⟨kid', x'⟩ h
  simp only [toRegistryKey, RegistryAitVerificationKey.mk.injEq, Protocol.AitCnfJwk.mk.injEq] at h
  rw [toJs_injective h.1, toJs_injective h.2]

/-- The key that a `kid` of JavaScript names. -/
theorem find?_toRegistryKey_eq_some {kid : JsString} {key : RegistryAitVerificationKey}
    (h : ((keys.map toRegistryKey).find? fun item => item.kid = kid) = some key) :
    ∃ key' : RegistryVerificationKey, key = toRegistryKey key' ∧ kid = toJs key'.kid ∧
      (keys.find? fun entry => entry.kid = key'.kid) = some key' := by
  obtain ⟨key', _, rfl⟩ := List.mem_map.mp (List.mem_of_find?_eq_some h)
  have htest := List.find?_some h
  have hkid : toJs key'.kid = kid := of_decide_eq_true htest
  refine ⟨key', rfl, hkid.symm, ?_⟩
  rw [← hkid, find?_toRegistryKey] at h
  obtain ⟨found, hfound, hsame⟩ := Option.map_eq_some_iff.mp h
  rw [hfound, toRegistryKey_injective hsame]

/-- The times of the claims, as the library and the schema see them. -/
theorem validClaimsSet_iff {payload : Value} {claims : AitClaims} {issuer : Option JsString}
    (h : claims.ReadFrom payload) :
    AitJwt.validClaimsSet payload issuer now = true ↔
      (∀ expected, issuer = some expected → expected ≠ [] → claims.iss = expected) ∧
        (claims.nbf : ℤ) ≤ now ∧ now < claims.exp := by
  have htime : ∀ {key : String} {n : ℕ} (test : ℚ → Bool),
      Protocol.getSeconds payload key = some n →
        AitJwt.timeClaim payload key test = test (n : ℚ) := by
    intro key n test hkey
    obtain ⟨q, hq, hint⟩ := Option.bind_eq_some_iff.mp hkey
    obtain ⟨v, hv, hnum⟩ := Option.bind_eq_some_iff.mp hq
    rw [AitJwt.timeClaim, hv]
    simp only [hnum, Option.any_some, Protocol.eq_of_parseNonnegativeInt hint]
  have hthere : (payload.get? (js "iss")).isSome = true := by
    obtain ⟨v, hv, _⟩ := Option.bind_eq_some_iff.mp h.iss
    exact Option.isSome_of_eq_some hv
  simp only [AitJwt.validClaimsSet, htime _ h.iat, htime _ h.nbf, htime _ h.exp, h.iss, hthere,
    Bool.and_eq_true, Option.all_eq_true, Bool.or_eq_true, List.isEmpty_iff, decide_eq_true_eq,
    Option.some.injEq, and_true, true_and]
  rw [← Rat.intCast_natCast, ← Rat.intCast_natCast, Rat.intCast_le_intCast,
    Rat.intCast_lt_intCast, and_assoc]
  refine and_congr_left' ?_
  constructor
  · intro hissuer expected hexpected hne
    exact (hissuer expected hexpected).resolve_left hne
  · intro hissuer expected hexpected
    by_cases hempty : expected = []
    · exact .inl hempty
    · exact .inr (hissuer expected hexpected hempty)

theorem acceptedByTypeScript_iff (hulids : ReadsUlids ulidFromString)
    (hserde : ReadsIntegers serde) (hjose : jose.Documented) :
    AcceptedByTypeScript toLowerCase jose token keys expectedIssuer now ↔
      ∃ r, SharedChecks jose ulidFromString serde token keys expectedIssuer now r ∧
        OnlyTypeScript toLowerCase jose token now r := by
  simp only [AcceptedByTypeScript, AitJwt.verifyAIT_eq_ok hjose,
    AitJwt.ensureAitProtectedHeader_eq_ok, Protocol.parseAitClaims_iff]
  constructor
  · rintro ⟨claims, kid, key, publicKey, ⟨halg, htyp, hkid, hne⟩, hkey, himport, hsigned, hcrit,
      hset, hread, hschema, authority, agentUlid, ownerUlid, hhost, hof⟩
    have hfields := AitClaims.readFrom_of_ofJson hread
    obtain ⟨hissuer, hnbf, hexp⟩ := (validClaimsSet_iff hfields).mp hset
    obtain ⟨key, rfl, rfl, hfind⟩ := find?_toRegistryKey_eq_some hkey
    obtain ⟨sub, hsub⟩ := exists_toJs_of_parseDid hof.sub
    obtain ⟨owner, howner⟩ := exists_toJs_of_parseDid hof.owner
    obtain ⟨jti, hjti⟩ := exists_toJs_of_isUlid hschema.jti
    obtain ⟨authority, agentUlid, rfl, rfl, hagent, hauthority, hagentUlid⟩ :=
      parts_of_parseDid (hsub ▸ hof.sub)
    obtain ⟨authority', ownerUlid, hsame, rfl, hhuman, _, hownerUlid⟩ :=
      parts_of_parseDid (howner ▸ hof.owner)
    obtain rfl := toJs_injective hsame
    refine ⟨⟨key, publicKey, claims.iss, sub, owner, jti, claims.exp, authority, agentUlid,
      ownerUlid⟩, ?_, ?_⟩
    · exact {
        kid := hkid
        key := hfind
        publicKey := himport
        signature := hsigned
        names := names_of_strict hfields.strict
        iss := hfields.iss
        sub := hsub ▸ hfields.sub
        ownerDid := howner ▸ hfields.ownerDid
        jti := hjti ▸ hfields.jti
        exp := readI64_of_getSeconds hserde hfields.exp
        notExpired := hexp
        issuer := by
          intro expected hexpected hnonempty
          refine hissuer (toJs expected) (by rw [hexpected]; rfl) ?_
          exact fun hempty => hnonempty (toJs_injective hempty)
        agent := hagent
        owner := hhuman
        agentUlid := ulid_of_canonical hulids hagentUlid
        ownerUlid := ulid_of_canonical hulids hownerUlid }
    · exact {
        alg := halg
        typ := htyp
        kid := by
          rintro hempty
          exact hne (by rw [hempty]; rfl)
        crit := hcrit
        schema := ⟨claims, hread, hschema, hnbf⟩
        host := hhost
        authority := hauthority
        agentUlid := hagentUlid
        ownerUlid := hownerUlid }
  · rintro ⟨r, hshared, honly⟩
    obtain ⟨claims, hread, hschema, hnbf⟩ := honly.schema
    have hfields := AitClaims.readFrom_of_ofJson hread
    have hiss : claims.iss = r.iss := Option.some.inj (hfields.iss.symm.trans hshared.iss)
    have hsub : claims.sub = toJs r.sub := Option.some.inj (hfields.sub.symm.trans hshared.sub)
    have howner : claims.ownerDid = toJs r.ownerDid :=
      Option.some.inj (hfields.ownerDid.symm.trans hshared.ownerDid)
    have hexp : (claims.exp : ℤ) = r.exp :=
      Option.some.inj ((readI64_of_getSeconds hserde hfields.exp).symm.trans hshared.exp)
    have hset : AitJwt.validClaimsSet token.payload (expectedIssuer.map toJs) now = true := by
      refine (validClaimsSet_iff hfields).mpr ⟨?_, hnbf, hexp ▸ hshared.notExpired⟩
      intro expected hexpected hnonempty
      obtain ⟨text, htext, rfl⟩ := Option.map_eq_some_iff.mp hexpected
      rw [hiss]
      exact hshared.issuer text htext (fun hempty => hnonempty (by rw [hempty]; rfl))
    refine ⟨claims, toJs r.key.kid, toRegistryKey r.key, r.publicKey,
      ⟨honly.alg, honly.typ, hshared.kid, ?_⟩, ?_, hshared.publicKey, hshared.signature,
      honly.crit, hset, hread, hschema, toJs r.authority, toJs r.agentUlid, toJs r.ownerUlid,
      hiss ▸ honly.host, ?_, ?_⟩
    · exact fun hempty => honly.kid (toJs_injective hempty)
    · rw [find?_toRegistryKey, hshared.key]
      rfl
    · rw [hsub, parseDid_toJs hshared.agent, honly.authority, honly.agentUlid]
      rfl
    · rw [howner, parseDid_toJs hshared.owner, honly.authority, honly.ownerUlid]
      rfl

/-! ## What Rust accepts -/

theorem acceptedByRust_iff (hjose : jose.Documented) :
    AcceptedByRust ulidFromString parseUrl serde token keys expectedIssuer now ↔
      ∃ r, SharedChecks jose ulidFromString serde token keys expectedIssuer now r ∧
        OnlyRust parseUrl serde token expectedIssuer r := by
  simp only [AcceptedByRust, verifyAitToken_eq_ok]
  constructor
  · rintro ⟨claims, header, kid, key, publicKey, hheader, hkid, hkey, hdecode, hlength, hsigned,
      hclaims, hexp, hissuer, authority, agentUlid, ownerUlid, hof⟩
    have hname : key.kid = kid := by simpa using List.find?_some hkey
    subst hname
    obtain ⟨hiss, hsub, howner, hjti, hread, hnames⟩ := VerifiedAitClaims.ofFields_eq_some.mp hclaims
    obtain ⟨hagent, hauthority, hagentUlid⟩ := parseDid_iff.mp hof.sub
    obtain ⟨hhuman, _, hownerUlid⟩ := parseDid_iff.mp hof.owner
    obtain ⟨host, hurl, hhost⟩ := hof.host
    refine ⟨⟨key, publicKey, toJs claims.iss, claims.sub, claims.ownerDid, claims.jti, claims.exp,
      authority, agentUlid, ownerUlid⟩, ?_, ?_⟩
    · exact {
        kid := (getString_of_read hheader).mp hkid
        key := hkey
        publicKey := hjose.importJWK _ _ (decodeBase64url_toJs hdecode) hlength
        signature := hsigned
        names := hnames
        iss := hiss
        sub := hsub
        ownerDid := howner
        jti := hjti
        exp := hread
        notExpired := hexp
        issuer := fun expected hexpected _ => by rw [hissuer expected hexpected]
        agent := hagent
        owner := hhuman
        agentUlid := hagentUlid
        ownerUlid := hownerUlid }
    · exact {
        header := Option.isSome_of_eq_some hheader
        key := ⟨publicKey, hdecode, hlength⟩
        host := ⟨claims.iss, host, rfl, hurl, hhost⟩
        authority := hauthority
        issuer := fun hempty => by rw [hissuer [] hempty]; rfl }
  · rintro ⟨r, hshared, honly⟩
    obtain ⟨header, hheader⟩ := Option.isSome_iff_exists.mp honly.header
    obtain ⟨publicKey, hdecode, hlength⟩ := honly.key
    obtain ⟨iss, host, hiss, hurl, hhost⟩ := honly.host
    have hpublic : r.publicKey = publicKey := by
      have himport := hjose.importJWK _ _ (decodeBase64url_toJs hdecode) hlength
      exact Option.some.inj (hshared.publicKey.symm.trans himport)
    refine ⟨⟨iss, r.sub, r.ownerDid, r.jti, r.exp⟩, header, r.key.kid, r.key, publicKey, hheader, (getString_of_read hheader).mpr hshared.kid,
      hshared.key, hdecode, hlength, hpublic ▸ hshared.signature, ?_, hshared.notExpired, ?_,
      r.authority, r.agentUlid, r.ownerUlid, ⟨host, hurl, hhost⟩, ?_, ?_⟩
    · exact VerifiedAitClaims.ofFields_eq_some.mpr ⟨hiss ▸ hshared.iss, hshared.sub,
        hshared.ownerDid, hshared.jti, hshared.exp, hshared.names⟩
    · intro expected hexpected
      by_cases hempty : expected = []
      · subst hempty
        exact toJs_injective (hiss.symm.trans (honly.issuer hexpected))
      · exact toJs_injective (hiss.symm.trans (hshared.issuer expected hexpected hempty))
    · exact parseDid_iff.mpr ⟨hshared.agent, honly.authority, hshared.agentUlid⟩
    · exact parseDid_iff.mpr ⟨hshared.owner, honly.authority, hshared.ownerUlid⟩

/-! ## Where they agree -/

/-- Of two statements about the one thing that has the property, one holds where the other does. -/
theorem exists_and_iff_exists_and {α : Type*} {p q q' : α → Prop}
    (hunique : ∀ a b, p a → p b → a = b) :
    ((∃ a, p a ∧ q a) ↔ ∃ a, p a ∧ q' a) ↔ ∀ a, p a → (q a ↔ q' a) := by
  constructor
  · intro h a ha
    constructor
    · intro hq
      obtain ⟨b, hb, hq'⟩ := h.mp ⟨a, ha, hq⟩
      rwa [hunique a b ha hb]
    · intro hq'
      obtain ⟨b, hb, hq⟩ := h.mpr ⟨a, ha, hq'⟩
      rwa [hunique a b ha hb]
  · intro h
    exact exists_congr fun a => and_congr_right (h a)

/-- **What TypeScript accepts follows the protocol.** -/
theorem followsProtocol_of_accepted (hjose : jose.Documented)
    (h : AcceptedByTypeScript toLowerCase jose token keys expectedIssuer now) :
    FollowsProtocol jose token keys now := by
  simp only [AcceptedByTypeScript, AitJwt.verifyAIT_eq_ok hjose,
    AitJwt.ensureAitProtectedHeader_eq_ok, Protocol.parseAitClaims_iff] at h
  obtain ⟨claims, kid, key, publicKey, ⟨halg, htyp, hkid, _⟩, hkey, himport, hsigned, _, hset,
    hread, hschema, _, _, _, _, hof⟩ := h
  have hfields := AitClaims.readFrom_of_ofJson hread
  obtain ⟨_, hnbf, hexp⟩ := (validClaimsSet_iff hfields).mp hset
  obtain ⟨key, rfl, rfl, hfind⟩ := find?_toRegistryKey_eq_some hkey
  obtain ⟨bytes, hdecode, hlength⟩ := hschema.cnf
  exact {
    alg := halg
    typ := htyp
    signature := ⟨key, List.mem_of_find?_eq_some hfind, hkid, publicKey, himport, hsigned⟩
    sub := ⟨claims.sub, _, hfields.sub, hof.sub⟩
    ownerDid := ⟨claims.ownerDid, _, hfields.ownerDid, hof.owner⟩
    cnf := ⟨claims.cnf, bytes, hfields.cnf, hdecode, hlength⟩
    times := ⟨claims.iat, claims.nbf, claims.exp, hfields.iat, hfields.nbf, hfields.exp,
      hschema.afterNbf, hschema.afterIat, hnbf, Int.le_of_lt hexp⟩
    jti := ⟨claims.jti, hfields.jti, hschema.jti⟩ }

/-- **Token verification in the two languages.** The verifiers accept a token alike exactly where
it passes what only one of them checks for both or for none, once it passes what both check; and
what TypeScript accepts follows the protocol. -/
theorem ait_verification (hulids : ReadsUlids ulidFromString) (hserde : ReadsIntegers serde)
    (hjose : jose.Documented) :
    (AcceptedAlike toLowerCase jose ulidFromString parseUrl serde token keys expectedIssuer now ↔
      AitsAgree toLowerCase jose ulidFromString parseUrl serde token keys expectedIssuer now) ∧
    (AcceptedByTypeScript toLowerCase jose token keys expectedIssuer now →
      FollowsProtocol jose token keys now) := by
  refine ⟨?_, followsProtocol_of_accepted hjose⟩
  rw [AcceptedAlike, acceptedByTypeScript_iff hulids hserde hjose, acceptedByRust_iff hjose]
  exact exists_and_iff_exists_and fun r r' h h' => h.unique h'

end

/-! ## A token before its time -/

/-- The token library, for keys that decode and headers without extensions. -/
def exampleJose : Jose where
  importJWK x := (Protocol.decodeBase64url x).filter fun bytes =>
    bytes.length = ED25519_PUBLIC_KEY_LENGTH
  understandsCrit header := (header.get? (js "crit")).isNone
  jwtVerify token key issuer now :=
    if token.verifies key && (token.header.get? (js "crit")).isNone &&
        AitJwt.validClaimsSet token.payload issuer now then
      some token.payload
    else none

theorem documented_example : exampleJose.Documented where
  importJWK x bytes hdecode hlength := by simp [exampleJose, hdecode, hlength]
  jwtVerify _ _ _ _ _ _ := rfl

theorem readsIntegers_example : ReadsIntegers exampleSerde := fun _ _ => rfl

/-- The URL crate, on the issuer of the example. -/
def exampleParseUrl (url : RString) : Option (Option RString) :=
  if url = rs "https://a.example" then some (some (rs "a.example")) else none

def exampleKeys : List RegistryVerificationKey :=
  [{ kid := rs "k", x := List.replicate 43 'A' }]

def exampleText (s : String) : Option Value := some (.str (js s))

/-- A token that is good from the second 100 to the second 200. -/
def exampleToken : AitToken where
  header := object [("alg", exampleText "EdDSA"), ("typ", exampleText "AIT"),
    ("kid", exampleText "k")]
  claims := [
    (js "iss", .str (js "https://a.example")),
    (js "sub", .str (js "did:cdi:a.example:agent:01HF7YAT00M5H6RVQ6Q6N1W30X")),
    (js "ownerDid", .str (js "did:cdi:a.example:human:01HF7YAT00M5H6RVQ6Q6N1W30X")),
    (js "name", .str (js "a")), (js "framework", .str (js "b")),
    (js "cnf", object [("jwk", some (object [("kty", exampleText "OKP"),
      ("crv", exampleText "Ed25519"), ("x", some (.str (List.replicate 43 0x41)))]))]),
    (js "iat", .num 100), (js "nbf", .num 100), (js "exp", .num 200),
    (js "jti", .str (js "01HF7YAT00M5H6RVQ6Q6N1W30X"))]
  verifies key := key = List.replicate 32 0

/-- **A token that is not valid yet** is accepted by Rust alone. -/
theorem not_acceptedAlike : ¬AcceptedAlike id exampleJose exampleUlidFromString exampleParseUrl
    exampleSerde exampleToken exampleKeys none 50 := by
  intro h
  have hrust : AcceptedByRust exampleUlidFromString exampleParseUrl exampleSerde exampleToken
      exampleKeys none 50 := ⟨_, rfl⟩
  have hrules := followsProtocol_of_accepted documented_example (h.mpr hrust)
  obtain ⟨_, nbf, _, _, hnbf, _, _, _, hstarted, _⟩ := hrules.times
  have hvalue : Protocol.getSeconds exampleToken.payload "nbf" = some 100 := by decide
  obtain rfl := Option.some.inj (hnbf.symm.trans hvalue)
  omega

/-- In its time the token is accepted by both, and it follows the protocol. -/
theorem exampleToken_verification :
    AitsAgree id exampleJose exampleUlidFromString exampleParseUrl exampleSerde exampleToken
      exampleKeys none 150 ∧
    FollowsProtocol exampleJose exampleToken exampleKeys 150 := by
  have htypescript : AcceptedByTypeScript id exampleJose exampleToken exampleKeys none 150 :=
    ⟨_, rfl⟩
  have hrust : AcceptedByRust exampleUlidFromString exampleParseUrl exampleSerde exampleToken
      exampleKeys none 150 := ⟨_, rfl⟩
  obtain ⟨halike, hrules⟩ := ait_verification readsUlids_example readsIntegers_example
    documented_example
  exact ⟨halike.mp ⟨fun _ => hrust, fun _ => htypescript⟩, hrules htypescript⟩

end Clawdentity.Wire.AitVerification
