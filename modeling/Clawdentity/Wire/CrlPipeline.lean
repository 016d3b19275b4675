import Clawdentity.Registry.CrlRoute
import Clawdentity.Sdk.CrlCache

/-!
# From the revocation table to the cache of the proxy

The list that `GET /v1/crl` serves is fetched by the proxy, verified with the keys of the
registry and kept in its cache, which answers for the token of a request. A list whose agents
all have the hostname of the issuer as authority says what the table says. Every other one is
refused as a whole, as is the empty one.

Transport works: a response arrives as it was sent.

## Main definitions

* `Pipeline` — the registry and the proxy at one fetch.
* `Pipeline.isUsable` — the condition on the list.
* `crl_is_the_revocation_table`.
-/

namespace Clawdentity.CrlPipeline

open Js Lib Protocol CrlJwt CrlRoute CrlCache

/-! ## The two services -/

structure Pipeline where
  toLowerCase : JsString → JsString
  dateParse : DateParse
  jose : Jose
  env : CrlEnv
  db : Database
  /-- The keys in the cache of the proxy, while they are fresh. -/
  cachedKeys : Option (List VerificationKey)
  expectedIssuer : Option JsString
  /-- The clock of the proxy, in seconds. -/
  nowSeconds : ℕ

def toVerificationKeys (keys : List RegistrySigningKey) : List VerificationKey :=
  (keys.filter RegistrySigningKey.active).map fun key => ⟨key.kid, key.x⟩

namespace Pipeline
variable (s : Pipeline)

/-- The key of the registry. -/
def signer? : Option RegistrySigningKey :=
  findMatchingActiveKey s.env.signingKeys.keys s.env.keypair.publicKey

/-- The rows of the list. -/
def rows : List CrlSnapshotRow := crlSnapshot s.db

/-- `none` where it throws. -/
def getActiveRegistryKeys (forceRefresh : Bool) : Option (List VerificationKey) :=
  (s.cachedKeys.filter fun _ => !forceRefresh).or
    ((some (toVerificationKeys s.env.signingKeys.keys)).filter fun keys => !keys.isEmpty)

def verifyWithKeys (token : JsString) (keys : List VerificationKey) :
    Except CrlJwtError CrlClaims :=
  verifyCRL s.toLowerCase s.jose token keys s.expectedIssuer s.nowSeconds

/-- The verification of a token; `none` where it throws. -/
def verifyToken (token : JsString) : Option CrlClaims :=
  (s.getActiveRegistryKeys false).bind fun keys =>
    match s.verifyWithKeys token keys with
    | .ok claims => some claims
    | .error (.unknownKid _) =>
        (s.getActiveRegistryKeys true).bind fun keys => (s.verifyWithKeys token keys).toOption
    | .error _ => none

def fetchLatestCrlClaims : Option CrlClaims :=
  match getCrl s.toLowerCase s.dateParse s.jose s.env s.db with
  | .error _ => none
  | .ok token => s.verifyToken token

/-- `crlCache.isRevoked`, over this fetch. -/
def isRevoked (options : Options) (cache : Cache) (jti : JsString) (now : ℕ) : Option Answer :=
  CrlCache.isRevoked s.toLowerCase options cache jti now
    (s.fetchLatestCrlClaims.map CrlClaims.toJson)

/-! ## The list -/

/-- The agent of a row has the hostname of the issuer as authority. -/
def hasIssuerAuthority (row : CrlSnapshotRow) : Bool :=
  (parseAgentDid row.agentDid).map ParsedDid.authority =
    parseIssuerHostname s.toLowerCase s.env.issuer

/-- The condition: the table has a row, the agents of all rows are of the issuer, and the proxy
expects this issuer, or any. -/
def isUsable : Bool :=
  !s.rows.isEmpty && s.rows.all s.hasIssuerAuthority &&
    s.expectedIssuer.all fun expected => expected = s.env.issuer

/-- The revocation of a row, with the second of its date. -/
def revocationOf (row : CrlSnapshotRow) : CrlRevocation where
  jti := row.jti
  agentDid := row.agentDid
  reason := row.reason.filter fun reason => !reason.isEmpty
  revokedAt := ((s.dateParse row.revokedAt).getD 0 / 1000).toNat

/-- The claims of the list. -/
def claims : CrlClaims where
  iss := s.env.issuer
  jti := s.env.crlJti
  iat := s.env.nowMs / 1000
  exp := s.env.nowMs / 1000 + CRL_TTL_SECONDS
  revocations := s.rows.map s.revocationOf

/-- The largest time value of the language. -/
def MAX_DATE_MS : ℕ := 8640000000000000

/-- A row as the registry writes it. -/
structure ValidRow (row : CrlSnapshotRow) : Prop where
  jti : isUlid row.jti = true
  agentDid : isAgentDid row.agentDid = true
  reason : (row.reason.all fun reason => reason.length ≤ 280) = true
  revokedAt : ∃ ms : ℕ, s.dateParse row.revokedAt = some (ms : ℤ) ∧ ms ≤ MAX_DATE_MS

/-- The table holds revocations of agents of the registry, and the keys, the clocks and the token
library work. -/
structure Valid : Prop where
  /-- The foreign key of `revocations`. -/
  agents : ∀ row ∈ s.db.revocations, ∃ agent ∈ s.db.agents, agent.id = row.agentId
  rows : ∀ row ∈ s.rows, s.ValidRow row
  crlJti : isUlid s.env.crlJti = true
  clock : s.env.nowMs ≤ MAX_DATE_MS
  in_time : s.nowSeconds < s.env.nowMs / 1000 + CRL_TTL_SECONDS
  signer : s.signer?.isSome = true
  /-- A cached key under the id of the signer is that of the signer. -/
  cachedKeys : ∀ keys, s.cachedKeys = some keys → ∀ signer, s.signer? = some signer →
    ∀ key ∈ keys, key.kid = signer.kid → key.x = s.env.keypair.publicKey
  jose : ∀ signer, s.signer? = some signer → s.claims.isValid s.toLowerCase = true →
    s.jose.RoundTrip signer.kid s.env.keypair s.claims

/-! ## The rows -/

section
variable {s}

theorem mem_rows {row : CrlSnapshotRow} :
    row ∈ s.rows ↔ ∃ revocation ∈ s.db.revocations,
      snapshotRow s.db.agents revocation = some row := by
  rw [rows, crlSnapshot, List.mem_insertionSort, List.mem_filterMap]

theorem snapshotRow_jti {agents : List AgentRow} {revocation : RevocationRow}
    {row : CrlSnapshotRow} (h : snapshotRow agents revocation = some row) :
    row.jti = revocation.jti := by
  obtain ⟨agent, -, rfl⟩ := Option.map_eq_some_iff.mp h
  rfl

/-- The list has the `jti`s of the table. -/
theorem mem_revokedJtis_claims (hs : s.Valid) {jti : JsString} :
    jti ∈ s.claims.revokedJtis ↔ jti ∈ s.db.revokedJtis := by
  have hlist : s.claims.revokedJtis = s.rows.map CrlSnapshotRow.jti := by
    rw [CrlClaims.revokedJtis, claims, List.map_map]
    rfl
  rw [hlist, Database.revokedJtis, List.mem_map, List.mem_map]
  constructor
  · rintro ⟨row, hrow, rfl⟩
    obtain ⟨revocation, hmem, hsnapshot⟩ := mem_rows.mp hrow
    exact ⟨revocation, hmem, (snapshotRow_jti hsnapshot).symm⟩
  · rintro ⟨revocation, hmem, rfl⟩
    obtain ⟨agent, hagent, hid⟩ := hs.agents revocation hmem
    have hfound : (s.db.agents.find? fun agent => agent.id = revocation.agentId).isSome = true :=
      List.find?_isSome.mpr ⟨agent, hagent, decide_eq_true hid⟩
    obtain ⟨found, hfound⟩ := Option.isSome_iff_exists.mp hfound
    have hsnapshot : ∃ row, snapshotRow s.db.agents revocation = some row :=
      ⟨_, by rw [snapshotRow, hfound, Option.map_some]⟩
    obtain ⟨row, hsnapshot⟩ := hsnapshot
    exact ⟨row, mem_rows.mpr ⟨revocation, hmem, hsnapshot⟩, snapshotRow_jti hsnapshot⟩

/-! ## The claims that are built -/

theorem revokedAt_revocationOf {row : CrlSnapshotRow} {ms : ℕ}
    (h : s.dateParse row.revokedAt = some (ms : ℤ)) :
    (s.revocationOf row).revokedAt = ms / 1000 := by
  simp only [revocationOf, h, Option.getD_some]
  omega

theorem revokedAt_le {row : CrlSnapshotRow} (hrow : s.ValidRow row) :
    (s.revocationOf row).revokedAt ≤ MAX_SAFE_INTEGER := by
  obtain ⟨ms, hms, hle⟩ := hrow.revokedAt
  rw [revokedAt_revocationOf hms]
  unfold MAX_DATE_MS at hle
  unfold MAX_SAFE_INTEGER
  omega

theorem isSafe_claims (hs : s.Valid) : s.claims.IsSafe := by
  have hclock := hs.clock
  unfold MAX_DATE_MS at hclock
  refine ⟨?_, ?_, ?_⟩
  · change s.env.nowMs / 1000 ≤ MAX_SAFE_INTEGER
    unfold MAX_SAFE_INTEGER
    omega
  · change s.env.nowMs / 1000 + CRL_TTL_SECONDS ≤ MAX_SAFE_INTEGER
    unfold MAX_SAFE_INTEGER CRL_TTL_SECONDS
    omega
  · intro revocation hrevocation
    obtain ⟨row, hrow, rfl⟩ := List.mem_map.mp hrevocation
    exact revokedAt_le (hs.rows row hrow)

/-- The entry of a row is read as its revocation. -/
theorem ofJson_revocationObject {row : CrlSnapshotRow} (hrow : s.ValidRow row) :
    CrlRevocation.ofJson (revocationObject row (s.revocationOf row).revokedAt) =
      some (s.revocationOf row) := by
  have hjti : getStr (revocationObject row (s.revocationOf row).revokedAt) "jti" =
      some row.jti := getStr_object (by simp)
  have hdid : getStr (revocationObject row (s.revocationOf row).revokedAt) "agentDid" =
      some row.agentDid := getStr_object (by simp)
  have hreason : getOptStr (revocationObject row (s.revocationOf row).revokedAt) "reason" =
      some (s.revocationOf row).reason := getOptStr_object (by simp [revocationOf])
  have hrevoked : getNum (revocationObject row (s.revocationOf row).revokedAt) "revokedAt" =
      some ((s.revocationOf row).revokedAt : ℚ) := getNum_object (by simp [Rat.intCast_natCast])
  have hkeys : strictKeys (revocationObject row (s.revocationOf row).revokedAt)
      ["jti", "agentDid", "reason", "revokedAt"] = true := strictKeys_object (by simp)
  simp only [CrlRevocation.ofJson, hjti, hdid, hreason, hrevoked, hkeys,
    parseNonnegativeInt_natCast (revokedAt_le hrow), Option.bind_eq_bind, Option.bind_some, if_true]
  rfl

theorem parseRevokedAtSeconds_eq {dateParse : DateParse} {text : JsString} {ms : ℕ}
    (h : dateParse text = some (ms : ℤ)) :
    parseRevokedAtSeconds dateParse text = some ((ms / 1000 : ℕ) : ℤ) := by
  have hseconds : (ms : ℤ) / 1000 = ((ms / 1000 : ℕ) : ℤ) := by omega
  rw [parseRevokedAtSeconds, h, Option.map_some, hseconds]

theorem buildRevocation_eq {row : CrlSnapshotRow} (hrow : s.ValidRow row) :
    buildRevocation s.dateParse row =
      some (revocationObject row (s.revocationOf row).revokedAt) := by
  obtain ⟨ms, hms, -⟩ := hrow.revokedAt
  rw [buildRevocation, parseRevokedAtSeconds_eq hms, Option.map_some, revokedAt_revocationOf hms]

/-- **The claims of the route**, before they are checked. -/
theorem buildCrlClaims_read (hs : s.Valid) :
    ∃ v, buildCrlClaims s.dateParse s.rows s.env = some v ∧
      CrlClaims.ofJson v = some s.claims := by
  have hbuild : s.rows.mapM (buildRevocation s.dateParse) =
      some (s.rows.map fun row => revocationObject row (s.revocationOf row).revokedAt) :=
    mapM_eq_some_map fun row hrow => buildRevocation_eq (hs.rows row hrow)
  have hread : (s.rows.map fun row => revocationObject row (s.revocationOf row).revokedAt).mapM
      CrlRevocation.ofJson = some s.claims.revocations := by
    rw [List.mapM_map]
    exact mapM_eq_some_map fun row hrow => ofJson_revocationObject (hs.rows row hrow)
  have hsafe := isSafe_claims hs
  exact ⟨_, by rw [buildCrlClaims, hbuild, Option.map_some],
    CrlClaims.ofJson_crlObject hsafe.1 hsafe.2.1 hread⟩

/-! ## Which lists are signed -/

theorem not_hasControlChars_of_isAgentDid {did : JsString} (h : isAgentDid did = true) :
    hasControlChars did = false := by
  refine List.any_eq_false.mpr ?_
  intro u hu
  have hrange := isAgentDid_range h u hu
  simp only [Bool.or_eq_true, decide_eq_true_eq, beq_iff_eq]
  omega

/-- A valid row is a valid entry exactly where its agent is of the issuer. -/
theorem isValid_revocationOf {row : CrlSnapshotRow} (hrow : s.ValidRow row) {host : JsString}
    (hhost : parseIssuerHostname s.toLowerCase s.env.issuer = some host) :
    (s.revocationOf row).isValid (some host) = s.hasIssuerAuthority row := by
  have hjti : (s.revocationOf row).jti.isEmpty = false :=
    List.isEmpty_eq_false_iff.mpr (ne_nil_of_isUlid hrow.jti)
  have hdid : (s.revocationOf row).agentDid.isEmpty = false :=
    List.isEmpty_eq_false_iff.mpr (ne_nil_of_isAgentDid hrow.agentDid)
  have hcontrol : hasControlChars (s.revocationOf row).agentDid = false :=
    not_hasControlChars_of_isAgentDid hrow.agentDid
  have hulid : isUlid (s.revocationOf row).jti = true := hrow.jti
  have hreason : ((s.revocationOf row).reason.all fun reason => reason.length ≤ 280) = true := by
    have hlength := hrow.reason
    simp only [revocationOf, Option.all_filter]
    cases hr : row.reason with
    | none => rfl
    | some reason =>
        rw [hr, Option.all_some] at hlength
        rw [Option.all_some, hlength, Bool.or_true]
  obtain ⟨parsed, hparsed⟩ := Option.isSome_iff_exists.mp hrow.agentDid
  have hparsed' : parseAgentDid (s.revocationOf row).agentDid = some parsed := hparsed
  simp only [CrlRevocation.isValid, hjti, hdid, hcontrol, hulid, hreason, hparsed', Bool.not_false,
    Bool.true_and, Bool.and_true, Option.any_some, Option.all_some]
  rw [hasIssuerAuthority, hparsed, hhost, Option.map_some]
  simp

theorem parseIssuerHostname_nil (toLowerCase : JsString → JsString) :
    parseIssuerHostname toLowerCase [] = none := by
  have hscheme : afterHttpScheme [] = none := by decide
  rw [parseIssuerHostname, hscheme, Option.bind_none]

/-- The agent of a valid row has no authority that is missing. -/
theorem not_hasIssuerAuthority {row : CrlSnapshotRow} (hrow : s.ValidRow row)
    (hhost : parseIssuerHostname s.toLowerCase s.env.issuer = none) :
    s.hasIssuerAuthority row = false := by
  obtain ⟨parsed, hparsed⟩ := Option.isSome_iff_exists.mp hrow.agentDid
  rw [hasIssuerAuthority, hparsed, hhost, Option.map_some]
  rfl

/-- **The lists that can be signed.** -/
theorem isValid_claims (hs : s.Valid) :
    s.claims.isValid s.toLowerCase = (!s.rows.isEmpty && s.rows.all s.hasIssuerAuthority) := by
  have hempty : s.claims.revocations.isEmpty = s.rows.isEmpty := List.isEmpty_map
  cases hhost : parseIssuerHostname s.toLowerCase s.env.issuer with
  | none =>
      have hinvalid : s.claims.isValid s.toLowerCase = false := by
        have hissuer : parseIssuerHostname s.toLowerCase s.claims.iss = none := hhost
        simp [CrlClaims.isValid, hissuer]
      rw [hinvalid]
      cases hrows : s.rows with
      | nil => rfl
      | cons row rest =>
          have hfirst : row ∈ s.rows := hrows ▸ List.mem_cons_self
          rw [List.all_cons, not_hasIssuerAuthority (hs.rows row hfirst) hhost]
          rfl
  | some host =>
      have hiss : s.claims.iss.isEmpty = false := by
        refine List.isEmpty_eq_false_iff.mpr ?_
        intro hnil
        rw [show s.env.issuer = [] from hnil, parseIssuerHostname_nil] at hhost
        cases hhost
      have hjti : s.claims.jti.isEmpty = false :=
        List.isEmpty_eq_false_iff.mpr (ne_nil_of_isUlid hs.crlJti)
      have htime : decide (s.claims.iat < s.claims.exp) = true := by
        refine decide_eq_true ?_
        change s.env.nowMs / 1000 < s.env.nowMs / 1000 + CRL_TTL_SECONDS
        unfold CRL_TTL_SECONDS
        omega
      have hall : (s.claims.revocations.all fun revocation => revocation.isValid (some host)) =
          s.rows.all s.hasIssuerAuthority := by
        rw [show s.claims.revocations = s.rows.map s.revocationOf from rfl, List.all_map]
        refine Bool.eq_iff_iff.mpr ?_
        rw [List.all_eq_true, List.all_eq_true]
        refine forall₂_congr ?_
        intro row hrow
        rw [Function.comp_apply, isValid_revocationOf (hs.rows row hrow) hhost]
      have hissuer : parseIssuerHostname s.toLowerCase s.claims.iss = some host := hhost
      rw [CrlClaims.isValid, hissuer, hiss, hjti, htime, hempty, hall]
      simp

/-! ## What the proxy fetches -/

theorem signer?_spec {signer : RegistrySigningKey} (h : s.signer? = some signer) :
    signer ∈ s.env.signingKeys.keys ∧ signer.active = true ∧
      signer.x = s.env.keypair.publicKey := by
  have hfound : (s.env.signingKeys.keys.filter RegistrySigningKey.active).find?
      (fun key => key.x = s.env.keypair.publicKey) = some signer := h
  have hmem := List.mem_filter.mp (List.mem_of_find?_eq_some hfound)
  have hx := List.find?_some hfound
  exact ⟨hmem.1, hmem.2, of_decide_eq_true hx⟩

/-- Among the published keys, the id of the signer leads to its key. -/
theorem find?_published {signer : RegistrySigningKey} (h : s.signer? = some signer) :
    ∃ key, ((toVerificationKeys s.env.signingKeys.keys).find? fun entry =>
      entry.kid = signer.kid) = some key ∧ key.x = s.env.keypair.publicKey := by
  obtain ⟨hmem, hactive, hx⟩ := signer?_spec h
  have hpublished : (⟨signer.kid, signer.x⟩ : VerificationKey) ∈
      toVerificationKeys s.env.signingKeys.keys :=
    List.mem_map.mpr ⟨signer, List.mem_filter.mpr ⟨hmem, hactive⟩, rfl⟩
  have hfound : ((toVerificationKeys s.env.signingKeys.keys).find? fun entry =>
      entry.kid = signer.kid).isSome = true :=
    List.find?_isSome.mpr ⟨_, hpublished, decide_eq_true rfl⟩
  obtain ⟨key, hkey⟩ := Option.isSome_iff_exists.mp hfound
  refine ⟨key, hkey, ?_⟩
  obtain ⟨other, hother, rfl⟩ := List.mem_map.mp (List.mem_of_find?_eq_some hkey)
  -- The ids of the keys are distinct, so the key that is found is that of the signer.
  have hkid := List.find?_some hkey
  have hsame : other = signer :=
    List.inj_on_of_nodup_map s.env.signingKeys.kid_nodup (List.mem_filter.mp hother).1 hmem
      (of_decide_eq_true hkid)
  rw [hsame]
  exact hx

theorem getActiveRegistryKeys_published {signer : RegistrySigningKey}
    (h : s.signer? = some signer) :
    (some (toVerificationKeys s.env.signingKeys.keys)).filter (fun keys => !keys.isEmpty) =
      some (toVerificationKeys s.env.signingKeys.keys) := by
  obtain ⟨key, hkey, -⟩ := find?_published h
  have hne : toVerificationKeys s.env.signingKeys.keys ≠ [] :=
    List.ne_nil_of_mem (List.mem_of_find?_eq_some hkey)
  simp [Option.filter_some, hne]

/-- The token of a list that is signed. -/
theorem getCrl_of_isValid (hs : s.Valid) (hvalid : s.claims.isValid s.toLowerCase = true)
    {signer : RegistrySigningKey} (hsigner : s.signer? = some signer) :
    getCrl s.toLowerCase s.dateParse s.jose s.env s.db =
      .ok (s.jose.sign (crlHeader signer.kid) s.claims.toJson s.env.keypair.secretKey) := by
  obtain ⟨v, hbuild, hread⟩ := buildCrlClaims_read hs
  have hrows : (crlSnapshot s.db).isEmpty = false := by
    have hsigned := hvalid
    rw [isValid_claims hs] at hsigned
    exact (Bool.not_eq_true' _).mp (Bool.and_eq_true_iff.mp hsigned).1
  have hparse : parseCrlClaims s.toLowerCase v = some s.claims := by
    rw [parseCrlClaims, hread, Option.filter_some, if_pos hvalid]
  have hfound : findMatchingActiveKey s.env.signingKeys.keys s.env.keypair.publicKey =
      some signer := hsigner
  have hsnapshot : buildCrlClaims s.dateParse (crlSnapshot s.db) s.env = some v := hbuild
  simp only [getCrl, hrows, Bool.false_eq_true, if_false, hfound, hsnapshot, signCRL, hparse,
    Option.map_some, Option.elim_some]

/-- A list that is not signed is not served. -/
theorem getCrl_of_not_isValid (hs : s.Valid) (hvalid : s.claims.isValid s.toLowerCase = false) :
    ∃ error, getCrl s.toLowerCase s.dateParse s.jose s.env s.db = .error error := by
  obtain ⟨v, hbuild, hread⟩ := buildCrlClaims_read hs
  have hparse : parseCrlClaims s.toLowerCase v = none := by
    rw [parseCrlClaims, hread, Option.filter_some, hvalid]
    rfl
  have hsnapshot : buildCrlClaims s.dateParse (crlSnapshot s.db) s.env = some v := hbuild
  unfold getCrl
  split
  · exact ⟨_, rfl⟩
  · split
    · exact ⟨_, rfl⟩
    · rw [hsnapshot]
      simp [signCRL, hparse]

/-- The proxy expects the issuer of the list. -/
def expectsIssuer (s : Pipeline) : Bool :=
  s.expectedIssuer.all fun expected => expected = s.env.issuer

/-- A verification with the key of the signer. -/
theorem verifyWithKeys_of_key (hs : s.Valid) (hvalid : s.claims.isValid s.toLowerCase = true)
    {signer : RegistrySigningKey} (hsigner : s.signer? = some signer)
    {keys : List VerificationKey} {key : VerificationKey}
    (hkey : (keys.find? fun entry => entry.kid = signer.kid) = some key)
    (hx : key.x = s.env.keypair.publicKey) :
    s.verifyWithKeys (s.jose.sign (crlHeader signer.kid) s.claims.toJson s.env.keypair.secretKey)
        keys =
      if s.expectsIssuer then .ok s.claims else .error .invalidToken := by
  have hjose := hs.jose signer hsigner hvalid
  have hkid := s.env.signingKeys.kid_ne signer (signer?_spec hsigner).1
  split
  · rename_i hissuer
    exact verifyCRL_signCRL hjose hkid (isSafe_claims hs) hvalid hkey hx hissuer hs.in_time
  · rename_i hissuer
    exact verifyCRL_otherIssuer hjose hkid hkey hx (Bool.eq_false_iff.mpr hissuer)

/-- A verification without a key under the id of the signer. -/
theorem verifyWithKeys_unknown (hs : s.Valid) (hvalid : s.claims.isValid s.toLowerCase = true)
    {signer : RegistrySigningKey} (hsigner : s.signer? = some signer)
    {keys : List VerificationKey}
    (hkey : (keys.find? fun entry => entry.kid = signer.kid) = none) :
    s.verifyWithKeys (s.jose.sign (crlHeader signer.kid) s.claims.toJson s.env.keypair.secretKey)
        keys = .error (.unknownKid signer.kid) := by
  have hkid := s.env.signingKeys.kid_ne signer (signer?_spec hsigner).1
  rw [verifyWithKeys, verifyCRL_sign (hs.jose signer hsigner hvalid) hkid, hkey]
  rfl

/-- The verification of a signed list, whatever keys are cached. -/
theorem verifyToken_sign (hs : s.Valid) (hvalid : s.claims.isValid s.toLowerCase = true)
    {signer : RegistrySigningKey} (hsigner : s.signer? = some signer) :
    s.verifyToken (s.jose.sign (crlHeader signer.kid) s.claims.toJson s.env.keypair.secretKey) =
      if s.expectsIssuer then some s.claims else none := by
  have hpublished := getActiveRegistryKeys_published hsigner
  obtain ⟨published, hfind, hx⟩ := find?_published hsigner
  have hfresh := verifyWithKeys_of_key hs hvalid hsigner hfind hx
  cases hcached : s.cachedKeys with
  | none =>
      have hkeys : s.getActiveRegistryKeys false =
          some (toVerificationKeys s.env.signingKeys.keys) := by
        rw [getActiveRegistryKeys, hcached, hpublished]
        rfl
      rw [verifyToken, hkeys, Option.bind_some, hfresh]
      cases s.expectsIssuer <;> rfl
  | some keys =>
      have hkeys : s.getActiveRegistryKeys false = some keys := by
        rw [getActiveRegistryKeys, hcached]
        rfl
      cases hkey : keys.find? fun entry => entry.kid = signer.kid with
      | none =>
          have hrefreshed : s.getActiveRegistryKeys true =
              some (toVerificationKeys s.env.signingKeys.keys) := by
            rw [getActiveRegistryKeys, hcached, hpublished]
            rfl
          rw [verifyToken, hkeys, Option.bind_some,
            verifyWithKeys_unknown hs hvalid hsigner hkey]
          simp only [hrefreshed, Option.bind_some, hfresh]
          cases s.expectsIssuer <;> rfl
      | some key =>
          have hkid := List.find?_some hkey
          have hcachedx := hs.cachedKeys keys hcached signer hsigner key
            (List.mem_of_find?_eq_some hkey) (of_decide_eq_true hkid)
          rw [verifyToken, hkeys, Option.bind_some,
            verifyWithKeys_of_key hs hvalid hsigner hkey hcachedx]
          cases s.expectsIssuer <;> rfl

/-- **What the proxy fetches**: the claims of a usable list, and nothing otherwise. -/
theorem fetchLatestCrlClaims_eq (hs : s.Valid) :
    s.fetchLatestCrlClaims = if s.isUsable then some s.claims else none := by
  obtain ⟨signer, hsigner⟩ := Option.isSome_iff_exists.mp hs.signer
  have husable : s.isUsable = (s.claims.isValid s.toLowerCase && s.expectsIssuer) := by
    rw [isValid_claims hs]
    rfl
  cases hvalid : s.claims.isValid s.toLowerCase with
  | false =>
      obtain ⟨error, herror⟩ := getCrl_of_not_isValid hs hvalid
      rw [fetchLatestCrlClaims, herror, husable, hvalid]
      rfl
  | true =>
      rw [fetchLatestCrlClaims, getCrl_of_isValid hs hvalid hsigner, husable, hvalid,
        Bool.true_and]
      exact verifyToken_sign hs hvalid hsigner

end

end Pipeline

/-! ## The answer of the cache -/

/-- A call at this time fetches the list. -/
def startsFetch (options : Options) (cache : Cache) (now : ℕ) : Bool :=
  shouldRefresh options cache now &&
    (isStale options cache now || canAttemptRefresh options cache now)

section
variable {toLowerCase : JsString → JsString} {options : Options} {cache : Cache} {jti : JsString}
  {now : ℕ}

theorem isRevoked_of_startsFetch (hdue : startsFetch options cache now = true)
    (hjti : (trim jti).isEmpty = false) (latest : Option Value) :
    CrlCache.isRevoked toLowerCase options cache jti now latest =
      let finished := finishFetch toLowerCase options
        { cache with lastRefreshAttemptAtMs := some now } now (.isRevoked jti) latest
      answerOf finished.1 finished.2 := by
  unfold startsFetch at hdue
  simp only [CrlCache.isRevoked, startCall, hjti, Bool.false_eq_true, if_false, startRefresh, hdue,
    if_true]

/-- With new claims, the answer is that of the claims. -/
theorem isRevoked_of_claims (hdue : startsFetch options cache now = true)
    (hjti : (trim jti).isEmpty = false) {claims : CrlClaims} {latest : Value}
    (hparse : parseCrlClaims toLowerCase latest = some claims) :
    CrlCache.isRevoked toLowerCase options cache jti now (some latest) =
      some (.revoked (jti ∈ claims.revokedJtis)) := by
  have hstale : isStale options ⟨some claims, some now, some now⟩ now = false := by
    simp [isStale, ageMs]
  rw [isRevoked_of_startsFetch hdue hjti]
  simp only [finishFetch, Option.bind_some, hparse, finishRefresh, hstale, Bool.false_and,
    Bool.false_eq_true, if_false, answerOf, readClaims, Option.any_some]

/-- Without claims, a failed fetch leaves the answer to the behavior of a stale cache. -/
theorem isRevoked_of_failure (hclaims : cache.claims = none)
    (hdue : startsFetch options cache now = true) (hjti : (trim jti).isEmpty = false) :
    CrlCache.isRevoked toLowerCase options cache jti now none =
      some (match options.staleBehavior with
        | .failOpen => .revoked false
        | .failClosed => .stale options.maxAgeMs cache.lastSuccessfulRefreshAtMs (some now)) := by
  have hstale : isStale options { cache with lastRefreshAttemptAtMs := some now } now = true := by
    simp [isStale, hclaims]
  rw [isRevoked_of_startsFetch hdue hjti]
  simp only [finishFetch, Option.bind_none, finishRefresh, hstale, Bool.true_and]
  cases options.staleBehavior with
  | failOpen => simp [answerOf, readClaims, hclaims]
  | failClosed => simp [answerOf]

end

/-- **The revocation list that the proxy sees is the table, where the list is usable.** A call
that fetches a usable list answers whether the table has the token, whatever the cache does when
it is stale. Where the list is not usable, a cache without claims answers that the token is not
revoked, or refuses to answer. -/
theorem crl_is_the_revocation_table {s : Pipeline} (hs : s.Valid) {options : Options}
    {cache : Cache} {jti : JsString} {now : ℕ} (hjti : (trim jti).isEmpty = false)
    (hdue : startsFetch options cache now = true) :
    (s.isUsable = true →
      s.isRevoked options cache jti now = some (.revoked (jti ∈ s.db.revokedJtis))) ∧
    (s.isUsable = false → cache.claims = none →
      s.isRevoked options cache jti now =
        some (match options.staleBehavior with
          | .failOpen => .revoked false
          | .failClosed =>
              .stale options.maxAgeMs cache.lastSuccessfulRefreshAtMs (some now))) := by
  constructor
  · intro husable
    have hvalid : s.claims.isValid s.toLowerCase = true := by
      rw [Pipeline.isValid_claims hs]
      exact (Bool.and_eq_true_iff.mp husable).1
    have hparse : parseCrlClaims s.toLowerCase s.claims.toJson = some s.claims := by
      rw [parseCrlClaims_toJson (Pipeline.isSafe_claims hs), if_pos hvalid]
    rw [Pipeline.isRevoked, Pipeline.fetchLatestCrlClaims_eq hs, if_pos husable, Option.map_some,
      isRevoked_of_claims hdue hjti hparse]
    simp only [Pipeline.mem_revokedJtis_claims hs]
  · intro husable hclaims
    rw [Pipeline.isRevoked, Pipeline.fetchLatestCrlClaims_eq hs, husable]
    exact isRevoked_of_failure hclaims hdue hjti

/-! ## A registry with one revoked token, and one with none -/

def exampleIssuer : JsString := js "https://registry.example.com"
def exampleJti : JsString := js "01HF7YAT00W6W7CM7N3W5FDXT5"

def exampleKeypair : Ed25519Keypair where
  publicKey := js "A6EHv_POEL4dcN0Y50vAmWfk1jCbpQ1fHdyGZBJVMbg"
  secretKey := js "AAECAwQFBgcICQoLDA0ODxAREhMUFRYXGBkaGxwdHh8"

def exampleEnv : CrlEnv where
  nowMs := 1700000000000
  crlJti := js "01HF7YAT00W6W7CM7N3W5FDXR1"
  issuer := exampleIssuer
  signingKeys :=
    { keys := [⟨js "reg-key-1", js "A6EHv_POEL4dcN0Y50vAmWfk1jCbpQ1fHdyGZBJVMbg", true⟩]
      kid_ne := by decide
      kid_nodup := by decide }
  keypair := exampleKeypair

def exampleDatabase : Database where
  revocations :=
    [{ id := js "01HF7YAT00W6W7CM7N3W5FDXR0", jti := exampleJti
       agentId := js "01HF7YAT00W6W7CM7N3W5FDXT4", reason := some (js "reissued")
       revokedAt := js "2023-11-14T22:13:19.000Z" }]
  agents :=
    [{ id := js "01HF7YAT00W6W7CM7N3W5FDXT4"
       did := js "did:cdi:registry.example.com:agent:01HF7YAT00W6W7CM7N3W5FDXT4" }]

/-- The claims of the list of this table. -/
def exampleClaims : CrlClaims where
  iss := exampleIssuer
  jti := js "01HF7YAT00W6W7CM7N3W5FDXR1"
  iat := 1700000000
  exp := 1700000390
  revocations :=
    [{ jti := exampleJti
       agentDid := js "did:cdi:registry.example.com:agent:01HF7YAT00W6W7CM7N3W5FDXT4"
       reason := some (js "reissued"), revokedAt := 1699999999 }]

/-- The signed token of these claims. -/
def exampleToken : JsString :=
  js "eyJhbGciOiJFZERTQSIsInR5cCI6IkNSTCIsImtpZCI6InJlZy1rZXktMSJ9.eyJpc3MiOiJodHRwczovL3JlZ2lzdHJ" ++
    js "5LmV4YW1wbGUuY29tIiwianRpIjoiMDFIRjdZQVQwMFc2VzdDTTdOM1c1RkRYUjEiLCJpYXQiOjE3MDAwMDAwMDAsImV" ++
    js "4cCI6MTcwMDAwMDM5MCwicmV2b2NhdGlvbnMiOlt7Imp0aSI6IjAxSEY3WUFUMDBXNlc3Q003TjNXNUZEWFQ1IiwiYWd" ++
    js "lbnREaWQiOiJkaWQ6Y2RpOnJlZ2lzdHJ5LmV4YW1wbGUuY29tOmFnZW50OjAxSEY3WUFUMDBXNlc3Q003TjNXNUZEWFQ" ++
    js "0IiwicmVhc29uIjoicmVpc3N1ZWQiLCJyZXZva2VkQXQiOjE2OTk5OTk5OTl9XX0.uWXkaGwWHTNDn-A4X85kkUF3kyq" ++
    js "2sMrC25pJUTnXzGF4m-oIVVI049ge5sFO4Wc43BpwjA2CAXfujEQ_07ldDg"

/-- The token library on this token, for its key. -/
def exampleJose : Jose where
  sign header payload secretKey :=
    if header = crlHeader (js "reg-key-1") ∧ payload = exampleClaims.toJson ∧
        secretKey = exampleKeypair.secretKey then
      exampleToken
    else []
  decodeProtectedHeader token :=
    if token = exampleToken then some (crlHeader (js "reg-key-1")) else none
  jwtVerify token publicKey issuer nowSeconds :=
    if token = exampleToken ∧ publicKey = exampleKeypair.publicKey ∧
        (issuer.all fun expected => expected = exampleIssuer) = true ∧ nowSeconds < 1700000390 then
      some exampleClaims.toJson
    else none

/-- The texts are of ASCII, and one date is parsed. -/
def examplePipeline (db : Database) : Pipeline where
  toLowerCase := id
  dateParse text := if text = js "2023-11-14T22:13:19.000Z" then some 1699999999000 else none
  jose := exampleJose
  env := exampleEnv
  db := db
  cachedKeys := none
  expectedIssuer := some exampleIssuer
  nowSeconds := 1700000001

theorem examplePipeline_signer (db : Database) :
    (examplePipeline db).signer? =
      some ⟨js "reg-key-1", js "A6EHv_POEL4dcN0Y50vAmWfk1jCbpQ1fHdyGZBJVMbg", true⟩ := by
  change findMatchingActiveKey exampleEnv.signingKeys.keys exampleKeypair.publicKey = _
  decide

theorem exampleDatabase_claims : (examplePipeline exampleDatabase).claims = exampleClaims := by
  decide

theorem exampleJose_sign :
    exampleJose.sign (crlHeader (js "reg-key-1")) exampleClaims.toJson exampleKeypair.secretKey =
      exampleToken := by
  simp only [exampleJose, and_self, if_true]

theorem exampleJose_roundTrip :
    exampleJose.RoundTrip (js "reg-key-1") exampleKeypair exampleClaims where
  decode := by
    rw [exampleJose_sign]
    simp only [exampleJose, if_true]
  verify issuer nowSeconds := by
    rw [exampleJose_sign]
    simp only [exampleJose, true_and]
    rfl

theorem exampleDatabase_valid : (examplePipeline exampleDatabase).Valid where
  agents := by decide
  rows row hrow := by
    have hrows : (examplePipeline exampleDatabase).rows =
        [{ id := js "01HF7YAT00W6W7CM7N3W5FDXR0", jti := exampleJti
           reason := some (js "reissued"), revokedAt := js "2023-11-14T22:13:19.000Z"
           agentDid := js "did:cdi:registry.example.com:agent:01HF7YAT00W6W7CM7N3W5FDXT4" }] := by
      decide
    rw [hrows, List.mem_singleton] at hrow
    subst hrow
    exact ⟨by decide, by decide, by decide,
      ⟨1699999999000, by decide, by decide⟩⟩
  crlJti := by decide
  clock := by decide
  in_time := by decide
  signer := by rw [examplePipeline_signer]; rfl
  cachedKeys := nofun
  jose signer hsigner hvalid := by
    rw [examplePipeline_signer] at hsigner
    obtain rfl := Option.some.inj hsigner
    rw [exampleDatabase_claims]
    exact exampleJose_roundTrip

/-- The revoked token, asked of a new cache. -/
theorem exampleDatabase_revoked :
    (examplePipeline exampleDatabase).isRevoked (defaultOptions .failClosed) ⟨none, none, none⟩
      exampleJti 1700000001000 = some (.revoked true) := by
  have hjti : (trim exampleJti).isEmpty = false := by decide
  have hdue : startsFetch (defaultOptions .failClosed) ⟨none, none, none⟩ 1700000001000 = true := by
    decide
  have hrevoked : exampleJti ∈ (examplePipeline exampleDatabase).db.revokedJtis := by
    decide
  rw [(crl_is_the_revocation_table exampleDatabase_valid hjti hdue).1 (by decide)]
  rw [decide_eq_true hrevoked]

/-- A new registry, which has revoked nothing. -/
theorem emptyDatabase_valid : (examplePipeline ⟨[], []⟩).Valid where
  agents := nofun
  rows := nofun
  crlJti := by decide
  clock := by decide
  in_time := by decide
  signer := by rw [examplePipeline_signer]; rfl
  cachedKeys := nofun
  jose signer hsigner hvalid := absurd hvalid (by decide)

/-- A cache that refuses to answer while it is stale refuses every token of a registry that has
revoked nothing. -/
theorem not_crl_is_the_revocation_table :
    ¬∀ (s : Pipeline) (options : Options) (cache : Cache) (jti : JsString) (now : ℕ), s.Valid →
      (trim jti).isEmpty = false → startsFetch options cache now = true →
      s.isRevoked options cache jti now = some (.revoked (jti ∈ s.db.revokedJtis)) := by
  intro h
  have hanswer := h (examplePipeline ⟨[], []⟩) (defaultOptions .failClosed) ⟨none, none, none⟩
    exampleJti 1700000001000 emptyDatabase_valid (by decide) (by decide)
  exact absurd hanswer (by decide)

end Clawdentity.CrlPipeline
