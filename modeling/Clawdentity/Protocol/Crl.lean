import Clawdentity.Js.Value
import Clawdentity.Lib.Fallible
import Clawdentity.Protocol.Identifiers

/-!
# Claims of a certificate revocation list

The schema of the claims that the registry signs and that every reader of the list checks. It
reads the fields of strict objects and then checks them against each other. A parser that
throws answers `none`, and `toLowerCase` is a parameter.

## Main definitions

* `parseIssuerHostname` — the hostname that the agents of the list must have as authority.
* `CrlClaims.isValid` — the checks of `crlClaimsSchema`.
* `parseCrlClaims`, `CrlClaims.toJson` — from and to the JSON of the claims.
-/

namespace Clawdentity.Protocol

open Js
open Lib (Json)

/-- `Number.MAX_SAFE_INTEGER`. -/
def MAX_SAFE_INTEGER : ℕ := 2 ^ 53 - 1

/-- `z.number().int().nonnegative()`. -/
def parseNonnegativeInt (n : ℚ) : Option ℕ :=
  if n.den = 1 ∧ 0 ≤ n.num ∧ n.num ≤ MAX_SAFE_INTEGER then some n.num.toNat else none

theorem parseNonnegativeInt_natCast {n : ℕ} (h : n ≤ MAX_SAFE_INTEGER) :
    parseNonnegativeInt (n : ℚ) = some n := by
  simp [parseNonnegativeInt, h]

theorem parseNonnegativeInt_le {q : ℚ} {n : ℕ} (h : parseNonnegativeInt q = some n) :
    n ≤ MAX_SAFE_INTEGER := by
  simp only [parseNonnegativeInt, Option.ite_none_right_eq_some, Option.some.injEq] at h
  omega

theorem eq_of_parseNonnegativeInt {q : ℚ} {n : ℕ} (h : parseNonnegativeInt q = some n) :
    q = n := by
  simp only [parseNonnegativeInt, Option.ite_none_right_eq_some, Option.some.injEq] at h
  obtain ⟨⟨hden, hnum, _⟩, rfl⟩ := h
  refine Rat.ext ?_ ?_
  · rw [Rat.num_natCast]
    exact (Int.toNat_of_nonneg hnum).symm
  · rw [Rat.den_natCast, hden]

def hasControlChars (value : JsString) : Bool := value.any fun u => u.toNat ≤ 31 || u.toNat == 127

/-! ## The hostname of the issuer -/

/-- The rest after `http://` or `https://`, with letters in any case. -/
def afterHttpScheme (issuer : JsString) : Option JsString :=
  if (issuer.take 4).map (· ||| 0x20) = js "http" then
    let rest := issuer.drop 4
    let rest := if rest.head?.map (· ||| 0x20) = some 0x73 then rest.tail else rest
    if (js "://").isPrefixOf rest then some (rest.drop 3) else none
  else none

/-- The hostname of the part up to the path, with its port. -/
def parseAuthoritySegment (authoritySegment : JsString) : Option JsString :=
  if authoritySegment.contains 0x40 || authoritySegment.head? = some 0x5B then none
  else
    match authoritySegment.splitOn 0x3A with
    | [hostname] => if hostname.isEmpty then none else some hostname
    | [hostname, rawPort] =>
        if hostname.isEmpty || !rawPort.all isDigit then none else some hostname
    | _ => none

/-- `none` where it answers `null`. -/
def parseIssuerHostname (toLowerCase : JsString → JsString) (issuer : JsString) :
    Option JsString :=
  (afterHttpScheme issuer).bind fun rest =>
    (parseAuthoritySegment
      (rest.takeWhile fun u => u != 0x2F && u != 0x3F && u != 0x23)).map toLowerCase

/-! ## The claims -/

/-- The items, if the value is an array. -/
def arrayItems : Value → Option (List Value)
  | .arr items => some items
  | _ => none

structure CrlRevocation where
  jti : JsString
  agentDid : JsString
  reason : Option JsString
  revokedAt : ℕ
  deriving DecidableEq

structure CrlClaims where
  iss : JsString
  jti : JsString
  iat : ℕ
  exp : ℕ
  revocations : List CrlRevocation
  deriving DecidableEq

/-- The `jti`s of the revoked tokens. -/
def CrlClaims.revokedJtis (claims : CrlClaims) : List JsString :=
  claims.revocations.map CrlRevocation.jti

namespace CrlRevocation

def toJson (revocation : CrlRevocation) : Value :=
  object
    [("jti", some (.str revocation.jti)), ("agentDid", some (.str revocation.agentDid)),
      ("reason", revocation.reason.map .str), ("revokedAt", some (.num revocation.revokedAt))]

def ofJson (v : Value) : Option CrlRevocation := do
  let jti ← getStr v "jti"
  let agentDid ← getStr v "agentDid"
  let reason ← getOptStr v "reason"
  let revokedAt ← (getNum v "revokedAt").bind parseNonnegativeInt
  if strictKeys v ["jti", "agentDid", "reason", "revokedAt"] then
    some { jti, agentDid, reason, revokedAt }
  else none

/-- The checks of an entry, with the hostname of the issuer where it has one. -/
def isValid (issuerAuthority : Option JsString) (revocation : CrlRevocation) : Bool :=
  !revocation.jti.isEmpty && !revocation.agentDid.isEmpty &&
    (revocation.reason.all fun reason => reason.length ≤ 280) &&
    !hasControlChars revocation.agentDid &&
    ((parseAgentDid revocation.agentDid).any fun parsed =>
      issuerAuthority.all fun authority => parsed.authority = authority) &&
    isUlid revocation.jti

theorem ofJson_toJson {revocation : CrlRevocation} (h : revocation.revokedAt ≤ MAX_SAFE_INTEGER) :
    ofJson revocation.toJson = some revocation := by
  have hjti : getStr revocation.toJson "jti" = some revocation.jti := getStr_object (by simp)
  have hdid : getStr revocation.toJson "agentDid" = some revocation.agentDid :=
    getStr_object (by simp)
  have hreason : getOptStr revocation.toJson "reason" = some revocation.reason :=
    getOptStr_object (by simp)
  have hrevoked : getNum revocation.toJson "revokedAt" = some (revocation.revokedAt : ℚ) :=
    getNum_object (by simp)
  have hkeys : strictKeys revocation.toJson ["jti", "agentDid", "reason", "revokedAt"] = true :=
    strictKeys_object (by simp)
  simp only [ofJson, hjti, hdid, hreason, hrevoked, parseNonnegativeInt_natCast h, hkeys,
    Option.bind_eq_bind, Option.bind_some, if_true]

end CrlRevocation

theorem mapM_ofJson_toJson {revocations : List CrlRevocation}
    (h : ∀ revocation ∈ revocations, revocation.revokedAt ≤ MAX_SAFE_INTEGER) :
    (revocations.map CrlRevocation.toJson).mapM CrlRevocation.ofJson = some revocations := by
  rw [List.mapM_map, Lib.mapM_eq_some_map (g := id), List.map_id]
  exact fun revocation hmem => CrlRevocation.ofJson_toJson (h revocation hmem)

/-- The object of the claims, over the objects of its revocations. -/
def crlObject (iss jti : JsString) (iat exp : ℕ) (revocations : List Value) : Value :=
  object [("iss", some (.str iss)), ("jti", some (.str jti)), ("iat", some (.num iat)),
    ("exp", some (.num exp)), ("revocations", some (.arr revocations))]

namespace CrlClaims

/-- The numbers of the claims are integers that JavaScript represents. -/
def IsSafe (claims : CrlClaims) : Prop :=
  claims.iat ≤ MAX_SAFE_INTEGER ∧ claims.exp ≤ MAX_SAFE_INTEGER ∧
    ∀ revocation ∈ claims.revocations, revocation.revokedAt ≤ MAX_SAFE_INTEGER

def toJson (claims : CrlClaims) : Value :=
  crlObject claims.iss claims.jti claims.iat claims.exp
    (claims.revocations.map CrlRevocation.toJson)

def ofJson (v : Value) : Option CrlClaims := do
  let iss ← getStr v "iss"
  let jti ← getStr v "jti"
  let iat ← (getNum v "iat").bind parseNonnegativeInt
  let exp ← (getNum v "exp").bind parseNonnegativeInt
  let revocations ← ((v.get? (js "revocations")).bind arrayItems).bind fun items =>
    items.mapM CrlRevocation.ofJson
  if strictKeys v ["iss", "jti", "iat", "exp", "revocations"] then
    some { iss, jti, iat, exp, revocations }
  else none

/-- The checks of `crlClaimsSchema`. -/
def isValid (toLowerCase : JsString → JsString) (claims : CrlClaims) : Bool :=
  !claims.iss.isEmpty && !claims.jti.isEmpty && !claims.revocations.isEmpty &&
    (parseIssuerHostname toLowerCase claims.iss).isSome && decide (claims.iat < claims.exp) &&
    claims.revocations.all fun revocation =>
      revocation.isValid (parseIssuerHostname toLowerCase claims.iss)

theorem ofJson_crlObject {iss jti : JsString} {iat exp : ℕ} {items : List Value}
    {revocations : List CrlRevocation} (hiat : iat ≤ MAX_SAFE_INTEGER)
    (hexp : exp ≤ MAX_SAFE_INTEGER) (hitems : items.mapM CrlRevocation.ofJson = some revocations) :
    ofJson (crlObject iss jti iat exp items) = some { iss, jti, iat, exp, revocations } := by
  have hiss : getStr (crlObject iss jti iat exp items) "iss" = some iss := getStr_object (by simp)
  have hjti : getStr (crlObject iss jti iat exp items) "jti" = some jti := getStr_object (by simp)
  have hissued : getNum (crlObject iss jti iat exp items) "iat" = some (iat : ℚ) :=
    getNum_object (by simp)
  have hexpires : getNum (crlObject iss jti iat exp items) "exp" = some (exp : ℚ) :=
    getNum_object (by simp)
  have harray : (crlObject iss jti iat exp items).get? (js "revocations") = some (.arr items) := by
    simp [crlObject]
  have hkeys : strictKeys (crlObject iss jti iat exp items)
      ["iss", "jti", "iat", "exp", "revocations"] = true := strictKeys_object (by simp)
  simp only [ofJson, hiss, hjti, hissued, hexpires, harray, hkeys, arrayItems, hitems,
    parseNonnegativeInt_natCast hiat, parseNonnegativeInt_natCast hexp, Option.bind_eq_bind,
    Option.bind_some, if_true]

theorem ofJson_toJson {claims : CrlClaims} (h : claims.IsSafe) :
    ofJson claims.toJson = some claims :=
  ofJson_crlObject h.1 h.2.1 (mapM_ofJson_toJson h.2.2)

end CrlClaims

/-- `parseCrlClaims`. -/
def parseCrlClaims (toLowerCase : JsString → JsString) (input : Value) : Option CrlClaims :=
  (CrlClaims.ofJson input).filter (CrlClaims.isValid toLowerCase)

/-- **What is written of claims is parsed as these claims, exactly where they are valid.** -/
theorem parseCrlClaims_toJson {toLowerCase : JsString → JsString} {claims : CrlClaims}
    (h : claims.IsSafe) :
    parseCrlClaims toLowerCase claims.toJson =
      if claims.isValid toLowerCase then some claims else none := by
  rw [parseCrlClaims, CrlClaims.ofJson_toJson h, Option.filter_some]

end Clawdentity.Protocol
