import Clawdentity.Js.Text
import Clawdentity.Lib.Fallible
import Clawdentity.Lib.Json

/-!
# Pairing tickets

The text of a ticket is a prefix and a base64url-encoded JSON payload that the
issuing proxy has signed. The decoder of the payload, the URL parser and the
signature check belong to the platform and are parameters.

## Main definitions

* `normalizePairingTicketText` — the text without quoting and white space.
* `parsePairingTicket` — the payload of a ticket text, or the error it throws.
-/

namespace Clawdentity.PairingTicket

open Js Lib

/-- What `new URL(text)` tells about a text that it accepts. -/
structure Url where
  protocol : JsString
  origin : JsString
  deriving DecidableEq

structure PairingTicketPayload where
  iss : JsString
  kid : JsString
  nonce : JsString
  exp : ℤ
  pkid : JsString
  sig : JsString
  deriving DecidableEq

/-- The functions of the platform. -/
structure Platform where
  /-- `JSON.parse(utf8Decode(decodeBase64url(text)))`; `none` where it throws. -/
  decodePayload : JsString → Option (Json JsString)
  /-- `String(value)`. -/
  toText : Json JsString → JsString
  /-- `new URL(text)`; `none` where it throws. -/
  parseUrl : JsString → Option Url
  /-- `verifyPairingTicketSignature`, from payload and public key; false where it throws. -/
  verifySignature : PairingTicketPayload → JsString → Bool

structure PairingTicketParseError where
  code : String
  message : String
  deriving DecidableEq, Repr

def PAIRING_TICKET_PREFIX : JsString := js "clwpair1_"
def PAIRING_TICKET_VERSION : ℚ := 2

/-- The backtick with which chats quote a ticket. -/
def isBacktick (u : UInt16) : Bool := u == 0x60

def normalizePairingTicketText (value : JsString) : JsString :=
  (trim (((trim value).dropWhile isBacktick).rdropWhile isBacktick)).filter fun u =>
    !isWhiteSpace u

def invalidFormat : PairingTicketParseError :=
  ⟨"PROXY_PAIR_TICKET_INVALID_FORMAT", "Pairing ticket format is invalid"⟩

def invalidIssuer : PairingTicketParseError :=
  ⟨"PROXY_PAIR_TICKET_INVALID_ISSUER", "Pairing ticket issuer URL is invalid"⟩

def unsupportedVersion : PairingTicketParseError :=
  ⟨"PROXY_PAIR_TICKET_UNSUPPORTED_VERSION", "Pairing ticket version is not supported"⟩

def Url.isHttp (url : Url) : Bool := url.protocol = js "https:" || url.protocol = js "http:"

def assertHttpUrl (platform : Platform) (value : JsString) :
    Except PairingTicketParseError JsString :=
  match platform.parseUrl value with
  | some url => if url.isHttp then .ok url.origin else .error invalidIssuer
  | none => .error invalidIssuer

def normalizeNonEmptyString (value : Option (Json JsString)) (error : PairingTicketParseError) :
    Except PairingTicketParseError JsString :=
  match value.bind Json.str? with
  | some s => if isNonEmptyString s then .ok (trim s) else .error error
  | none => .error error

/-- `String(value ?? "")`. -/
def textOrEmpty (platform : Platform) (value : Option (Json JsString)) : JsString :=
  match value with
  | none | some .null => []
  | some v => platform.toText v

/-- An object or an array, which `typeof` does not tell apart. -/
def isRecord : Json JsString → Bool
  | .obj _ | .arr _ => true
  | _ => false

def parsePairingTicket (platform : Platform) (ticket : JsString) :
    Except PairingTicketParseError PairingTicketPayload := do
  let trimmedTicket := normalizePairingTicketText ticket
  check (PAIRING_TICKET_PREFIX.isPrefixOf trimmedTicket) invalidFormat
  let encodedPayload := trimmedTicket.drop PAIRING_TICKET_PREFIX.length
  check (!encodedPayload.isEmpty) invalidFormat
  let payload ← match platform.decodePayload encodedPayload with
    | some payload => if isRecord payload then .ok payload else .error invalidFormat
    | none => .error invalidFormat
  check (payload.get? (js "v") = some (.num PAIRING_TICKET_VERSION)) unsupportedVersion
  let iss ← assertHttpUrl platform (textOrEmpty platform (payload.get? (js "iss")))
  let kid ← normalizeNonEmptyString (payload.get? (js "kid")) invalidFormat
  let nonce ← normalizeNonEmptyString (payload.get? (js "nonce")) invalidFormat
  let pkid ← normalizeNonEmptyString (payload.get? (js "pkid")) invalidFormat
  let sig ← normalizeNonEmptyString (payload.get? (js "sig")) invalidFormat
  match (payload.get? (js "exp")).bind Json.int? with
  | some exp => .ok { iss, kid, nonce, exp, pkid, sig }
  | none => .error invalidFormat

/-- `parseNormalizedPairingTicket`: the normalised text and its payload. -/
def parseNormalizedPairingTicket (platform : Platform) (rawTicket : JsString) :
    Except PairingTicketParseError (JsString × PairingTicketPayload) := do
  let ticket := normalizePairingTicketText rawTicket
  let payload ← parsePairingTicket platform ticket
  pure (ticket, payload)

end Clawdentity.PairingTicket
