import Clawdentity.Js.Text

/-!
# The origin of a request

What a request says about the origin that its sender addressed: the forwarded host and
protocol, or else its own URL. The `URL` class of the platform is a parameter.

## Main definitions

* `UrlApi` — the class, with its getters and setters; `UrlApi.Documented`, what holds of them.
* `isLoopbackHostname`, `resolveRequestOrigin`.
-/

namespace Clawdentity.Common

open Js

/-! ## The URL class -/

/-- The class `URL` over a type of objects; `none` where the constructor throws. A setter
answers the changed object. -/
structure UrlApi (α : Type) where
  parse : JsString → Option α
  /-- `toString()`. -/
  href : α → JsString
  origin : α → JsString
  protocol : α → JsString
  hostname : α → JsString
  port : α → JsString
  pathname : α → JsString
  search : α → JsString
  setProtocol : α → JsString → α
  setHostname : α → JsString → α
  setPort : α → JsString → α

/-- What the URL standard says of the objects. -/
structure UrlApi.Documented {α : Type} (api : UrlApi α) : Prop where
  /-- There is no URL without a scheme. -/
  parse_nil : api.parse [] = none
  /-- A URL is parsed back from its own text. -/
  parse_href : ∀ text url, api.parse text = some url → api.parse (api.href url) = some url
  /-- The text of a URL has a path, or else its origin is the text `null`. -/
  href_ne_origin : ∀ text url, api.parse text = some url → api.href url ≠ api.origin url
  /-- An origin that is a URL has a host, -/
  hostname_ne_nil : ∀ url url', api.parse (api.origin url) = some url' → api.hostname url' ≠ []
  /-- which is that of the URL it is the origin of. -/
  hostname_origin : ∀ url url', api.hostname url ≠ [] → api.parse (api.origin url) = some url' →
    api.hostname url' = api.hostname url
  /-- The host of an origin can be set, with its scheme. -/
  hostname_set : ∀ text url url' source, api.parse text = some url → api.hostname url ≠ [] →
    api.parse (api.origin source) = some url' →
    api.hostname (api.setHostname (api.setProtocol url (api.protocol url')) (api.hostname url')) =
      api.hostname url'
  hostname_setPort : ∀ url port, api.hostname (api.setPort url port) = api.hostname url

/-! ## Loopback hosts -/

section
variable (toLowerCase : JsString → JsString)

def normalizeHostname (hostname : JsString) : JsString :=
  let normalized := toLowerCase (trim hostname)
  if normalized.head? = some 0x5B && normalized.getLast? = some 0x5D then
    normalized.tail.dropLast
  else normalized

def isLoopbackHostname (hostname : JsString) : Bool :=
  let normalized := normalizeHostname toLowerCase hostname
  normalized = js "localhost" || normalized = js "127.0.0.1" || normalized = js "0.0.0.0" ||
    normalized = js "::1"

end

/-! ## The request -/

/-- The URL of a request, and the headers that are read; `none` for a missing header. -/
structure Request where
  url : JsString
  forwardedHost : Option JsString
  forwardedProto : Option JsString
  host : Option JsString
  deriving DecidableEq

def firstHeaderValue (value : Option JsString) : Option JsString :=
  value.bind fun value => ((value.splitOn 0x2C).map trim).find? fun part => !part.isEmpty

/-- `protocol.replace(/:$/, "")`. -/
def withoutColon (protocol : JsString) : JsString :=
  if protocol.getLast? = some 0x3A then protocol.dropLast else protocol

def resolveRequestOrigin {α : Type} (api : UrlApi α) (request : Request) : Option JsString :=
  let fallbackUrl := api.parse request.url
  match (firstHeaderValue request.forwardedHost).or (firstHeaderValue request.host) with
  | none => fallbackUrl.map api.origin
  | some host =>
      let proto := ((firstHeaderValue request.forwardedProto).or
        (fallbackUrl.map fun url => withoutColon (api.protocol url))).getD (js "https")
      match api.parse (proto ++ js "://" ++ host) with
      | some url => some (api.origin url)
      | none => fallbackUrl.map api.origin

/-- What is resolved is the origin of a URL. -/
theorem resolveRequestOrigin_eq_some {α : Type} {api : UrlApi α} {request : Request}
    {origin : JsString} (h : resolveRequestOrigin api request = some origin) :
    ∃ url, origin = api.origin url := by
  unfold resolveRequestOrigin at h
  split at h
  · obtain ⟨url, _, rfl⟩ := Option.map_eq_some_iff.mp h
    exact ⟨url, rfl⟩
  · simp only at h
    split at h
    · rename_i url _
      exact ⟨url, (Option.some.inj h).symm⟩
    · obtain ⟨url, _, rfl⟩ := Option.map_eq_some_iff.mp h
      exact ⟨url, rfl⟩

end Clawdentity.Common
