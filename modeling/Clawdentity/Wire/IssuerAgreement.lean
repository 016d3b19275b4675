import Clawdentity.Common.RequestOrigin

/-!
# The issuer of agent identity tokens

The registry writes its issuer into tokens when it registers an agent and when it reissues a
token, and it expects an issuer of the tokens that agents send to it. The proxy derives the
issuer that it expects from the URL of the registry. All four start from the same configured
text and from the origin of the request at hand.

## Main definitions

* `resolveRegistryIssuer`, `resolvePublicUrl`, `resolvePublicRegistryIssuer` — the registry.
* `normalizeRegistryUrl`, `resolveExpectedIssuer` — the proxy.
* `IssuersAgree` — the four issuers are one text.
* `issuer_agreement` — where they are.
-/

namespace Clawdentity.Wire.IssuerAgreement

open Js Common

/-! ## The registry -/

inductive Environment
  | local
  | development
  | production
  deriving DecidableEq, Repr

/-- `REGISTRY_ISSUER_BY_ENVIRONMENT`. -/
def registryIssuerByEnvironment : Environment → JsString
  | .local => js "http://127.0.0.1:8788"
  | .development => js "https://dev.registry.clawdentity.com"
  | .production => js "https://registry.clawdentity.com"

/-- The fields of the configuration that the issuer depends on. -/
structure RegistryConfig where
  environment : Environment
  registryIssuerUrl : Option JsString
  deriving DecidableEq

def resolveRegistryIssuer (config : RegistryConfig) : JsString :=
  match config.registryIssuerUrl.map trim with
  | some explicitIssuer =>
      if explicitIssuer.isEmpty then registryIssuerByEnvironment config.environment
      else explicitIssuer
  | none => registryIssuerByEnvironment config.environment

section
variable {α : Type} (toLowerCase : JsString → JsString) (api : UrlApi α)

/-- `z.string().url()`: the trimmed text, where it is a URL. -/
def parseUrlText (value : JsString) : Option JsString :=
  (api.parse (trim value)).map fun _ => trim value

/-- `none` where it throws. -/
def resolvePublicUrl (request : Request) (configuredUrl : JsString)
    (preserveConfiguredPort : Bool) : Option JsString := do
  let configured ← api.parse configuredUrl
  if !isLoopbackHostname toLowerCase (api.hostname configured) then
    some configuredUrl
  else
    match (resolveRequestOrigin api request).filter fun origin => !origin.isEmpty with
    | none => some (api.href configured)
    | some requestOrigin => do
        let requestUrl ← api.parse requestOrigin
        if isLoopbackHostname toLowerCase (api.hostname requestUrl) then
          some configuredUrl
        else
          let configured := api.setHostname (api.setProtocol configured (api.protocol requestUrl))
            (api.hostname requestUrl)
          let configured :=
            if preserveConfiguredPort then configured
            else api.setPort configured (api.port requestUrl)
          if api.pathname configured = js "/" && (api.search configured).isEmpty then
            let origin := api.origin configured
            some (if configuredUrl.getLast? = some 0x2F then origin ++ js "/" else origin)
          else some (api.href configured)

def resolvePublicRegistryIssuer (request : Request) (config : RegistryConfig) : Option JsString :=
  resolvePublicUrl toLowerCase api request (resolveRegistryIssuer config) false

/-- The issuer of the token that a registration signs. -/
def registrationIssuer (request : Request) (config : RegistryConfig) : Option JsString :=
  resolvePublicRegistryIssuer toLowerCase api request config

/-- The issuer of the token that a reissue signs. -/
def reissueIssuer (config : RegistryConfig) : JsString := resolveRegistryIssuer config

/-- The issuer that `verifyAgentClawRequest` expects. -/
def agentClawIssuer (request : Request) (config : RegistryConfig) : Option JsString :=
  resolvePublicRegistryIssuer toLowerCase api request config

/-! ## The proxy -/

/-- `none` where it throws. -/
def normalizeRegistryUrl (registryUrl : JsString) : Option JsString :=
  (api.parse registryUrl).map api.href

/-- `resolveExpectedIssuer` with a request; `none` where it answers `undefined`. -/
def resolveExpectedIssuer (registryUrl : JsString) (request : Request) : Option JsString := do
  let parsedRegistryUrl ← api.parse registryUrl
  if !isLoopbackHostname toLowerCase (api.hostname parsedRegistryUrl) then
    some (api.origin parsedRegistryUrl)
  else
    match (resolveRequestOrigin api request).filter fun origin => !origin.isEmpty with
    | none => some (api.origin parsedRegistryUrl)
    | some requestOrigin => do
        let requestUrl ← api.parse requestOrigin
        if isLoopbackHostname toLowerCase (api.hostname requestUrl) then
          some (api.origin parsedRegistryUrl)
        else
          let parsedRegistryUrl := api.setHostname
            (api.setProtocol parsedRegistryUrl (api.protocol requestUrl)) (api.hostname requestUrl)
          let parsedRegistryUrl :=
            if (api.port requestUrl).isEmpty then api.setPort parsedRegistryUrl []
            else parsedRegistryUrl
          some (api.origin parsedRegistryUrl)

/-- The issuer that the proxy expects, for the URL of the registry in its configuration. -/
def proxyIssuer (registryUrl : JsString) (request : Request) : Option JsString :=
  (normalizeRegistryUrl api registryUrl).bind fun registryUrl =>
    resolveExpectedIssuer toLowerCase api registryUrl request

/-! ## Agreement -/

/-- One request to each of the three that look at requests. -/
structure Requests where
  registration : Request
  agentClaw : Request
  proxy : Request

/-- The requests present the same origin. -/
structure Requests.SameOrigin (requests : Requests) (origin : Option JsString) : Prop where
  registration : resolveRequestOrigin api requests.registration = origin
  agentClaw : resolveRequestOrigin api requests.agentClaw = origin
  proxy : resolveRequestOrigin api requests.proxy = origin

/-- The issuer in a token of a registration, the issuer in a reissued token and the two expected
issuers are the same text. -/
def IssuersAgree (config : RegistryConfig) (registryUrl : JsString) (requests : Requests) : Prop :=
  ∃ issuer, registrationIssuer toLowerCase api requests.registration config = some issuer ∧
    reissueIssuer config = issuer ∧
    agentClawIssuer toLowerCase api requests.agentClaw config = some issuer ∧
    proxyIssuer toLowerCase api registryUrl requests.proxy = some issuer

/-- The configured text is written as its own origin, and where it names a loopback host the
request comes to a loopback host. -/
def OriginText (issuerUrl : JsString) (requestOrigin : Option JsString) : Prop :=
  ∃ configured, api.parse issuerUrl = some configured ∧ api.origin configured = issuerUrl ∧
    (isLoopbackHostname toLowerCase (api.hostname configured) = true →
      ∃ origin requestUrl, requestOrigin = some origin ∧ api.parse origin = some requestUrl ∧
        isLoopbackHostname toLowerCase (api.hostname requestUrl) = true)

end

section
variable {α : Type} {toLowerCase : JsString → JsString} {api : UrlApi α} {config : RegistryConfig}
  {raw issuerUrl : JsString} {requests : Requests} {requestOrigin : Option JsString}

/-- The text of an accepted configuration is the issuer that the registry starts from. -/
theorem resolveRegistryIssuer_eq (hapi : api.Documented) (hraw : parseUrlText api raw = some issuerUrl)
    (hconfig : config.registryIssuerUrl = some issuerUrl) :
    resolveRegistryIssuer config = issuerUrl := by
  obtain ⟨url, hparse, rfl⟩ := Option.map_eq_some_iff.mp hraw
  have hne : (trim raw).isEmpty = false := by
    rw [List.isEmpty_eq_false_iff]
    intro hempty
    rw [hempty, hapi.parse_nil] at hparse
    cases hparse
  simp [resolveRegistryIssuer, hconfig, hne]

/-- What the proxy expects, for a configured text that is a URL. -/
theorem proxyIssuer_eq (hapi : api.Documented) {configured : α}
    (hparse : api.parse issuerUrl = some configured) (request : Request) :
    proxyIssuer toLowerCase api issuerUrl request =
      resolveExpectedIssuer toLowerCase api issuerUrl request := by
  have hhref := hapi.parse_href issuerUrl configured hparse
  simp only [proxyIssuer, normalizeRegistryUrl, hparse, Option.map_some, Option.bind_some,
    resolveExpectedIssuer, hhref]

/-- Both sides leave the host as it is: the registry uses the text and the proxy its origin. -/
theorem issuers_kept {configured : α} (hparse : api.parse issuerUrl = some configured)
    {request : Request}
    (hkept : isLoopbackHostname toLowerCase (api.hostname configured) = true →
      ∃ origin requestUrl, (resolveRequestOrigin api request).filter (fun o => !o.isEmpty) =
          some origin ∧ api.parse origin = some requestUrl ∧
        isLoopbackHostname toLowerCase (api.hostname requestUrl) = true) :
    resolvePublicUrl toLowerCase api request issuerUrl false = some issuerUrl ∧
      resolveExpectedIssuer toLowerCase api issuerUrl request = some (api.origin configured) := by
  by_cases hloopback : isLoopbackHostname toLowerCase (api.hostname configured) = true
  · obtain ⟨origin, requestUrl, horigin, hurl, hlocal⟩ := hkept hloopback
    constructor
    · simp [resolvePublicUrl, hparse, horigin, hurl, hlocal]
    · simp [resolveExpectedIssuer, hparse, horigin, hurl, hlocal]
  · rw [Bool.not_eq_true] at hloopback
    constructor
    · simp [resolvePublicUrl, hparse, hloopback]
    · simp [resolveExpectedIssuer, hparse, hloopback]

/-- No loopback host is the empty text. -/
theorem hostname_ne_nil_of_loopback (hlower : toLowerCase [] = []) {hostname : JsString}
    (h : isLoopbackHostname toLowerCase hostname = true) : hostname ≠ [] := by
  rintro rfl
  have htrim : trim [] = [] := rfl
  simp only [isLoopbackHostname, normalizeHostname, htrim, hlower] at h
  exact absurd h (by decide)

/-- Where the proxy puts the host of a request in, it does not expect the configured text. -/
theorem resolveExpectedIssuer_rewritten (hapi : api.Documented) (hlower : toLowerCase [] = [])
    {configured requestUrl : α} {origin : JsString} {request : Request}
    (hparse : api.parse issuerUrl = some configured)
    (hloopback : isLoopbackHostname toLowerCase (api.hostname configured) = true)
    (horigin : (resolveRequestOrigin api request).filter (fun o => !o.isEmpty) = some origin)
    (hurl : api.parse origin = some requestUrl)
    (hpublic : isLoopbackHostname toLowerCase (api.hostname requestUrl) = false) :
    resolveExpectedIssuer toLowerCase api issuerUrl request ≠ some issuerUrl := by
  obtain ⟨source, rfl⟩ := resolveRequestOrigin_eq_some (Option.filter_eq_some_iff.mp horigin).1
  have hhost := hapi.hostname_set issuerUrl configured requestUrl source hparse
    (hostname_ne_nil_of_loopback hlower hloopback) hurl
  -- the issuer is the origin of a URL with the host of the request
  have hexpected : ∃ url, resolveExpectedIssuer toLowerCase api issuerUrl request =
      some (api.origin url) ∧ api.hostname url = api.hostname requestUrl := by
    by_cases hport : api.port requestUrl = []
    · refine ⟨_, ?_, (hapi.hostname_setPort _ []).trans hhost⟩
      simp [resolveExpectedIssuer, hparse, hloopback, horigin, hurl, hpublic, hport]
    · refine ⟨_, ?_, hhost⟩
      simp [resolveExpectedIssuer, hparse, hloopback, horigin, hurl, hpublic, hport]
  obtain ⟨url, heq, hname⟩ := hexpected
  rw [heq]
  intro hsame
  have hrequest := hapi.hostname_ne_nil source requestUrl hurl
  rw [← Option.some.inj hsame] at hparse
  have hconfigured := hapi.hostname_origin url configured (hname ▸ hrequest) hparse
  rw [hconfigured, hname, hpublic] at hloopback
  cases hloopback

/-- **The four issuers are the same text** exactly where the configured text is written as its own
origin and, if it names a loopback host, the requests come to a loopback host. -/
theorem issuer_agreement (hapi : api.Documented) (hlower : toLowerCase [] = [])
    (hraw : parseUrlText api raw = some issuerUrl)
    (hconfig : config.registryIssuerUrl = some issuerUrl)
    (horigin : requests.SameOrigin api requestOrigin) :
    IssuersAgree toLowerCase api config issuerUrl requests ↔
      OriginText toLowerCase api issuerUrl requestOrigin := by
  have hissuer := resolveRegistryIssuer_eq hapi hraw hconfig
  obtain ⟨configured, hparse, htrim⟩ := Option.map_eq_some_iff.mp hraw
  rw [htrim] at hparse
  simp only [IssuersAgree, registrationIssuer, agentClawIssuer, resolvePublicRegistryIssuer,
    reissueIssuer, hissuer, proxyIssuer_eq hapi hparse]
  constructor
  · rintro ⟨issuer, hregistration, rfl, _, hproxy⟩
    by_cases hloopback : isLoopbackHostname toLowerCase (api.hostname configured) = true
    · cases hrequest : (resolveRequestOrigin api requests.registration).filter
        (fun o => !o.isEmpty) with
      | none =>
          -- without an origin one side has the text of the URL and the other its origin
          have hrequest' : (resolveRequestOrigin api requests.proxy).filter
              (fun o => !o.isEmpty) = none := by
            rw [horigin.proxy, ← horigin.registration, hrequest]
          have hhref : api.href configured = issuerUrl := by
            simpa [resolvePublicUrl, hparse, hloopback, hrequest] using hregistration
          have hown : api.origin configured = issuerUrl := by
            simpa [resolveExpectedIssuer, hparse, hloopback, hrequest'] using hproxy
          exact absurd (hhref.trans hown.symm) (hapi.href_ne_origin issuerUrl configured hparse)
      | some origin =>
          have hrequest' : (resolveRequestOrigin api requests.proxy).filter
              (fun o => !o.isEmpty) = some origin := by
            rw [horigin.proxy, ← horigin.registration, hrequest]
          cases hurl : api.parse origin with
          | none => simp [resolvePublicUrl, hparse, hloopback, hrequest, hurl] at hregistration
          | some requestUrl =>
              cases hpublic : isLoopbackHostname toLowerCase (api.hostname requestUrl) with
              | false =>
                  exact absurd hproxy (resolveExpectedIssuer_rewritten hapi hlower hparse hloopback
                    hrequest' hurl hpublic)
              | true =>
                  have hown : api.origin configured = issuerUrl := by
                    simpa [resolveExpectedIssuer, hparse, hloopback, hrequest', hurl, hpublic]
                      using hproxy
                  refine ⟨configured, hparse, hown, fun _ => ⟨origin, requestUrl, ?_, hurl, hpublic⟩⟩
                  rw [← horigin.registration]
                  exact (Option.filter_eq_some_iff.mp hrequest).1
    · have hown : api.origin configured = issuerUrl := by
        rw [Bool.not_eq_true] at hloopback
        simpa [resolveExpectedIssuer, hparse, hloopback] using hproxy
      exact ⟨configured, hparse, hown, fun hyes => absurd hyes hloopback⟩
  · rintro ⟨configured', hparse', hown, hlocal⟩
    obtain rfl : configured = configured' := Option.some.inj (hparse.symm.trans hparse')
    have hkept : ∀ request, resolveRequestOrigin api request = requestOrigin →
        isLoopbackHostname toLowerCase (api.hostname configured) = true →
        ∃ origin requestUrl, (resolveRequestOrigin api request).filter (fun o => !o.isEmpty) =
            some origin ∧ api.parse origin = some requestUrl ∧
          isLoopbackHostname toLowerCase (api.hostname requestUrl) = true := by
      intro request hrequest hloopback
      obtain ⟨origin, requestUrl, hsome, hurl, hrequestLocal⟩ := hlocal hloopback
      refine ⟨origin, requestUrl, ?_, hurl, hrequestLocal⟩
      have hne : origin ≠ [] := by
        rintro rfl
        rw [hapi.parse_nil] at hurl
        cases hurl
      simp [hrequest, hsome, hne]
    refine ⟨issuerUrl, (issuers_kept hparse (hkept _ horigin.registration)).1, rfl,
      (issuers_kept hparse (hkept _ horigin.agentClaw)).1, ?_⟩
    rw [(issuers_kept hparse (hkept _ horigin.proxy)).2, hown]

end

/-! ## A registry on the local host -/

/-- The URLs of two hosts, with and without TLS and with and without a port. -/
structure ExampleUrl where
  secure : Bool
  isPublic : Bool
  hasPort : Bool
  deriving DecidableEq

namespace ExampleUrl

def all : List ExampleUrl :=
  [⟨false, false, false⟩, ⟨false, false, true⟩, ⟨false, true, false⟩, ⟨false, true, true⟩,
    ⟨true, false, false⟩, ⟨true, false, true⟩, ⟨true, true, false⟩, ⟨true, true, true⟩]

def protocol (url : ExampleUrl) : JsString := if url.secure then js "https:" else js "http:"

def hostname (url : ExampleUrl) : JsString := if url.isPublic then js "a.example" else js "127.0.0.1"

def port (url : ExampleUrl) : JsString := if url.hasPort then js "8788" else []

def origin (url : ExampleUrl) : JsString :=
  url.protocol ++ js "//" ++ url.hostname ++ if url.hasPort then js ":8788" else []

def href (url : ExampleUrl) : JsString := url.origin ++ js "/"

def parse (text : JsString) : Option ExampleUrl :=
  all.find? fun url => text = url.origin || text = url.href

theorem parse_origin (url : ExampleUrl) : parse url.origin = some url := by
  obtain ⟨_ | _, _ | _, _ | _⟩ := url <;> decide

theorem parse_href (url : ExampleUrl) : parse url.href = some url := by
  obtain ⟨_ | _, _ | _, _ | _⟩ := url <;> decide

end ExampleUrl

def exampleUrlApi : UrlApi ExampleUrl where
  parse := ExampleUrl.parse
  href := ExampleUrl.href
  origin := ExampleUrl.origin
  protocol := ExampleUrl.protocol
  hostname := ExampleUrl.hostname
  port := ExampleUrl.port
  pathname _ := js "/"
  search _ := []
  setProtocol url protocol := { url with secure := protocol = js "https:" }
  setHostname url hostname := { url with isPublic := hostname = js "a.example" }
  setPort url port := { url with hasPort := port = js "8788" }

theorem documented_example : exampleUrlApi.Documented where
  parse_nil := by decide
  parse_href _ url _ := ExampleUrl.parse_href url
  href_ne_origin _ url _ := by
    have hslash : js "/" ≠ [] := by decide
    simp [exampleUrlApi, ExampleUrl.href, hslash]
  hostname_ne_nil _ url' _ := by
    simp only [exampleUrlApi, ExampleUrl.hostname]
    split <;> decide
  hostname_origin url url' _ h := by
    obtain rfl := Option.some.inj ((ExampleUrl.parse_origin url).symm.trans h)
    rfl
  hostname_set _ _ url' _ _ _ _ := by
    obtain ⟨_, _ | _, _⟩ := url' <;> rfl
  hostname_setPort _ _ := rfl

/-- A request that a public host forwards to the local host. -/
def exampleRequest : Request where
  url := js "http://127.0.0.1:8788"
  forwardedHost := some (js "a.example")
  forwardedProto := some (js "https")
  host := none

/-- A registry that is configured with the given issuer. -/
def exampleConfig (issuerUrl : JsString) : RegistryConfig := ⟨.production, some issuerUrl⟩

/-- **A reissued token keeps the loopback host** that a registration does not write. -/
theorem not_issuersAgree : ¬IssuersAgree id exampleUrlApi (exampleConfig (js "http://127.0.0.1:8788"))
    (js "http://127.0.0.1:8788") ⟨exampleRequest, exampleRequest, exampleRequest⟩ := by
  rintro ⟨issuer, hregistration, hreissue, _, _⟩
  have hforwarded : registrationIssuer id exampleUrlApi exampleRequest
      (exampleConfig (js "http://127.0.0.1:8788")) = some (js "https://a.example") := by decide
  have hkept : reissueIssuer (exampleConfig (js "http://127.0.0.1:8788")) =
      js "http://127.0.0.1:8788" := by decide
  rw [hforwarded, ← hreissue, hkept] at hregistration
  exact absurd hregistration (by decide)

/-- A public issuer that is written as its own origin is the one issuer. -/
theorem examplePublic_issuersAgree : IssuersAgree id exampleUrlApi
    (exampleConfig (js "https://a.example")) (js "https://a.example")
    ⟨exampleRequest, exampleRequest, exampleRequest⟩ := by
  have horigin : resolveRequestOrigin exampleUrlApi exampleRequest =
      some (js "https://a.example") := by decide
  have hraw : parseUrlText exampleUrlApi (js "https://a.example") =
      some (js "https://a.example") := by decide
  refine (issuer_agreement documented_example rfl hraw rfl ⟨horigin, horigin, horigin⟩).mpr ?_
  exact ⟨⟨true, true, false⟩, by decide, by decide, fun h => absurd h (by decide)⟩

end Clawdentity.Wire.IssuerAgreement
