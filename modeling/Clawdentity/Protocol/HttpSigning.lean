import Clawdentity.Js.Text
import Clawdentity.Lib.Unicode

/-!
# The canonical form of a signed request

The fields of a request are joined with line feeds, and the text is signed. A nonce is any
text, and may have line feeds of its own.

## Main definitions

* `canonicalizeRequest` — the text that is signed.
* `canonicalizeRequest_inj` — the text determines the fields, up to the case of the method.
-/

namespace Clawdentity.HttpSigning

open Js Lib

def CLAW_PROOF_CANONICAL_VERSION : String := "CLAW-PROOF-V1"

structure CanonicalRequestInput where
  method : JsString
  pathWithQuery : JsString
  timestamp : JsString
  nonce : JsString
  bodyHash : JsString
  deriving DecidableEq

/-- The code unit of a line feed. -/
def lineFeed : UInt16 := Utf16.toUnit '\n'

def canonicalizeRequest (unicode : UppercaseMapping) (input : CanonicalRequestInput) : JsString :=
  [lineFeed].intercalate [js CLAW_PROOF_CANONICAL_VERSION, unicode.units input.method,
    input.pathWithQuery, input.timestamp, input.nonce, input.bodyHash]

/-! ## The lines -/

section
variable {α : Type} {sep : α} {version method path timestamp nonce bodyHash : List α}
variable {method' path' timestamp' nonce' bodyHash' : List α}

/-- The nonce and the body hash stand behind the lines that have no line feed in them. -/
theorem lines_eq (version method path timestamp nonce bodyHash : List α) :
    [sep].intercalate [version, method, path, timestamp, nonce, bodyHash] =
      [sep].intercalate ([version, method, path, timestamp] ++ [nonce ++ sep :: bodyHash]) := by
  simp [List.intercalate_cons_cons]

/-- **The lines determine the fields**: the nonce lies between the third separator after the
version and the last one. -/
theorem lines_inj (hversion : sep ∉ version) (hmethod : sep ∉ method) (hpath : sep ∉ path)
    (htimestamp : sep ∉ timestamp) (hhash : sep ∉ bodyHash) (hmethod' : sep ∉ method')
    (hpath' : sep ∉ path') (htimestamp' : sep ∉ timestamp') (hhash' : sep ∉ bodyHash')
    (h : [sep].intercalate [version, method, path, timestamp, nonce, bodyHash] =
      [sep].intercalate [version, method', path', timestamp', nonce', bodyHash']) :
    method = method' ∧ path = path' ∧ timestamp = timestamp' ∧ nonce = nonce' ∧
      bodyHash = bodyHash' := by
  rw [lines_eq, lines_eq] at h
  have hfree : ∀ part ∈ [version, method, path, timestamp], sep ∉ part := by
    simp only [List.forall_mem_cons]
    exact ⟨hversion, hmethod, hpath, htimestamp, nofun⟩
  have hfree' : ∀ part ∈ [version, method', path', timestamp'], sep ∉ part := by
    simp only [List.forall_mem_cons]
    exact ⟨hversion, hmethod', hpath', htimestamp', nofun⟩
  obtain ⟨hparts, hlast⟩ := Text.intercalate_concat_inj (Eq.refl 4) hfree hfree' h
  obtain ⟨hnonce, hbody⟩ := Text.append_sep_inj_last hhash hhash' hlast
  simp only [List.cons.injEq, true_and, and_true] at hparts
  exact ⟨hparts.1, hparts.2.1, hparts.2.2, hnonce, hbody⟩

end

theorem lineFeed_notMem_version : lineFeed ∉ js CLAW_PROOF_CANONICAL_VERSION := by decide

/-- The text determines the fields, up to the case of the method. -/
theorem canonicalizeRequest_inj (unicode : UppercaseMapping) {a b : CanonicalRequestInput}
    (ha : ∀ field ∈ [a.method, a.pathWithQuery, a.timestamp, a.bodyHash], lineFeed ∉ field)
    (hb : ∀ field ∈ [b.method, b.pathWithQuery, b.timestamp, b.bodyHash], lineFeed ∉ field)
    (h : canonicalizeRequest unicode a = canonicalizeRequest unicode b) :
    unicode.units a.method = unicode.units b.method ∧ a.pathWithQuery = b.pathWithQuery ∧
      a.timestamp = b.timestamp ∧ a.nonce = b.nonce ∧ a.bodyHash = b.bodyHash := by
  simp only [List.forall_mem_cons] at ha hb
  refine lines_inj lineFeed_notMem_version ?_ ha.2.1 ha.2.2.1 ha.2.2.2.1 ?_ hb.2.1 hb.2.2.1
    hb.2.2.2.1 h
  · exact fun hmem => ha.1 (unicode.lineFeed_of_mem_units hmem)
  · exact fun hmem => hb.1 (unicode.lineFeed_of_mem_units hmem)

end Clawdentity.HttpSigning
