import SpeechK8s.Lib.Url
import SpeechK8s.Mcp.Search

/-!
# The source of a result in internal/search/searxng.go

`resultSource` takes the second element of `parsed_url`, which is Python's `netloc` of the URL,
and only where there is none the `Host` that Go parses from the URL itself.
-/
namespace SpeechK8s.Mcp
open Utf8 (Bytes)

section
variable (urlHost : String → Option Bytes) (r : BackendResult)

/-- The result as it is without `parsed_url`. -/
def BackendResult.unparsed : BackendResult := { r with parsedUrl := [] }

variable {urlHost r}

theorem resultSource_netloc {netloc : String} (hparsed : r.parsedUrl[1]? = some netloc)
    (hne : netloc ≠ "") : resultSource urlHost r = bytes netloc := by
  simp only [resultSource, hparsed, hne, ne_eq, not_false_eq_true, if_true]

theorem resultSource_unparsed {host : Bytes} (hhost : urlHost r.url = some host) (hne : host ≠ []) :
    resultSource urlHost r.unparsed = host := by
  have hurl : urlHost r.unparsed.url = some host := hhost
  have hnone : r.unparsed.parsedUrl[1]? = none := rfl
  simp only [resultSource, hnone, hurl, hne, ne_eq, not_false_eq_true, if_true]

end

/-- The source is the host that the URL leads to, with `parsed_url` and without. -/
def SourceAgrees (urlHost : String → Option Bytes) (r : BackendResult) (host : Bytes) : Prop :=
  resultSource urlHost r = resultSource urlHost r.unparsed ∧ resultSource urlHost r = host

/-- With the `parsed_url` of the same URL, the source is the host of the URL exactly when its
authority has neither userinfo nor escapes. -/
theorem sourceAgrees_iff (literal checks : List Char → Bool) (r : BackendResult) (netloc : String)
    (host : Bytes) (hpython : Url.urlsplit checks r.url = some netloc)
    (hparsed : r.parsedUrl[1]? = some netloc) (hgo : Url.goHost literal r.url = some host)
    (hne : host ≠ []) :
    SourceAgrees (Url.goHost literal) r host ↔ '@' ∉ netloc.toList ∧ '%' ∉ netloc.toList := by
  have hauthority := Url.parseAuthority_urlsplit hgo hne hpython
  have hnetloc : netloc ≠ "" := by
    rintro rfl
    obtain rfl : [] = host := Option.some.inj hauthority
    exact hne rfl
  rw [SourceAgrees, resultSource_unparsed hgo hne, resultSource_netloc hparsed hnetloc, and_self,
    ← Url.parseAuthority_eq_encode_iff hauthority, eq_comm]
  rfl

/-- A result as SearXNG sends it, with the `netloc` in its place. -/
def resultFor (url netloc : String) : BackendResult :=
  ⟨"title", url, "content", "engine", ["https", netloc]⟩

theorem plain_source : SourceAgrees (Url.goHost fun _ => true)
    (resultFor "https://example.org/" "example.org") (bytes "example.org") :=
  (sourceAgrees_iff (fun _ => true) (fun _ => true) _ "example.org" _ (by decide +kernel) rfl
    (by decide +kernel) (by decide)).mpr (by decide)

/-- A link that leads to `evil.example` and displays as one to `bank.example`. -/
theorem disguised_host : ¬ ∀ (literal checks : List Char → Bool) (r : BackendResult)
    (netloc : String) (host : Bytes), Url.urlsplit checks r.url = some netloc →
    r.parsedUrl[1]? = some netloc → Url.goHost literal r.url = some host → host ≠ [] →
    SourceAgrees (Url.goHost literal) r host := by
  intro h
  have hagrees := h (fun _ => true) (fun _ => true)
    (resultFor "https://bank.example@evil.example/" "bank.example@evil.example")
    "bank.example@evil.example" (bytes "evil.example") (by decide +kernel) rfl
    (by decide +kernel) (by decide)
  exact absurd hagrees.2 (by decide)

end SpeechK8s.Mcp
