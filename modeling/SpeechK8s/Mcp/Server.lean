import SpeechK8s.Mcp.Config
import SpeechK8s.Mcp.Search
import Mathlib.Algebra.Group.Int.Defs

/-!
# internal/mcpserver and internal/localtime

The two tool handlers, with what `main` gives them. Of the SDK only the decoding of the one
integer argument is here.
-/
namespace SpeechK8s.Mcp
open Utf8 (Bytes)

/-! ## local_time -/

structure TimeInput where
  timezone : String
  deriving DecidableEq, Repr

structure TimeOutput where
  timezone : Bytes
  iso8601 : Bytes
  unix : Int64
  weekday : Bytes
  deriving DecidableEq, Repr

/-- The current time in a location: `Format(time.RFC3339)`, `Unix()` and `Weekday().String()`. -/
structure Moment where
  iso8601 : String
  unix : Int64
  weekday : String

/-- `unknown timezone %q: %w` -/
structure TimeError where
  timezone : String
  cause : String

/-- `Provider.Now`; `clock` is `time.LoadLocation` and `time.Now().In`, with the text of the
error for a name that is not a timezone. -/
def now (clock : String → Except String Moment) (defaultTimezone : String) (input : TimeInput) :
    Except TimeError TimeOutput :=
  let tz := if input.timezone = "" then defaultTimezone else input.timezone
  let tz := if tz = "" then "UTC" else tz
  match clock tz with
  | .error cause => .error ⟨tz, cause⟩
  | .ok m => .ok ⟨bytes tz, bytes m.iso8601, m.unix, bytes m.weekday⟩

/-! ## global_internet_search -/

structure SearchInput where
  query : String
  maxResults : Int64
  deriving DecidableEq, Repr

structure SearchOutput where
  results : List Result
  deriving DecidableEq, Repr

def globalInternetSearch (provider : String → Int64 → Except SearchError (List Result))
    (defaultMaxResults : Int64) (input : SearchInput) : Except SearchError SearchOutput :=
  let maxResults := if input.maxResults ≤ 0 then defaultMaxResults else input.maxResults
  match provider input.query maxResults with
  | .error e => .error e
  | .ok results => .ok ⟨results⟩

def FitsInt (z : Int) : Prop := -2 ^ 63 ≤ z ∧ z < 2 ^ 63

instance (z : Int) : Decidable (FitsInt z) := inferInstanceAs (Decidable (_ ∧ _))

/-- `max_results,omitempty`: an absent field leaves 0. -/
def decodeMaxResults : Option Int → Option Int64
  | none => some 0
  | some z => if FitsInt z then some (Int64.ofInt z) else none

/-- The arguments are refused before the handler, or the handler fails. -/
inductive CallError where
  | arguments
  | handler (e : SearchError)
  deriving DecidableEq, Repr

section
variable (urlHost : String → Option Bytes) (env : Environment) (backend : String → Backend)

/-- A call of `global_internet_search` on the server that `main` starts. -/
def callSearch (query : String) (maxResults : Option Int) : Except CallError SearchOutput :=
  match decodeMaxResults maxResults with
  | none => .error .arguments
  | some m =>
      match globalInternetSearch (search urlHost backend) (load env).toolMaxResults ⟨query, m⟩ with
      | .error e => .error (.handler e)
      | .ok out => .ok out

/-- How many results the loop is allowed, by the handler's default and the provider's cap. -/
def allowed (c m : Int) : Int := if m ≤ 0 then min c 10 else min m 10

variable {urlHost env backend} {query : String} {req : Option Int}

theorem decodeMaxResults_eq {m : Int64} (h : decodeMaxResults req = some m) :
    FitsInt (req.getD 0) ∧ m.toInt = req.getD 0 := by
  cases req with
  | none =>
      obtain rfl := Option.some.inj h
      exact ⟨by decide, rfl⟩
  | some z =>
      simp only [decodeMaxResults] at h
      split at h
      · rename_i hz
        obtain rfl := Option.some.inj h
        exact ⟨hz, Int64.toInt_ofInt_of_le hz.1 hz.2⟩
      · exact nomatch h

theorem decodeMaxResults_some (h : FitsInt (req.getD 0)) :
    ∃ m, decodeMaxResults req = some m := by
  cases req with
  | none => exact ⟨0, rfl⟩
  | some z => exact ⟨Int64.ofInt z, if_pos h⟩

theorem limit_allowed {c m : Int64} (hc : 1 ≤ c.toInt) :
    (limit (if m ≤ 0 then c else m)).toInt = allowed c.toInt m.toInt := by
  have hzero : (0 : Int64).toInt = 0 := rfl
  have hpos : ¬ c.toInt ≤ 0 := by omega
  have hle : m ≤ 0 ↔ m.toInt ≤ 0 := by rw [Int64.le_iff_toInt_le, hzero]
  rw [limit_toInt]
  unfold allowed
  by_cases hm : m.toInt ≤ 0
  · simp only [hle, hm, if_true, hpos, if_false]
  · simp only [hle, hm, if_false]

theorem callSearch_ok (hc : 1 ≤ (load env).toolMaxResults.toInt) {out : SearchOutput}
    (h : callSearch urlHost env backend query req = .ok out) :
    FitsInt (req.getD 0) ∧ out.results =
      ((backend query).results.take
        (allowed (load env).toolMaxResults.toInt (req.getD 0)).toNat).map (toResult urlHost) := by
  unfold callSearch at h
  cases hd : decodeMaxResults req with
  | none => simp [hd] at h
  | some m =>
      obtain ⟨hfits, hm⟩ := decodeMaxResults_eq hd
      refine ⟨hfits, ?_⟩
      rw [← hm, ← limit_allowed hc]
      simp only [hd, globalInternetSearch] at h
      cases hs : search urlHost backend query
          (if m ≤ 0 then (load env).toolMaxResults else m) with
      | error e => simp [hs] at h
      | ok results =>
          simp only [hs, Except.ok.injEq] at h
          subst h
          exact search_ok hs

theorem callSearch_total (urlHost : String → Option Bytes) (env : Environment)
    (hfits : FitsInt (req.getD 0))
    (hr : (backend query).results ≠ []) :
    ∃ out, callSearch urlHost env backend query req = .ok out := by
  obtain ⟨m, hm⟩ := decodeMaxResults_some hfits
  obtain ⟨results, hs⟩ := search_decoded urlHost
    (if m ≤ 0 then (load env).toolMaxResults else m) hr
  exact ⟨⟨results⟩, by simp only [callSearch, hm, globalInternetSearch, hs]⟩

/-- A call returns at most the configured number of results, and at most 10, exactly when it
asks for no more than configured, or 10 are configured, or the backend has no more than that,
or the call is refused for the number it asks for. -/
theorem search_capped_iff (urlHost : String → Option Bytes) (env : Environment)
    (backend : String → Backend) (query : String) (req : Option Int)
    (hc : 1 ≤ (load env).toolMaxResults.toInt) :
    (∀ out, callSearch urlHost env backend query req = .ok out →
        (out.results.length : Int) ≤ min (load env).toolMaxResults.toInt 10) ↔
      req.getD 0 ≤ (load env).toolMaxResults.toInt ∨ 10 ≤ (load env).toolMaxResults.toInt ∨
        ((backend query).results.length : Int) ≤ (load env).toolMaxResults.toInt ∨
        ¬ FitsInt (req.getD 0) := by
  constructor
  · intro hcap
    by_contra hno
    simp only [not_or, Int.not_le, not_not] at hno
    obtain ⟨hreq, hten, hmany, hfits⟩ := hno
    have hr : (backend query).results ≠ [] := by
      intro hnil
      rw [hnil, List.length_nil] at hmany
      omega
    obtain ⟨out, hout⟩ := callSearch_total urlHost env hfits hr
    have hlen := hcap out hout
    rw [(callSearch_ok hc hout).2, List.length_map, List.length_take, allowed,
      if_neg (by omega)] at hlen
    omega
  · intro hcond out hout
    obtain ⟨hfits, hres⟩ := callSearch_ok hc hout
    rw [hres, List.length_map, List.length_take, allowed]
    rcases hcond with h | h | h | h
    · split <;> omega
    · split <;> omega
    · split <;> omega
    · exact absurd hfits h

end

def threeResults : Environment := fun key => if key = "TOOL_MAX_RESULTS" then "3" else ""

def generous (k : Nat) : String → Backend :=
  fun _ => .response 200 (some (List.replicate k ⟨"title", "url", "content", "engine", []⟩))

theorem two_within_cap : ∃ out,
    callSearch (fun _ => none) threeResults (generous 12) "news" (some 2) = .ok out ∧
      (out.results.length : Int) ≤ 3 := by
  have hfits : FitsInt ((some 2 : Option Int).getD 0) := by decide
  have hmany : (generous 12 "news").results ≠ [] := by decide
  obtain ⟨out, hout⟩ := callSearch_total (fun _ => none) threeResults hfits hmany
  have hcap := (search_capped_iff (fun _ => none) threeResults (generous 12) "news" (some 2)
    (by decide)).mpr (.inl (by decide)) out hout
  exact ⟨out, hout, Int.le_trans hcap (by decide)⟩

/-- With 3 configured, a caller that asks for 10 gets 10. -/
theorem request_beats_cap : ¬ ∀ (urlHost : String → Option Bytes) (env : Environment)
    (backend : String → Backend) (query : String) (req : Option Int),
    1 ≤ (load env).toolMaxResults.toInt → ∀ out,
    callSearch urlHost env backend query req = .ok out →
      (out.results.length : Int) ≤ min (load env).toolMaxResults.toInt 10 := by
  intro h
  have hmany : (generous 12 "news").results ≠ [] := by decide
  have hfits : FitsInt ((some 10 : Option Int).getD 0) := by decide
  obtain ⟨out, hout⟩ := callSearch_total (fun _ => none) threeResults hfits hmany
  have hlen := h _ _ _ _ _ (by decide) out hout
  rw [(callSearch_ok (by decide) hout).2] at hlen
  exact absurd hlen (by decide)

/-! ## What a call returns -/

/-- The limit that reaches the result loop. -/
def effectiveLimit (env : Environment) (m : Int64) : Int64 :=
  limit (if m ≤ 0 then (load env).toolMaxResults else m)

theorem effectiveLimit_bounds (env : Environment) (m : Int64) :
    1 ≤ (effectiveLimit env m).toInt ∧ (effectiveLimit env m).toInt ≤ 10 := by
  rw [effectiveLimit, limit_toInt]
  split <;> omega

/-- The first results of the backend, in its order and with their titles and URLs, as many as the
limit allows; and the limit, which is the capacity of the slice as well, is never negative. -/
theorem search_prefix (urlHost : String → Option Bytes) (env : Environment)
    (backend : String → Backend) (query : String) (m : Int64) (rs : List BackendResult)
    (h : backend query = .response 200 (some rs)) :
    ∃ n : Nat, (effectiveLimit env m).toInt = n ∧ 1 ≤ n ∧ n ≤ 10 ∧
      ∃ results,
        globalInternetSearch (search urlHost backend) (load env).toolMaxResults ⟨query, m⟩ =
          .ok ⟨results⟩ ∧
        results = (rs.take (min n rs.length)).map (toResult urlHost) ∧
        (results.map fun r => (r.title, r.url)) =
          (rs.take (min n rs.length)).map fun r => (bytes r.title, bytes r.url) := by
  obtain ⟨hlow, hhigh⟩ := effectiveLimit_bounds env m
  obtain ⟨n, hn⟩ := Int.eq_ofNat_of_zero_le (by omega : 0 ≤ (effectiveLimit env m).toInt)
  have hloop : search urlHost backend query (if m ≤ 0 then (load env).toolMaxResults else m) =
      .ok (collect urlHost (effectiveLimit env m) rs []) := by
    rw [search, h]
    rfl
  have htake : collect urlHost (effectiveLimit env m) rs [] =
      (rs.take (min n rs.length)).map (toResult urlHost) := by
    rw [collect_eq urlHost hn, List.nil_append, List.length_nil, Nat.sub_zero]
    rw [← List.take_take, List.take_length]
  refine ⟨n, hn, by omega, by omega, _, ?_, htake, ?_⟩
  · simp only [globalInternetSearch, hloop]
  · rw [htake, List.map_map]
    rfl

theorem first_three : ∃ results,
    globalInternetSearch (search (fun _ => none) (generous 12)) (load threeResults).toolMaxResults
        ⟨"news", 0⟩ = .ok ⟨results⟩ ∧ results.length = 3 := by
  obtain ⟨n, hn, -, -, results, hok, htake, -⟩ := search_prefix (fun _ => none) threeResults
    (generous 12) "news" 0 (List.replicate 12 ⟨"title", "url", "content", "engine", []⟩) rfl
  have hthree : ((3 : Nat) : Int) = n := by
    rw [← hn]
    decide
  obtain rfl := Int.ofNat_inj.mp hthree
  exact ⟨results, hok, by rw [htake]; rfl⟩

end SpeechK8s.Mcp
