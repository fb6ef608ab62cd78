import SpeechK8s.Lib.Utf8
import Mathlib.Tactic.Common

/-!
# internal/search

`SearXNG.Search` on what its requests come back with. The URL that is asked for is left to the
client; the body is decoded by `encoding/json`, which replaces what is not UTF-8, so the fields
of a backend result are text. A snippet is cut by bytes, and a host is decoded to bytes; neither
need be text.
-/
namespace SpeechK8s.Mcp
open Utf8 (Bytes)

structure BackendResult where
  title : String
  url : String
  content : String
  engine : String
  parsedUrl : List String
  deriving DecidableEq, Repr

/-- What comes back from the backend: nothing, because the base URL does not parse or the
request cannot be built or is not answered; or a status and the results that the body decodes
to, `none` if it does not. -/
inductive Backend where
  | failed
  | response (status : Nat) (body : Option (List BackendResult))

inductive SearchError where
  | request
  | status (code : Nat)
  | decoding
  deriving DecidableEq, Repr

structure Result where
  title : Bytes
  url : Bytes
  snippet : Bytes
  source : Bytes
  deriving DecidableEq, Repr

def maxSnippetLen : Nat := 500

def hardResultCap : Int64 := 10

def defaultResults : Int64 := 5

def bytes (s : String) : Bytes := Utf8.encode s.toList

def truncate (s : Bytes) (n : Nat) : Bytes := if s.length ≤ n then s else s.take n

section
variable (urlHost : String → Option Bytes)

/-- `urlHost` is the `Host` that `url.Parse` finds, `none` if it fails. -/
def resultSource (r : BackendResult) : Bytes :=
  let byUrl :=
    match urlHost r.url with
    | some host => if host ≠ [] then host else bytes r.engine
    | none => bytes r.engine
  match r.parsedUrl[1]? with
  | some netloc => if netloc ≠ "" then bytes netloc else byUrl
  | none => byUrl

def toResult (r : BackendResult) : Result where
  title := bytes r.title
  url := bytes r.url
  snippet := truncate (bytes r.content) maxSnippetLen
  source := resultSource urlHost r

/-- The limit of the result loop. -/
def limit (maxResults : Int64) : Int64 :=
  let maxResults := if maxResults ≤ 0 then defaultResults else maxResults
  if maxResults > hardResultCap then hardResultCap else maxResults

/-- The result loop, with the results it has appended so far. -/
def collect (maxResults : Int64) : List BackendResult → List Result → List Result
  | [], results => results
  | r :: rs, results =>
      if maxResults.toInt ≤ results.length then results
      else collect maxResults rs (results ++ [toResult urlHost r])

def search (backend : String → Backend) (query : String) (maxResults : Int64) :
    Except SearchError (List Result) :=
  match backend query with
  | .failed => .error .request
  | .response status body =>
      if status ≠ 200 then .error (.status status)
      else
        match body with
        | none => .error .decoding
        | some results => .ok (collect urlHost (limit maxResults) results [])

end

/-- The results of the backend that `Search` can decode. -/
def Backend.results : Backend → List BackendResult
  | .response 200 (some results) => results
  | _ => []

/-- The limit lies between 1 and 10, whatever is asked for. -/
theorem limit_toInt (m : Int64) :
    (limit m).toInt = if m.toInt ≤ 0 then 5 else min m.toInt 10 := by
  have hzero : (0 : Int64).toInt = 0 := rfl
  have hcap : hardResultCap.toInt = 10 := rfl
  have hdefault : defaultResults.toInt = 5 := rfl
  unfold limit
  simp only [gt_iff_lt, Int64.le_iff_toInt_le, Int64.lt_iff_toInt_lt, hzero, hcap]
  by_cases h : m.toInt ≤ 0
  · simp only [h, if_true, hdefault]
    rfl
  · simp only [h, if_false]
    split
    · rw [hcap]
      omega
    · omega

theorem collect_eq (urlHost : String → Option Bytes) {n : Int64} {k : Nat} (hn : n.toInt = k)
    (rs : List BackendResult) (acc : List Result) :
    collect urlHost n rs acc = acc ++ (rs.take (k - acc.length)).map (toResult urlHost) := by
  induction rs generalizing acc with
  | nil => simp [collect]
  | cons r rs ih =>
      by_cases hfull : k ≤ acc.length
      · have hnone : k - acc.length = 0 := by omega
        have hint : n.toInt ≤ acc.length := by omega
        rw [collect, if_pos hint, hnone, List.take_zero, List.map_nil, List.append_nil]
      · have hint : ¬ n.toInt ≤ acc.length := by omega
        obtain ⟨j, hj⟩ : ∃ j, k - acc.length = j + 1 := ⟨k - acc.length - 1, by omega⟩
        have hj' : k - (acc ++ [toResult urlHost r]).length = j := by
          simp only [List.length_append, List.length_singleton]
          omega
        rw [collect, if_neg hint, ih, hj, hj', List.take_succ_cons, List.map_cons,
          List.append_assoc, List.singleton_append]

theorem search_ok {urlHost : String → Option Bytes} {backend : String → Backend}
    {query : String} {m : Int64} {results : List Result}
    (h : search urlHost backend query m = .ok results) :
    results = ((backend query).results.take (limit m).toInt.toNat).map (toResult urlHost) := by
  have hpos : 0 ≤ (limit m).toInt := by
    rw [limit_toInt]
    split <;> omega
  have hk : (limit m).toInt = ((limit m).toInt.toNat : Int) := (Int.toNat_of_nonneg hpos).symm
  unfold search at h
  cases hb : backend query with
  | failed => simp [hb] at h
  | response status body =>
      simp only [hb] at h
      by_cases hs : status = 200
      · subst hs
        cases body with
        | none => simp at h
        | some rs =>
            have hrs : collect urlHost (limit m) rs [] = results := by simpa using h
            rw [← hrs, collect_eq urlHost hk]
            rfl
      · simp [hs] at h

theorem search_decoded (urlHost : String → Option Bytes) {backend : String → Backend}
    {query : String} (m : Int64) (h : (backend query).results ≠ []) :
    ∃ results, search urlHost backend query m = .ok results := by
  unfold search
  cases hb : backend query with
  | failed => simp [hb, Backend.results] at h
  | response status body =>
      by_cases hs : status = 200
      · subst hs
        cases body with
        | none => simp [hb, Backend.results] at h
        | some rs => exact ⟨_, rfl⟩
      · have hno : (Backend.response status body).results = [] := by
          unfold Backend.results
          split
          · rename_i he
            injection he with hst
            exact absurd hst hs
          · rfl
        rw [hb, hno] at h
        exact absurd rfl h

end SpeechK8s.Mcp
