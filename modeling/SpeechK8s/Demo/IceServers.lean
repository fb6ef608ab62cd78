import SpeechK8s.Demo.Deployment

/-!
# How the ICE servers are spelled

`RTC_ICE_SERVERS` may hold a JSON list, a single JSON object, or URLs with commas between them. The
server tells them apart by how the text begins, and the page gets the list that is meant.
-/
namespace SpeechK8s.Demo
open Tts (isSpace strip trim dropWhile_trim)

/-- `{"urls": u}` -/
def iceServer (u : String) : Json := .obj [("urls", .str u)]

/-- The text means the servers. -/
inductive Spells (raw : String) : List Json → Prop where
  | list {servers : List Json} (text : Json.parse (strip raw).toList = some (.arr servers)) :
      Spells raw servers
  | object {fields : Json.Fields} (text : Json.parse (strip raw).toList = some (.obj fields)) :
      Spells raw [.obj fields]
  | urls {pieces : List String}
      (text : (strip raw).toList = [','].intercalate (pieces.map String.toList))
      (separate : ∀ p ∈ pieces, ',' ∉ p.toList)
      (begins : ∀ c ∈ (strip raw).toList.head?, c ≠ '[' ∧ c ≠ '{') :
      Spells raw (((pieces.map strip).filter (· ≠ "")).map iceServer)

namespace Server

theorem strip_ne_of_parse {raw : String} {v : Json} (h : Json.parse (strip raw).toList = some v) :
    strip raw ≠ "" := by
  intro hempty
  rw [hempty] at h
  cases h

theorem skip_strip (raw : String) : Json.skip (strip raw).toList = (strip raw).toList := by
  have htrim : (strip raw).toList = trim raw.toList := String.toList_ofList
  have hblank : ∀ c, Json.isBlank c = true → isSpace c = true := by
    intro c hc
    simp only [Json.isBlank, Bool.or_eq_true, decide_eq_true_eq] at hc
    rcases hc with ((rfl | rfl) | rfl) | rfl <;> decide
  rw [htrim, Json.skip]
  cases hcs : trim raw.toList with
  | nil => rfl
  | cons c cs =>
      have hdrop := dropWhile_trim raw.toList
      rw [hcs] at hdrop
      apply List.dropWhile_cons_of_neg
      intro hc
      rw [List.dropWhile_cons_of_pos (hblank c hc)] at hdrop
      have hlength := List.length_dropWhile_le isSpace cs
      rw [hdrop] at hlength
      exact absurd hlength (Nat.not_succ_le_self _)

theorem commaSeparated_join {raw : String} {pieces : List String} (hne : pieces ≠ [])
    (htext : raw.toList = [','].intercalate (pieces.map String.toList))
    (hseparate : ∀ p ∈ pieces, ',' ∉ p.toList) :
    commaSeparated raw = (pieces.map strip).filter (· ≠ "") := by
  have hfree : ∀ l ∈ pieces.map String.toList, ',' ∉ l := by
    intro l hl
    obtain ⟨p, hp, rfl⟩ := List.mem_map.mp hl
    exact hseparate p hp
  have hsplit : raw.toList.splitOn ',' = pieces.map String.toList := by
    rw [htext]
    exact List.splitOn_intercalate ',' hfree (by simpa using hne)
  have hstrip : (fun u => strip (String.ofList u)) ∘ String.toList = strip := by
    funext p
    rw [Function.comp_apply, String.ofList_toList]
  rw [commaSeparated, hsplit, List.map_map, hstrip]

/-- The server reads each spelling as it is meant. -/
theorem parseIceServers_spells {raw : String} {servers : List Json} (h : Spells raw servers) :
    parseIceServers raw = servers := by
  unfold parseIceServers
  dsimp only
  cases h with
  | list text => rw [if_neg (strip_ne_of_parse text), text]
  | object text => rw [if_neg (strip_ne_of_parse text), text]
  | @urls pieces text separate begins =>
      by_cases hne : pieces = []
      · subst hne
        rw [if_pos (String.toList_eq_nil_iff.mp text)]
        rfl
      · rw [← commaSeparated_join hne text separate]
        split
        · rename_i hempty
          rw [hempty]
          rfl
        · have hscalar : ∀ {v}, Json.parse (strip raw).toList = some v → ¬ v.Compound := by
            intro v hv
            refine Json.parse_scalar ?_ hv
            rw [skip_strip]
            exact begins
          cases hv : Json.parse (strip raw).toList with
          | none => rfl
          | some v =>
              cases v with
              | arr items => exact absurd trivial (hscalar hv)
              | obj fields => exact absurd trivial (hscalar hv)
              | null | bool b | num m e | str s => rfl

end Server

/-- A server with ICE servers that can be written as JSON tells its configuration. -/
theorem config_tells {py : Python} {cfg : Server.Settings}
    (h : (Json.arr cfg.rtcIceServers).renders py.finite = true) :
    ∃ r, Server.config py cfg = pure r := by
  unfold Server.config Server.rendered
  split
  · exact ⟨_, rfl⟩
  · rename_i hno
    have hitems : Json.rendersItems py.finite cfg.rtcIceServers = true := h
    exact absurd (by simp [Server.asJson, Server.Response.renders, Json.renders,
      Json.rendersFields, hitems]) hno

/-- However the servers are spelled in the environment, the page has them once it has read the
configuration, whatever it had before; and there is one to read if they can be written as JSON. -/
theorem ice_servers_arrive (engine : Engine) (py : Python) (env : Server.Environ) (attach : Bool)
    (c : PageConfig) {servers : List Json} (h : Spells (env.rtcIceServers.getD "") servers) :
    ((Json.arr servers).renders py.finite = true →
      ∃ r, Server.config py (env.settings attach) = pure r) ∧
    ∀ r res, Server.config py (env.settings attach) = pure r → r.Gives res →
      (engine.fetchConfig c (some res)).iceServers = servers := by
  have hservers : (env.settings attach).rtcIceServers = servers := by
    rw [Server.Environ.settings]
    dsimp only
    exact Server.parseIceServers_spells h
  refine ⟨fun hrenders => config_tells (hservers ▸ hrenders), fun r res hr hres => ?_⟩
  rw [fetchConfig_gives engine _ c hr hres]
  exact hservers

/-- Two URLs with a blank after the comma. -/
def twoServers : Server.Environ :=
  { Server.spaceEnviron with rtcIceServers := some " stun:a.example, turn:b.example" }

theorem spells_twoServers : Spells (twoServers.rtcIceServers.getD "")
    [iceServer "stun:a.example", iceServer "turn:b.example"] := by
  have hstripped : strip (twoServers.rtcIceServers.getD "") = "stun:a.example, turn:b.example" := by
    decide +kernel
  have hpieces : (["stun:a.example", " turn:b.example"].map strip).filter (· ≠ "") =
      ["stun:a.example", "turn:b.example"] := by decide +kernel
  have hspells : Spells (twoServers.rtcIceServers.getD "")
      (((["stun:a.example", " turn:b.example"].map strip).filter (· ≠ "")).map iceServer) := by
    refine .urls ?_ (by decide +kernel) ?_
    · rw [hstripped]
      decide +kernel
    · intro c hc
      rw [hstripped] at hc
      obtain rfl : 's' = c := Option.some.inj hc
      decide
  rwa [hpieces] at hspells

theorem two_servers_arrive :
    ∃ r res, Server.config plainPython (twoServers.settings true) = pure r ∧ r.Gives res ∧
      (quietEngine.fetchConfig .initial (some res)).iceServers =
        [iceServer "stun:a.example", iceServer "turn:b.example"] := by
  have harrive := ice_servers_arrive quietEngine plainPython twoServers true .initial
    spells_twoServers
  obtain ⟨r, hr⟩ := harrive.1 rfl
  obtain ⟨rfl, -⟩ := rendered_eq_pure hr
  have hgives : ∀ v cookie, Server.Response.Gives ⟨200, .json v, cookie, false⟩
      (jsonResponse 200 v) := fun v _ => ⟨v, rfl, rfl⟩
  exact ⟨_, _, hr, hgives _ _, harrive.2 _ _ hr (hgives _ _)⟩

end SpeechK8s.Demo
