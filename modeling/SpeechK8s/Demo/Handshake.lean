import SpeechK8s.Demo.Outgoing

/-!
# Where a WebRTC handshake goes

`_webrtc_calls_url` takes the pinned URL apart and puts another one together. Read as a URL again,
that one leads to the same host.
-/
namespace SpeechK8s.Demo.Server
open Handler
open Tts (strip)

/-- The text begins with one of the schemes of a pinned URL. -/
def beginsWithScheme (s : List Char) : Bool :=
  ["ws://", "wss://", "http://", "https://"].any fun scheme => scheme.toList.isPrefixOf s

/-- The pinned URL as a URL is read, where the case of the scheme does not matter; without a scheme
it is one of `http`. -/
def pinnedParts (s2sUrl : String) : Url.Parts :=
  let s := (strip s2sUrl).toList
  Url.split (if beginsWithScheme (s.map Char.toLower) then s else "http://".toList ++ s)

/-- The scheme is in lower case if there is one. -/
def LowerScheme (s2sUrl : String) : Prop :=
  beginsWithScheme ((strip s2sUrl).toList.map Char.toLower) = true →
    beginsWithScheme (strip s2sUrl).toList = true

/-- The handshake goes to the host and port of `p`, over TLS exactly if `p` does, and to the path
of `p` with `/calls` after it. -/
structure Handshake (p q : Url.Parts) : Prop where
  secure : q.scheme = "https".toList ∧ (p.scheme = "wss".toList ∨ p.scheme = "https".toList) ∨
    q.scheme = "http".toList ∧ (p.scheme = "ws".toList ∨ p.scheme = "http".toList)
  netloc : q.netloc = p.netloc
  path : q.path = (if p.path = [] ∨ p.path = ['/'] then "/v1/realtime".toList
    else p.path).rdropWhile (· = '/') ++ "/calls".toList
  query : q.query = p.query
  fragment : q.fragment = []

theorem isScheme_of_mem {scheme : List Char}
    (h : scheme ∈ ["ws".toList, "wss".toList, "http".toList, "https".toList]) :
    Url.IsScheme scheme := by
  simp only [List.mem_cons, List.not_mem_nil, or_false] at h
  rcases h with rfl | rfl | rfl | rfl <;>
    exact Url.isScheme_cons rfl rfl rfl

theorem beginsWithScheme_map {s : List Char} (h : beginsWithScheme s = true) :
    beginsWithScheme (s.map Char.toLower) = true := by
  obtain ⟨p, hp, hprefix⟩ := List.any_eq_true.mp h
  obtain ⟨rest, rfl⟩ := List.isPrefixOf_iff_prefix.mp hprefix
  refine List.any_eq_true.mpr ⟨p, hp, List.isPrefixOf_iff_prefix.mpr ?_⟩
  have hlower : p.toList.map Char.toLower = p.toList := by
    simp only [List.mem_cons, List.not_mem_nil, or_false] at hp
    rcases hp with rfl | rfl | rfl | rfl <;> decide
  rw [List.map_append, hlower]
  exact List.prefix_append _ _

/-- A scheme in lower case is where `_webrtc_calls_url` looks for one. -/
theorem pinnedParts_lower {s2sUrl : String} (h : LowerScheme s2sUrl) :
    pinnedParts s2sUrl = Url.split (if beginsWithScheme (strip s2sUrl).toList
      then (strip s2sUrl).toList else "http://".toList ++ (strip s2sUrl).toList) := by
  have hsame : beginsWithScheme ((strip s2sUrl).toList.map Char.toLower) =
      beginsWithScheme (strip s2sUrl).toList := Bool.eq_iff_iff.mpr ⟨h, beginsWithScheme_map⟩
  unfold pinnedParts
  dsimp only
  rw [hsame]

/-- The pinned URL has one of the four schemes, the one that it begins with or `http`. -/
theorem pinnedParts_scheme {s2sUrl : String} (hlower : LowerScheme s2sUrl) :
    (pinnedParts s2sUrl).scheme ∈ ["ws".toList, "wss".toList, "http".toList, "https".toList] ∧
      ((pinnedParts s2sUrl).netloc ≠ [] → Url.Hosted (pinnedParts s2sUrl)) := by
  suffices ∃ scheme ∈ ["ws".toList, "wss".toList, "http".toList, "https".toList], ∃ rest,
      pinnedParts s2sUrl = Url.split (scheme ++ ':' :: '/' :: '/' :: rest) by
    obtain ⟨scheme, hmem, rest, heq⟩ := this
    obtain ⟨hscheme, hhosted⟩ := Url.split_hosted (isScheme_of_mem hmem) rest
    rw [heq]
    refine ⟨?_, hhosted⟩
    rw [hscheme]
    exact hmem
  rw [pinnedParts_lower hlower]
  split
  · rename_i hany
    obtain ⟨p, hp, hprefix⟩ := List.any_eq_true.mp hany
    obtain ⟨rest, hrest⟩ := List.isPrefixOf_iff_prefix.mp hprefix
    rw [← hrest]
    simp only [List.mem_cons, List.not_mem_nil, or_false] at hp
    rcases hp with rfl | rfl | rfl | rfl
    · exact ⟨"ws".toList, by decide, rest, rfl⟩
    · exact ⟨"wss".toList, by decide, rest, rfl⟩
    · exact ⟨"http".toList, by decide, rest, rfl⟩
    · exact ⟨"https".toList, by decide, rest, rfl⟩
  · exact ⟨"http".toList, by decide, _, rfl⟩

/-- The parts that `_webrtc_calls_url` puts together. -/
def callsParts (p : Url.Parts) : Url.Parts where
  scheme :=
    if p.scheme = ['w', 's'] then ['h', 't', 't', 'p']
    else if p.scheme = ['w', 's', 's'] then ['h', 't', 't', 'p', 's']
    else p.scheme
  netloc := p.netloc
  path := (if p.path = [] ∨ p.path = ['/'] then "/v1/realtime".toList
    else p.path).rdropWhile (· = '/') ++ "/calls".toList
  query := p.query
  fragment := []

theorem webrtcCallsUrl_eq (checks : List Char → Bool) {s2sUrl : String}
    (hlower : LowerScheme s2sUrl) :
    webrtcCallsUrl checks s2sUrl =
      if (pinnedParts s2sUrl).netloc.contains '[' = (pinnedParts s2sUrl).netloc.contains ']' &&
          checks (pinnedParts s2sUrl).netloc then
        some (String.ofList (Url.unsplit (fun _ => true) (callsParts (pinnedParts s2sUrl))))
      else none := by
  rw [pinnedParts_lower hlower]
  unfold webrtcCallsUrl
  rfl

theorem toList_webrtcCallsUrl {checks : List Char → Bool} {s2sUrl url : String}
    (hlower : LowerScheme s2sUrl) (h : webrtcCallsUrl checks s2sUrl = some url) :
    url.toList = Url.unsplit (fun _ => true) (callsParts (pinnedParts s2sUrl)) := by
  rw [webrtcCallsUrl_eq checks hlower] at h
  generalize Url.unsplit (fun _ => true) (callsParts (pinnedParts s2sUrl)) = made at h ⊢
  split at h
  · obtain rfl := Option.some.inj h
    exact String.toList_ofList
  · cases h

theorem handshake_callsParts {p : Url.Parts}
    (h : p.scheme ∈ ["ws".toList, "wss".toList, "http".toList, "https".toList]) :
    Handshake p (callsParts p) := by
  refine ⟨?_, rfl, rfl, rfl, rfl⟩
  unfold callsParts
  dsimp only
  simp only [List.mem_cons, List.not_mem_nil, or_false] at h
  rcases h with h | h | h | h <;> rw [h] <;> decide

theorem mem_rdropWhile {q : Char → Bool} {s : List Char} {c : Char} (h : c ∈ s.rdropWhile q) :
    c ∈ s := (List.rdropWhile_prefix q s).subset h

theorem hosted_callsParts {p : Url.Parts}
    (hscheme : p.scheme ∈ ["ws".toList, "wss".toList, "http".toList, "https".toList])
    (h : Url.Hosted p) : Url.Hosted (callsParts p) := by
  have hnew : (callsParts p).scheme ∈
      ["ws".toList, "wss".toList, "http".toList, "https".toList] := by
    rcases (handshake_callsParts hscheme).secure with ⟨hs, -⟩ | ⟨hs, -⟩ <;> rw [hs] <;> decide
  -- the path that `/calls` is put after
  obtain ⟨base, hbase, hfirst, hchars, hsafe⟩ : ∃ base : List Char,
      (callsParts p).path = base.rdropWhile (· = '/') ++ "/calls".toList ∧
      (∀ c ∈ base.head?, c = '/') ∧ (∀ c ∈ base, c ≠ '?' ∧ c ≠ '#') ∧
      ∀ c ∈ base, Url.isUnsafe c = false := by
    by_cases hempty : p.path = [] ∨ p.path = ['/']
    · refine ⟨"/v1/realtime".toList, ?_, ?_, List.all_iff_forall_prop.mp rfl,
        List.all_iff_forall_prop.mp rfl⟩
      · simp only [callsParts, hempty, if_true]
      · intro c hc
        exact (Option.some.inj hc).symm
    · refine ⟨p.path, ?_, h.pathFirst, h.pathChars, fun c hc => h.safe c ?_⟩
      · simp only [callsParts, hempty, if_false]
      · simp [hc]
  refine ⟨isScheme_of_mem hnew, h.netloc, h.netlocChars, fun c hc => ?_, fun c hc => ?_,
    h.queryChars, fun c hc => ?_⟩
  · rw [hbase] at hc
    cases hdrop : base.rdropWhile (· = '/') with
    | nil =>
        rw [hdrop] at hc
        exact (Option.some.inj hc).symm
    | cons d ds =>
        rw [hdrop] at hc
        obtain ⟨t, ht⟩ := List.rdropWhile_prefix (fun c : Char => decide (c = '/')) base
        rw [hdrop] at ht
        refine hfirst c ?_
        rw [← ht]
        exact hc
  · rw [hbase] at hc
    rcases List.mem_append.mp hc with hc | hc
    · exact hchars c (mem_rdropWhile hc)
    · have hcalls : ∀ c ∈ "/calls".toList, c ≠ '?' ∧ c ≠ '#' :=
        List.all_iff_forall_prop.mp rfl
      exact hcalls c hc
  · rw [hbase] at hc
    simp only [List.mem_append] at hc
    rcases hc with ((hc | hc | hc) | hc) | hc
    · exact h.safe c (by simp [show c ∈ p.netloc from hc])
    · exact hsafe c (mem_rdropWhile hc)
    · have hcalls : ∀ c ∈ "/calls".toList, Url.isUnsafe c = false :=
        List.all_iff_forall_prop.mp rfl
      exact hcalls c hc
    · exact h.safe c (by simp [show c ∈ p.query from hc])
    · cases hc

/-- The URL that the server makes of the pinned one leads to its host when it is read again. -/
theorem handshake_of_webrtcCallsUrl {checks : List Char → Bool} {s2sUrl url : String}
    (hlower : LowerScheme s2sUrl) (h : webrtcCallsUrl checks s2sUrl = some url)
    (hhost : (pinnedParts s2sUrl).netloc ≠ []) :
    Handshake (pinnedParts s2sUrl) (Url.split url.toList) := by
  obtain ⟨hscheme, hhosted⟩ := pinnedParts_scheme hlower
  rw [toList_webrtcCallsUrl hlower h, Url.split_unsplit (hosted_callsParts hscheme (hhosted hhost))]
  exact handshake_callsParts hscheme

section
variable {Visitor : Type} {py : Python} {cfg : Settings} {auth : Auth Visitor} {limiter : Limiter}
  {checks : List Char → Bool} {s : Pool (Request Visitor) Call Reply Sent Failure Response}

/-- Each offer that the server passes on, in any run, is the one of its request, without a token or
a key, and it goes to the pinned server, if its scheme is in lower case. -/
theorem handshakes_pinned (hlower : LowerScheme cfg.speechToSpeechUrl)
    (hs : Pool.Reachable (serve py cfg auth limiter checks) s) {i : Nat}
    {e : Event Call Reply Sent} (he : (i, e) ∈ s.log) {offer : List UInt8}
    (hcall : e.call = .answer offer) (hhost : (pinnedParts cfg.speechToSpeechUrl).netloc ≠ []) :
    ∃ req p url, s.running[i]? = some (req, p) ∧ req.route = .calls offer ∧
      e.sent = .http url [("Content-Type", "application/sdp")] ∧
      Handshake (pinnedParts cfg.speechToSpeechUrl) (Url.split url.toList) := by
  obtain ⟨⟨route, v⟩, p, hi, hmakes⟩ := hs.all serve_makes he
  rw [hcall] at hmakes
  cases route with
  | calls offer' =>
      obtain ⟨rfl, -, url, hurl, hsent⟩ := hmakes
      exact ⟨_, p, url, hi, rfl, hsent, handshake_of_webrtcCallsUrl hlower hurl hhost⟩
  | config | me | search | session | queueStatus | queueLeave | queueEnd | sessionHeartbeat
  | sessionEnd | mcpCall => exact hmakes.elim

end

/-! ## A pinned server behind TLS -/

def pinnedSettings : Settings :=
  { spaceSettings with
    loadBalancerUrl := ""
    speechToSpeechUrl := "wss://192.168.10.31:30443/v1/realtime"
    limiterEnabled := false }

def offering : Request Unit := ⟨.calls [0x76, 0x3d, 0x30], ()⟩

def offered : Event Call Reply Sent :=
  ⟨.answer [0x76, 0x3d, 0x30], .http "https://192.168.10.31:30443/v1/realtime/calls"
    [("Content-Type", "application/sdp")], .requestError⟩

def pinnedServe : Request Unit → Serve Response :=
  serve plainPython pinnedSettings anonymous tenMinutes anyAuthority

theorem reachable_offered : Pool.Reachable pinnedServe
    ⟨[(offering, .raise (.httpException 502 (.str "Speech service unreachable.")))],
      [(0, offered)]⟩ := by
  have hpinned : pinnedSettings.speechToSpeechUrl ≠ "" := by decide
  have hurl : webrtcCallsUrl anyAuthority pinnedSettings.speechToSpeechUrl =
      some "https://192.168.10.31:30443/v1/realtime/calls" := by decide +kernel
  refine Pool.Reachable.alone (t := [offered]) ?_
  simp only [pinnedServe, serve, offering, calls, hpinned, if_false, hurl]
  exact Steps.call (ρ := Reply) (k := Call.answer [0x76, 0x3d, 0x30]) Fetched.requestError (.refl _)

theorem offered_pinned : ∃ req p url,
    [(offering, (.raise (.httpException 502 (.str "Speech service unreachable.")) :
        Serve Response))][0]? = some (req, p) ∧
      req.route = .calls [0x76, 0x3d, 0x30] ∧
      offered.sent = .http url [("Content-Type", "application/sdp")] ∧
      Handshake (pinnedParts pinnedSettings.speechToSpeechUrl) (Url.split url.toList) := by
  have hcall : offered.call = .answer [0x76, 0x3d, 0x30] := rfl
  have hhost : (pinnedParts pinnedSettings.speechToSpeechUrl).netloc ≠ [] := by decide +kernel
  have hlower : LowerScheme pinnedSettings.speechToSpeechUrl := fun _ => by decide +kernel
  exact handshakes_pinned hlower reachable_offered List.mem_cons_self hcall hhost

end SpeechK8s.Demo.Server
