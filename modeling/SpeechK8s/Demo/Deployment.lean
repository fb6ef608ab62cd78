import SpeechK8s.Demo.Upkeep
import SpeechK8s.Demo.Broker

/-!
# The page and the server that it comes from

The page goes by what the server says of itself in `/api/config`. The two are taken together
here: where the conversations of a page go, whatever its user does and before and after it has
read the configuration.
-/
namespace SpeechK8s.Demo

/-! ## What the page reads -/

/-- The page gets a response of the server, unless it is an answer of `/api/calls`. -/
def Server.Response.Gives (r : Server.Response) (res : HttpResponse) : Prop :=
  ∃ v, r.body = .json v ∧ res = jsonResponse r.status v

/-- The configuration of a page that has read that of the server. -/
def Server.Settings.pageConfig (cfg : Server.Settings) : PageConfig where
  serverSearchKey := cfg.serperKey ≠ ""
  lbMode := cfg.loadBalancerUrl ≠ ""
  allowDirect := cfg.loadBalancerUrl = ""
  pinnedUrl := jsTrim cfg.speechToSpeechUrl
  rtcAvailable := cfg.speechToSpeechUrl ≠ ""
  iceServers := cfg.rtcIceServers
  startupGreeting := jsTrim cfg.startupGreeting
  limiterOn := cfg.loadBalancerUrl ≠ ""

theorem ok_jsonResponse (v : Json) : (jsonResponse 200 v).ok := by
  have hlt : 200 < 300 := by decide
  exact ⟨Nat.le_refl 200, hlt⟩

theorem rendered_eq_pure {py : Python} {r r' : Server.Response}
    (h : Server.rendered py r = pure r') : r = r' ∧ r.renders py = true := by
  unfold Server.rendered at h
  split at h
  · exact ⟨Handler.done.inj h, ‹_›⟩
  · cases h

theorem fetchConfig_gives (engine : Engine) {py : Python} (cfg : Server.Settings) (c : PageConfig)
    {r : Server.Response} (hr : Server.config py cfg = pure r) {res : HttpResponse}
    (h : r.Gives res) : engine.fetchConfig c (some res) = cfg.pageConfig := by
  obtain ⟨rfl, hrenders⟩ := rendered_eq_pure hr
  obtain ⟨v, hv, rfl⟩ := h
  obtain rfl := Server.Body.json.inj hv
  unfold Engine.fetchConfig
  dsimp only [Server.asJson]
  rw [if_pos (ok_jsonResponse _), json_jsonResponse _ hrenders, Server.Settings.pageConfig,
    ← jsTrimStr_text, ← jsTrimStr_text]
  rfl

namespace Conversation

/-- Where `/api/config` is answered, it is by the server. -/
def AnsweredBy (py : Python) (cfg : Server.Settings) : Action → Prop
  | .resume _ (.config (some res)) => res.ok → ∃ r, Server.config py cfg = pure r ∧ r.Gives res
  | _ => True

/-- The server URLs that the user has entered. -/
def entered (settings : PageSettings) (as : List Action) : List String :=
  settings.directUrl :: as.filterMap fun
    | .restart form | .save form => some (jsTrim form.directUrl)
    | _ => none

/-! ## Where a conversation goes -/

section
variable (normalise : Str → Str)

/-- Where a page with the configuration `c` starts conversations, if the user has entered `urls`. -/
def Goes (c : PageConfig) (urls : List String) : Target → Prop
  | .sessionUrl url => c.allowDirect = false ∧ url = "api/session"
  | .callsUrl url => transportSelectable c ∧ url = "api/calls"
  | .directUrl url => c.allowDirect ∧ url ≠ "" ∧
      if c.pinnedUrl ≠ "" then url = buildDirectWsUrl normalise c.pinnedUrl
      else ∃ raw ∈ urls, url = buildDirectWsUrl normalise raw

variable {normalise}

theorem goes_connectionTarget {c : PageConfig} {settings : PageSettings} {urls : List String}
    {target : Target} (hurl : settings.directUrl ∈ urls)
    (h : connectionTarget normalise c settings = some target) : Goes normalise c urls target := by
  unfold connectionTarget at h
  by_cases hdirect : c.allowDirect = true
  · rw [hdirect, Bool.not_true, if_neg Bool.false_ne_true] at h
    simp only [Option.ite_none_left_eq_some, Option.some.injEq] at h
    obtain ⟨hne, rfl⟩ := h
    refine ⟨hdirect, hne, ?_⟩
    split
    · rfl
    · exact ⟨_, hurl, rfl⟩
  · have hlocked : c.allowDirect = false := Bool.eq_false_iff.mpr hdirect
    rw [hlocked] at h
    obtain rfl := Option.some.inj h
    exact ⟨hlocked, rfl⟩

theorem goes_startTarget {c : PageConfig} {settings : PageSettings} {urls : List String}
    {target : Target} (hurl : settings.directUrl ∈ urls)
    (h : startTarget normalise c settings = some target) : Goes normalise c urls target := by
  unfold startTarget at h
  cases ht : effectiveTransport c settings with
  | webrtc =>
      rw [ht] at h
      obtain rfl := Option.some.inj h
      refine ⟨?_, rfl⟩
      by_contra hsel
      simp [effectiveTransport, hsel] at ht
  | ws =>
      rw [ht] at h
      exact goes_connectionTarget hurl h

/-- The configurations in `among` are all that the page may have, and where they send it is where
its conversations go, but for those in `earlier`. -/
structure Heading (normalise : Str → Str) (among : PageConfig → Prop) (urls : List String)
    (earlier : List Entry) (s : Page) : Prop where
  config : among s.config
  url : s.settings.directUrl ∈ urls
  priming : ∀ target, .priming target ∈ s.frames → ∃ c, among c ∧ Goes normalise c urls target
  made : ∀ i target, .made i target ∈ s.log →
    .made i target ∈ earlier ∨ ∃ c, among c ∧ Goes normalise c urls target

variable {among : PageConfig → Prop} {urls : List String} {earlier : List Entry} {s s' : Page}

/-- What is neither a configuration, a URL, a target nor a client does not count. -/
theorem Heading.aside (h : Heading normalise among urls earlier s)
    (hchoices : s'.choices = s.choices)
    (hframes : ∀ target, .priming target ∈ s'.frames → .priming target ∈ s.frames)
    (hlog : ∀ i target, .made i target ∈ s'.log → .made i target ∈ s.log) :
    Heading normalise among urls earlier s' := by
  obtain ⟨hconfig, hsettings⟩ := Prod.mk.inj hchoices
  exact ⟨hconfig ▸ h.config, hsettings ▸ h.url,
    fun target ht => h.priming target (hframes target ht),
    fun i target ht => h.made i target (hlog i target ht)⟩

theorem Heading.retimed (h : Heading normalise among urls earlier s) (hs : Retimed s s') :
    Heading normalise among urls earlier s' := by
  obtain ⟨a, b, c, d, e, rfl⟩ := hs
  exact h.aside rfl (fun _ => id) fun _ _ => id

theorem Heading.record (h : Heading normalise among urls earlier s) {e : Entry}
    (he : ∀ i target, e ≠ .made i target) (sessionId queueId : String) :
    Heading normalise among urls earlier
      { s.record e with trackedSessionId := sessionId, queuedTicketId := queueId } := by
  refine h.aside rfl (fun _ => id) fun i target ht => ?_
  rcases List.mem_append.mp ht with hold | hnew
  · exact hold
  · exact absurd (List.mem_singleton.mp hnew).symm (he i target)

theorem Heading.endTrackedSession (h : Heading normalise among urls earlier s) :
    Heading normalise among urls earlier (endTrackedSession s) := by
  unfold Conversation.endTrackedSession
  split
  · exact h
  · exact h.record (e := .ended s.trackedSessionId) (fun _ _ => nofun) "" _

theorem Heading.endQueueTicket (h : Heading normalise among urls earlier s) :
    Heading normalise among urls earlier (endQueueTicket s) := by
  unfold Conversation.endQueueTicket
  split
  · exact h
  · exact h.record (e := .left s.queuedTicketId) (fun _ _ => nofun) _ ""

theorem Heading.onQueue (h : Heading normalise among urls earlier s) (queueId : String) :
    Heading normalise among urls earlier (onQueue queueId s) := by
  unfold Conversation.onQueue
  split
  · exact h.record (e := .ticket queueId) (fun _ _ => nofun) _ queueId
  · exact h

theorem Heading.track (h : Heading normalise among urls earlier s) (sessionId : String) :
    Heading normalise among urls earlier (track sessionId s) :=
  h.record (e := .named sessionId) (fun _ _ => nofun) sessionId _

theorem Heading.sync (h : Heading normalise among urls earlier s) (micMuted playing : Bool) :
    Heading normalise among urls earlier
      (syncMicMuteState { s with micMuted := micMuted, userAudioReplaying := playing }) := by
  unfold syncMicMuteState
  dsimp only
  split
  · exact h.aside rfl (fun _ => id) fun _ _ => id
  · exact h.aside rfl (fun _ => id) fun _ _ => id

theorem Heading.await (h : Heading normalise among urls earlier s) {f : Frame}
    (hf : ∀ target, f = .priming target → ∃ c, among c ∧ Goes normalise c urls target) :
    Heading normalise among urls earlier (s.await f) := by
  refine ⟨h.config, h.url, fun target ht => ?_, h.made⟩
  rcases List.mem_append.mp ht with hold | hnew
  · exact h.priming target hold
  · exact hf target (List.mem_singleton.mp hnew).symm

theorem Heading.makeClient (h : Heading normalise among urls earlier s) {target : Target}
    (ht : ∃ c, among c ∧ Goes normalise c urls target) :
    Heading normalise among urls earlier (makeClient target s) := by
  have hmade : Heading normalise among urls earlier (s.record (.made s.nextClient target)) := by
    refine ⟨h.config, h.url, h.priming, fun i target' hi => ?_⟩
    rcases List.mem_append.mp hi with hold | hnew
    · exact h.made i target' hold
    · obtain ⟨-, rfl⟩ := Entry.made.inj (List.mem_singleton.mp hnew)
      exact .inr ht
  have hdialing := hmade.await (f := .dialing) fun _ => nofun
  exact hdialing.aside rfl (fun _ => id) fun _ _ => id

variable {engine : Engine} {may : Action → Prop}

theorem heading_invariant
    (hconfig : ∀ i res c, may (.resume i (.config res)) → among c →
      among (engine.fetchConfig c res))
    (hurl : ∀ form, may (.restart form) ∨ may (.save form) → jsTrim form.directUrl ∈ urls) :
    Invariant engine normalise may (Heading normalise among urls earlier) where
  state h _ := h.aside rfl (fun _ => id) fun _ _ => id
  stopHeartbeat {s} h := h.retimed (retimed_stopHeartbeat s)
  stopJoinCountdown {s} h := h.retimed (retimed_stopJoinCountdown s)
  startJoinCountdown {s} h left := h.retimed (retimed_startJoinCountdown left s)
  countDown h _ _ := h.aside rfl (fun _ => id) fun _ _ => id
  endTrackedSession h := h.endTrackedSession
  endQueueTicket h := h.endQueueTicket
  dropTicket h := h.record (e := .outOfQueue) (fun _ _ => nofun) _ ""
  ticket h _ := h.onQueue _
  track h _ := h.track _
  metered {s info} h _ _ _ := (h.track info.sessionId).retimed (retimed_startHeartbeat _)
  beat {s id} h _ _ := h.record (e := .heartbeat s.trackedSessionId) (fun _ _ => nofun) _ _
  sync h micMuted playing := h.sync micMuted playing
  micAcquired h := h.aside rfl (fun _ => id) fun _ _ => id
  hungUp h := h.aside rfl (fun _ => id) fun _ _ => id
  entered {s form} h hform := by
    refine ⟨h.config, ?_, h.priming, h.made⟩
    unfold readSettingsFromForm
    dsimp only
    split
    · exact hurl form hform
    · exact h.url
  transport h _ := ⟨h.config, h.url, h.priming, h.made⟩
  config {s i res} h hmay := ⟨hconfig i res s.config hmay h.config, h.url, h.priming, h.made⟩
  resumed h i := h.aside rfl (fun _ ht => List.mem_of_mem_eraseIdx ht) fun _ _ => id
  await h hf := h.await fun target ht => absurd ht (hf target)
  primed h ht := h.await fun target heq =>
    ⟨_, h.config, Frame.priming.inj heq ▸ goes_startTarget h.url ht⟩
  made {s target} h ht i := by
    have hrest : Heading normalise among urls earlier { s with frames := s.frames.eraseIdx i } :=
      h.aside rfl (fun _ ht => List.mem_of_mem_eraseIdx ht) fun _ _ => id
    exact hrest.makeClient (h.priming target ht)

end

/-! ## Runs -/

section
variable {engine : Engine} {normalise : Str → Str} {py : Python} {cfg : Server.Settings}

theorem fetchConfig_answered {i : Nat} {res : Option HttpResponse} (c : PageConfig)
    (h : AnsweredBy py cfg (.resume i (.config res))) :
    engine.fetchConfig c res = c ∨ engine.fetchConfig c res = cfg.pageConfig := by
  cases res with
  | none => exact .inl rfl
  | some res =>
      by_cases hok : res.ok
      · obtain ⟨r, hr, hgives⟩ := h hok
        exact .inr (fetchConfig_gives engine cfg c hr hgives)
      · exact .inl (if_neg hok)

theorem mem_entered {settings form : PageSettings} {as : List Action}
    (h : .restart form ∈ as ∨ .save form ∈ as) : jsTrim form.directUrl ∈ entered settings as := by
  refine List.mem_cons_of_mem _ (List.mem_filterMap.mpr ?_)
  rcases h with h | h
  · exact ⟨_, h, rfl⟩
  · exact ⟨_, h, rfl⟩

/-- A run whose configuration comes from the server goes to the targets of `among`, which the
configurations of the page stay in. -/
theorem heading_run {among : PageConfig → Prop} {s s' : Page} {as : List Action}
    (hpage : among cfg.pageConfig) (hconfig : among s.config)
    (hfree : ∀ target, .priming target ∉ s.frames)
    (hrun : Machine.exec (step engine normalise) s as = some s')
    (hanswered : ∀ a ∈ as, AnsweredBy py cfg a) :
    Heading normalise among (entered s.settings as) s.log s' := by
  have hstart : Heading normalise among (entered s.settings as) s.log s :=
    ⟨hconfig, List.mem_cons_self, fun target ht => absurd ht (hfree target), fun _ _ => .inl⟩
  have hinv : Invariant engine normalise (fun a => a ∈ as)
      (Heading normalise among (entered s.settings as) s.log) := by
    refine heading_invariant (fun i res c hmay hc => ?_) fun form hform => mem_entered hform
    rcases fetchConfig_answered c (hanswered _ hmay) with hsame | hread
    · rwa [hsame]
    · rwa [hread]
  exact hinv.run hstart (fun _ => id) hrun

/-- Where a page goes that has read the configuration of the server. -/
def Sends (normalise : Str → Str) (cfg : Server.Settings) (urls : List String)
    (target : Target) : Prop :=
  if cfg.loadBalancerUrl ≠ "" then target = .sessionUrl "api/session"
  else if jsTrim cfg.speechToSpeechUrl ≠ "" then
    target = .callsUrl "api/calls" ∨
      target = .directUrl (buildDirectWsUrl normalise (jsTrim cfg.speechToSpeechUrl))
  else ∃ raw ∈ urls, target = .directUrl (buildDirectWsUrl normalise raw)

theorem sends_of_goes {urls : List String} {target : Target}
    (h : Goes normalise cfg.pageConfig urls target) : Sends normalise cfg urls target := by
  unfold Sends
  cases target with
  | sessionUrl url =>
      obtain ⟨hlocked, rfl⟩ := h
      rw [if_pos (of_decide_eq_false hlocked)]
  | callsUrl url =>
      obtain ⟨hsel, rfl⟩ := h
      simp only [transportSelectable, Server.Settings.pageConfig, Bool.and_eq_true,
        decide_eq_true_eq] at hsel
      have hpinned : jsTrim cfg.speechToSpeechUrl ≠ "" :=
        (of_decide_eq_true hsel.1.2 : Str.text _ ≠ .text "") ∘ congrArg Str.text
      rw [if_neg (not_not.mpr hsel.1.1), if_pos hpinned]
      exact .inl rfl
  | directUrl url =>
      obtain ⟨hdirect, -, hurl⟩ := h
      rw [if_neg (not_not.mpr (of_decide_eq_true hdirect))]
      by_cases hpinned : jsTrim cfg.speechToSpeechUrl ≠ ""
      · have hpinned' : cfg.pageConfig.pinnedUrl ≠ "" := hpinned ∘ Str.text.inj
        rw [if_pos hpinned'] at hurl
        rw [if_pos hpinned]
        exact .inr (congrArg _ hurl)
      · have hpinned' : ¬cfg.pageConfig.pinnedUrl ≠ "" :=
          fun hne => hpinned (hne ∘ congrArg Str.text)
        rw [if_neg hpinned'] at hurl
        rw [if_neg hpinned]
        obtain ⟨raw, hraw, rfl⟩ := hurl
        exact ⟨raw, hraw, rfl⟩

/-- Once a page has read the configuration and starts no conversation from before, the deployment
decides where its conversations go: to a session of the load balancer, to the pinned server, or
to one that the user has entered. -/
theorem deployment_decides {s s' : Page} {as : List Action} (hread : s.config = cfg.pageConfig)
    (hfree : ∀ target, .priming target ∉ s.frames)
    (hrun : Machine.exec (step engine normalise) s as = some s')
    (hanswered : ∀ a ∈ as, AnsweredBy py cfg a) {i : Nat} {target : Target}
    (hmade : .made i target ∈ s'.log) :
    .made i target ∈ s.log ∨ Sends normalise cfg (entered s.settings as) target := by
  have hheading : Heading normalise (· = cfg.pageConfig) (entered s.settings as) s.log s' :=
    heading_run rfl hread hfree hrun hanswered
  rcases hheading.made i target hmade with hearlier | ⟨c, rfl, hgoes⟩
  · exact .inl hearlier
  · exact .inr (sends_of_goes hgoes)

/-- On a Space with a load balancer a page that knows of it asks for a session, whatever server its
user has entered. -/
theorem session_decided : .made 0 (.sessionUrl "api/session") ∈ ([] : List Entry) ∨
    Sends id Server.spaceSettings ["ws://localhost:8080/"] (.sessionUrl "api/session") := by
  obtain ⟨s', hrun, hmade⟩ : ∃ s', Machine.exec (step quietEngine id)
      { Page.load localServer with config := Server.spaceSettings.pageConfig, frames := [] }
      [.circle, .resume 0 .ok] = some s' ∧ .made 0 (.sessionUrl "api/session") ∈ s'.log :=
    ⟨_, rfl, List.mem_cons_self⟩
  have hanswered :
      ∀ a ∈ [.circle, .resume 0 .ok], AnsweredBy plainPython Server.spaceSettings a := by
    simp [AnsweredBy]
  exact deployment_decides rfl (fun _ => List.not_mem_nil) hrun hanswered hmade

end

/-! ## What the server finds -/

section
variable {Visitor : Type} {py : Python} {cfg : Server.Settings}
  (auth : Server.Auth Visitor) (limiter : Server.Limiter) (checks : List Char → Bool)

theorem session_found (hlb : cfg.loadBalancerUrl ≠ "") (v : Visitor) :
    Server.session py cfg auth limiter v ≠ Server.notFound := by
  unfold Server.session Server.outOfBudget
  dsimp only
  rw [if_neg hlb]
  split
  · exact nofun
  · split
    · exact nofun
    · exact nofun

theorem calls_found (hs2s : cfg.speechToSpeechUrl ≠ "") (offer : List UInt8) :
    Server.calls cfg checks offer ≠ Server.notFound := by
  unfold Server.calls
  rw [if_neg hs2s]
  split
  · intro h
    cases h
  · exact nofun

variable {engine : Engine} {normalise : Str → Str} {settings : PageSettings} {s : Page}
  {as : List Action}

/-- Wherever the page connects to, also before it has read the configuration, is there: a route
that the server has not switched off, or a server that is pinned or entered. -/
theorem targets_found (hrun : Machine.exec (step engine normalise) (Page.load settings) as = some s)
    (hanswered : ∀ a ∈ as, AnsweredBy py cfg a) {i : Nat} {target : Target}
    (hmade : .made i target ∈ s.log) :
    match target with
    | .sessionUrl url =>
        url = "api/session" ∧ ∀ v, Server.session py cfg auth limiter v ≠ Server.notFound
    | .callsUrl url => url = "api/calls" ∧ ∀ offer, Server.calls cfg checks offer ≠ Server.notFound
    | .directUrl url => url ≠ "" ∧ ∃ raw : String, url = buildDirectWsUrl normalise raw ∧
        (raw = jsTrim cfg.speechToSpeechUrl ∨ raw ∈ entered settings as) := by
  have hfree : ∀ target, .priming target ∉ (Page.load settings).frames := by
    intro target ht
    cases List.mem_singleton.mp ht
  have hheading : Heading normalise (fun c => c = .initial ∨ c = cfg.pageConfig)
      (entered settings as) [] s := heading_run (.inr rfl) (.inl rfl) hfree hrun hanswered
  rcases hheading.made i target hmade with hnone | ⟨c, hc, hgoes⟩
  · cases hnone
  · cases target with
    | sessionUrl url =>
        rcases hc with rfl | rfl
        · cases hgoes.1
        · exact ⟨hgoes.2, session_found auth limiter (of_decide_eq_false hgoes.1)⟩
    | callsUrl url =>
        rcases hc with rfl | rfl
        · cases hgoes.1
        · have hsel := hgoes.1
          simp only [transportSelectable, Server.Settings.pageConfig, Bool.and_eq_true,
            decide_eq_true_eq] at hsel
          exact ⟨hgoes.2, calls_found checks hsel.2⟩
    | directUrl url =>
        obtain ⟨-, hne, hurl⟩ := hgoes
        refine ⟨hne, ?_⟩
        split at hurl
        · rcases hc with rfl | rfl
          · exact absurd rfl ‹PageConfig.initial.pinnedUrl ≠ ""›
          · exact ⟨_, hurl, .inl rfl⟩
        · obtain ⟨raw, hraw, rfl⟩ := hurl
          exact ⟨raw, rfl, .inr hraw⟩

/-- A page that could not read the configuration. -/
theorem entered_found : (.text "ws://localhost:8080/" : Str) ≠ "" ∧
    ∃ raw : String, "ws://localhost:8080/" = buildDirectWsUrl id raw ∧
      (raw = jsTrim Server.spaceSettings.speechToSpeechUrl ∨
        raw ∈ entered localServer talking) := by
  obtain ⟨s, hrun, hmade⟩ : ∃ s, Machine.exec (step quietEngine id) (Page.load localServer)
      talking = some s ∧ .made 0 (.directUrl "ws://localhost:8080/") ∈ s.log := by
    refine ⟨_, rfl, ?_⟩
    decide +kernel
  have hanswered : ∀ a ∈ talking, AnsweredBy plainPython Server.spaceSettings a := by
    simp [talking, AnsweredBy]
  exact targets_found Server.anonymous Server.tenMinutes Server.anyAuthority hrun
    hanswered hmade

end

/-! ## What the page tells the server -/

/-- A message names a session or a ticket, and heartbeats are only sent where they are `enabled`. -/
def Told (enabled : Prop) : Entry → Prop
  | .heartbeat sessionId => enabled ∧ sessionId ≠ ""
  | .ended sessionId => sessionId ≠ ""
  | .left queueId => queueId ≠ ""
  | .made _ _ | .named _ | .ticket _ | .outOfQueue => True

structure Telling (enabled : Prop) (s : Page) : Prop where
  beating : ∀ id, (id, .heartbeat) ∈ s.intervals → enabled
  told : ∀ e ∈ s.log, Told enabled e

section
variable {enabled : Prop} {s s' : Page}

theorem Telling.aside (h : Telling enabled s)
    (hintervals : ∀ id, (id, .heartbeat) ∈ s'.intervals → (id, .heartbeat) ∈ s.intervals)
    (hlog : s'.log = s.log) : Telling enabled s' :=
  ⟨fun id hid => h.beating id (hintervals id hid), hlog ▸ h.told⟩

theorem Telling.stopHeartbeat (h : Telling enabled s) : Telling enabled (stopHeartbeat s) := by
  unfold Conversation.stopHeartbeat
  split
  · exact h.aside (fun _ => List.mem_of_mem_filter) rfl
  · exact h

theorem Telling.stopJoinCountdown (h : Telling enabled s) :
    Telling enabled (stopJoinCountdown s) := by
  unfold Conversation.stopJoinCountdown
  split
  · exact h.aside (fun _ => List.mem_of_mem_filter) rfl
  · exact h

theorem Telling.startJoinCountdown (h : Telling enabled s) (left : Option Int) :
    Telling enabled (startJoinCountdown left s) := by
  refine h.stopJoinCountdown.aside (fun id hid => ?_) rfl
  rcases List.mem_append.mp hid with hold | hnew
  · exact hold
  · cases List.mem_singleton.mp hnew

theorem Telling.startHeartbeat (h : Telling enabled s) (henabled : enabled) :
    Telling enabled (startHeartbeat s) := ⟨fun _ _ => henabled, h.stopHeartbeat.told⟩

theorem Telling.countDown (h : Telling enabled s) (id : Nat) (left : Option Int) :
    Telling enabled { s with
      intervals := s.intervals.map fun j => if j.1 = id then (id, .countdown left) else j } := by
  refine h.aside (fun id' hid => ?_) rfl
  obtain ⟨j, hj, hsame⟩ := List.mem_map.mp hid
  split at hsame
  · cases hsame
  · exact hsame ▸ hj

theorem Telling.record (h : Telling enabled s) {e : Entry} (he : Told enabled e)
    (sessionId queueId : String) : Telling enabled
      { s.record e with trackedSessionId := sessionId, queuedTicketId := queueId } := by
  refine ⟨h.beating, fun d hd => ?_⟩
  rcases List.mem_append.mp hd with hold | hnew
  · exact h.told d hold
  · exact List.mem_singleton.mp hnew ▸ he

theorem Telling.endTrackedSession (h : Telling enabled s) :
    Telling enabled (endTrackedSession s) := by
  unfold Conversation.endTrackedSession
  split
  · exact h
  · exact h.record (e := .ended s.trackedSessionId) ‹_› "" _

theorem Telling.endQueueTicket (h : Telling enabled s) : Telling enabled (endQueueTicket s) := by
  unfold Conversation.endQueueTicket
  split
  · exact h
  · exact h.record (e := .left s.queuedTicketId) ‹_› _ ""

theorem Telling.sync (h : Telling enabled s) (micMuted playing : Bool) : Telling enabled
    (syncMicMuteState { s with micMuted := micMuted, userAudioReplaying := playing }) := by
  unfold syncMicMuteState
  dsimp only
  split
  · exact h.aside (fun _ => id) rfl
  · exact h.aside (fun _ => id) rfl

theorem Telling.onQueue (h : Telling enabled s) (queueId : String) :
    Telling enabled (onQueue queueId s) := by
  unfold Conversation.onQueue
  split
  · exact h.record (e := .ticket queueId) trivial _ queueId
  · exact h

end

/-! ## What the server makes of it -/

/-- `JSON.stringify` of an object with an id, as the server decodes it. -/
def sentBody (key id : String) : Option Json :=
  Json.parse (Json.print (fun _ => false) (.obj [(key, .str id)]))

/-- The request that a message of the page is. -/
def Entry.route : Entry → Option Server.Route
  | .heartbeat sessionId => some (.sessionHeartbeat (sentBody "sessionId" sessionId))
  | .ended sessionId => some (.sessionEnd (sentBody "sessionId" sessionId))
  | .left queueId => some (.queueEnd (sentBody "queueId" queueId))
  | .made _ _ | .named _ | .ticket _ | .outOfQueue => none

/-- The client passes on whether the session that the server granted is limited. -/
def GrantedBy (cfg : Server.Settings) : Action → Prop
  | .session info => info.limited = true → ∃ limiter data who rem fields,
      (Server.grantResponse cfg limiter data who rem).body = .json (.obj fields) ∧
        Json.lookup fields "limited" = some (.bool true)
  | _ => True

section
open Handler
variable {py : Python} {cfg : Server.Settings}

end

end Conversation

end SpeechK8s.Demo
