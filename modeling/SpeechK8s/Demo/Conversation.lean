import SpeechK8s.Lib.Machine
import SpeechK8s.Demo.Connect

/-!
# demo/main.js: the life of a conversation

The page as a machine. A step is an event that the browser delivers, a click, a timer, an event
of a client, or the continuation of an `async` function that waits; a function runs up to its
next `await`, and what is then left of it is a frame. Frames go on in any order. What the page
shows is left out, but for the state of the orb, which its buttons depend on.
-/
namespace SpeechK8s.Demo.Conversation

/-! ## State -/

inductive AppState where
  | idle
  | connecting
  | queued
  | yourTurn
  | listening
  | userSpeaking
  | processing
  | aiSpeaking
  | error
  deriving DecidableEq, Repr

/-- The codes that `handleStartError` tells apart. -/
inductive StartError where
  | loginRequired
  | limit
  | aborted
  | queueFull
  | queueExpired
  | joinExpired
  | other
  deriving DecidableEq, Repr

/-- What comes after a `teardown` that has been waited for. -/
inductive After where
  | done
  | startAgain
  | showLoginRequired
  | showLimit
  | showBusy
  | rejoin
  | fatal
  deriving DecidableEq

/-- An `async` function that waits: for the configuration, in `teardown` for the client to close,
for `teardown`, in `doStart` for the microphone and for the connection, for `doStart` when it has
thrown, or for the response to a heartbeat. -/
inductive Frame where
  | fetchConfig
  | closing (after : After)
  | tornDown (after : After)
  | priming (target : Target)
  | dialing
  | failed (err : StartError)
  | heartbeat
  deriving DecidableEq

/-- An interval of the browser; a countdown has its own `left`, `none` for `NaN`. -/
inductive Interval where
  | heartbeat
  | countdown (left : Option Int)
  deriving DecidableEq

/-- What the page has done: messages to the server, clients made, and the sessions and tickets
that the clients have named to it. -/
inductive Entry where
  | made (client : Nat) (target : Target)
  | named (sessionId : String)
  | heartbeat (sessionId : String)
  | ended (sessionId : String)
  | ticket (queueId : String)
  | outOfQueue
  | left (queueId : String)
  deriving DecidableEq

structure Page where
  currentState : AppState
  config : PageConfig
  settings : PageSettings
  heartbeatTimer : Nat
  joinCountdownTimer : Nat
  intervals : List (Nat × Interval)
  nextInterval : Nat
  trackedSessionId : String
  queuedTicketId : String
  client : Option Nat
  nextClient : Nat
  /-- The last `setMuted` of each client. -/
  muted : Nat → Bool
  /-- Whether the tracks of the microphone are enabled. -/
  micStream : Option Bool
  micMuted : Bool
  userAudioReplaying : Bool
  frames : List Frame
  log : List Entry

/-- The page after its script has run; timers are numbered from 1. -/
def Page.load (settings : PageSettings) : Page where
  currentState := .idle
  config := .initial
  settings := settings
  heartbeatTimer := 0
  joinCountdownTimer := 0
  intervals := []
  nextInterval := 1
  trackedSessionId := ""
  queuedTicketId := ""
  client := none
  nextClient := 0
  muted := fun _ => false
  micStream := none
  micMuted := false
  userAudioReplaying := false
  frames := [.fetchConfig]
  log := []

def Page.await (s : Page) (f : Frame) : Page := { s with frames := s.frames ++ [f] }

def Page.record (s : Page) (e : Entry) : Page := { s with log := s.log ++ [e] }

def Page.clearInterval (s : Page) (id : Nat) : Page :=
  { s with intervals := s.intervals.filter (·.1 ≠ id) }

def Page.setInterval (s : Page) (i : Interval) : Page :=
  { s with intervals := s.intervals ++ [(s.nextInterval, i)], nextInterval := s.nextInterval + 1 }

/-! ## Functions that do not wait -/

def stopHeartbeat (s : Page) : Page :=
  if s.heartbeatTimer ≠ 0 then { s.clearInterval s.heartbeatTimer with heartbeatTimer := 0 } else s

def startHeartbeat (s : Page) : Page :=
  let s := stopHeartbeat s
  { s.setInterval .heartbeat with heartbeatTimer := s.nextInterval }

def stopJoinCountdown (s : Page) : Page :=
  if s.joinCountdownTimer ≠ 0 then
    { s.clearInterval s.joinCountdownTimer with joinCountdownTimer := 0 }
  else s

def startJoinCountdown (left : Option Int) (s : Page) : Page :=
  let s := stopJoinCountdown s
  { s.setInterval (.countdown (left.map (max 0 ·))) with joinCountdownTimer := s.nextInterval }

def setState (next : AppState) (s : Page) : Page :=
  let s := { s with currentState := next }
  if next ≠ .yourTurn then stopJoinCountdown s else s

def endTrackedSession (s : Page) : Page :=
  if s.trackedSessionId = "" then s
  else { s.record (.ended s.trackedSessionId) with trackedSessionId := "" }

def endQueueTicket (s : Page) : Page :=
  if s.queuedTicketId = "" then s
  else { s.record (.left s.queuedTicketId) with queuedTicketId := "" }

def silenced (s : Page) : Bool := s.micMuted || s.userAudioReplaying

def setMuted (c : Nat) (muted : Bool) (s : Page) : Page :=
  { s with muted := Function.update s.muted c muted }

def syncMicMuteState (s : Page) : Page :=
  let s := { s with micStream := s.micStream.map fun _ => !silenced s }
  match s.client with
  | some c => setMuted c (silenced s) s
  | none => s

/-! ## teardown, doStart and their callers -/

/-- The end of `teardown`, after `client.close()`. -/
def finishTeardown (after : After) (s : Page) : Page :=
  (setState .idle { s with client := none, micStream := none, micMuted := false }).await
    (.tornDown after)

def teardown (after : After) (s : Page) : Page :=
  let s := endQueueTicket (endTrackedSession (stopJoinCountdown (stopHeartbeat s)))
  if s.client.isSome then s.await (.closing after) else finishTeardown after s

section
variable (engine : Engine) (normalise : Str → Str)

/-- `doStart` up to the prompt for the microphone. -/
def doStart (s : Page) : Page :=
  match startTarget normalise s.config s.settings with
  | none => s.await (.failed .other)
  | some target => (setState .connecting s).await (.priming target)

/-- `doStart` from there to `c.connect()`. -/
def makeClient (target : Target) (s : Page) : Page :=
  let c := s.nextClient
  let s := { s.record (.made c target) with client := some c, nextClient := c + 1 }
  (setMuted c (silenced s) s).await .dialing

def handleStartError : StartError → Page → Page
  | .loginRequired, s => teardown .showLoginRequired s
  | .limit, s => teardown .showLimit s
  | .aborted, s => s
  | .queueFull, s => teardown .showBusy s
  | .queueExpired, s | .joinExpired, s => teardown .rejoin s
  | .other, s => teardown .fatal s

def afterTeardown : After → Page → Page
  | .done, s | .showLimit, s | .showBusy, s => s
  | .startAgain, s => doStart normalise s
  | .showLoginRequired, s | .rejoin, s | .fatal, s => setState .error s

def onLimitReached (s : Page) : Page := teardown .showLimit (stopHeartbeat s)

/-! ## Events -/

structure SessionInfo where
  sessionId : String
  limited : Bool
  deriving DecidableEq, Repr

/-- The statuses that `onClientStatus` sets a state for. -/
inductive Status where
  | connecting
  | queued
  | yourTurn
  | connected
  | userSpeaking
  | processing
  | aiSpeaking
  | closed
  | error
  deriving DecidableEq, Repr

def onClientStatus (status : Status) (s : Page) : Page :=
  match status with
  | .connecting => setState .connecting s
  | .queued => setState .queued s
  | .yourTurn => setState .yourTurn s
  | .connected => setState .listening s
  | .userSpeaking => setState .userSpeaking s
  | .processing => setState .processing s
  | .aiSpeaking => setState .aiSpeaking s
  | .closed => s
  | .error => setState .error s

def onQueue (queueId : String) (s : Page) : Page :=
  if queueId ≠ "" then { s.record (.ticket queueId) with queuedTicketId := queueId } else s

/-- Out of the queue: the ticket is dropped. -/
def dropTicket (s : Page) : Page := { s.record .outOfQueue with queuedTicketId := "" }

def track (sessionId : String) (s : Page) : Page :=
  { s.record (.named sessionId) with trackedSessionId := sessionId }

def onReadyToJoin (info : Option SessionInfo) (expiresSec : Option Int) (s : Page) : Page :=
  let s := dropTicket s
  let s :=
    match info with
    | some info => if info.sessionId ≠ "" then track info.sessionId s else s
    | none => s
  startJoinCountdown expiresSec s

def onSession (info : SessionInfo) (s : Page) : Page :=
  let s := dropTicket s
  if info.limited && info.sessionId ≠ "" then startHeartbeat (track info.sessionId s) else s

/-- The callback of an interval. -/
def onTick (id : Nat) (i : Interval) (s : Page) : Page :=
  match i with
  | .heartbeat =>
      if s.trackedSessionId = "" then s
      else (s.record (.heartbeat s.trackedSessionId)).await .heartbeat
  | .countdown left =>
      let left := left.map (· - 1)
      let s := { s with
        intervals := s.intervals.map fun j => if j.1 = id then (id, .countdown left) else j }
      if left.any (· ≤ 0) then stopJoinCountdown s else s

/-- What an `await` ends with. -/
inductive Outcome where
  | ok
  | config (res : Option HttpResponse)
  | thrown (err : StartError)
  | expired

inductive Action where
  | circle
  | restart (form : PageSettings)
  | save (form : PageSettings)
  | transport (t : Transport)
  | mic
  | stop
  | leaveQueue
  | join
  | pageHide
  | playback (playing : Bool)
  | micAcquired
  | queue (queueId : String)
  | readyToJoin (info : Option SessionInfo) (expiresSec : Option Int)
  | session (info : SessionInfo)
  | status (status : Status)
  | fatal
  | tick (id : Nat)
  | resume (i : Nat) (outcome : Outcome)

/-- A restart is not to be had while a connection is being made. -/
def restartDisabled (s : Page) : Bool :=
  s.currentState = .connecting || s.currentState = .queued || s.currentState = .yourTurn

def onRestart (form : PageSettings) (s : Page) : Page :=
  let s := { s with settings := readSettingsFromForm s.config s.settings form }
  if missingServerUrl normalise s.config s.settings then s
  else if s.client.isSome then teardown .startAgain s
  else doStart normalise s

def onCircle (s : Page) : Page :=
  if s.currentState = .idle ∨ s.currentState = .error then
    if missingServerUrl normalise s.config s.settings then s else doStart normalise s
  else s

def resume (f : Frame) (outcome : Outcome) (s : Page) : Option Page :=
  match f, outcome with
  | .fetchConfig, .config res => some { s with config := engine.fetchConfig s.config res }
  | .closing after, _ => some (finishTeardown after s)
  | .tornDown after, _ => some (afterTeardown normalise after s)
  | .priming target, .ok => some (makeClient target s)
  | .priming _, .thrown _ => some (s.await (.failed .other))
  | .dialing, .thrown err => some (s.await (.failed err))
  | .failed err, _ => some (handleStartError err s)
  | .heartbeat, .expired => some (onLimitReached s)
  | .dialing, .ok | .heartbeat, .ok | .heartbeat, .thrown _ => some s
  | _, _ => none

/-- One step of the page. Events of a client come from any that has been made, also from one that
the page has given up. -/
def step (s : Page) : Action → Option Page
  | .circle => some (onCircle normalise s)
  | .restart form => if restartDisabled s then none else some (onRestart normalise form s)
  | .save form => some { s with settings := readSettingsFromForm s.config s.settings form }
  | .transport t =>
      if transportSelectable s.config then
        some { s with settings := { s.settings with transport := t } }
      else some s
  | .mic =>
      if s.micStream.isSome && s.client.isSome then
        some (syncMicMuteState { s with micMuted := !s.micMuted })
      else some s
  | .stop | .leaveQueue => some (teardown .done s)
  | .join => some (stopJoinCountdown s)
  | .pageHide => some (endQueueTicket (endTrackedSession s))
  | .playback playing => some (syncMicMuteState { s with userAudioReplaying := playing })
  | .micAcquired => if 0 < s.nextClient then some { s with micStream := some true } else none
  | .queue queueId => if 0 < s.nextClient then some (onQueue queueId s) else none
  | .readyToJoin info expiresSec =>
      if 0 < s.nextClient then some (onReadyToJoin info expiresSec s) else none
  | .session info => if 0 < s.nextClient then some (onSession info s) else none
  | .status status => if 0 < s.nextClient then some (onClientStatus status s) else none
  | .fatal => if 0 < s.nextClient then some (teardown .fatal s) else none
  | .tick id =>
      match s.intervals.find? (·.1 = id) with
      | some (_, i) => some (onTick id i s)
      | none => none
  | .resume i outcome =>
      match s.frames[i]? with
      | some f => resume engine normalise f outcome { s with frames := s.frames.eraseIdx i }
      | none => none

/-! ## Invariants -/

/-- What a property of pages must be kept by in order to be kept by the steps in `may`: by the parts
that the functions of the page are made of. -/
structure Invariant (may : Action → Prop) (I : Page → Prop) : Prop where
  state : ∀ {s}, I s → ∀ next, I { s with currentState := next }
  stopHeartbeat : ∀ {s}, I s → I (stopHeartbeat s)
  stopJoinCountdown : ∀ {s}, I s → I (stopJoinCountdown s)
  startJoinCountdown : ∀ {s}, I s → ∀ left, I (startJoinCountdown left s)
  countDown : ∀ {s id left}, I s → (id, .countdown left) ∈ s.intervals → ∀ left', I { s with
    intervals := s.intervals.map fun j => if j.1 = id then (id, .countdown left') else j }
  endTrackedSession : ∀ {s}, I s → I (endTrackedSession s)
  endQueueTicket : ∀ {s}, I s → I (endQueueTicket s)
  dropTicket : ∀ {s}, I s → I (dropTicket s)
  ticket : ∀ {s queueId}, I s → queueId ≠ "" → I (onQueue queueId s)
  track : ∀ {s sessionId}, I s → sessionId ≠ "" → I (track sessionId s)
  metered : ∀ {s info}, I s → may (.session info) → info.limited = true → info.sessionId ≠ "" →
    I (startHeartbeat (Conversation.track info.sessionId s))
  beat : ∀ {s id}, I s → (id, .heartbeat) ∈ s.intervals → s.trackedSessionId ≠ "" →
    I (s.record (.heartbeat s.trackedSessionId))
  sync : ∀ {s}, I s → ∀ micMuted playing,
    I (syncMicMuteState { s with micMuted := micMuted, userAudioReplaying := playing })
  micAcquired : ∀ {s}, I s → I { s with micStream := some true }
  hungUp : ∀ {s}, I s → I { s with client := none, micStream := none, micMuted := false }
  entered : ∀ {s form}, I s → may (.restart form) ∨ may (.save form) →
    I { s with settings := readSettingsFromForm s.config s.settings form }
  transport : ∀ {s}, I s → ∀ t, I { s with settings := { s.settings with transport := t } }
  config : ∀ {s i res}, I s → may (.resume i (.config res)) →
    I { s with config := engine.fetchConfig s.config res }
  resumed : ∀ {s}, I s → ∀ i, I { s with frames := s.frames.eraseIdx i }
  await : ∀ {s f}, I s → (∀ target, f ≠ .priming target) → I (s.await f)
  primed : ∀ {s target}, I s → startTarget normalise s.config s.settings = some target →
    I (s.await (.priming target))
  made : ∀ {s target}, I s → .priming target ∈ s.frames → ∀ i,
    I (makeClient target { s with frames := s.frames.eraseIdx i })

/-- What a start reads of the page. -/
def Page.choices (s : Page) : PageConfig × PageSettings := (s.config, s.settings)

@[simp] theorem choices_stopJoinCountdown (s : Page) :
    (stopJoinCountdown s).choices = s.choices := by
  unfold stopJoinCountdown
  split <;> rfl

@[simp] theorem choices_setState (next : AppState) (s : Page) :
    (setState next s).choices = s.choices := by
  unfold setState
  dsimp only
  split
  · exact choices_stopJoinCountdown _
  · rfl

namespace Invariant
variable {engine normalise}
variable {may : Action → Prop} {I : Page → Prop} (inv : Invariant engine normalise may I) {s : Page}
include inv

theorem setState (h : I s) (next : AppState) : I (setState next s) := by
  have hnext := inv.state h next
  unfold Conversation.setState
  dsimp only
  split
  · exact inv.stopJoinCountdown hnext
  · exact hnext

theorem finishTeardown (h : I s) (after : After) : I (finishTeardown after s) :=
  inv.await (inv.setState (inv.hungUp h) .idle) fun _ => nofun

theorem teardown (h : I s) (after : After) : I (teardown after s) := by
  have hquiet := inv.endQueueTicket (inv.endTrackedSession
    (inv.stopJoinCountdown (inv.stopHeartbeat h)))
  unfold Conversation.teardown
  dsimp only
  split
  · exact inv.await hquiet fun _ => nofun
  · exact inv.finishTeardown hquiet after

theorem doStart (h : I s) : I (doStart normalise s) := by
  unfold Conversation.doStart
  split
  · exact inv.await h fun _ => nofun
  · rename_i target htarget
    refine inv.primed (inv.setState h .connecting) ?_
    obtain ⟨hconfig, hsettings⟩ := Prod.mk.inj (choices_setState .connecting s)
    rw [hconfig, hsettings]
    exact htarget

theorem handleStartError (h : I s) (err : StartError) : I (handleStartError err s) := by
  cases err with
  | aborted => exact h
  | loginRequired | limit | queueFull | queueExpired | joinExpired | other =>
      exact inv.teardown h _

theorem afterTeardown (h : I s) (after : After) : I (afterTeardown normalise after s) := by
  cases after with
  | done | showLimit | showBusy => exact h
  | startAgain => exact inv.doStart h
  | showLoginRequired | rejoin | fatal => exact inv.setState h .error

theorem onReadyToJoin (h : I s) (info : Option SessionInfo) (expiresSec : Option Int) :
    I (onReadyToJoin info expiresSec s) := by
  have hout := inv.dropTicket h
  unfold Conversation.onReadyToJoin
  dsimp only
  refine inv.startJoinCountdown ?_ expiresSec
  split
  · split
    · exact inv.track hout ‹_›
    · exact hout
  · exact hout

theorem onSession (h : I s) {info : SessionInfo} (hmay : may (.session info)) :
    I (onSession info s) := by
  have hout := inv.dropTicket h
  unfold Conversation.onSession
  dsimp only
  split
  · rename_i hlimited
    obtain ⟨hlimited, hid⟩ := Bool.and_eq_true_iff.mp hlimited
    exact inv.metered hout hmay hlimited (of_decide_eq_true hid)
  · exact hout

theorem onClientStatus (h : I s) (status : Status) : I (onClientStatus status s) := by
  unfold Conversation.onClientStatus
  split
  case h_8 => exact h
  all_goals exact inv.setState h _

theorem onTick (h : I s) {id : Nat} {i : Interval} (hi : (id, i) ∈ s.intervals) :
    I (onTick id i s) := by
  cases i with
  | heartbeat =>
      unfold Conversation.onTick
      dsimp only
      split
      · exact h
      · exact inv.await (inv.beat h hi ‹_›) fun _ => nofun
  | countdown left =>
      have hon := inv.countDown h hi (left.map (· - 1))
      unfold Conversation.onTick
      dsimp only
      split
      · exact inv.stopJoinCountdown hon
      · exact hon

theorem onRestart (h : I s) {form : PageSettings} (hmay : may (.restart form)) :
    I (onRestart normalise form s) := by
  have hform := inv.entered h (.inl hmay)
  unfold Conversation.onRestart
  dsimp only
  split
  · exact hform
  · split
    · exact inv.teardown hform _
    · exact inv.doStart hform

theorem onCircle (h : I s) : I (onCircle normalise s) := by
  unfold Conversation.onCircle
  split
  · split
    · exact h
    · exact inv.doStart h
  · exact h

/-- A frame has left the list of frames when it goes on. -/
theorem resume (h : I s) {i : Nat} {f : Frame} (hf : s.frames[i]? = some f) {outcome : Outcome}
    (hmay : may (.resume i outcome)) {s' : Page}
    (hs : resume engine normalise f outcome { s with frames := s.frames.eraseIdx i } = some s') :
    I s' := by
  have hrest := inv.resumed h i
  unfold Conversation.resume at hs
  split at hs
  · exact Option.some.inj hs ▸ inv.config hrest hmay
  · exact Option.some.inj hs ▸ inv.finishTeardown hrest _
  · exact Option.some.inj hs ▸ inv.afterTeardown hrest _
  · exact Option.some.inj hs ▸ inv.made h (List.mem_of_getElem? hf) i
  · exact Option.some.inj hs ▸ inv.await hrest fun _ => nofun
  · exact Option.some.inj hs ▸ inv.await hrest fun _ => nofun
  · exact Option.some.inj hs ▸ inv.handleStartError hrest _
  · exact Option.some.inj hs ▸ inv.teardown (inv.stopHeartbeat hrest) _
  · exact Option.some.inj hs ▸ hrest
  · exact Option.some.inj hs ▸ hrest
  · exact Option.some.inj hs ▸ hrest
  · cases hs

theorem step (h : I s) {a : Action} (hmay : may a) {s' : Page}
    (hs : step engine normalise s a = some s') : I s' := by
  cases a with
  | circle => exact Option.some.inj hs ▸ inv.onCircle h
  | restart form =>
      simp only [Conversation.step, Option.ite_none_left_eq_some, Option.some.injEq] at hs
      exact hs.2 ▸ inv.onRestart h hmay
  | save form => exact Option.some.inj hs ▸ inv.entered h (.inr hmay)
  | transport t =>
      simp only [Conversation.step] at hs
      split at hs
      · exact Option.some.inj hs ▸ inv.transport h t
      · exact Option.some.inj hs ▸ h
  | mic =>
      simp only [Conversation.step] at hs
      split at hs
      · exact Option.some.inj hs ▸ inv.sync h _ _
      · exact Option.some.inj hs ▸ h
  | stop | leaveQueue => exact Option.some.inj hs ▸ inv.teardown h _
  | join => exact Option.some.inj hs ▸ inv.stopJoinCountdown h
  | pageHide => exact Option.some.inj hs ▸ inv.endQueueTicket (inv.endTrackedSession h)
  | playback playing => exact Option.some.inj hs ▸ inv.sync h _ _
  | micAcquired =>
      simp only [Conversation.step, Option.ite_none_right_eq_some, Option.some.injEq] at hs
      exact hs.2 ▸ inv.micAcquired h
  | queue queueId =>
      simp only [Conversation.step, Option.ite_none_right_eq_some, Option.some.injEq] at hs
      obtain ⟨-, rfl⟩ := hs
      by_cases hne : queueId = ""
      · rwa [onQueue, if_neg (not_not.mpr hne)]
      · exact inv.ticket h hne
  | readyToJoin info expiresSec =>
      simp only [Conversation.step, Option.ite_none_right_eq_some, Option.some.injEq] at hs
      exact hs.2 ▸ inv.onReadyToJoin h info expiresSec
  | session info =>
      simp only [Conversation.step, Option.ite_none_right_eq_some, Option.some.injEq] at hs
      exact hs.2 ▸ inv.onSession h hmay
  | status status =>
      simp only [Conversation.step, Option.ite_none_right_eq_some, Option.some.injEq] at hs
      exact hs.2 ▸ inv.onClientStatus h status
  | fatal =>
      simp only [Conversation.step, Option.ite_none_right_eq_some, Option.some.injEq] at hs
      exact hs.2 ▸ inv.teardown h _
  | tick id =>
      simp only [Conversation.step] at hs
      split at hs
      · rename_i id' i hfind
        have hid := List.find?_some hfind
        obtain rfl : id' = id := of_decide_eq_true hid
        exact Option.some.inj hs ▸ inv.onTick h (List.mem_of_find?_eq_some hfind)
      · cases hs
  | resume i outcome =>
      simp only [Conversation.step] at hs
      split at hs
      · exact inv.resume h ‹_› hmay hs
      · cases hs

/-- A run of such steps keeps the property. -/
theorem run {as : List Action} {s' : Page} (h : I s) (hmay : ∀ a ∈ as, may a)
    (hs : Machine.exec (Conversation.step engine normalise) s as = some s') : I s' :=
  Machine.exec_invariant hs h fun a ha _ _ hi hstep => inv.step hi (hmay a ha) hstep

end Invariant

end

end SpeechK8s.Demo.Conversation
