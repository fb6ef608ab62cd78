import SpeechK8s.Lib.Timers
import SpeechK8s.Lib.Ledger
import SpeechK8s.Demo.Conversation

/-!
# What the page keeps track of

However clicks, timers, clients and waiting functions interleave, also when two conversations are
started at once: the page knows its timers, it speaks to the server only of the session and the
ticket that it holds, and its client is mute when it should be.
-/
namespace SpeechK8s.Demo.Conversation
open Ledger (Act)

/-! ## Timers and ledgers of the page -/

inductive TimerKind where
  | heartbeat
  | countdown
  deriving DecidableEq, Repr

def Interval.kind : Interval → TimerKind
  | .heartbeat => .heartbeat
  | .countdown _ => .countdown

def Page.timers (s : Page) : Timers TimerKind where
  slot
    | .heartbeat => s.heartbeatTimer
    | .countdown => s.joinCountdownTimer
  running := s.intervals.map fun i => (i.1, i.2.kind)
  next := s.nextInterval

def sessionAct : Entry → Act String
  | .named sessionId => .opens sessionId
  | .heartbeat sessionId => .uses sessionId
  | .ended sessionId => .closes sessionId
  | .made _ _ | .ticket _ | .outOfQueue | .left _ => .other

def ticketAct : Entry → Act String
  | .ticket queueId => .opens queueId
  | .left queueId => .closes queueId
  | .outOfQueue => .drops
  | .made _ _ | .named _ | .heartbeat _ | .ended _ => .other

def held (id : String) : Option String := if id = "" then none else some id

structure Kept (s : Page) : Prop where
  timers : s.timers.Owned
  session : Ledger.holder sessionAct s.log = held s.trackedSessionId
  sessions : Ledger.Orderly sessionAct s.log
  ticket : Ledger.holder ticketAct s.log = held s.queuedTicketId
  tickets : Ledger.Orderly ticketAct s.log
  muted : ∀ c, s.client = some c → s.muted c = silenced s

section
variable {s : Page}

theorem kept_load (settings : PageSettings) : Kept (Page.load settings) where
  timers := ⟨fun n k => by cases k <;> simp [Page.timers, Page.load],
    fun k => by cases k <;> exact Nat.one_pos, fun j k _ _ => by cases k <;> rfl⟩
  session := rfl
  sessions := Ledger.orderly_nil
  ticket := rfl
  tickets := Ledger.orderly_nil
  muted _ h := nomatch h

theorem Kept.await (h : Kept s) (f : Frame) : Kept (s.await f) :=
  ⟨h.timers, h.session, h.sessions, h.ticket, h.tickets, h.muted⟩

/-! ## Timers -/

theorem timers_stopHeartbeat (s : Page) :
    (stopHeartbeat s).timers = s.timers.stop .heartbeat := by
  unfold stopHeartbeat Timers.stop
  by_cases h : s.heartbeatTimer = 0
  · simp [Page.timers, h]
  · have hslot : s.timers.slot .heartbeat ≠ 0 := h
    rw [if_pos h, if_pos hslot]
    simp only [Page.timers, Page.clearInterval, List.filter_map, Timers.mk.injEq, and_true]
    refine ⟨?_, rfl⟩
    funext k
    cases k <;> rfl

theorem timers_stopJoinCountdown (s : Page) :
    (stopJoinCountdown s).timers = s.timers.stop .countdown := by
  unfold stopJoinCountdown Timers.stop
  by_cases h : s.joinCountdownTimer = 0
  · simp [Page.timers, h]
  · have hslot : s.timers.slot .countdown ≠ 0 := h
    rw [if_pos h, if_pos hslot]
    simp only [Page.timers, Page.clearInterval, List.filter_map, Timers.mk.injEq, and_true]
    refine ⟨?_, rfl⟩
    funext k
    cases k <;> rfl

theorem timers_startHeartbeat (s : Page) :
    (startHeartbeat s).timers = s.timers.start .heartbeat := by
  rw [Timers.start, ← timers_stopHeartbeat]
  simp only [startHeartbeat, Page.timers, Page.setInterval, List.map_append, List.map_cons,
    List.map_nil, Interval.kind, Timers.mk.injEq, and_true]
  funext k
  cases k <;> rfl

theorem timers_startJoinCountdown (left : Option Int) (s : Page) :
    (startJoinCountdown left s).timers = s.timers.start .countdown := by
  rw [Timers.start, ← timers_stopJoinCountdown]
  simp only [startJoinCountdown, Page.timers, Page.setInterval, List.map_append, List.map_cons,
    List.map_nil, Interval.kind, Timers.mk.injEq, and_true]
  funext k
  cases k <;> rfl

/-- Nothing but the timers and the state of the orb has changed. -/
def Retimed (s s' : Page) : Prop :=
  ∃ state intervals heartbeatTimer joinCountdownTimer nextInterval, s' = { s with
    currentState := state, intervals := intervals, heartbeatTimer := heartbeatTimer,
    joinCountdownTimer := joinCountdownTimer, nextInterval := nextInterval }

theorem retimed_stopHeartbeat (s : Page) : Retimed s (stopHeartbeat s) := by
  unfold stopHeartbeat
  split
  · exact ⟨_, _, _, _, _, rfl⟩
  · exact ⟨_, _, _, _, _, rfl⟩

theorem retimed_stopJoinCountdown (s : Page) : Retimed s (stopJoinCountdown s) := by
  unfold stopJoinCountdown
  split
  · exact ⟨_, _, _, _, _, rfl⟩
  · exact ⟨_, _, _, _, _, rfl⟩

theorem retimed_startHeartbeat (s : Page) : Retimed s (startHeartbeat s) := by
  obtain ⟨a, b, c, d, e, h⟩ := retimed_stopHeartbeat s
  unfold startHeartbeat
  rw [h]
  exact ⟨_, _, _, _, _, rfl⟩

theorem retimed_startJoinCountdown (left : Option Int) (s : Page) :
    Retimed s (startJoinCountdown left s) := by
  obtain ⟨a, b, c, d, e, h⟩ := retimed_stopJoinCountdown s
  unfold startJoinCountdown
  rw [h]
  exact ⟨_, _, _, _, _, rfl⟩

theorem Kept.retimed {s' : Page} (h : Kept s) (hs : Retimed s s') (ht : s'.timers.Owned) :
    Kept s' := by
  obtain ⟨a, b, c, d, e, rfl⟩ := hs
  exact ⟨ht, h.session, h.sessions, h.ticket, h.tickets, h.muted⟩

theorem Kept.stopHeartbeat (h : Kept s) : Kept (stopHeartbeat s) :=
  h.retimed (retimed_stopHeartbeat s) (timers_stopHeartbeat s ▸ h.timers.stop .heartbeat)

theorem Kept.stopJoinCountdown (h : Kept s) : Kept (stopJoinCountdown s) :=
  h.retimed (retimed_stopJoinCountdown s) (timers_stopJoinCountdown s ▸ h.timers.stop .countdown)

theorem Kept.startHeartbeat (h : Kept s) : Kept (startHeartbeat s) :=
  h.retimed (retimed_startHeartbeat s) (timers_startHeartbeat s ▸ h.timers.start .heartbeat)

theorem Kept.startJoinCountdown (h : Kept s) (left : Option Int) :
    Kept (startJoinCountdown left s) :=
  h.retimed (retimed_startJoinCountdown left s)
    (timers_startJoinCountdown left s ▸ h.timers.start .countdown)

/-! ## Messages -/

theorem held_ne {id : String} (h : id ≠ "") : held id = some id := if_neg h

/-- The next entry says the same of the sessions as the variable, and so for the tickets. -/
theorem Kept.record {e : Entry} (h : Kept s) {sessionId queueId : String}
    (hsession : Ledger.Allowed sessionAct s.log e)
    (hafter : Ledger.after sessionAct (held s.trackedSessionId) e = held sessionId)
    (hticket : Ledger.Allowed ticketAct s.log e)
    (hafter' : Ledger.after ticketAct (held s.queuedTicketId) e = held queueId) :
    Kept { s.record e with trackedSessionId := sessionId, queuedTicketId := queueId } where
  timers := h.timers
  session := by
    rw [← hafter, ← h.session]
    exact Ledger.holder_concat s.log e
  sessions := Ledger.orderly_concat.mpr ⟨h.sessions, hsession⟩
  ticket := by
    rw [← hafter', ← h.ticket]
    exact Ledger.holder_concat s.log e
  tickets := Ledger.orderly_concat.mpr ⟨h.tickets, hticket⟩
  muted := h.muted

theorem Kept.endTrackedSession (h : Kept s) : Kept (endTrackedSession s) := by
  unfold Conversation.endTrackedSession
  split
  · exact h
  · rename_i hne
    exact h.record (h.session.trans (held_ne hne)) rfl trivial rfl

theorem Kept.endQueueTicket (h : Kept s) : Kept (endQueueTicket s) := by
  unfold Conversation.endQueueTicket
  split
  · exact h
  · rename_i hne
    exact h.record trivial rfl (h.ticket.trans (held_ne hne)) rfl

theorem Kept.dropTicket (h : Kept s) : Kept (dropTicket s) := h.record trivial rfl trivial rfl

theorem Kept.onQueue (h : Kept s) {queueId : String} (hne : queueId ≠ "") :
    Kept (onQueue queueId s) := by
  unfold Conversation.onQueue
  rw [if_pos hne]
  exact h.record trivial rfl trivial (held_ne hne).symm

theorem Kept.track (h : Kept s) {sessionId : String} (hne : sessionId ≠ "") :
    Kept (track sessionId s) := h.record trivial (held_ne hne).symm trivial rfl

/-! ## The microphone and the client -/

theorem Kept.sync (h : Kept s) (micMuted playing : Bool) :
    Kept (syncMicMuteState { s with micMuted := micMuted, userAudioReplaying := playing }) := by
  unfold syncMicMuteState
  dsimp only
  split
  · rename_i c hc
    refine ⟨h.timers, h.session, h.sessions, h.ticket, h.tickets, fun d hd => ?_⟩
    obtain rfl : c = d := Option.some.inj (hc.symm.trans hd)
    exact Function.update_self ..
  · rename_i hnone
    exact ⟨h.timers, h.session, h.sessions, h.ticket, h.tickets,
      fun d hd => nomatch hnone.symm.trans hd⟩

theorem Kept.makeClient (h : Kept s) (target : Target) : Kept (makeClient target s) where
  timers := h.timers
  session := (Ledger.holder_concat s.log _).trans h.session
  sessions := Ledger.orderly_concat.mpr ⟨h.sessions, trivial⟩
  ticket := (Ledger.holder_concat s.log _).trans h.ticket
  tickets := Ledger.orderly_concat.mpr ⟨h.tickets, trivial⟩
  muted c hc := by
    obtain rfl : s.nextClient = c := Option.some.inj hc
    exact Function.update_self ..

/-! ## Steps -/

/-- A countdown that goes on is the same timer. -/
theorem Kept.countDown (h : Kept s) {id : Nat} {left : Option Int}
    (hi : (id, .countdown left) ∈ s.intervals) (left' : Option Int) :
    Kept { s with
      intervals := s.intervals.map fun j => if j.1 = id then (id, .countdown left') else j } := by
  have hkind : ∀ j ∈ s.intervals, j.1 = id → j.2.kind = .countdown := by
    intro j hj hid
    have hown := (h.timers.running _ _).mp (List.mem_map_of_mem (f := fun i => (i.1, i.2.kind)) hi)
    have hown' := (h.timers.running _ _).mp (List.mem_map_of_mem (f := fun i => (i.1, i.2.kind)) hj)
    by_contra hne
    have hzero := h.timers.apart _ _ (hown'.1.symm.trans (hid.trans hown.1)) hne
    exact hown.2 (hown.1.trans hzero)
  have htimers : Page.timers { s with
      intervals := s.intervals.map fun j => if j.1 = id then (id, .countdown left') else j } =
      s.timers := by
    simp only [Page.timers, Timers.mk.injEq, and_true, true_and, List.map_map]
    refine List.map_congr_left fun j hj => ?_
    by_cases hid : j.1 = id
    · have hsame : j.2.kind = Interval.kind (.countdown left') := hkind j hj hid
      simp [hid, hsame]
    · simp [hid]
  exact ⟨htimers ▸ h.timers, h.session, h.sessions, h.ticket, h.tickets, h.muted⟩

section
variable {engine : Engine} {normalise : Str → Str}

theorem kept_invariant : Invariant engine normalise (fun _ => True) Kept where
  state h _ := ⟨h.timers, h.session, h.sessions, h.ticket, h.tickets, h.muted⟩
  stopHeartbeat h := h.stopHeartbeat
  stopJoinCountdown h := h.stopJoinCountdown
  startJoinCountdown h left := h.startJoinCountdown left
  countDown h hi left' := h.countDown hi left'
  endTrackedSession h := h.endTrackedSession
  endQueueTicket h := h.endQueueTicket
  dropTicket h := h.dropTicket
  ticket h hne := h.onQueue hne
  track h hne := h.track hne
  metered h _ _ hne := (h.track hne).startHeartbeat
  beat h _ hne := h.record (h.session.trans (held_ne hne)) rfl trivial rfl
  sync h micMuted playing := h.sync micMuted playing
  micAcquired h := ⟨h.timers, h.session, h.sessions, h.ticket, h.tickets, h.muted⟩
  hungUp h := ⟨h.timers, h.session, h.sessions, h.ticket, h.tickets, nofun⟩
  entered h _ := ⟨h.timers, h.session, h.sessions, h.ticket, h.tickets, h.muted⟩
  transport h _ := ⟨h.timers, h.session, h.sessions, h.ticket, h.tickets, h.muted⟩
  config h _ := ⟨h.timers, h.session, h.sessions, h.ticket, h.tickets, h.muted⟩
  resumed h _ := ⟨h.timers, h.session, h.sessions, h.ticket, h.tickets, h.muted⟩
  await h _ := h.await _
  primed h _ := h.await _
  made {s target} h _ i := by
    have hrest : Kept { s with frames := s.frames.eraseIdx i } :=
      ⟨h.timers, h.session, h.sessions, h.ticket, h.tickets, h.muted⟩
    exact hrest.makeClient target

theorem kept_reachable {settings : PageSettings}
    (hs : Machine.Reachable (Conversation.step engine normalise) (Page.load settings) s) : Kept s :=
  hs.invariant (kept_load settings) fun _ _ _ h hstep => kept_invariant.step h trivial hstep

end

end

/-! ## Whole runs -/

def localServer : PageSettings := ⟨"ws://localhost:8080/", .ws⟩

/-- The user starts a conversation, waits in the queue and gets a session that is metered. -/
def talking : List Action :=
  [.resume 0 (.config none), .circle, .resume 0 .ok, .queue "t1", .session ⟨"s1", true⟩]

def talked : List Entry :=
  [.made 0 (.directUrl "ws://localhost:8080/"), .ticket "t1", .outOfQueue, .named "s1"]

/-- The user starts a conversation, and closes the page while it waits in the queue. -/
def waiting : List Action :=
  [.resume 0 (.config none), .circle, .resume 0 .ok, .queue "t1", .pageHide]

def waited : List Entry := [.made 0 (.directUrl "ws://localhost:8080/"), .ticket "t1"]

section
variable {engine : Engine} {normalise : Str → Str} {settings : PageSettings} {s : Page}

theorem timers_finishTeardown (after : After) (s : Page) :
    (finishTeardown after s).timers = s.timers.stop .countdown :=
  timers_stopJoinCountdown { s with
    client := none, micStream := none, micMuted := false, currentState := .idle }

theorem timers_quiet (s : Page) :
    (endQueueTicket (endTrackedSession (stopJoinCountdown (stopHeartbeat s)))).timers =
      (s.timers.stop .heartbeat).stop .countdown := by
  have hended : ∀ s, (endTrackedSession s).timers = s.timers := by
    intro s
    unfold endTrackedSession
    split <;> rfl
  have hleft : ∀ s, (endQueueTicket s).timers = s.timers := by
    intro s
    unfold endQueueTicket
    split <;> rfl
  rw [hleft, hended, timers_stopJoinCountdown, timers_stopHeartbeat]

/-- `teardown` stops both timers before it waits for anything. -/
theorem slot_teardown (after : After) (s : Page) (k : TimerKind) :
    (teardown after s).timers.slot k = 0 := by
  have hquiet : ((s.timers.stop .heartbeat).stop .countdown).slot k = 0 := by
    cases k with
    | heartbeat => exact (Timers.stop_slot_ne _ (by decide)).trans (Timers.stop_slot _ _)
    | countdown => exact Timers.stop_slot _ _
  unfold teardown
  dsimp only
  split
  · exact (congrArg (fun t => Timers.slot t k) (timers_quiet s)).trans hquiet
  · rw [timers_finishTeardown, timers_quiet, Timers.stop_idle (Timers.stop_slot _ _)]
    exact hquiet

/-- The page knows every interval that runs: there is at most one for heartbeats and at most one
for the countdown, and a `teardown` leaves none. -/
theorem intervals_known
    (hs : Machine.Reachable (step engine normalise) (Page.load settings) s) :
    (∀ id, (id, .heartbeat) ∈ s.intervals ↔ id = s.heartbeatTimer ∧ id ≠ 0) ∧
    (∀ id, (∃ left, (id, .countdown left) ∈ s.intervals) ↔ id = s.joinCountdownTimer ∧ id ≠ 0) ∧
    ∀ after, (teardown after s).intervals = [] := by
  have howned := (kept_reachable hs).timers
  refine ⟨fun id => ?_, fun id => ?_, fun after => ?_⟩
  · refine Iff.trans ?_ (howned.running id .heartbeat)
    constructor
    · exact fun h => List.mem_map_of_mem (f := fun i => (i.1, i.2.kind)) h
    · intro h
      obtain ⟨⟨j, i⟩, hi, heq⟩ := List.mem_map.mp h
      obtain ⟨rfl, hkind⟩ := Prod.mk.inj heq
      cases i with
      | heartbeat => exact hi
      | countdown left => cases hkind
  · refine Iff.trans ?_ (howned.running id .countdown)
    constructor
    · rintro ⟨left, h⟩
      exact List.mem_map_of_mem (f := fun i => (i.1, i.2.kind)) h
    · intro h
      obtain ⟨⟨j, i⟩, hi, heq⟩ := List.mem_map.mp h
      obtain ⟨rfl, hkind⟩ := Prod.mk.inj heq
      cases i with
      | heartbeat => cases hkind
      | countdown left => exact ⟨left, hi⟩
  · have hinv : Invariant engine normalise (fun _ => True) Kept := kept_invariant
    have hdown := (hinv.teardown (kept_reachable hs) after).timers
    refine List.eq_nil_iff_forall_not_mem.mpr fun j hj => ?_
    have hrun := (hdown.running _ _).mp (List.mem_map_of_mem (f := fun i => (i.1, i.2.kind)) hj)
    exact hrun.2 (hrun.1.trans (slot_teardown after s _))

theorem intervals_while_talking :
    ∃ s, Machine.exec (step quietEngine id) (Page.load localServer) talking = some s ∧
      s.heartbeatTimer = 1 ∧ (∀ id, (id, .heartbeat) ∈ s.intervals ↔ id = 1 ∧ id ≠ 0) ∧
      (∀ id, (∃ left, (id, .countdown left) ∈ s.intervals) ↔ id = 0 ∧ id ≠ 0) ∧
      ∀ after, (teardown after s).intervals = [] := by
  obtain ⟨s, hrun, hbeat, hcount⟩ :
      ∃ s, Machine.exec (step quietEngine id) (Page.load localServer) talking = some s ∧
        s.heartbeatTimer = 1 ∧ s.joinCountdownTimer = 0 := ⟨_, rfl, rfl, rfl⟩
  have hknown := intervals_known (Machine.reachable_exec .start hrun)
  rw [hbeat, hcount] at hknown
  exact ⟨s, hrun, hbeat, hknown⟩

theorem opened_sessionAct (id : String) (log : List Entry) :
    Ledger.opened sessionAct id log = log.count (.named id) := by
  refine List.countP_congr fun e _ => ?_
  cases e <;> simp [sessionAct]

theorem closed_sessionAct (id : String) (log : List Entry) :
    Ledger.closed sessionAct id log = log.count (.ended id) := by
  refine List.countP_congr fun e _ => ?_
  cases e <;> simp [sessionAct]

theorem opened_ticketAct (id : String) (log : List Entry) :
    Ledger.opened ticketAct id log = log.count (.ticket id) := by
  refine List.countP_congr fun e _ => ?_
  cases e <;> simp [ticketAct]

theorem closed_ticketAct (id : String) (log : List Entry) :
    Ledger.closed ticketAct id log = log.count (.left id) := by
  refine List.countP_congr fun e _ => ?_
  cases e <;> simp [ticketAct]

/-- A heartbeat and the end of a session are always sent for the session that was named last and
has not been ended since; and no session is ended more often than it is named. -/
theorem session_messages
    (hs : Machine.Reachable (step engine normalise) (Page.load settings) s) :
    (∀ sessionId pre e post, s.log = pre ++ e :: post →
      e = .heartbeat sessionId ∨ e = .ended sessionId →
      ∃ before since, pre = before ++ .named sessionId :: since ∧
        ∀ d ∈ since, ∀ other, d ≠ .named other ∧ d ≠ .ended other) ∧
    ∀ sessionId, s.log.count (.ended sessionId) ≤ s.log.count (.named sessionId) := by
  have hkept := kept_reachable hs
  constructor
  · intro sessionId pre e post hlog he
    have hallowed := hkept.sessions.allowed hlog
    have hholder : Ledger.holder sessionAct pre = some sessionId := by
      rcases he with rfl | rfl
      · exact hallowed
      · exact hallowed
    obtain ⟨before, o, since, rfl, ho, hsince⟩ := Ledger.opened_of_holder hholder
    have hnamed : o = .named sessionId := by
      cases o <;> simp [sessionAct] at ho
      exact congrArg _ ho
    subst hnamed
    refine ⟨before, since, rfl, fun d hd other => ⟨?_, ?_⟩⟩
    · rintro rfl
      rcases hsince _ hd with h | ⟨y, h⟩ <;> cases h
    · rintro rfl
      rcases hsince _ hd with h | ⟨y, h⟩ <;> cases h
  · intro sessionId
    rw [← closed_sessionAct, ← opened_sessionAct]
    exact le_of_add_le_left (hkept.sessions.closed_le sessionId)

theorem talk_runs :
    ∃ s, Machine.exec (step quietEngine id) (Page.load localServer)
        (talking ++ [.tick 1, .stop]) = some s ∧
      s.log = talked ++ .heartbeat "s1" :: [.ended "s1"] := by
  refine ⟨_, rfl, ?_⟩
  decide +kernel

theorem session_of_talk :
    ∃ s, Machine.exec (step quietEngine id) (Page.load localServer)
        (talking ++ [.tick 1, .stop]) = some s ∧
      s.log = talked ++ .heartbeat "s1" :: [.ended "s1"] ∧
      (∃ before since, talked = before ++ .named "s1" :: since ∧
        ∀ d ∈ since, ∀ other, d ≠ .named other ∧ d ≠ .ended other) ∧
      s.log.count (.ended "s1") ≤ s.log.count (.named "s1") := by
  obtain ⟨s, hrun, hlog⟩ := talk_runs
  obtain ⟨hnamed, hcount⟩ := session_messages (Machine.reachable_exec .start hrun)
  exact ⟨s, hrun, hlog, hnamed "s1" _ _ _ hlog (.inl rfl), hcount "s1"⟩

/-- A ticket is only left while the page waits with it: it was drawn last, and since then the page
has not left the queue and no client has come out of it. No ticket is left more often than drawn. -/
theorem ticket_messages
    (hs : Machine.Reachable (step engine normalise) (Page.load settings) s) :
    (∀ queueId pre post, s.log = pre ++ .left queueId :: post →
      ∃ before since, pre = before ++ .ticket queueId :: since ∧
        ∀ d ∈ since, d ≠ .outOfQueue ∧ ∀ other, d ≠ .ticket other ∧ d ≠ .left other) ∧
    ∀ queueId, s.log.count (.left queueId) ≤ s.log.count (.ticket queueId) := by
  have hkept := kept_reachable hs
  constructor
  · intro queueId pre post hlog
    have hholder : Ledger.holder ticketAct pre = some queueId := hkept.tickets.allowed hlog
    obtain ⟨before, o, since, rfl, ho, hsince⟩ := Ledger.opened_of_holder hholder
    have hdrawn : o = .ticket queueId := by
      cases o <;> simp [ticketAct] at ho
      exact congrArg _ ho
    subst hdrawn
    refine ⟨before, since, rfl, fun d hd => ⟨?_, fun other => ⟨?_, ?_⟩⟩⟩
    · rintro rfl
      rcases hsince _ hd with h | ⟨y, h⟩ <;> cases h
    · rintro rfl
      rcases hsince _ hd with h | ⟨y, h⟩ <;> cases h
    · rintro rfl
      rcases hsince _ hd with h | ⟨y, h⟩ <;> cases h
  · intro queueId
    rw [← closed_ticketAct, ← opened_ticketAct]
    exact le_of_add_le_left (hkept.tickets.closed_le queueId)

theorem ticket_of_waiting :
    ∃ s, Machine.exec (step quietEngine id) (Page.load localServer) waiting = some s ∧
      s.log = waited ++ .left "t1" :: [] ∧
      (∃ before since, waited = before ++ .ticket "t1" :: since ∧
        ∀ d ∈ since, d ≠ .outOfQueue ∧ ∀ other, d ≠ .ticket other ∧ d ≠ .left other) ∧
      s.log.count (.left "t1") ≤ s.log.count (.ticket "t1") := by
  obtain ⟨s, hrun, hlog⟩ :
      ∃ s, Machine.exec (step quietEngine id) (Page.load localServer) waiting = some s ∧
      s.log = waited ++ .left "t1" :: [] := by
    refine ⟨_, rfl, ?_⟩
    decide +kernel
  obtain ⟨hdrawn, hcount⟩ := ticket_messages (Machine.reachable_exec .start hrun)
  exact ⟨s, hrun, hlog, hdrawn "t1" _ _ hlog, hcount "t1"⟩

/-- The client of the page is muted exactly while the user is, or a recording of the user plays. -/
theorem client_muted {c : Nat}
    (hs : Machine.Reachable (step engine normalise) (Page.load settings) s)
    (hc : s.client = some c) : s.muted c = (s.micMuted || s.userAudioReplaying) :=
  (kept_reachable hs).muted c hc

/-- The user mutes the microphone while a recording plays, which then ends. -/
theorem muted_while_talking :
    ∃ s, Machine.exec (step quietEngine id) (Page.load localServer)
        (talking ++ [.micAcquired, .playback true, .mic, .playback false]) = some s ∧
      s.client = some 0 ∧ s.muted 0 = true := by
  obtain ⟨s, hrun, hclient, hsilenced⟩ : ∃ s, Machine.exec (step quietEngine id)
      (Page.load localServer) (talking ++ [.micAcquired, .playback true, .mic, .playback false]) =
        some s ∧ s.client = some 0 ∧ (s.micMuted || s.userAudioReplaying) = true :=
    ⟨_, rfl, rfl, rfl⟩
  have hmuted := client_muted (Machine.reachable_exec .start hrun) hclient
  exact ⟨s, hrun, hclient, hmuted.trans hsilenced⟩

end

end SpeechK8s.Demo.Conversation
