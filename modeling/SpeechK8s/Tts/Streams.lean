import SpeechK8s.Lib.Machine
import SpeechK8s.Tts.Speech

/-!
# Concurrent streams of tts/app/model.py

Every response is a generator that takes the model's lock on its way and keeps it across its
`yield`s. The warm-up in `load` is one more party, and any number of streams may be pulled,
wait, run or be closed in any order. The model itself is a parameter: a state that all
generations share, and generators that read and change it.
-/
namespace SpeechK8s.Tts
open Machine

structure Args where
  text : String
  speaker : String
  language : String
  chunkSize : Nat
  maxNewTokens : Nat

/-- What one `next` on a generator of the model brings. -/
inductive Turn (γ : Type) where
  | yielded (chunk : Chunk) (g : γ)
  | returned
  | raised

/-- The model: `ε` is its state, `γ` the state of one generator. -/
structure Engine (ε γ : Type) where
  generate : Args → γ
  next : ε → γ → Turn γ × ε
  close : ε → γ → ε

/-- A request, with the voice that `synthesize` has resolved for it. -/
structure Job where
  request : SpeechRequest
  voice : String

def defaultLanguage : String := "English"

def defaultChunkSize : Nat := 512

def defaultMaxNewTokens : Nat := 2048

/-- `language or DEFAULT_LANGUAGE` -/
def languageOr (language : Option String) : String :=
  match language with
  | some l => if l = "" then defaultLanguage else l
  | none => defaultLanguage

def Job.args (job : Job) : Args where
  text := job.request.input
  speaker := job.voice
  language := languageOr job.request.language
  chunkSize := defaultChunkSize
  maxNewTokens := defaultMaxNewTokens

def warmUpArgs : Args := ⟨"warm up", "aiden", defaultLanguage, defaultChunkSize, 64⟩

inductive Party where
  | warmup
  | stream (i : Nat)
  deriving DecidableEq, Repr

inductive Ending where
  | returned
  | raised (e : Error)
  | closed

/-- Where a generator stands. Of the streams, `opened` is suspended after the header and
`suspended` after a chunk. -/
inductive Phase (γ : Type) where
  | fresh
  | opened
  | waiting
  | running (g : γ)
  | suspended (g : γ)
  | ended (how : Ending)

def Phase.Inside {γ : Type} : Phase γ → Prop
  | .running _ | .suspended _ => True
  | _ => False

/-- A generator and what it has yielded. The rest is bookkeeping: whether it has been pulled, and
the state of the model when it took the lock. -/
structure Agent (ε γ : Type) where
  phase : Phase γ
  yielded : List (List UInt8)
  pulled : Bool
  began : Option ε

structure State (ε γ : Type) where
  engine : ε
  loaded : Bool
  lock : Option Party
  agent : Party → Agent ε γ

def State.set {ε γ : Type} (s : State ε γ) (p : Party) (a : Agent ε γ) : State ε γ :=
  { s with agent := Function.update s.agent p a }

inductive Event where
  | load
  | pull (i : Nat)
  | acquire (p : Party)
  | turn (p : Party)
  | close (i : Nat)
  deriving DecidableEq, Repr

section
variable {ε γ : Type} (E : Engine ε γ) (job : Nat → Job)

/-- The start of `synthesize_stream`, up to the lock. -/
def enter (loaded : Bool) (a : Agent ε γ) : Agent ε γ :=
  if loaded then { a with phase := .waiting }
  else { a with phase := .ended (.raised .modelNotLoaded) }

/-- The first pull. -/
def begin (loaded : Bool) (j : Job) (a : Agent ε γ) : Agent ε γ :=
  let a := { a with pulled := true }
  match opening j.request with
  | .error e => { a with phase := .ended (.raised e) }
  | .ok [] => enter loaded a
  | .ok header => { a with phase := .opened, yielded := header }

def argsOf : Party → Args
  | .warmup => warmUpArgs
  | .stream i => (job i).args

/-- A chunk has come: the warm-up drops it and goes on, a stream yields it. -/
def deliver (p : Party) (a : Agent ε γ) (chunk : Chunk) (g : γ) : Agent ε γ :=
  match p with
  | .warmup => { a with phase := .running g }
  | .stream _ => { a with phase := .suspended g, yielded := a.yielded ++ [toPcm16Bytes chunk] }

/-- One step of one party. A party that waits for the lock has no step while it is held, and a
generator that is running cannot be pulled or closed. -/
def step (s : State ε γ) : Event → Option (State ε γ)
  | .load =>
      match (s.agent .warmup).phase with
      | .fresh =>
          some { s.set .warmup { s.agent .warmup with phase := .waiting } with loaded := true }
      | _ => none
  | .pull i =>
      let a := s.agent (.stream i)
      match a.phase with
      | .fresh => some (s.set (.stream i) (begin s.loaded (job i) a))
      | .opened => some (s.set (.stream i) (enter s.loaded a))
      | .suspended g => some (s.set (.stream i) { a with phase := .running g })
      | _ => none
  | .acquire p =>
      let a := s.agent p
      match a.phase, s.lock with
      | .waiting, none =>
          let a := { a with phase := .running (E.generate (argsOf job p)), began := some s.engine }
          some { s.set p a with lock := some p }
      | _, _ => none
  | .turn p =>
      let a := s.agent p
      match a.phase with
      | .running g =>
          match E.next s.engine g with
          | (.yielded chunk g', e) => some { s.set p (deliver p a chunk g') with engine := e }
          | (.returned, e) =>
              some { s.set p { a with phase := .ended .returned } with engine := e, lock := none }
          | (.raised, e) =>
              some { s.set p { a with phase := .ended (.raised .model) } with
                engine := e, lock := none }
      | _ => none
  | .close i =>
      let a := s.agent (.stream i)
      match a.phase with
      | .fresh | .opened => some (s.set (.stream i) { a with phase := .ended .closed })
      | .suspended g =>
          some { s.set (.stream i) { a with phase := .ended .closed } with
            engine := E.close s.engine g, lock := none }
      | _ => none

def initial (e : ε) : State ε γ := ⟨e, false, none, fun _ => ⟨.fresh, [], false, none⟩⟩

/-! ## A generation by itself -/

/-- The generator `g₀`, with nobody else at the model from its state `e₀` on, yields `cs` and
comes to `g`, and the model to `e`. -/
inductive Plays (e₀ : ε) (g₀ : γ) : List Chunk → γ → ε → Prop where
  | start : Plays e₀ g₀ [] g₀ e₀
  | turn {cs : List Chunk} {g g' : γ} {e e' : ε} {chunk : Chunk} (before : Plays e₀ g₀ cs g e)
      (next : E.next e g = (.yielded chunk g', e')) : Plays e₀ g₀ (cs ++ [chunk]) g' e'

/-- The agent has yielded its header and the encodings of `cs`, the chunks its own generation
yields from the state in which it took the lock. -/
structure Follows (j : Job) (a : Agent ε γ) (cs : List Chunk) (g : γ) (e : ε) : Prop where
  plays : ∃ e₀, a.began = some e₀ ∧ Plays E e₀ (E.generate j.args) cs g e
  yielded : ∃ header, opening j.request = .ok header ∧
    a.yielded = header ++ cs.map toPcm16Bytes

/-- Its own header alone, or followed by chunks of its own generation. -/
def Body (E : Engine ε γ) (j : Job) (a : Agent ε γ) : Prop :=
  (a.began = none ∧ opening j.request = .ok a.yielded) ∨ ∃ cs g e, Follows E j a cs g e

/-- What the agent has yielded, by where it stands; `e` is the state of the model. -/
def Told (e : ε) (j : Job) (a : Agent ε γ) : Prop :=
  match a.phase with
  | .fresh => a.pulled = false ∧ a.began = none ∧ a.yielded = []
  | .opened | .waiting =>
      a.pulled = true ∧ a.began = none ∧ opening j.request = .ok a.yielded
  | .running g | .suspended g => a.pulled = true ∧ ∃ cs, Follows E j a cs g e
  | .ended .returned =>
      a.pulled = true ∧ ∃ cs g e, Follows E j a cs g e ∧ (E.next e g).1 = .returned
  | .ended (.raised err) =>
      a.pulled = true ∧ (opening j.request = .error err ∧ a.yielded = [] ∨ Body E j a)
  | .ended .closed => a.pulled = false ∧ a.yielded = [] ∨ a.pulled = true ∧ Body E j a

/-! ## One step -/

/-- What a step does: it changes one agent, and that agent stays outside or inside, enters with
the lock free, or leaves and frees it. -/
inductive Change (s : State ε γ) (p : Party) (a : Agent ε γ) : State ε γ → Prop where
  | quiet (loaded : Bool) (same : a.phase.Inside ↔ (s.agent p).phase.Inside) :
      Change s p a { s.set p a with loaded := loaded }
  | enters (free : s.lock = none) (now : a.phase.Inside) :
      Change s p a { s.set p a with lock := some p }
  | turns (e : ε) (before : (s.agent p).phase.Inside) (now : a.phase.Inside) :
      Change s p a { s.set p a with engine := e }
  | leaves (e : ε) (before : (s.agent p).phase.Inside) (now : ¬ a.phase.Inside) :
      Change s p a { s.set p a with engine := e, lock := none }

variable {E job} {s t : State ε γ}

theorem Change.agent_self {p : Party} {a : Agent ε γ} (h : Change s p a t) : t.agent p = a := by
  cases h <;> exact Function.update_self ..

theorem Change.agent_other {p q : Party} {a : Agent ε γ} (h : Change s p a t) (hq : q ≠ p) :
    t.agent q = s.agent q := by
  cases h <;> exact Function.update_of_ne hq ..

theorem Change.owned {p : Party} {a : Agent ε γ} (h : Change s p a t)
    (ho : Owned s.lock fun q => (s.agent q).phase.Inside) :
    Owned t.lock fun q => (t.agent q).phase.Inside := by
  have hframe : ∀ q, q ≠ p → ((t.agent q).phase.Inside ↔ (s.agent q).phase.Inside) :=
    fun q hq => by rw [h.agent_other hq]
  have hself := h.agent_self
  cases h with
  | quiet loaded same => exact ho.keep (by rw [hself]; exact same) hframe
  | enters free now =>
      rw [free] at ho
      exact ho.acquire (by rw [hself]; exact now) hframe
  | turns e before now => exact ho.keep (by rw [hself]; exact iff_of_true now before) hframe
  | leaves e before now => exact ho.release before (by rw [hself]; exact now) hframe

theorem Change.released {p q : Party} {a : Agent ε γ} (h : Change s p a t)
    (hin : (s.agent q).phase.Inside) (hout : ¬ (t.agent q).phase.Inside) : t.lock = none := by
  have hq : q = p := by
    by_contra hq
    rw [h.agent_other hq] at hout
    exact hout hin
  subst hq
  rw [h.agent_self] at hout
  cases h with
  | quiet loaded same => exact absurd (same.mpr hin) hout
  | enters free now => exact absurd now hout
  | turns e before now => exact absurd now hout
  | leaves e before now => rfl

theorem enter_not_inside (loaded : Bool) (a : Agent ε γ) : ¬ (enter loaded a).phase.Inside := by
  cases loaded <;> exact id

theorem begin_not_inside (loaded : Bool) (j : Job) (a : Agent ε γ) :
    ¬ (begin loaded j a).phase.Inside := by
  unfold begin
  dsimp only
  split
  · exact id
  · exact enter_not_inside loaded _
  · exact id

theorem told_enter {e : ε} {j : Job} {a : Agent ε γ} (loaded : Bool) (hp : a.pulled = true)
    (hb : a.began = none) (ho : opening j.request = .ok a.yielded) :
    Told E e j (enter loaded a) := by
  cases loaded with
  | true => exact ⟨hp, hb, ho⟩
  | false => exact ⟨hp, .inr (.inl ⟨hb, ho⟩)⟩

theorem told_begin {e : ε} {j : Job} {a : Agent ε γ} (loaded : Bool) (hb : a.began = none)
    (hy : a.yielded = []) : Told E e j (begin loaded j a) := by
  unfold begin
  dsimp only
  cases ho : opening j.request with
  | error err => exact ⟨rfl, .inl ⟨ho, hy⟩⟩
  | ok header =>
      cases header with
      | nil => exact told_enter loaded rfl hb (by rw [ho, hy])
      | cons b bs => exact ⟨rfl, hb, ho⟩

theorem Follows.turn {j : Job} {a : Agent ε γ} {cs : List Chunk} {g g' : γ} {e e' : ε}
    {chunk : Chunk} (h : Follows E j a cs g e) (hn : E.next e g = (.yielded chunk g', e'))
    (phase : Phase γ) :
    Follows E j { a with phase, yielded := a.yielded ++ [toPcm16Bytes chunk] }
      (cs ++ [chunk]) g' e' := by
  obtain ⟨⟨e₀, hb, hp⟩, header, ho, hy⟩ := h
  refine ⟨⟨e₀, hb, hp.turn hn⟩, header, ho, ?_⟩
  simp [hy]

/-- One agent changes, and still tells its own story. -/
def Advances (E : Engine ε γ) (job : Nat → Job) (s t : State ε γ) : Prop :=
  ∃ p a, Change s p a t ∧ ∀ i, p = .stream i →
    Told E s.engine (job i) (s.agent (.stream i)) → Told E t.engine (job i) a

theorem advances_pull {i : Nat} (h : step E job s (.pull i) = some t) : Advances E job s t := by
  cases hph : (s.agent (.stream i)).phase <;> simp only [step, hph, reduceCtorEq] at h
  case fresh =>
    obtain rfl := Option.some.inj h
    refine ⟨.stream i, _, .quiet s.loaded ?_, ?_⟩
    · rw [hph]
      exact iff_of_false (begin_not_inside _ _ _) id
    · intro j hj ht
      cases hj
      simp only [Told, hph] at ht
      exact told_begin s.loaded ht.2.1 ht.2.2
  case opened =>
    obtain rfl := Option.some.inj h
    refine ⟨.stream i, _, .quiet s.loaded ?_, ?_⟩
    · rw [hph]
      exact iff_of_false (enter_not_inside _ _) id
    · intro j hj ht
      cases hj
      simp only [Told, hph] at ht
      exact told_enter s.loaded ht.1 ht.2.1 ht.2.2
  case suspended g =>
    obtain rfl := Option.some.inj h
    refine ⟨.stream i, _, .quiet s.loaded ?_, ?_⟩
    · rw [hph]
      exact Iff.rfl
    · intro j hj ht
      cases hj
      simp only [Told, hph] at ht
      obtain ⟨hp, cs, hf⟩ := ht
      exact ⟨hp, cs, hf.plays, hf.yielded⟩

theorem advances_acquire {p : Party} (h : step E job s (.acquire p) = some t) :
    Advances E job s t := by
  cases hph : (s.agent p).phase <;> simp only [step, hph, reduceCtorEq] at h
  case waiting =>
    cases hl : s.lock with
    | some q => simp only [hl, reduceCtorEq] at h
    | none =>
        simp only [hl, Option.some.injEq] at h
        subst h
        refine ⟨p, _, .enters hl trivial, ?_⟩
        intro i hi ht
        subst hi
        simp only [Told, hph] at ht
        exact ⟨ht.1, [], ⟨s.engine, rfl, .start⟩, _, ht.2.2, by simp⟩

theorem advances_turn {p : Party} (h : step E job s (.turn p) = some t) : Advances E job s t := by
  cases hph : (s.agent p).phase <;> simp only [step, hph, reduceCtorEq] at h
  case running g =>
    have hin : (s.agent p).phase.Inside := by rw [hph]; trivial
    obtain ⟨turn, e, hn⟩ : ∃ turn e, E.next s.engine g = (turn, e) := ⟨_, _, rfl⟩
    rw [hn] at h
    cases turn with
    | yielded chunk g' =>
        obtain rfl := Option.some.inj h
        refine ⟨p, _, .turns e hin (by cases p <;> trivial), ?_⟩
        intro i hi ht
        subst hi
        simp only [Told, hph] at ht
        obtain ⟨hp, cs, hf⟩ := ht
        exact ⟨hp, cs ++ [chunk], hf.turn hn (.suspended g')⟩
    | returned =>
        obtain rfl := Option.some.inj h
        refine ⟨p, _, .leaves e hin id, ?_⟩
        intro i hi ht
        subst hi
        simp only [Told, hph] at ht
        obtain ⟨hp, cs, hf⟩ := ht
        exact ⟨hp, cs, g, s.engine, ⟨hf.plays, hf.yielded⟩, by rw [hn]⟩
    | raised =>
        obtain rfl := Option.some.inj h
        refine ⟨p, _, .leaves e hin id, ?_⟩
        intro i hi ht
        subst hi
        simp only [Told, hph] at ht
        obtain ⟨hp, cs, hf⟩ := ht
        exact ⟨hp, .inr (.inr ⟨cs, g, s.engine, hf.plays, hf.yielded⟩)⟩

theorem advances_close {i : Nat} (h : step E job s (.close i) = some t) : Advances E job s t := by
  cases hph : (s.agent (.stream i)).phase <;> simp only [step, hph, reduceCtorEq] at h
  case fresh =>
    obtain rfl := Option.some.inj h
    refine ⟨.stream i, _, .quiet s.loaded (by rw [hph]; exact Iff.rfl), ?_⟩
    intro j hj ht
    cases hj
    simp only [Told, hph] at ht
    exact .inl ⟨ht.1, ht.2.2⟩
  case opened =>
    obtain rfl := Option.some.inj h
    refine ⟨.stream i, _, .quiet s.loaded (by rw [hph]; exact Iff.rfl), ?_⟩
    intro j hj ht
    cases hj
    simp only [Told, hph] at ht
    exact .inr ⟨ht.1, .inl ht.2⟩
  case suspended g =>
    obtain rfl := Option.some.inj h
    refine ⟨.stream i, _, .leaves _ (by rw [hph]; trivial) id, ?_⟩
    intro j hj ht
    cases hj
    simp only [Told, hph] at ht
    obtain ⟨hp, cs, hf⟩ := ht
    exact .inr ⟨hp, .inr ⟨cs, g, s.engine, hf.plays, hf.yielded⟩⟩

theorem step_advances {ev : Event} (h : step E job s ev = some t) : Advances E job s t := by
  cases ev with
  | load =>
      cases hph : (s.agent .warmup).phase <;> simp only [step, hph, reduceCtorEq] at h
      obtain rfl := Option.some.inj h
      exact ⟨.warmup, _, .quiet true (by rw [hph]; exact Iff.rfl), fun i hi => nomatch hi⟩
  | pull i => exact advances_pull h
  | acquire p => exact advances_acquire h
  | turn p => exact advances_turn h
  | close i => exact advances_close h

/-! ## Every reachable state -/

/-- The lock is with the one agent inside, and every stream tells its own story. -/
structure Inv (E : Engine ε γ) (job : Nat → Job) (s : State ε γ) : Prop where
  owned : Owned s.lock fun p => (s.agent p).phase.Inside
  told : ∀ i, Told E s.engine (job i) (s.agent (.stream i))

theorem inv_initial (e : ε) : Inv E job (initial e) where
  owned := fun _ => iff_of_false id (fun h => nomatch h)
  told := fun _ => ⟨rfl, rfl, rfl⟩

theorem Told.frame {e : ε} {j : Job} {a : Agent ε γ} (h : Told E e j a) (hout : ¬ a.phase.Inside)
    (e' : ε) : Told E e' j a := by
  unfold Told at *
  cases hph : a.phase with
  | running g => exact absurd (by rw [hph]; trivial) hout
  | suspended g => exact absurd (by rw [hph]; trivial) hout
  | fresh | opened | waiting => rwa [hph] at h
  | ended how =>
      rw [hph] at h
      cases how <;> exact h

theorem Change.told_other {p q : Party} {a : Agent ε γ} {j : Job} (h : Change s p a t)
    (ho : Owned s.lock fun r => (s.agent r).phase.Inside) (hq : q ≠ p)
    (ht : Told E s.engine j (s.agent q)) : Told E t.engine j (t.agent q) := by
  rw [h.agent_other hq]
  have hout : (s.agent p).phase.Inside → ¬ (s.agent q).phase.Inside :=
    fun hp hin => hq (ho.exclusive hin hp)
  cases h with
  | quiet loaded same => exact ht
  | enters free now => exact ht
  | turns e before now => exact ht.frame (hout before) e
  | leaves e before now => exact ht.frame (hout before) e

theorem inv_step {ev : Event} (hs : Inv E job s) (h : step E job s ev = some t) :
    Inv E job t := by
  obtain ⟨p, a, hc, ht⟩ := step_advances h
  refine ⟨hc.owned hs.owned, fun i => ?_⟩
  by_cases hi : .stream i = p
  · rw [hi, hc.agent_self]
    exact ht i hi.symm (hs.told i)
  · exact hc.told_other hs.owned hi (hs.told i)

theorem inv_reachable {e : ε} (h : Reachable (step E job) (initial e) s) : Inv E job s :=
  h.invariant (inv_initial e) fun _ _ _ ht hstep => inv_step ht hstep

/-- What a response is made of. A generator that has not been pulled has yielded nothing, and is
still to be pulled or was closed so; one that has been pulled has yielded its own header, if that
can be written, and after it chunks of its own generation. -/
def Response (E : Engine ε γ) (j : Job) (a : Agent ε γ) : Prop :=
  if a.pulled then
    (∃ err, opening j.request = .error err ∧ a.phase = .ended (.raised err) ∧ a.yielded = []) ∨
      Body E j a
  else (a.phase = .fresh ∨ a.phase = .ended .closed) ∧ a.yielded = []

theorem response_pulled {j : Job} {a : Agent ε γ} (hp : a.pulled = true) (h : Body E j a) :
    Response E j a := by
  rw [Response, if_pos hp]
  exact .inr h

theorem Told.response {e : ε} {j : Job} {a : Agent ε γ} (h : Told E e j a) : Response E j a := by
  have hunpulled : a.pulled = false → (a.phase = .fresh ∨ a.phase = .ended .closed) →
      a.yielded = [] → Response E j a := by
    intro hp hphase hy
    rw [Response, hp, if_neg Bool.false_ne_true]
    exact ⟨hphase, hy⟩
  unfold Told at h
  cases hph : a.phase with
  | fresh =>
      rw [hph] at h
      exact hunpulled h.1 (.inl hph) h.2.2
  | opened | waiting =>
      rw [hph] at h
      exact response_pulled h.1 (.inl h.2)
  | running g | suspended g =>
      rw [hph] at h
      obtain ⟨hp, cs, hf⟩ := h
      exact response_pulled hp (.inr ⟨cs, g, e, hf⟩)
  | ended how =>
      rw [hph] at h
      cases how with
      | returned =>
          obtain ⟨hp, cs, g, e', hf, -⟩ := h
          exact response_pulled hp (.inr ⟨cs, g, e', hf⟩)
      | raised err =>
          obtain ⟨hp, ⟨ho, hy⟩ | hbody⟩ := h
          · rw [Response, if_pos hp]
            exact .inl ⟨err, ho, hph, hy⟩
          · exact response_pulled hp hbody
      | closed =>
          obtain ⟨hp, hy⟩ | ⟨hp, hbody⟩ := h
          · exact hunpulled hp (.inr hph) hy
          · exact response_pulled hp hbody

/-- The streams exclude each other and do not mix. -/
structure Isolated (E : Engine ε γ) (job : Nat → Job) (s : State ε γ) : Prop where
  exclusive : ∀ p q, (s.agent p).phase.Inside → (s.agent q).phase.Inside → p = q
  held : ∀ p, s.lock = some p ↔ (s.agent p).phase.Inside
  released : ∀ ev t, step E job s ev = some t → ∀ p, (s.agent p).phase.Inside →
    ¬ (t.agent p).phase.Inside → t.lock = none
  response : ∀ i, Response E (job i) (s.agent (.stream i))
  whole : ∀ i, (s.agent (.stream i)).phase = .ended .returned → ∃ cs g e,
    Follows E (job i) (s.agent (.stream i)) cs g e ∧ (E.next e g).1 = .returned

theorem streams_isolated (E : Engine ε γ) (job : Nat → Job) (e : ε) (s : State ε γ)
    (h : Reachable (step E job) (initial e) s) : Isolated E job s := by
  have hinv := inv_reachable h
  constructor
  · exact fun p q hp hq => hinv.owned.exclusive hp hq
  · exact fun p => (hinv.owned p).symm
  · intro ev t hstep p hin hout
    obtain ⟨q, a, hc, -⟩ := step_advances hstep
    exact hc.released hin hout
  · exact fun i => (hinv.told i).response
  · intro i hi
    have ht := hinv.told i
    simp only [Told, hi] at ht
    exact ht.2

end

def scripted : Engine Nat (List Chunk) where
  generate args := if args.text = "warm up" then [] else [.int16 [1], .int16 [2]]
  next n g := match g with
    | [] => (.returned, n)
    | c :: cs => (.yielded c cs, n + 1)
  close n _ := n

def jobs (i : Nat) : Job where
  request := { defaultRequest with responseFormat := if i = 0 then "wav" else "pcm" }
  voice := "aiden"

/-- A WAV stream is closed after its first chunk while a PCM stream waits; that one then runs to
its end. -/
def interleaving : List Event :=
  [.load, .pull 0, .acquire .warmup, .turn .warmup, .pull 0, .pull 1, .acquire (.stream 0),
    .turn (.stream 0), .close 0, .acquire (.stream 1), .turn (.stream 1), .pull 1,
    .turn (.stream 1), .pull 1, .turn (.stream 1)]

theorem interleaving_isolated : ∃ s, exec (step scripted jobs) (initial 0) interleaving = some s ∧
    Isolated scripted jobs s := by
  obtain ⟨s, hs⟩ : ∃ s, exec (step scripted jobs) (initial 0) interleaving = some s := ⟨_, rfl⟩
  exact ⟨s, hs, streams_isolated scripted jobs 0 s (reachable_exec .start hs)⟩

/-- A WAV stream that is closed before its first pull has not sent its header. -/
theorem closed_without_header : ¬ ∀ (s : State Nat (List Chunk)),
    Reachable (step scripted jobs) (initial 0) s → ∀ i how,
    (s.agent (.stream i)).phase = .ended how →
    ∃ (header : List (List UInt8)) (chunks : List Chunk),
      opening (jobs i).request = .ok header ∧
      (s.agent (.stream i)).yielded = header ++ chunks.map toPcm16Bytes := by
  intro h
  obtain ⟨s, hs⟩ : ∃ s, exec (step scripted jobs) (initial 0) [.close 0] = some s := ⟨_, rfl⟩
  have hreach : Reachable (step scripted jobs) (initial 0) s := reachable_exec .start hs
  obtain rfl := Option.some.inj hs
  obtain ⟨header, chunks, hopening, hyielded⟩ := h _ hreach 0 .closed rfl
  have hnil : header = [] := (List.append_eq_nil_iff.mp hyielded.symm).1
  rw [hnil] at hopening
  exact absurd hopening (by decide)

end SpeechK8s.Tts
