import Mathlib.Data.List.Basic
import Mathlib.Data.List.Induction
import Mathlib.Tactic.Common

/-!
# Handlers that make calls

A handler answers one request. It makes calls of a type `κ` to the outside, each with data that
only the other side sees, and goes on with the replies; it ends with a value or an exception.
Of the calls and replies of a pool of handlers, those of one request are a run of its handler
alone. So what the rules below prove of the handlers one by one holds in every interleaving.
-/

inductive Handler (κ : Type) (ρ : κ → Type) (σ ε α : Type) where
  | done (a : α)
  | raise (e : ε)
  | call (k : κ) (sent : σ) (next : ρ k → Handler κ ρ σ ε α)

namespace Handler
variable {ι κ : Type} {ρ : κ → Type} {σ ε α β : Type}

protected def bind : Handler κ ρ σ ε α → (α → Handler κ ρ σ ε β) → Handler κ ρ σ ε β
  | .done a, f => f a
  | .raise e, _ => .raise e
  | .call k s next, f => .call k s fun r => (next r).bind f

instance : Monad (Handler κ ρ σ ε) where
  pure := .done
  bind := Handler.bind

def ask (k : κ) (sent : σ) : Handler κ ρ σ ε (ρ k) := .call k sent .done

def throw (e : ε) : Handler κ ρ σ ε α := .raise e

def ofExcept : Except ε α → Handler κ ρ σ ε α
  | .ok a => .done a
  | .error e => .raise e

/-- One call that has been answered. -/
structure Event (κ : Type) (ρ : κ → Type) (σ : Type) where
  call : κ
  sent : σ
  reply : ρ call

abbrev Trace (κ : Type) (ρ : κ → Type) (σ : Type) := List (Event κ ρ σ)

/-- The replies in `t` lead from `p` to `q`. -/
inductive Steps : Handler κ ρ σ ε α → Trace κ ρ σ → Handler κ ρ σ ε α → Prop where
  | refl (p : Handler κ ρ σ ε α) : Steps p [] p
  | call {k : κ} {s : σ} {next : ρ k → Handler κ ρ σ ε α} {t : Trace κ ρ σ}
      {q : Handler κ ρ σ ε α} (r : ρ k) (rest : Steps (next r) t q) :
      Steps (.call k s next) (⟨k, s, r⟩ :: t) q

theorem Steps.concat {p : Handler κ ρ σ ε α} {t : Trace κ ρ σ} {k : κ} {s : σ}
    {next : ρ k → Handler κ ρ σ ε α} {q : Handler κ ρ σ ε α} (h : Steps p t q)
    (hq : q = .call k s next) (r : ρ k) : Steps p (t ++ [⟨k, s, r⟩]) (next r) := by
  induction h with
  | refl p =>
      subst hq
      exact .call r (.refl _)
  | call r' rest ih => exact .call r' (ih hq)

/-! ## Weakest preconditions -/

/-- With the calls of `t` behind it, a handler makes each call in `J`, with the history that
it then has, and ends with a value in `Q` or an exception in `E`. -/
def wp (J : κ → σ → Trace κ ρ σ → Prop) (Q : α → Trace κ ρ σ → Prop)
    (E : ε → Trace κ ρ σ → Prop) : Handler κ ρ σ ε α → Trace κ ρ σ → Prop
  | .done a, t => Q a t
  | .raise e, t => E e t
  | .call k s next, t => J k s t ∧ ∀ r, (next r).wp J Q E (t ++ [⟨k, s, r⟩])

variable {J J' : κ → σ → Trace κ ρ σ → Prop} {Q Q' : α → Trace κ ρ σ → Prop}
  {E E' : ε → Trace κ ρ σ → Prop} {p q : Handler κ ρ σ ε α} {t u : Trace κ ρ σ}

@[simp] theorem wp_done {a : α} : (.done a : Handler κ ρ σ ε α).wp J Q E t ↔ Q a t := Iff.rfl
@[simp] theorem wp_pure {a : α} : (pure a : Handler κ ρ σ ε α).wp J Q E t ↔ Q a t := Iff.rfl
@[simp] theorem wp_raise {e : ε} : (.raise e : Handler κ ρ σ ε α).wp J Q E t ↔ E e t := Iff.rfl
@[simp] theorem wp_throw {e : ε} : (throw e : Handler κ ρ σ ε α).wp J Q E t ↔ E e t := Iff.rfl

@[simp] theorem wp_call {k : κ} {s : σ} {next : ρ k → Handler κ ρ σ ε α} :
    (Handler.call k s next).wp J Q E t ↔
      J k s t ∧ ∀ r, (next r).wp J Q E (t ++ [⟨k, s, r⟩]) := Iff.rfl

@[simp] theorem wp_ask {k : κ} {s : σ} {Q : ρ k → Trace κ ρ σ → Prop} :
    (ask k s : Handler κ ρ σ ε (ρ k)).wp J Q E t ↔
      J k s t ∧ ∀ r, Q r (t ++ [⟨k, s, r⟩]) := Iff.rfl

@[simp] theorem wp_bind {f : α → Handler κ ρ σ ε β} {Q : β → Trace κ ρ σ → Prop} :
    (p >>= f).wp J Q E t ↔ p.wp J (fun a => (f a).wp J Q E) E t := by
  induction p generalizing t with
  | done a => exact Iff.rfl
  | raise e => exact Iff.rfl
  | call k s next ih => exact and_congr Iff.rfl (forall_congr' fun r => ih r)

@[simp] theorem wp_ofExcept {x : Except ε α} : (ofExcept x : Handler κ ρ σ ε α).wp J Q E t ↔
    match x with
    | .ok a => Q a t
    | .error e => E e t := by
  cases x <;> exact Iff.rfl

theorem wp_ite {c : Prop} [Decidable c] (hp : c → p.wp J Q E t) (hq : ¬ c → q.wp J Q E t) :
    (if c then p else q).wp J Q E t := by
  split
  · exact hp ‹_›
  · exact hq ‹_›

theorem wp_mono (h : p.wp J Q E t) (hJ : ∀ k s t, J k s t → J' k s t)
    (hQ : ∀ a t, Q a t → Q' a t) (hE : ∀ e t, E e t → E' e t) : p.wp J' Q' E' t := by
  induction p generalizing t with
  | done a => exact hQ a t h
  | raise e => exact hE e t h
  | call k s next ih => exact ⟨hJ k s t h.1, fun r => ih r (h.2 r)⟩

theorem wp_steps (h : p.wp J Q E t) (hs : Steps p u q) : q.wp J Q E (t ++ u) := by
  induction hs generalizing t with
  | refl p => rwa [List.append_nil]
  | call r rest ih =>
      have hnext := ih (h.2 r)
      rwa [List.append_assoc] at hnext

/-- Every call of a run was made in `J`. -/
theorem wp_called (h : p.wp J Q E t) (hs : Steps p u q) {before after : Trace κ ρ σ}
    {e : Event κ ρ σ} (he : u = before ++ e :: after) : J e.call e.sent (t ++ before) := by
  induction hs generalizing t before with
  | refl p => simp at he
  | call r rest ih =>
      cases before with
      | nil =>
          obtain ⟨rfl, rfl⟩ := List.cons.inj he
          rw [List.append_nil]
          exact h.1
      | cons d before =>
          obtain ⟨rfl, hrest⟩ := List.cons.inj he
          have hJ := ih (h.2 r) hrest
          rwa [List.append_assoc] at hJ

/-- Every call that a handler may make satisfies `P`, whatever the replies are. -/
def All (P : κ → σ → Prop) : Handler κ ρ σ ε α → Prop
  | .done _ | .raise _ => True
  | .call k s next => P k s ∧ ∀ r, (next r).All P

section
variable {P : κ → σ → Prop}

theorem all_pure (a : α) : (pure a : Handler κ ρ σ ε α).All P := trivial

theorem all_throw (e : ε) : (throw e : Handler κ ρ σ ε α).All P := trivial

theorem all_ask {k : κ} {s : σ} (h : P k s) : (ask k s : Handler κ ρ σ ε (ρ k)).All P :=
  ⟨h, fun _ => trivial⟩

theorem all_ofExcept (x : Except ε α) : (ofExcept x : Handler κ ρ σ ε α).All P := by
  cases x <;> trivial

theorem all_ite {c : Prop} [Decidable c] (hp : c → p.All P) (hq : ¬ c → q.All P) :
    (if c then p else q).All P := by
  split
  · exact hp ‹_›
  · exact hq ‹_›

theorem All.bind {f : α → Handler κ ρ σ ε β} (h : p.All P) (hf : ∀ a, (f a).All P) :
    (p >>= f).All P := by
  induction p with
  | done a => exact hf a
  | raise e => trivial
  | call k s next ih => exact ⟨h.1, fun r => ih r (h.2 r)⟩

/-- The rule for calls that keep an invariant of the history. -/
theorem All.wp (I : Trace κ ρ σ → Prop) (h : p.All P)
    (hJ : ∀ k s t, P k s → I t → J k s t)
    (hI : ∀ k s (r : ρ k) t, P k s → I t → I (t ++ [⟨k, s, r⟩]))
    (hQ : ∀ a t, I t → Q a t) (hE : ∀ e t, I t → E e t) (ht : I t) : p.wp J Q E t := by
  induction p generalizing t with
  | done a => exact hQ a t ht
  | raise e => exact hE e t ht
  | call k s next ih => exact ⟨hJ k s t h.1 ht, fun r => ih r (h.2 r) (hI k s r t h.1 ht)⟩

end

/-! ## Pools -/

/-- The requests that have arrived, each with what is left of its handler, and the calls that
have been answered, each with the number of its request. -/
structure Pool (ι κ : Type) (ρ : κ → Type) (σ ε α : Type) where
  running : List (ι × Handler κ ρ σ ε α)
  log : List (Nat × Event κ ρ σ)

inductive Pool.Step (serve : ι → Handler κ ρ σ ε α) :
    Pool ι κ ρ σ ε α → Pool ι κ ρ σ ε α → Prop where
  | arrive (s : Pool ι κ ρ σ ε α) (q : ι) : Step serve s ⟨s.running ++ [(q, serve q)], s.log⟩
  | reply (s : Pool ι κ ρ σ ε α) (i : Nat) {q : ι} {k : κ} {sent : σ}
      {next : ρ k → Handler κ ρ σ ε α} (here : s.running[i]? = some (q, .call k sent next))
      (r : ρ k) :
      Step serve s ⟨s.running.set i (q, next r), s.log ++ [(i, ⟨k, sent, r⟩)]⟩

inductive Pool.Reachable (serve : ι → Handler κ ρ σ ε α) : Pool ι κ ρ σ ε α → Prop where
  | start : Reachable serve ⟨[], []⟩
  | next {s s' : Pool ι κ ρ σ ε α} (before : Reachable serve s) (step : Pool.Step serve s s') :
      Reachable serve s'

/-- The part of a log that belongs to request `i`. -/
def share (i : Nat) (log : List (Nat × Event κ ρ σ)) : Trace κ ρ σ :=
  (log.filter fun entry => entry.1 = i).map Prod.snd

@[simp] theorem share_nil (i : Nat) : share i ([] : List (Nat × Event κ ρ σ)) = [] := rfl

@[simp] theorem share_append (i : Nat) (l m : List (Nat × Event κ ρ σ)) :
    share i (l ++ m) = share i l ++ share i m := by
  simp only [share, List.filter_append, List.map_append]

theorem share_own (i : Nat) (e : Event κ ρ σ) (l : List (Nat × Event κ ρ σ)) :
    share i ((i, e) :: l) = e :: share i l := by
  simp only [share, List.filter_cons, decide_true, if_true, List.map_cons]

theorem share_other {i j : Nat} (h : j ≠ i) (e : Event κ ρ σ) (l : List (Nat × Event κ ρ σ)) :
    share i ((j, e) :: l) = share i l := by
  simp only [share, List.filter_cons, h, decide_false, Bool.false_eq_true, if_false]

variable {serve : ι → Handler κ ρ σ ε α} {s : Pool ι κ ρ σ ε α}

theorem Pool.Reachable.share_none (h : Pool.Reachable serve s) {i : Nat}
    (hi : s.running.length ≤ i) : share i s.log = [] := by
  induction h with
  | start => rfl
  | @next s s' before step ih =>
      cases step with
      | arrive q =>
          simp only [List.length_append, List.length_singleton] at hi
          exact ih (by omega)
      | reply j here r =>
          rw [List.length_set] at hi
          have hj : j < s.running.length := (List.getElem?_eq_some_iff.mp here).1
          rw [share_append, ih hi, share_other (by omega)]
          rfl

/-- The calls of one request are a run of its handler. -/
theorem Pool.Reachable.steps (h : Pool.Reachable serve s) {i : Nat} {q : ι}
    {p : Handler κ ρ σ ε α} (hi : s.running[i]? = some (q, p)) :
    Steps (serve q) (share i s.log) p := by
  induction h generalizing p with
  | start => simp at hi
  | @next s s' before step ih =>
      cases step with
      | arrive q' =>
          rcases Nat.lt_or_ge i s.running.length with hlt | hge
          · rw [List.getElem?_append_left hlt] at hi
            exact ih hi
          · rw [List.getElem?_append_right hge] at hi
            obtain ⟨rfl, rfl⟩ : q' = q ∧ serve q' = p := by
              cases hn : i - s.running.length with
              | zero =>
                  rw [hn] at hi
                  exact Prod.mk.inj (Option.some.inj hi)
              | succ n =>
                  rw [hn] at hi
                  simp at hi
            rw [before.share_none hge]
            exact .refl _
      | @reply j q' k sent next here r =>
          rw [share_append]
          rcases eq_or_ne j i with rfl | hne
          · have hlt : j < s.running.length := (List.getElem?_eq_some_iff.mp here).1
            rw [List.getElem?_set_self hlt] at hi
            obtain ⟨rfl, rfl⟩ := Prod.mk.inj (Option.some.inj hi)
            rw [share_own]
            exact (ih here).concat rfl r
          · rw [List.getElem?_set_ne hne] at hi
            rw [share_other hne, share_nil, List.append_nil]
            exact ih hi

theorem Pool.Reachable.known (h : Pool.Reachable serve s) {i : Nat} {e : Event κ ρ σ}
    (he : (i, e) ∈ s.log) : i < s.running.length := by
  by_contra hge
  have hnone := h.share_none (Nat.le_of_not_lt hge)
  obtain ⟨before, after, hlog⟩ := List.append_of_mem he
  rw [hlog, share_append, share_own] at hnone
  simp at hnone

/-- A run of one handler is that of a pool with one request. -/
theorem Pool.Reachable.alone {q : ι} {t : Trace κ ρ σ} {p : Handler κ ρ σ ε α}
    (h : Steps (serve q) t p) : Pool.Reachable serve ⟨[(q, p)], t.map fun e => (0, e)⟩ := by
  have from_here : ∀ {p p' : Handler κ ρ σ ε α} {u : Trace κ ρ σ}, Steps p u p' →
      ∀ log, Pool.Reachable serve ⟨[(q, p)], log⟩ →
        Pool.Reachable serve ⟨[(q, p')], log ++ u.map fun e => (0, e)⟩ := by
    intro p p' u hu
    induction hu with
    | refl p =>
        intro log hlog
        rwa [List.map_nil, List.append_nil]
    | call r rest ih =>
        intro log hlog
        have hnext := ih _ (hlog.next (.reply _ 0 rfl r))
        rwa [List.append_assoc] at hnext
  exact from_here h [] (Pool.Reachable.start.next (.arrive _ q))

/-- What holds of every handler alone holds of it in the pool. -/
theorem Pool.Reachable.wp {J : ι → κ → σ → Trace κ ρ σ → Prop} {Q : ι → α → Trace κ ρ σ → Prop}
    {E : ι → ε → Trace κ ρ σ → Prop} (h : Pool.Reachable serve s)
    (hserve : ∀ q, (serve q).wp (J q) (Q q) (E q) []) {i : Nat} {q : ι}
    {p : Handler κ ρ σ ε α} (hi : s.running[i]? = some (q, p)) :
    p.wp (J q) (Q q) (E q) (share i s.log) :=
  wp_steps (hserve q) (h.steps hi)

/-- Every call in the log of a pool was made in `J`, with the history of its own request. -/
theorem Pool.Reachable.called {J : ι → κ → σ → Trace κ ρ σ → Prop}
    {Q : ι → α → Trace κ ρ σ → Prop} {E : ι → ε → Trace κ ρ σ → Prop}
    (h : Pool.Reachable serve s) (hserve : ∀ q, (serve q).wp (J q) (Q q) (E q) [])
    {before after : List (Nat × Event κ ρ σ)} {i : Nat} {e : Event κ ρ σ}
    (he : s.log = before ++ (i, e) :: after) :
    ∃ q p, s.running[i]? = some (q, p) ∧ J q e.call e.sent (share i before) := by
  have hshare : share i s.log = share i before ++ e :: share i after := by
    rw [he, share_append, share_own]
  have hlt : i < s.running.length := by
    by_contra hge
    rw [h.share_none (Nat.le_of_not_lt hge)] at hshare
    simp at hshare
  have hi : s.running[i]? = some s.running[i] := List.getElem?_eq_getElem hlt
  refine ⟨s.running[i].1, s.running[i].2, hi, ?_⟩
  exact wp_called (hserve _) (h.steps hi) hshare

theorem Pool.Reachable.all {P : ι → κ → σ → Prop} (h : Pool.Reachable serve s)
    (hserve : ∀ q, (serve q).All (P q)) {i : Nat} {e : Event κ ρ σ} (he : (i, e) ∈ s.log) :
    ∃ q p, s.running[i]? = some (q, p) ∧ P q e.call e.sent := by
  have hwp : ∀ q, (serve q).wp (fun k s _ => P q k s) (fun _ _ => True) (fun _ _ => True) [] :=
    fun q => (hserve q).wp (fun _ => True) (fun _ _ _ hP _ => hP) (fun _ _ _ _ _ _ => trivial)
      (fun _ _ _ => trivial) (fun _ _ _ => trivial) trivial
  obtain ⟨before, after, hlog⟩ := List.append_of_mem he
  exact h.called (J := fun q k s _ => P q k s) (Q := fun _ _ _ => True) (E := fun _ _ _ => True)
    hwp hlog

/-! ## What is seen from outside -/

section
variable {τ : Type} (f : σ → τ)

/-- The handler with other data in its calls. -/
def relabel : Handler κ ρ σ ε α → Handler κ ρ τ ε α
  | .done a => .done a
  | .raise e => .raise e
  | .call k s next => .call k (f s) fun r => (next r).relabel

@[simp] theorem relabel_done (a : α) : (.done a : Handler κ ρ σ ε α).relabel f = .done a := rfl
@[simp] theorem relabel_pure (a : α) : (pure a : Handler κ ρ σ ε α).relabel f = pure a := rfl
@[simp] theorem relabel_throw (e : ε) : (throw e : Handler κ ρ σ ε α).relabel f = throw e := rfl
@[simp] theorem relabel_ask (k : κ) (sent : σ) :
    (ask k sent : Handler κ ρ σ ε (ρ k)).relabel f = ask k (f sent) := rfl

@[simp] theorem relabel_ofExcept (x : Except ε α) :
    (ofExcept x : Handler κ ρ σ ε α).relabel f = ofExcept x := by
  cases x <;> rfl

@[simp] theorem relabel_bind (g : α → Handler κ ρ σ ε β) :
    (p >>= g).relabel f = p.relabel f >>= fun a => (g a).relabel f := by
  induction p with
  | done a => rfl
  | raise e => rfl
  | call k s next ih => exact congrArg (Handler.call k (f s)) (funext ih)

@[simp] theorem relabel_ite (c : Prop) [Decidable c] :
    (if c then p else q).relabel f = if c then p.relabel f else q.relabel f :=
  apply_ite (relabel f) c p q

def Event.relabel (e : Event κ ρ σ) : Event κ ρ τ := ⟨e.call, f e.sent, e.reply⟩

def Pool.relabel (s : Pool ι κ ρ σ ε α) : Pool ι κ ρ τ ε α :=
  ⟨s.running.map fun r => (r.1, r.2.relabel f), s.log.map fun entry => (entry.1, entry.2.relabel f)⟩

theorem Pool.Step.relabel {s' : Pool ι κ ρ σ ε α} (h : Pool.Step serve s s') :
    Pool.Step (fun q => (serve q).relabel f) (s.relabel f) (s'.relabel f) := by
  cases h with
  | arrive q =>
      have hstep : Pool.Step (fun q => (serve q).relabel f) (s.relabel f)
          ⟨(s.relabel f).running ++ [(q, (serve q).relabel f)], (s.relabel f).log⟩ :=
        .arrive (s.relabel f) q
      simpa only [Pool.relabel, List.map_append, List.map_cons, List.map_nil] using hstep
  | @reply i q k sent next here r =>
      have hhere : (s.relabel f).running[i]? =
          some (q, .call k (f sent) fun r => (next r).relabel f) := by
        simp only [Pool.relabel, List.getElem?_map, here, Option.map_some, Handler.relabel]
      have hstep : Pool.Step (fun q => (serve q).relabel f) (s.relabel f)
          ⟨(s.relabel f).running.set i (q, (next r).relabel f),
            (s.relabel f).log ++ [(i, ⟨k, f sent, r⟩)]⟩ := .reply (s.relabel f) i hhere r
      simpa only [Pool.relabel, List.map_set, List.map_append, List.map_cons, List.map_nil,
        Event.relabel] using hstep

theorem Pool.Reachable.relabel (h : Pool.Reachable serve s) :
    Pool.Reachable (fun q => (serve q).relabel f) (s.relabel f) := by
  induction h with
  | start => exact .start
  | next before step ih => exact .next ih (step.relabel f)

variable {f}

theorem relabel_eq_call {k : κ} {t : τ} {next : ρ k → Handler κ ρ τ ε α}
    (h : p.relabel f = .call k t next) :
    ∃ sent next', p = .call k sent next' ∧ t = f sent ∧ next = fun r => (next' r).relabel f := by
  cases p with
  | done a => cases h
  | raise e => cases h
  | call k' sent next' =>
      cases h
      exact ⟨sent, next', rfl, rfl, rfl⟩

/-- A run of the handlers with other data is one of the handlers as they are. -/
theorem Pool.Reachable.lift {v : Pool ι κ ρ τ ε α}
    (h : Pool.Reachable (fun q => (serve q).relabel f) v) :
    ∃ s, Pool.Reachable serve s ∧ s.relabel f = v := by
  induction h with
  | start => exact ⟨⟨[], []⟩, .start, rfl⟩
  | next before step ih =>
      obtain ⟨s, hs, rfl⟩ := ih
      cases step with
      | arrive q =>
          refine ⟨_, hs.next (.arrive s q), ?_⟩
          simp only [Pool.relabel, List.map_append, List.map_cons, List.map_nil]
      | @reply i q k sent next here r =>
          simp only [Pool.relabel, List.getElem?_map, Option.map_eq_some_iff] at here
          obtain ⟨⟨q', p⟩, hi, hp⟩ := here
          obtain ⟨rfl, hrelabel⟩ := Prod.mk.inj hp
          obtain ⟨sent', next', rfl, rfl, rfl⟩ := relabel_eq_call hrelabel
          refine ⟨_, hs.next (.reply s i hi r), ?_⟩
          simp only [Pool.relabel, List.map_set, List.map_append, List.map_cons, List.map_nil,
            Event.relabel]

/-- Handlers whose calls differ only in what `f` does not show cannot be told apart by it: each run
of one pool is, but for that, a run of the other. -/
theorem Pool.Reachable.alike {serve' : ι → Handler κ ρ σ ε α}
    (halike : ∀ q, (serve q).relabel f = (serve' q).relabel f) (h : Pool.Reachable serve s) :
    ∃ s', Pool.Reachable serve' s' ∧ s'.relabel f = s.relabel f := by
  have hview := h.relabel f
  rw [funext halike] at hview
  exact hview.lift

end

/-- The handler without the data that its calls send. -/
abbrev erase (p : Handler κ ρ σ ε α) : Handler κ ρ Unit ε α := p.relabel fun _ => ()

abbrev Pool.erase (s : Pool ι κ ρ σ ε α) : Pool ι κ ρ Unit ε α := s.relabel fun _ => ()

end Handler
