import SpeechK8s.Cluster.Restore

/-!
# Start runs in the history of a cluster

Complete stop and start runs, with what an operator does between them. A start run writes a
count to every Deployment it lists, the saved one or 1, whether or not a stop run had taken
the Deployment down.
-/
namespace SpeechK8s.Cluster
open Script

inductive Event where
  | stop (r : Stop.Run)
  | start (r : Start.Run)
  | create (x : Deployment)
  | rescale (d : String) (count : Nat)
  | powerCycle

/-- The Deployments, and which of them are at 0 because of a stop run made since the last
start. The second field is bookkeeping: no script reads it. -/
structure Site where
  ns : Namespace
  down : String → Bool

def Namespace.live (ns : Namespace) (d : String) : Bool := (ns.find? d).any (·.replicas ≠ 0)

def Site.step (s : Site) : Event → Site
  | .stop r => ⟨(r.outcome s.ns).world.state, fun d => s.down d || r.Lists && s.ns.live d⟩
  | .start r => ⟨(r.outcome s.ns).world.state, fun _ => false⟩
  | .create x => { s with ns := s.ns.create x }
  | .rescale d count => ⟨s.ns.scale d count, fun e => s.down e && e != d⟩
  | .powerCycle => s

def Site.replay (s : Site) (events : List Event) : Site := events.foldl Site.step s

/-- The stop and start runs of a history are complete: each ends with status 0. -/
def Complete : Site → List Event → Prop
  | _, [] => True
  | s, e :: events =>
      (match e with
        | .stop r => (r.outcome s.ns).status = some 0
        | .start r => (r.outcome s.ns).status = some 0
        | _ => True) ∧ Complete (s.step e) events

theorem replay_cons (s : Site) (e : Event) (events : List Event) :
    s.replay (e :: events) = (s.step e).replay events := rfl

theorem complete_append {s : Site} {pre post : List Event} :
    Complete s (pre ++ post) ↔ Complete s pre ∧ Complete (s.replay pre) post := by
  induction pre generalizing s with
  | nil => simp [Complete, Site.replay]
  | cons e pre ih =>
      rw [List.cons_append, replay_cons]
      simp only [Complete, ih, and_assoc]

def Start.Run.Untouched (r : Start.Run) (s : Site) : Prop :=
  ∀ x ∈ s.ns.items, s.down x.name = false →
    ((r.outcome s.ns).world.state.find? x.name).map Deployment.replicas = some x.replicas

/-- The count the start run reads for `x`, or takes when there is none or the read fails, is
the one that `x` has; or the run lists no Deployment. -/
def Start.Agrees (env : Env Start.Call) (x : Deployment) : Prop :=
  (env .getDeployments).ok = true →
    if (env (.getPrevReplicas x.name)).ok then x.prevReplicas.getD 1 = x.replicas
    else x.replicas = 1

theorem Start.Run.untouched_iff {r : Start.Run} {s : Site}
    (h : (r.outcome s.ns).status = some 0) :
    r.Untouched s ↔ ∀ x ∈ s.ns.items, s.down x.name = false → Start.Agrees r.env x := by
  refine forall₂_congr fun x hx => imp_congr_right fun _ => ?_
  rw [r.find? h hx, Option.some_inj]
  unfold Start.Agrees Start.want
  cases (r.env .getDeployments).ok with
  | false => simp
  | true => cases (r.env (.getPrevReplicas x.name)).ok <;> simp [eq_comm]

/-- In every history, all start runs leave alone what no stop run took down exactly when at
each of them the annotation of every such Deployment, or its absence, agrees with its count. -/
theorem start_untouched_iff (s : Site) (events : List Event) (h : Complete s events) :
    (∀ pre r post, events = pre ++ .start r :: post → r.Untouched (s.replay pre)) ↔
      ∀ pre r post, events = pre ++ .start r :: post →
        ∀ x ∈ (s.replay pre).ns.items, (s.replay pre).down x.name = false →
          Start.Agrees r.env x := by
  refine forall₄_congr fun pre r post he => Start.Run.untouched_iff ?_
  rw [he] at h
  exact (complete_append.mp h).2.1

/-! ## Histories without an operator -/

/-- Every Deployment is down or has the count that its annotation says. -/
def Site.Settled (s : Site) : Prop :=
  ∀ x ∈ s.ns.items, s.down x.name = true ∨ x.prevReplicas.getD 1 = x.replicas

/-- No count is changed by hand, and start runs can read what they need. -/
def Event.Unattended : Event → Prop
  | .stop _ | .powerCycle => True
  | .start r => (r.env .getDeployments).ok = true ∧ ∀ d, (r.env (.getPrevReplicas d)).ok = true
  | .create _ | .rescale _ _ => False

theorem settled_stop {s : Site} {r : Stop.Run} (hs : s.Settled)
    (h : (r.outcome s.ns).status = some 0) : (s.step (.stop r)).Settled := by
  intro x hx
  simp only [Site.step] at hx ⊢
  rw [r.state_complete s.ns h] at hx
  by_cases hl : r.Lists
  · rw [if_pos hl] at hx
    obtain ⟨y, hy, rfl⟩ := List.mem_map.mp hx
    by_cases hy0 : y.replicas = 0
    · exact .inr hy0
    · left
      simp [hl, Namespace.live, Namespace.find?_name hy, hy0]
  · rw [if_neg hl] at hx
    rcases hs x hx with hd | ha
    · exact .inl (by simp [hd])
    · exact .inr ha

theorem settled_start {s : Site} {r : Start.Run} (h : (r.outcome s.ns).status = some 0)
    (hr : (Event.start r).Unattended) : (s.step (.start r)).Settled := by
  intro x hx
  simp only [Site.step] at hx ⊢
  rw [r.state s.ns h] at hx
  obtain ⟨y, hy, rfl⟩ := List.mem_map.mp hx
  have hn : y.name ∈ s.ns.names := Namespace.mem_names.mpr ⟨y, hy, rfl⟩
  right
  simp only [Start.finishedOps, hr.1, Start.restoreOps, hn, Start.restoreOp,
    hr.2, if_true]
  rfl

theorem settled_replay {s : Site} {events : List Event} (hs : s.Settled)
    (h : Complete s events) (hu : ∀ e ∈ events, e.Unattended) : (s.replay events).Settled := by
  induction events generalizing s with
  | nil => exact hs
  | cons e events ih =>
      have hstep : (s.step e).Settled := by
        have he := hu e List.mem_cons_self
        cases e with
        | stop r => exact settled_stop hs h.1
        | start r => exact settled_start h.1 he
        | create x => exact he.elim
        | rescale d count => exact he.elim
        | powerCycle => exact hs
      exact ih hstep h.2 fun e' he' => hu e' (List.mem_cons_of_mem e he')

theorem unattended_agrees {s : Site} {events : List Event} (hs : s.Settled)
    (h : Complete s events) (hu : ∀ e ∈ events, e.Unattended) {pre post : List Event}
    {r : Start.Run} (he : events = pre ++ .start r :: post) :
    ∀ x ∈ (s.replay pre).ns.items, (s.replay pre).down x.name = false →
      Start.Agrees r.env x := by
  subst he
  have hpre : (s.replay pre).Settled :=
    settled_replay hs (complete_append.mp h).1 fun e he => hu e (List.mem_append_left _ he)
  have hr : (Event.start r).Unattended := hu _ (by simp)
  intro x hx hd _
  rw [if_pos (hr.2 x.name)]
  exact (hpre x hx).resolve_left (by simp [hd])

/-- From a settled site, stops and starts alone never lead to a start run that touches what
is not down. -/
theorem unattended_untouched {s : Site} {events : List Event} (hs : s.Settled)
    (h : Complete s events) (hu : ∀ e ∈ events, e.Unattended) {pre post : List Event}
    {r : Start.Run} (he : events = pre ++ .start r :: post) : r.Untouched (s.replay pre) := by
  have hagree := unattended_agrees hs h hu he
  subst he
  exact (Start.Run.untouched_iff (complete_append.mp h).2.1).mpr hagree

theorem start_twice_untouched : startRun.Untouched
    (Site.replay ⟨speechLlm.annotate "speech-llm" 2, fun _ => false⟩
      [.stop (stopRun []), .start startRun, .powerCycle]) := by
  have hs : Site.Settled ⟨speechLlm.annotate "speech-llm" 2, fun _ => false⟩ := by
    intro x hx
    obtain rfl := List.mem_singleton.mp hx
    exact .inr rfl
  have hc : Complete ⟨speechLlm.annotate "speech-llm" 2, fun _ => false⟩
      [.stop (stopRun []), .start startRun, .powerCycle, .start startRun] :=
    ⟨by decide, by decide, trivial, by decide, trivial⟩
  refine (start_untouched_iff _ _ hc).mpr (fun pre r post he => ?_)
    [.stop (stopRun []), .start startRun, .powerCycle] startRun [] rfl
  exact unattended_agrees hs hc (by simp [Event.Unattended, startRun]) he

/-- After a power cycle without a stop, a start run sets a Deployment that was never stopped
from 2 replicas to 1. -/
theorem start_scales_unstopped : ¬ ∀ (s : Site) (events : List Event), Complete s events →
    ∀ pre r post, events = pre ++ .start r :: post → r.Untouched (s.replay pre) := by
  intro h
  have hkept := h ⟨speechLlm, fun _ => false⟩ [.powerCycle, .start startRun]
    ⟨trivial, by decide, trivial⟩ [.powerCycle] startRun [] rfl ⟨"speech-llm", 2, none, []⟩
    List.mem_cons_self rfl
  exact absurd hkept (by decide)

end SpeechK8s.Cluster
