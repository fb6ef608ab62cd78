import SpeechK8s.Lib.Script
import SpeechK8s.Cluster.Namespace

/-!
# scripts/cluster-stop.sh

The script as it stands, command by command. A failing command ends the run under `set -e`
with three exceptions: the commands followed by `|| echo warning`, the Deployment listing,
whose status a process substitution drops, and the pod listing, which ends in `|| true`.
-/
namespace SpeechK8s.Cluster

def workers : List String := ["node1", "node2", "node3"]

namespace Stop
open Script
open Register (Op)

/-- The commands of the script; those of a loop carry the number of the iteration. -/
inductive Call where
  | snapshot
  | getDeployments
  | getReplicas (d : String)
  | annotate (d : String)
  | scale (d : String)
  | podDeadline
  | getPods (i : Nat)
  | podClock (i : Nat)
  | getPodsLate
  | cordon (n : String)
  | drain (n : String)
  | getPodsWide
  | readReply
  | shutdown (n : String)
  deriving DecidableEq, Repr

abbrev Sh := Script Call Namespace

def scaleDownTimeout : Nat := 120

structure Options where
  poweroff : Bool
  confirm : Bool
  skipSnapshot : Bool
  deriving DecidableEq, Repr

/-- The `for arg in "$@"` loop; an unknown argument ends the script. -/
def parseArgs : List String → Options → Option Options
  | [], o => some o
  | arg :: args, o =>
      if arg = "--poweroff" then parseArgs args { o with poweroff := true }
      else if arg = "--yes" then parseArgs args { o with confirm := true }
      else if arg = "--skip-snapshot" then parseArgs args { o with skipSnapshot := true }
      else none

/-- `mapfile -t DEPLOYMENTS < <(kubectl get deployments …)`: if kubectl fails, the array is
empty and the script goes on. -/
def getDeployments : Sh (List String) := do
  let r ← query .getDeployments
  let ns ← state
  pure (if r.ok then ns.names else [])

def recordAndScale (d : String) : Sh Unit := do
  check (.getReplicas d) id
  let ns ← state
  match ns.find? d with
  | none => quit 1
  | some x => do
      check (.annotate d) (·.annotate d x.replicas)
      check (.scale d) (·.scale d 0)

/-- `remaining="$(kubectl get pods --no-headers 2>/dev/null | grep -vc '^$' || true)"` -/
def remaining (r : Reply) : Nat := (r.stdout.filter (· ≠ "")).length

def pollPods (i : Nat) : Sh (Option Unit) := do
  let r ← query (.getPods i)
  pure (if remaining r = 0 then some () else none)

def waitForPods : Sh Unit := do
  let t ← now .podDeadline
  match ← waitUntil scaleDownTimeout (t + scaleDownTimeout) 3 .podClock pollPods with
  | some () => pure ()
  | none => check .getPodsLate id

/-- Everything before the first `kubectl cordon`. -/
def quiesce (o : Options) : Sh Unit := do
  when (!o.skipSnapshot) (tolerate .snapshot)
  let deployments ← getDeployments
  each deployments recordAndScale
  when (!deployments.isEmpty) waitForPods

/-- `read -rp "Type 'yes' to continue: " reply`; end of input ends the script as well. -/
def confirm : Sh Unit := do
  let r ← query .readReply
  when (r.line ≠ some "yes") (quit 1)

def poweroff (o : Options) (controlPlane : String) : Sh Unit := do
  when (!o.poweroff) (quit 0)
  when (!o.confirm) confirm
  each workers fun n => tolerate (.shutdown n)
  tolerate (.shutdown controlPlane)

/-- Everything from the first `kubectl cordon` on. -/
def evacuate (o : Options) (controlPlane : String) : Sh Unit := do
  each workers fun n => check (.cordon n) id
  each workers fun n => check (.drain n) id
  check .getPodsWide id
  poweroff o controlPlane

def clusterStop (controlPlane : String) (args : List String) : Sh Unit :=
  match parseArgs args ⟨false, false, false⟩ with
  | none => quit 1
  | some o => do
      quiesce o
      evacuate o controlPlane

/-! ## What a run does to one Deployment -/

/-- The three commands of the loop body succeed for `d`. -/
def cleared (env : Env Call) (d : String) : Bool :=
  (env (.getReplicas d)).ok && (env (.annotate d)).ok && (env (.scale d)).ok

def bodyOps (env : Env Call) (d : String) : List (Op Nat) :=
  if (env (.getReplicas d)).ok && (env (.annotate d)).ok then
    if (env (.scale d)).ok then [.save, .set 0] else [.save]
  else []

/-- The loop over `names`, as operations on the count of the Deployment `n`. -/
def loopOps (env : Env Call) : List String → String → List (Op Nat)
  | [], _ => []
  | d :: names, n =>
      Namespace.only d (bodyOps env d) n ++ if cleared env d then loopOps env names n else []

theorem wp_recordAndScale {env : Env Call} {w : World Call Namespace} {d : String}
    (hd : d ∈ w.state.names) :
    wp env (recordAndScale d)
      (fun _ w' => w'.state = w.state.runOps (Namespace.only d (bodyOps env d)) ∧
        cleared env d = true)
      (fun s w' => w'.state = w.state.runOps (Namespace.only d (bodyOps env d)) ∧
        cleared env d = false ∧ s ≠ 0) w := by
  obtain ⟨x, hx, rfl⟩ := Namespace.mem_names.mp hd
  have hnil : w.state.runOps (Namespace.only x.name []) = w.state := by
    rw [show Namespace.only x.name [] = fun _ => [] from funext fun n => ite_self _]
    exact Namespace.runOps_nil _
  have hboth : (w.state.runOps (Namespace.only x.name [.save])).scale x.name 0 =
      w.state.runOps (Namespace.only x.name [.save, .set 0]) := by
    rw [Namespace.scale_eq, Namespace.runOps_runOps]
    simp only [Namespace.only_append, List.singleton_append]
  rw [recordAndScale]
  simp only [wp_bind, wp_check, wp_state, record_state, id]
  rw [Namespace.find?_name hx]
  cases hg : (env (.getReplicas x.name)).ok <;> cases ha : (env (.annotate x.name)).ok <;>
    cases hs : (env (.scale x.name)).ok <;>
    simp [bodyOps, cleared, hg, ha, hs, hnil, hboth, Namespace.annotate_current hx]

theorem wp_loop {env : Env Call} {w : World Call Namespace} {names : List String}
    (hn : ∀ d ∈ names, d ∈ w.state.names) :
    wp env (each names recordAndScale)
      (fun _ w' => w'.state = w.state.runOps (loopOps env names) ∧
        ∀ d ∈ names, cleared env d = true)
      (fun s w' => w'.state = w.state.runOps (loopOps env names) ∧ s ≠ 0) w := by
  induction names generalizing w with
  | nil => simp [each, loopOps]
  | cons d names ih =>
      rw [each, wp_bind]
      refine wp_mono (wp_recordAndScale (hn d List.mem_cons_self)) ?_ ?_
      · intro _ w' hpost
        obtain ⟨hw, hc⟩ := hpost
        have hn' : ∀ e ∈ names, e ∈ w'.state.names := by
          intro e he
          rw [hw, Namespace.runOps_names]
          exact hn e (List.mem_cons_of_mem d he)
        have hops : w'.state.runOps (loopOps env names) =
            w.state.runOps (loopOps env (d :: names)) := by
          rw [hw, Namespace.runOps_runOps]
          simp only [loopOps, hc, if_true]
        rw [← hops]
        refine wp_mono (ih hn') (fun _ w'' h => ⟨h.1, ?_⟩) (fun _ _ h => h)
        intro e he
        rcases List.mem_cons.mp he with rfl | he
        · exact hc
        · exact h.2 e he
      · intro s w' hpost
        obtain ⟨hw, hc, hs⟩ := hpost
        simp only [loopOps, hc, Bool.false_eq_true, if_false, List.append_nil]
        exact ⟨hw, hs⟩

/-- The run saves the count of `d`: every command of the loop before the one that annotates
`d` succeeds, and so does that one. -/
def Recorded (env : Env Call) (names : List String) (d : String) : Prop :=
  d ∈ names ∧ (∀ e ∈ names.takeWhile (· ≠ d), cleared env e = true) ∧
    (env (.getReplicas d)).ok = true ∧ (env (.annotate d)).ok = true

instance (env : Env Call) (names : List String) (d : String) :
    Decidable (Recorded env names d) := by
  unfold Recorded
  infer_instance

theorem loopOps_not_mem {env : Env Call} {names : List String} {d : String} (h : d ∉ names) :
    loopOps env names d = [] := by
  induction names with
  | nil => rfl
  | cons e names ih =>
      have hne : d ≠ e := fun he => h (he ▸ List.mem_cons_self)
      have hnot : d ∉ names := fun hm => h (List.mem_cons_of_mem e hm)
      simp [loopOps, Namespace.only, hne, ih hnot]

theorem loopOps_eq {env : Env Call} {names : List String} (hn : names.Nodup) (d : String) :
    loopOps env names d = if Recorded env names d then
      if (env (.scale d)).ok then [.save, .set 0] else [.save] else [] := by
  induction names with
  | nil => simp [loopOps, Recorded]
  | cons e names ih =>
      obtain ⟨he, hn⟩ := List.nodup_cons.mp hn
      by_cases hd : e = d
      · subst hd
        simp [loopOps, Namespace.only, loopOps_not_mem he, Recorded, bodyOps]
      · have hd' : d ≠ e := Ne.symm hd
        cases hc : cleared env e <;>
          simp [loopOps, Namespace.only, hd, hd', hc, ih hn, Recorded]

theorem loopOps_cleared {env : Env Call} {names : List String} {d : String}
    (hc : ∀ e ∈ names, cleared env e = true) (hn : names.Nodup) (hd : d ∈ names) :
    loopOps env names d = [.save, .set 0] := by
  have hok : (env (.getReplicas d)).ok = true ∧ (env (.annotate d)).ok = true ∧
      (env (.scale d)).ok = true := by
    simpa [cleared, and_assoc] using hc d hd
  have hrec : Recorded env names d :=
    ⟨hd, fun e he => hc e ((List.takeWhile_prefix _).subset he), hok.1, hok.2.1⟩
  rw [loopOps_eq hn, if_pos hrec, if_pos hok.2.2]

/-! ## The wait loop -/

/-- Seconds from the start of the wait to the reply of poll `i`. -/
def elapsed (env : Env Call) : Nat → Nat
  | 0 => (env (.getPods 0)).secs
  | i + 1 => elapsed env i + 3 + (env (.getPods (i + 1))).secs

/-- Poll `i` shows pods and comes in time, so the loop goes on. -/
def Running (env : Env Call) (i : Nat) : Prop :=
  remaining (env (.getPods i)) ≠ 0 ∧ elapsed env i ≤ scaleDownTimeout

/-- The wait that starts in `w` and is over in `w'`, with `i` its last poll. -/
structure Waited (env : Env Call) (w w' : World Call Namespace) (i : Nat) : Prop where
  state : w'.state = w.state
  earlier : ∀ j < i, Running env j
  last : ¬ Running env i
  clock : w.clock + elapsed env i ≤ w'.clock
  sharp : remaining (env (.getPods i)) = 0 → w'.clock = w.clock + elapsed env i
  started : ∃ e ∈ w'.log, e.call = .podDeadline ∧ e.time = w.clock
  polled : ∃ e ∈ w'.log, e.call = .getPods i
  log : ∀ e ∈ w'.log, e ∈ w.log ∨ (e.call = .podDeadline ∧ e.time = w.clock) ∨
    (∃ j ≤ i, e.call = .getPods j) ∨ (∃ j, e.call = .podClock j) ∨ e.call = .getPodsLate

/-- Where iteration `i` of the wait starts. -/
structure Waiting (env : Env Call) (w w' : World Call Namespace) (i : Nat) : Prop where
  state : w'.state = w.state
  earlier : ∀ j < i, Running env j
  clock : w'.clock + (env (.getPods i)).secs = w.clock + elapsed env i
  started : ∃ e ∈ w'.log, e.call = .podDeadline ∧ e.time = w.clock
  log : ∀ e ∈ w'.log, e ∈ w.log ∨ (e.call = .podDeadline ∧ e.time = w.clock) ∨
    (∃ j < i, e.call = .getPods j) ∨ (∃ j, e.call = .podClock j)

theorem Waiting.poll {env : Env Call} {w v : World Call Namespace} {i : Nat}
    (h : Waiting env w v i) (hl : ¬ Running env i) :
    Waited env w (v.record (.getPods i) (env (.getPods i)).secs v.state) i where
  state := h.state
  earlier := h.earlier
  last := hl
  clock := h.clock.ge
  sharp := fun _ => h.clock
  started := by
    obtain ⟨e, he, hc⟩ := h.started
    exact ⟨e, List.mem_append_left _ he, hc⟩
  polled := ⟨⟨.getPods i, v.clock, v.state⟩, by simp, rfl⟩
  log := by
    intro e he
    rcases List.mem_append.mp he with he | he
    · rcases h.log e he with hw | hd | ⟨j, hj, hc⟩ | hc
      · exact .inl hw
      · exact .inr (.inl hd)
      · exact .inr (.inr (.inl ⟨j, hj.le, hc⟩))
      · exact .inr (.inr (.inr (.inl hc)))
    · obtain rfl := List.mem_singleton.mp he
      exact .inr (.inr (.inl ⟨i, le_rfl, rfl⟩))

theorem Waited.record {env : Env Call} {w v : World Call Namespace} {i : Nat}
    (h : Waited env w v i) {k : Call} (hk : (∃ j, k = .podClock j) ∨ k = .getPodsLate) (n : Nat)
    (hs : remaining (env (.getPods i)) ≠ 0) : Waited env w (v.record k n v.state) i where
  state := h.state
  earlier := h.earlier
  last := h.last
  clock := h.clock.trans (Nat.le_add_right _ _)
  sharp := fun h0 => absurd h0 hs
  started := by
    obtain ⟨e, he, hc⟩ := h.started
    exact ⟨e, List.mem_append_left _ he, hc⟩
  polled := by
    obtain ⟨e, he, hc⟩ := h.polled
    exact ⟨e, List.mem_append_left _ he, hc⟩
  log := by
    intro e he
    rcases List.mem_append.mp he with he | he
    · exact h.log e he
    · obtain rfl := List.mem_singleton.mp he
      rcases hk with ⟨j, rfl⟩ | rfl
      · exact .inr (.inr (.inr (.inl ⟨j, rfl⟩)))
      · exact .inr (.inr (.inr (.inr rfl)))

theorem Waiting.next {env : Env Call} {w v : World Call Namespace} {i : Nat}
    (h : Waiting env w v i) (hr : Running env i) :
    Waiting env w (((v.record (.getPods i) (env (.getPods i)).secs v.state).record (.podClock i) 0
      v.state).pass 3) (i + 1) where
  state := h.state
  earlier := by
    intro j hj
    rcases Nat.lt_succ_iff_lt_or_eq.mp hj with hj | rfl
    · exact h.earlier j hj
    · exact hr
  clock := by
    have hc := h.clock
    simp only [pass_clock, record_clock, elapsed]
    omega
  started := by
    obtain ⟨e, he, hc⟩ := h.started
    exact ⟨e, by simp [he], hc⟩
  log := by
    intro e he
    simp only [pass_log, record_log, List.mem_append, List.mem_singleton] at he
    rcases he with (he | rfl) | rfl
    · rcases h.log e he with hw | hd | ⟨j, hj, hc⟩ | hc
      · exact .inl hw
      · exact .inr (.inl hd)
      · exact .inr (.inr (.inl ⟨j, hj.trans (Nat.lt_succ_self i), hc⟩))
      · exact .inr (.inr (.inr hc))
    · exact .inr (.inr (.inl ⟨i, Nat.lt_succ_self i, rfl⟩))
    · exact .inr (.inr (.inr ⟨i, rfl⟩))

theorem waiting_start (env : Env Call) (w : World Call Namespace) :
    Waiting env w (w.record .podDeadline 0 w.state) 0 where
  state := rfl
  earlier := fun j hj => absurd hj (Nat.not_lt_zero j)
  clock := by simp [elapsed]
  started := ⟨⟨.podDeadline, w.clock, w.state⟩, by simp, rfl, rfl⟩
  log := by
    intro e he
    rcases List.mem_append.mp he with he | he
    · exact .inl he
    · obtain rfl := List.mem_singleton.mp he
      exact .inr (.inl ⟨rfl, rfl⟩)

theorem wp_waitForPods (env : Env Call) (w : World Call Namespace) :
    wp env waitForPods (fun _ w' => ∃ i, Waited env w w' i)
      (fun s w' => w'.state = w.state ∧ s ≠ 0) w := by
  rw [waitForPods]
  simp only [wp_bind, wp_now]
  refine wp_mono (Q := fun r w' => ∃ i, Waited env w w' i ∧
    (r = none → remaining (env (.getPods i)) ≠ 0)) (E := fun _ _ => False)
    (wp_waitUntil (fun i v => Waiting env w v i) (by decide) (by simp) ?_
      (waiting_start env w)) ?_ (fun _ _ h => h.elim)
  · intro i v hv
    rw [pollPods]
    simp only [wp_bind, wp_query, wp_pure, record_clock]
    refine ⟨Nat.le_add_right _ _, ?_⟩
    by_cases hz : remaining (env (.getPods i)) = 0
    · rw [if_pos hz]
      exact ⟨i, hv.poll fun hr => hr.1 hz, fun h => absurd h (Option.some_ne_none _)⟩
    · rw [if_neg hz]
      have hc := hv.clock
      constructor
      · intro hlate
        have hl : ¬ Running env i := fun hr => by have := hr.2; omega
        exact ⟨i, (hv.poll hl).record (.inl ⟨i, rfl⟩) 0 hz, fun _ => hz⟩
      · intro hin
        exact hv.next ⟨hz, by omega⟩
  · rintro (_ | _) w' ⟨i, hw, hr⟩
    · rw [wp_check]
      split
      · exact ⟨i, hw.record (.inr rfl) _ (hr rfl)⟩
      · exact ⟨hw.state, Reply.code_ne ‹_›⟩
    · exact ⟨i, hw⟩

/-! ## The whole run -/

def Sweep : Call → Prop
  | .snapshot | .getDeployments | .getReplicas _ | .annotate _ | .scale _ => True
  | _ => False

theorem sweep_recordAndScale (d : String) : (recordAndScale d).All fun k _ => Sweep k := by
  refine (all_check trivial).bind fun _ => all_state.bind fun ns => ?_
  cases ns.find? d with
  | none => exact all_quit 1
  | some x => exact (all_check trivial).bind fun _ => all_check trivial

/-- Operations of the record-and-scale loop, for a run whose listing may have failed. -/
def sweepOps (env : Env Call) (names : List String) (n : String) : List (Op Nat) :=
  if (env .getDeployments).ok then loopOps env names n else []

def Listed (env : Env Call) (ns : Namespace) : Prop :=
  (env .getDeployments).ok = true ∧ ns.names ≠ []

/-- What holds when the script is about to cordon the first worker. -/
structure Quiesced (env : Env Call) (w w' : World Call Namespace) : Prop where
  state : w'.state = w.state.runOps (sweepOps env w.state.names)
  cleared : (env .getDeployments).ok = true → ∀ d ∈ w.state.names, cleared env d = true
  waited : Listed env w.state → ∃ v i, (∀ e ∈ v.log, Sweep e.call) ∧ Waited env v w' i
  skipped : ¬ Listed env w.state → ∀ e ∈ w'.log, Sweep e.call

theorem wp_getDeployments {env : Env Call} {w : World Call Namespace}
    {Q : List String → World Call Namespace → Prop} {E : Nat → World Call Namespace → Prop} :
    wp env getDeployments Q E w ↔
      Q (if (env .getDeployments).ok then w.state.names else [])
        (w.record .getDeployments (env .getDeployments).secs w.state) := by
  simp only [getDeployments, wp_bind, wp_query, wp_state, wp_pure, record_state]

theorem wp_sweep {env : Env Call} {w : World Call Namespace} (hlog : ∀ e ∈ w.log, Sweep e.call) :
    wp env (each w.state.names recordAndScale)
      (fun _ v => v.state = w.state.runOps (loopOps env w.state.names) ∧
        (∀ d ∈ w.state.names, cleared env d = true) ∧ ∀ e ∈ v.log, Sweep e.call)
      (fun s v => v.state = w.state.runOps (loopOps env w.state.names) ∧ s ≠ 0) w := by
  have hall : (each w.state.names recordAndScale).All fun k _ => Sweep k :=
    all_each _ fun d _ => sweep_recordAndScale d
  exact wp_mono (wp_and_world (wp_loop fun d hd => hd) (hall.log env w hlog))
    (fun _ v h => ⟨h.1.1, h.1.2, h.2⟩) (fun _ v h => h.1)

theorem wp_quiesce_listed {env : Env Call} {w : World Call Namespace}
    (hl : (env .getDeployments).ok = true) (hlog : ∀ e ∈ w.log, Sweep e.call) :
    wp env (each w.state.names recordAndScale)
      (fun _ v => wp env (when (!w.state.names.isEmpty) waitForPods)
        (fun _ w' => Quiesced env w w')
        (fun s w' => w'.state = w.state.runOps (loopOps env w.state.names) ∧ s ≠ 0) v)
      (fun s v => v.state = w.state.runOps (loopOps env w.state.names) ∧ s ≠ 0) w := by
  have hops : sweepOps env w.state.names = loopOps env w.state.names :=
    funext fun n => if_pos hl
  refine wp_mono (wp_sweep hlog) ?_ (fun _ _ h => h)
  intro _ v hpost
  obtain ⟨hv, hc, hlog'⟩ := hpost
  by_cases he : w.state.names = []
  · simp only [he, wp_when, List.isEmpty_nil, Bool.not_true, Bool.false_eq_true, if_false]
    refine ⟨by rw [hops]; exact hv, fun _ => hc, fun h => absurd he h.2, fun _ => hlog'⟩
  · rw [wp_when, if_pos (by simpa using he)]
    refine wp_mono (wp_waitForPods env v) ?_ ?_
    · intro _ w' hpost
      obtain ⟨i, hw⟩ := hpost
      exact ⟨by rw [hops, hw.state, hv], fun _ => hc, fun _ => ⟨v, i, hlog', hw⟩,
        fun h => absurd ⟨hl, he⟩ h⟩
    · intro s w' hpost
      obtain ⟨hw, hs⟩ := hpost
      exact ⟨hw.trans hv, hs⟩

theorem wp_quiesce {env : Env Call} {o : Options} {w : World Call Namespace} (hw : w.log = []) :
    wp env (quiesce o) (fun _ w' => Quiesced env w w')
      (fun s w' => w'.state = w.state.runOps (sweepOps env w.state.names) ∧ s ≠ 0) w := by
  -- the snapshot may or may not have been taken before the listing
  have from_listing : ∀ v : World Call Namespace, v.state = w.state →
      (∀ e ∈ v.log, Sweep e.call) →
      wp env (do
        let deployments ← getDeployments
        each deployments recordAndScale
        when (!deployments.isEmpty) waitForPods)
        (fun _ w' => Quiesced env w w')
        (fun s w' => w'.state = w.state.runOps (sweepOps env w.state.names) ∧ s ≠ 0) v := by
    intro v hv hlog
    rw [wp_bind, wp_getDeployments]
    have hlog' : ∀ e ∈ (v.record .getDeployments (env .getDeployments).secs v.state).log,
        Sweep e.call := by
      simpa [or_imp, forall_and] using ⟨hlog, trivial⟩
    by_cases hl : (env .getDeployments).ok = true
    · have hops : sweepOps env w.state.names = loopOps env w.state.names :=
        funext fun n => if_pos hl
      have h := wp_quiesce_listed hl hlog'
      rw [record_state, hv] at h
      rw [if_pos hl, wp_bind, hv, hops]
      refine wp_mono h (fun _ v' h' => wp_mono h' ?_ (fun _ _ hs => hs)) (fun _ _ hs => hs)
      rintro - w' hq
      exact ⟨hq.state, hq.cleared, hq.waited, hq.skipped⟩
    · have hops : w.state.runOps (sweepOps env w.state.names) = w.state := by
        rw [show sweepOps env w.state.names = fun _ => [] from funext fun n => if_neg hl]
        exact Namespace.runOps_nil _
      rw [if_neg hl]
      simp only [wp_bind, each, wp_pure, wp_when, List.isEmpty_nil, Bool.not_true,
        Bool.false_eq_true, if_false]
      exact ⟨by rw [hops, record_state, hv], fun h => absurd h hl, fun h => absurd h.1 hl,
        fun _ => hlog'⟩
  rw [quiesce, wp_bind, wp_when]
  split
  · rw [wp_tolerate]
    refine from_listing _ rfl ?_
    simp [hw, Sweep]
  · exact from_listing w rfl (by simp [hw])

theorem wp_workers {env : Env Call} {s : Namespace} (k : String → Call)
    {w : World Call Namespace} (hw : w.state = s) :
    wp env (each workers fun n => check (k n) id) (fun _ w' => w'.state = s)
      (fun _ w' => w'.state = s) w := by
  refine wp_each (fun _ v => v.state = s) workers (fun n rest v hv => ?_) hw
  rw [wp_check]
  split <;> exact hv

theorem wp_poweroff {env : Env Call} {o : Options} {controlPlane : String} {s : Namespace}
    {w : World Call Namespace} (hw : w.state = s) :
    wp env (poweroff o controlPlane) (fun _ w' => w'.state = s) (fun _ w' => w'.state = s) w := by
  have off : ∀ v : World Call Namespace, v.state = s →
      wp env (do each workers fun n => tolerate (.shutdown n); tolerate (.shutdown controlPlane))
        (fun _ w' => w'.state = s) (fun _ w' => w'.state = s) v := by
    intro v hv
    rw [wp_bind]
    refine wp_mono (wp_each (fun _ v => v.state = s) workers (fun n rest v hv => ?_) hv) ?_
      (fun _ _ h => h)
    · rw [wp_tolerate]
      exact hv
    · intro _ v' hv'
      rw [wp_tolerate]
      exact hv'
  rw [poweroff, wp_bind, wp_when]
  split
  · exact hw
  · rw [wp_bind, wp_when]
    split
    · rw [confirm, wp_bind, wp_query, wp_when]
      split
      · exact hw
      · exact off _ hw
    · exact off _ hw

theorem wp_evacuate {env : Env Call} {o : Options} {controlPlane : String}
    (w : World Call Namespace) :
    wp env (evacuate o controlPlane) (fun _ w' => w'.state = w.state)
      (fun _ w' => w'.state = w.state) w := by
  rw [evacuate, wp_bind]
  refine wp_mono (wp_workers .cordon rfl) (fun _ v hv => ?_) (fun _ _ h => h)
  rw [wp_bind]
  refine wp_mono (wp_workers .drain hv) (fun _ v hv => ?_) (fun _ _ h => h)
  rw [wp_bind, wp_check]
  split
  · exact wp_poweroff hv
  · exact hv

/-- One execution of the script: how it is called, what its commands reply and when. -/
structure Run where
  controlPlane : String
  args : List String
  env : Env Call
  startedAt : Nat

def Run.outcome (r : Run) (ns : Namespace) : Outcome Call Namespace Unit :=
  run r.env (clusterStop r.controlPlane r.args) (World.boot ns r.startedAt)

def Run.Lists (r : Run) : Prop :=
  (parseArgs r.args ⟨false, false, false⟩).isSome = true ∧ (r.env .getDeployments).ok = true

instance (r : Run) : Decidable r.Lists := inferInstanceAs (Decidable (_ ∧ _))

def Run.ops (r : Run) (names : List String) (n : String) : List (Op Nat) :=
  if r.Lists then loopOps r.env names n else []

theorem wp_clusterStop (r : Run) (ns : Namespace) :
    wp r.env (clusterStop r.controlPlane r.args)
      (fun _ w' => w'.state = ns.runOps (r.ops ns.names) ∧
        (r.Lists → ∀ d ∈ ns.names, cleared r.env d = true))
      (fun s w' => w'.state = ns.runOps (r.ops ns.names) ∧
        (s = 0 → r.Lists → ∀ d ∈ ns.names, cleared r.env d = true))
      (World.boot ns r.startedAt) := by
  unfold clusterStop
  cases hp : parseArgs r.args ⟨false, false, false⟩ with
  | none =>
      have hno : ¬ r.Lists := fun h => by simp [Run.Lists, hp] at h
      have hops : ns.runOps (r.ops ns.names) = ns := by
        rw [show r.ops ns.names = fun _ => [] from funext fun n => if_neg hno]
        exact Namespace.runOps_nil _
      exact ⟨hops.symm, fun h => absurd h Nat.one_ne_zero⟩
  | some o =>
      have hops : r.ops ns.names = sweepOps r.env ns.names := by
        funext n
        simp [Run.ops, sweepOps, Run.Lists, hp]
      rw [hops]
      simp only [wp_bind]
      refine wp_mono (wp_quiesce rfl) ?_ ?_
      · rintro - v hv
        have hc : r.Lists → ∀ d ∈ ns.names, cleared r.env d = true := fun h => hv.cleared h.2
        refine wp_mono (wp_evacuate v) (fun _ w' hw => ⟨hw.trans hv.state, hc⟩)
          (fun _ w' hw => ⟨hw.trans hv.state, fun _ => hc⟩)
      · intro s v hpost
        obtain ⟨hv, hfailed⟩ := hpost
        exact ⟨hv, fun h => absurd h hfailed⟩

/-- A run, complete or cut short, takes each Deployment through its own operations. -/
theorem Run.state (r : Run) (ns : Namespace) :
    (r.outcome ns).world.state = ns.runOps (r.ops ns.names) :=
  wp_world (wp_mono (wp_clusterStop r ns) (fun _ _ h => h.1) (fun _ _ h => h.1))

/-- Whatever its commands reply, the script ends. -/
theorem Run.ends (r : Run) (ns : Namespace) : ∃ s, (r.outcome ns).status = some s :=
  wp_ends (wp_clusterStop r ns)

theorem Run.clears_all (r : Run) (ns : Namespace) (h : (r.outcome ns).status = some 0)
    (hl : r.Lists) : ∀ d ∈ ns.names, Stop.cleared r.env d = true :=
  wp_status (J := fun _ => ∀ d ∈ ns.names, Stop.cleared r.env d = true) (wp_clusterStop r ns) h
    (fun _ _ _ hq => hq.2 hl) (fun _ he => he.2 rfl hl)

end Stop
end SpeechK8s.Cluster
