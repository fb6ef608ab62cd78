import SpeechK8s.Cluster.RoundTrip

/-!
# What holds when cluster-stop.sh cordons the first worker

The script means to reach its first `kubectl cordon` only with every Deployment at 0 and
either no pod left or the time for that used up. Three replies let it through without: a
listing of no Deployments, a listing that fails and is taken for an empty one, and a pod
listing that fails and counts as no pod.
-/
namespace SpeechK8s.Cluster.Stop
open Script

def IsCordon : Call → Prop
  | .cordon _ => True
  | _ => False

instance : DecidablePred IsCordon
  | .cordon _ => .isTrue trivial
  | .snapshot | .getDeployments | .getReplicas _ | .annotate _ | .scale _ | .podDeadline
  | .getPods _ | .podClock _ | .getPodsLate | .drain _ | .getPodsWide | .readReply
  | .shutdown _ => .isFalse id

theorem quiesce_cordons_none (o : Options) : (quiesce o).All fun k _ => ¬ IsCordon k := by
  refine (all_when (all_tolerate id)).bind fun _ => ?_
  refine All.bind ((all_query id).bind fun r => all_state.bind fun ns => all_pure _) fun names => ?_
  refine (all_each names fun d _ => (sweep_recordAndScale d).mono ?_).bind fun _ => all_when ?_
  · intro k _ hk hc
    cases k <;> first | exact hk | exact hc
  · refine (all_now id).bind fun t => (all_waitUntil (fun i => id) fun i => ?_).bind fun r => ?_
    · exact (all_query id).bind fun r => all_pure _
    · cases r with
      | none => exact all_check id
      | some u => exact all_pure _

/-- Where the log of a run has its first cordon, the script had just finished quiescing. -/
theorem Run.quiesced (r : Run) (ns : Namespace) {pre : List (Entry Call Namespace)}
    {e : Entry Call Namespace} (h : First IsCordon (r.outcome ns).world.log pre e) :
    ∃ v, Quiesced r.env (World.boot ns r.startedAt) v ∧
      pre = v.log ∧ e.time = v.clock ∧ e.before = v.state := by
  revert h
  unfold Run.outcome clusterStop
  cases parseArgs r.args ⟨false, false, false⟩ with
  | none => exact fun h => absurd (fun x hx => nomatch hx) h.not_mem
  | some o =>
      refine wp_world (J := fun w => First IsCordon w.log pre e → ∃ v,
        Quiesced r.env (World.boot ns r.startedAt) v ∧ pre = v.log ∧ e.time = v.clock ∧
          e.before = v.state) ?_
      rw [wp_bind]
      have hnone := (quiesce_cordons_none o).log r.env (World.boot ns r.startedAt)
        (fun x hx => nomatch hx)
      refine wp_mono (wp_and_world (J := fun v => ∀ x ∈ v.log, ¬ IsCordon x.call)
        (wp_quiesce rfl) hnone) ?_ (fun _ v hv h => absurd hv.2 h.not_mem)
      intro _ v hpost
      obtain ⟨hq, hno⟩ := hpost
      obtain ⟨next, hnext⟩ : ∃ next, evacuate o r.controlPlane =
          .issue (.cordon "node1") id next := ⟨_, rfl⟩
      have hcordon : v.log ++ [⟨.cordon "node1", v.clock, v.state⟩] <+:
          (run r.env (evacuate o r.controlPlane) v).world.log := by
        rw [hnext]
        exact run_issue_before r.env _ _ next v
      have hJ : First IsCordon (run r.env (evacuate o r.controlPlane) v).world.log pre e →
          ∃ v, Quiesced r.env (World.boot ns r.startedAt) v ∧ pre = v.log ∧ e.time = v.clock ∧
            e.before = v.state := by
        intro h
        have hfirst : First IsCordon (run r.env (evacuate o r.controlPlane) v).world.log v.log
            ⟨.cordon "node1", v.clock, v.state⟩ := ⟨trivial, hno, hcordon⟩
        obtain ⟨hpre, rfl⟩ := h.unique hfirst
        exact ⟨v, hq, hpre, rfl, rfl⟩
      exact wp_mono (wp_and_world (J := fun w => First IsCordon w.log pre e → ∃ v,
        Quiesced r.env (World.boot ns r.startedAt) v ∧ pre = v.log ∧ e.time = v.clock ∧
          e.before = v.state) (wp_evacuate v) hJ) (fun _ _ h => h.2) (fun _ _ h => h.2)

def SeenEmpty (env : Env Call) (log : List (Entry Call Namespace)) : Prop :=
  ∃ i, (env (.getPods i)).ok = true ∧ remaining (env (.getPods i)) = 0 ∧
    ∃ e ∈ log, e.call = .getPods i

/-- At time `t`, `SCALE_DOWN_TIMEOUT` has passed since the wait for the pods began. -/
def TimedOut (log : List (Entry Call Namespace)) (t : Nat) : Prop :=
  ∃ e ∈ log, e.call = .podDeadline ∧ e.time + scaleDownTimeout ≤ t

/-- The cordon `e`, issued after the commands `pre`, is safe in a cluster that was in state
`ns` when the script was called. -/
def Safe (env : Env Call) (ns : Namespace) (pre : List (Entry Call Namespace))
    (e : Entry Call Namespace) : Prop :=
  (∀ x ∈ ns.items,
    (e.before.find? x.name).map Deployment.counts = some ⟨0, some x.replicas⟩) ∧
  (SeenEmpty env pre ∨ TimedOut pre e.time)

/-- The listing names some Deployment, and no pod listing that the wait comes to fails before
the time is used up. -/
def Observes (env : Env Call) (ns : Namespace) : Prop :=
  Listed env ns ∧ ∀ i, (∀ j < i, Running env j) →
    (env (.getPods i)).ok = true ∨ scaleDownTimeout ≤ elapsed env i

theorem Running.ok {env : Env Call} {i : Nat} (h : Running env i) :
    (env (.getPods i)).ok = true := by
  by_contra hno
  have hfail : (env (.getPods i)).ok = false := by simpa using hno
  exact h.1 (by simp [remaining, Reply.stdout, hfail])

theorem not_safe_of_sweep {env : Env Call} {log : List (Entry Call Namespace)} {t : Nat}
    (h : ∀ e ∈ log, Sweep e.call) : ¬ (SeenEmpty env log ∨ TimedOut log t) := by
  intro hseen
  rcases hseen with ⟨i, -, -, e, he, hc⟩ | ⟨e, he, hc, -⟩
  · have hs := h e he
    rw [hc] at hs
    exact hs
  · have hs := h e he
    rw [hc] at hs
    exact hs

/-- A poll without pods in the log is the last one. -/
theorem Waited.empty_last {env : Env Call} {v w : World Call Namespace} {i j : Nat}
    (h : Waited env v w i) (hv : ∀ e ∈ v.log, Sweep e.call) {e : Entry Call Namespace}
    (he : e ∈ w.log) (hc : e.call = .getPods j) (hz : remaining (env (.getPods j)) = 0) :
    j = i := by
  rcases h.log e he with hw | ⟨hd, -⟩ | ⟨k, hk, hp⟩ | ⟨k, hp⟩ | hp
  · have hs := hv e hw
    rw [hc] at hs
    exact hs.elim
  · rw [hc] at hd
    exact nomatch hd
  · rw [hc] at hp
    obtain rfl : j = k := by injection hp
    rcases Nat.lt_or_eq_of_le hk with hlt | heq
    · exact absurd hz (h.earlier j hlt).1
    · exact heq
  · rw [hc] at hp
    exact nomatch hp
  · rw [hc] at hp
    exact nomatch hp

theorem Waited.deadline_time {env : Env Call} {v w : World Call Namespace} {i : Nat}
    (h : Waited env v w i) (hv : ∀ e ∈ v.log, Sweep e.call) {e : Entry Call Namespace}
    (he : e ∈ w.log) (hc : e.call = .podDeadline) : e.time = v.clock := by
  rcases h.log e he with hw | ⟨-, ht⟩ | ⟨k, -, hp⟩ | ⟨k, hp⟩ | hp
  · have hs := hv e hw
    rw [hc] at hs
    exact hs.elim
  · exact ht
  all_goals
    rw [hc] at hp
    exact nomatch hp

/-- A wait whose last poll shows pods has run out of time. -/
theorem Waited.late {env : Env Call} {v w : World Call Namespace} {i : Nat}
    (h : Waited env v w i) (hz : remaining (env (.getPods i)) ≠ 0) :
    scaleDownTimeout ≤ elapsed env i := by
  by_contra hlt
  exact h.last ⟨hz, by omega⟩

theorem Waited.seen_iff {env : Env Call} {v w : World Call Namespace} {i : Nat}
    (h : Waited env v w i) (hv : ∀ e ∈ v.log, Sweep e.call) :
    SeenEmpty env w.log ∨ TimedOut w.log w.clock ↔
      (env (.getPods i)).ok = true ∨ scaleDownTimeout ≤ elapsed env i := by
  have hclock := h.clock
  constructor
  · intro hseen
    rcases hseen with ⟨j, hok, hz, e, he, hc⟩ | ⟨e, he, hc, htime⟩
    · have hji : j = i := h.empty_last hv he hc hz
      exact .inl (hji ▸ hok)
    · have hstart : e.time = v.clock := h.deadline_time hv he hc
      right
      by_cases hz : remaining (env (.getPods i)) = 0
      · have hsharp := h.sharp hz
        omega
      · exact h.late hz
  · intro hi
    by_cases hgood : (env (.getPods i)).ok = true ∧ remaining (env (.getPods i)) = 0
    · exact .inl ⟨i, hgood.1, hgood.2, h.polled⟩
    · right
      have hlate : scaleDownTimeout ≤ elapsed env i := by
        rcases hi with hok | hlate
        · exact h.late fun hz => hgood ⟨hok, hz⟩
        · exact hlate
      obtain ⟨e, he, hc, ht⟩ := h.started
      exact ⟨e, he, hc, by omega⟩

theorem Quiesced.scaled {env : Env Call} {ns : Namespace} {t : Nat} {v : World Call Namespace}
    (h : Quiesced env (World.boot ns t) v) (hl : (env .getDeployments).ok = true)
    {x : Deployment} (hx : x ∈ ns.items) :
    (v.state.find? x.name).map Deployment.counts = some ⟨0, some x.replicas⟩ := by
  have hn : x.name ∈ ns.names := Namespace.mem_names.mpr ⟨x, hx, rfl⟩
  have hops : sweepOps env ns.names x.name = [.save, .set 0] := by
    rw [sweepOps, if_pos hl]
    exact loopOps_cleared (h.cleared hl) ns.nodup hn
  rw [h.state, boot_state, Namespace.find?_runOps hx, Option.map_some, withCounts_counts, hops]
  rfl

/-- When a run comes to its first cordon, everything is scaled down and saved, and the pods
were seen gone or given their time, exactly when the listings could be read. -/
theorem cordon_safe_iff (r : Run) (ns : Namespace) (pre : List (Entry Call Namespace))
    (e : Entry Call Namespace) (h : First IsCordon (r.outcome ns).world.log pre e) :
    Safe r.env ns pre e ↔ Observes r.env ns := by
  obtain ⟨w, hw, rfl, ht, hs⟩ := r.quiesced ns h
  unfold Safe Observes
  rw [ht, hs]
  by_cases hl : Listed r.env ns
  · obtain ⟨v, i, hv, hwait⟩ := hw.waited hl
    have hpoll : (∀ i, (∀ j < i, Running r.env j) →
        (r.env (.getPods i)).ok = true ∨ scaleDownTimeout ≤ elapsed r.env i) ↔
        (r.env (.getPods i)).ok = true ∨ scaleDownTimeout ≤ elapsed r.env i := by
      constructor
      · exact fun hall => hall i hwait.earlier
      · intro hi j hj
        rcases Nat.lt_trichotomy j i with hlt | rfl | hgt
        · exact .inl (hwait.earlier j hlt).ok
        · exact hi
        · exact absurd (hj i hgt) hwait.last
    rw [hpoll, hwait.seen_iff hv]
    constructor
    · exact fun hsafe => ⟨hl, hsafe.2⟩
    · exact fun hobs => ⟨fun x hx => hw.scaled hl.1 hx, hobs.2⟩
  · constructor
    · exact fun hsafe => absurd hsafe.2 (not_safe_of_sweep (hw.skipped hl))
    · exact fun hobs => absurd hobs.1 hl

theorem cordon_safe : Safe (stopRun []).env speechLlm
    (((stopRun []).outcome speechLlm).world.log.take 7)
    ⟨.cordon "node1", 6, (speechLlm.annotate "speech-llm" 2).scale "speech-llm" 0⟩ := by
  have hfirst : First IsCordon ((stopRun []).outcome speechLlm).world.log
      (((stopRun []).outcome speechLlm).world.log.take 7)
      ⟨.cordon "node1", 6, (speechLlm.annotate "speech-llm" 2).scale "speech-llm" 0⟩ :=
    ⟨trivial, by decide, ⟨((stopRun []).outcome speechLlm).world.log.drop 8, rfl⟩⟩
  have hobs : Observes (stopRun []).env speechLlm := ⟨⟨rfl, by decide⟩, fun i _ => .inl rfl⟩
  exact (cordon_safe_iff _ _ _ _ hfirst).mpr hobs

def unlistedStop : Run :=
  ⟨"node0", [], fun k => ⟨match k with | .getDeployments => 1 | _ => 0, [], 1⟩, 0⟩

/-- The run cordons the workers with the Deployment still at 2 replicas. -/
theorem unlisted_cordon_unsafe : ¬ ∀ (r : Run) (ns : Namespace)
    (pre : List (Entry Call Namespace)) (e : Entry Call Namespace),
    First IsCordon (r.outcome ns).world.log pre e → Safe r.env ns pre e := by
  intro h
  have hfirst : First IsCordon (unlistedStop.outcome speechLlm).world.log
      ((unlistedStop.outcome speechLlm).world.log.take 2) ⟨.cordon "node1", 2, speechLlm⟩ :=
    ⟨trivial, by decide, ⟨(unlistedStop.outcome speechLlm).world.log.drop 3, rfl⟩⟩
  have hscaled := (h _ _ _ _ hfirst).1 ⟨"speech-llm", 2, none, []⟩ List.mem_cons_self
  exact absurd hscaled (by decide)

end SpeechK8s.Cluster.Stop
