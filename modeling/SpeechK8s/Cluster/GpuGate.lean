import SpeechK8s.Cluster.RoundTrip

/-!
# No GPU pod before the device plugin

After the uncordon no Deployment that requests a GPU may have replicas until, worker by
worker, the device plugin has been seen healthy or its time is up. The start script keeps
such a Deployment at 0 when it finds it at 0; it never brings one there.
-/
namespace SpeechK8s.Cluster.Start
open Script
open Register (Op)

/-- No Deployment that requests a GPU has replicas. -/
def GpuIdle (s : Namespace) : Prop := ∀ x ∈ s.items, x.RequestsGpu → x.replicas = 0

/-- What must hold at each moment of a run. -/
def Gate (env : Env Call) (log : List (Entry Call Namespace)) (t : Nat) (s : Namespace) : Prop :=
  Uncordoned env log → GateOpen env log t ∨ GpuIdle s

/-- The gate holds before every command of the run and when it is over. -/
def Run.Gated (r : Run) (ns : Namespace) : Prop :=
  Always (Gate r.env) (r.outcome ns).world.log ∧
    Gate r.env (r.outcome ns).world.log (r.outcome ns).world.clock (r.outcome ns).world.state

theorem GateOpen.mono {env : Env Call} {w w' : World Call Namespace}
    (h : GateOpen env w.log w.clock) (hb : w.Before w') : GateOpen env w'.log w'.clock := by
  intro n hn
  rcases h n hn with hseen | hlate
  · exact .inl (hseen.mono hb.log)
  · exact .inr (hlate.mono hb.log hb.clock)

theorem gate_closed_early {env : Env Call} {log : List (Entry Call Namespace)} {t : Nat}
    (h : ∀ e ∈ log, Early e.call) : ¬ GateOpen env log t := by
  intro hopen
  rcases hopen "node1" (by simp [workers]) with ⟨i, -, ⟨e, he, hc⟩, -⟩ | ⟨e, he, hc, -⟩
  · have hearly := h e he
    rw [hc] at hearly
    rcases hearly with hw | ⟨n, hn⟩
    · exact hw
    · cases hn
  · have hearly := h e he
    rw [hc] at hearly
    rcases hearly with hw | ⟨n, hn⟩
    · exact hw
    · cases hn

/-! ## The two halves of a run -/

/-- Deployments that request a GPU are at 0 and not among `others`. -/
def Idle (others : List String) (s : Namespace) : Prop :=
  ∀ x ∈ s.items, x.RequestsGpu → x.replicas = 0 ∧ x.name ∉ others

theorem Idle.gpuIdle {others : List String} {s : Namespace} (h : Idle others s) : GpuIdle s :=
  fun x hx hg => (h x hx hg).1

theorem idle_otherNames {s : Namespace} (h : GpuIdle s) : Idle (otherNames s) s := by
  intro x hx hg
  refine ⟨h x hx hg, fun hm => ?_⟩
  obtain ⟨y, hy, hn⟩ := List.mem_map.mp hm
  obtain ⟨hy, hno⟩ := List.mem_filter.mp hy
  have hyx : y = x := Namespace.eq_of_name hy hx hn
  subst hyx
  simp [(isGpu_iff y).mpr hg] at hno

theorem Idle.scale {others : List String} {s : Namespace} {d : String} (hd : d ∈ others)
    (count : Nat) (h : Idle others s) : Idle others (s.scale d count) := by
  intro x hx hg
  obtain ⟨y, hy, rfl⟩ := List.mem_map.mp hx
  obtain ⟨hzero, hname⟩ := h y hy hg
  have hne : y.name ≠ d := fun he => hname (he ▸ hd)
  simp only [hne, if_false]
  exact ⟨hzero, hname⟩

/-- The effects a script may have in the first half: none, or a count for one of `others`. -/
def Harmless (others : List String) (effect : Namespace → Namespace) : Prop :=
  effect = id ∨ ∃ d ∈ others, ∃ count, effect = (·.scale d count)

/-- What the first half of a run keeps. -/
structure Held (env : Env Call) (others : List String) (w : World Call Namespace) : Prop where
  idle : Idle others w.state
  gate : Always (Gate env) w.log

structure Opened (env : Env Call) (w : World Call Namespace) : Prop where
  gateOpen : GateOpen env w.log w.clock
  gate : Always (Gate env) w.log

def Kept (env : Env Call) (w : World Call Namespace) : Prop :=
  Always (Gate env) w.log ∧ Gate env w.log w.clock w.state

theorem Held.kept {env : Env Call} {others : List String} {w : World Call Namespace}
    (h : Held env others w) : Kept env w := ⟨h.gate, fun _ => .inr h.idle.gpuIdle⟩

theorem Opened.kept {env : Env Call} {w : World Call Namespace} (h : Opened env w) :
    Kept env w := ⟨h.gate, fun _ => .inl h.gateOpen⟩

theorem Held.run {α : Type} {env : Env Call} {others : List String} {p : Sh α}
    {w : World Call Namespace} (hp : p.All fun _ e => Harmless others e)
    (h : Held env others w) : Held env others (run env p w).world := by
  have hstep : p.All fun k e => ∀ (v : World Call Namespace) (n : Nat), Idle others v.state →
      Idle others (v.record k n v.state).state ∧ Idle others (v.record k n (e v.state)).state := by
    refine hp.mono fun k e he v n hv => ⟨hv, ?_⟩
    rcases he with rfl | ⟨d, hd, count, rfl⟩
    · exact hv
    · exact hv.scale hd count
  have hrun := All.always (P := Gate env) (J := fun v => Idle others v.state)
    (fun v hv _ => .inr hv.gpuIdle) (fun v n hv => hv) hstep env w h.idle h.gate
  exact ⟨hrun.1, hrun.2⟩

theorem Opened.run {α : Type} {env : Env Call} (p : Sh α) {w : World Call Namespace}
    (h : Opened env w) : Opened env (run env p w).world := by
  have hstep : p.All fun k e => ∀ (v : World Call Namespace) (n : Nat),
      GateOpen env v.log v.clock →
      GateOpen env (v.record k n v.state).log (v.record k n v.state).clock ∧
        GateOpen env (v.record k n (e v.state)).log (v.record k n (e v.state)).clock :=
    all_of_forall (fun k e v n hv => ⟨hv.mono (v.before_record _ _ _),
      hv.mono (v.before_record _ _ _)⟩) p
  have hrun := All.always (P := Gate env) (J := fun v => GateOpen env v.log v.clock)
    (fun v hv _ => .inl hv) (fun v n hv => hv.mono (v.before_pass n)) hstep env w h.gateOpen h.gate
  exact ⟨hrun.1, hrun.2⟩

/-! ## The phases -/

section
variable {others : List String}

theorem harmless_query (k : Call) : (query k : Sh Reply).All fun _ e => Harmless others e :=
  all_query (.inl rfl)

theorem harmless_bringUp (controlPlane : String) :
    (bringUp controlPlane).All fun _ e => Harmless others e := by
  refine (all_now (.inl rfl)).bind fun t => All.bind ?_ fun _ => ?_
  · refine all_each _ fun n _ => ?_
    refine (all_waitUntil (fun i => .inl rfl) fun i => ?_).bind fun r => ?_
    · exact (harmless_query _).bind fun r => all_pure _
    · cases r with
      | none => exact all_quit 1
      | some u => exact all_pure _
  · exact all_each _ fun n _ => all_check (.inl rfl)

theorem harmless_classify (names : List String) (groups : List String × List String) :
    (classify names groups).All fun _ e => Harmless others e := by
  induction names generalizing groups with
  | nil => exact all_pure _
  | cons d names ih =>
      obtain ⟨gpu, other⟩ := groups
      refine (all_capture (.inl rfl)).bind fun _ => all_state.bind fun ns => ?_
      cases ns.find? d with
      | none => exact all_quit 1
      | some x => exact ih _

theorem harmless_restore {d : String} (hd : d ∈ others) :
    (restore d).All fun _ e => Harmless others e :=
  (harmless_query _).bind fun _ => all_state.bind fun _ => all_check (.inr ⟨d, hd, _, rfl⟩)

theorem harmless_waitPlugin (deadline : Nat) (n : String) :
    (waitPlugin deadline n).All fun _ e => Harmless others e := by
  refine (all_waitUntil (fun i => .inl rfl) fun i => ?_).bind fun _ => all_pure _
  exact (harmless_query _).bind fun _ => (harmless_query _).bind fun _ => all_pure _

theorem harmless_rollout (names : List String) :
    (rollout names).All fun _ e => Harmless others e := by
  refine (all_each _ fun d _ => all_tolerate (.inl rfl)).bind fun _ => ?_
  refine (all_capture (.inl rfl)).bind fun r => (all_when (all_check (.inl rfl))).bind fun _ => ?_
  exact all_check (.inl rfl)

end

theorem kept_restoreGpu {env : Env Call} {others gpu deployments : List String}
    {w : World Call Namespace} (h : Held env others w) (hnd : gpu.Nodup)
    (hn : ∀ d ∈ gpu, d ∈ w.state.names) :
    wp env (do restoreGpu gpu; rollout deployments) (fun _ => Kept env) (fun _ => Kept env) w := by
  rw [restoreGpu]
  simp only [wp_bind, wp_now]
  have hstart : PluginWait w.state w.clock (w.record .gpuDeadline 0 w.state) :=
    ⟨rfl, le_rfl, ⟨.gpuDeadline, w.clock, w.state⟩, by simp, rfl, rfl⟩
  have hdate : Held env others (w.record .gpuDeadline 0 w.state) :=
    h.run (p := now .gpuDeadline) (all_now (.inl rfl))
  have hwait := hdate.run (p := each workers (waitPlugin (w.clock + gpuPluginTimeout)))
    (all_each _ fun n _ => harmless_waitPlugin _ n)
  refine wp_mono (wp_and_world (J := Held env others) (wp_plugins hstart) hwait) ?_
    (fun _ _ hf => hf.1.elim)
  intro _ v hpost
  obtain ⟨⟨hv, hopen⟩, hheld⟩ := hpost
  have hopened : Opened env v := ⟨hopen, hheld.gate⟩
  refine wp_mono (wp_and_world (J := Opened env) (wp_restoreLoop hnd (by rw [hv]; exact hn))
    (hopened.run _)) ?_ (fun _ _ hf => hf.2.kept)
  intro _ u hpost
  obtain ⟨-, hu⟩ := hpost
  exact wp_mono (wp_and_world (J := Opened env) (wp_rollout rfl) (hu.run _))
    (fun _ _ hf => hf.2.kept) (fun _ _ hf => hf.2.kept)

theorem kept_groups {env : Env Call} {s : Namespace} {w : World Call Namespace}
    (hs : w.state = s) (h : Held env (otherNames s) w) (deployments : List String) :
    wp env (do
      when (!(otherNames s).isEmpty) (each (otherNames s) restore)
      when (!(gpuNames s).isEmpty) (restoreGpu (gpuNames s))
      rollout deployments) (fun _ => Kept env) (fun _ => Kept env) w := by
  have hall : (when (!(otherNames s).isEmpty) (each (otherNames s) restore)).All
      fun _ e => Harmless (otherNames s) e :=
    all_when (all_each _ fun d hd => harmless_restore hd)
  have hother : wp env (when (!(otherNames s).isEmpty) (each (otherNames s) restore))
      (fun _ v => v.state.names = s.names) (fun _ _ => True) w := by
    rw [wp_when]
    split
    · refine wp_mono (wp_restoreLoop (otherNames_nodup s) (by rw [hs]; exact otherNames_subset s))
        (fun _ v hv => ?_) (fun _ _ _ => trivial)
      rw [hv, Namespace.runOps_names, hs]
    · rw [hs]
  rw [wp_bind]
  refine wp_mono (wp_and_world (J := Held env (otherNames s)) hother (h.run hall)) ?_
    (fun _ _ hf => hf.2.kept)
  intro _ v hpost
  obtain ⟨hv, hheld⟩ := hpost
  by_cases hg : gpuNames s = []
  · have hskip : (when (!(gpuNames s).isEmpty) (restoreGpu (gpuNames s))) = pure () := by
      simp [hg, when]
    rw [hskip, wp_bind, wp_pure]
    exact wp_mono (wp_and_world (J := Held env (otherNames s)) (wp_rollout rfl)
      (hheld.run (harmless_rollout _))) (fun _ _ hf => hf.2.kept) (fun _ _ hf => hf.2.kept)
  · have hdo : (when (!(gpuNames s).isEmpty) (restoreGpu (gpuNames s))) =
        restoreGpu (gpuNames s) := by
      simp [hg, when]
    rw [hdo]
    exact kept_restoreGpu hheld (gpuNames_nodup s) (by rw [hv]; exact gpuNames_subset s)

theorem kept_restoreAll {env : Env Call} {w : World Call Namespace}
    (h : Held env (otherNames w.state) w) :
    wp env restoreAll (fun _ => Kept env) (fun _ => Kept env) w := by
  have hlist : Held env (otherNames w.state)
      (w.record .getDeployments (env .getDeployments).secs w.state) := by
    have hquery := h.run (p := query .getDeployments) (harmless_query _)
    simpa only [query, attempt, Script.run, Outcome.world, id, ite_self] using hquery
  rw [restoreAll, wp_bind, wp_getDeployments]
  by_cases hl : (env .getDeployments).ok = true
  · rw [if_pos hl, wp_bind]
    refine wp_mono (wp_and_world (J := Held env (otherNames w.state))
      (wp_classify (w := w.record .getDeployments _ w.state) w.state.items (fun x hx => hx) [] [])
      (hlist.run (harmless_classify _ _))) ?_ (fun _ _ hf => hf.2.kept)
    intro groups v hpost
    obtain ⟨⟨hv, rfl⟩, hheld⟩ := hpost
    exact kept_groups hv hheld _
  · rw [if_neg hl]
    simp only [classify, wp_bind, wp_pure, wp_when, List.isEmpty_nil, Bool.not_true,
      Bool.false_eq_true, if_false]
    exact wp_mono (wp_and_world (J := Held env (otherNames w.state)) (wp_rollout rfl)
      (hlist.run (harmless_rollout _))) (fun _ _ hf => hf.2.kept) (fun _ _ hf => hf.2.kept)

theorem gated_of_idle (r : Run) {ns : Namespace} (h : GpuIdle ns) : r.Gated ns := by
  have hstart : Held r.env (otherNames ns) (World.boot ns r.startedAt) :=
    ⟨idle_otherNames h, always_nil _⟩
  refine wp_world (J := Kept r.env) ?_
  rw [clusterStart, wp_bind]
  refine wp_mono (wp_and_world (J := Held r.env (otherNames ns)) (wp_bringUp rfl)
    (hstart.run (harmless_bringUp _))) ?_ (fun _ _ hf => hf.2.kept)
  intro _ v hpost
  obtain ⟨⟨⟨hv, -⟩, -⟩, hheld⟩ := hpost
  have hs : v.state = ns := hv
  subst hs
  exact kept_restoreAll hheld

theorem idle_of_gated (r : Run) {ns : Namespace}
    (hu : Uncordoned r.env (r.outcome ns).world.log) (h : r.Gated ns) : GpuIdle ns := by
  have hmoment : Uncordoned r.env (r.outcome ns).world.log →
      Always (Gate r.env) (r.outcome ns).world.log → GpuIdle ns := by
    refine wp_world (J := fun v => Uncordoned r.env v.log → Always (Gate r.env) v.log →
      GpuIdle ns) ?_
    rw [clusterStart, wp_bind]
    refine wp_mono (wp_bringUp rfl) ?_ (fun _ v hv hu => absurd hu hv.2)
    intro _ v hpost
    obtain ⟨⟨hv, -⟩, huv, hearly⟩ := hpost
    have hs : v.state = ns := hv
    obtain ⟨next, hnext⟩ : ∃ next, restoreAll = .issue .getDeployments id next := ⟨_, rfl⟩
    have hlog : v.log ++ [⟨.getDeployments, v.clock, v.state⟩] <+:
        (run r.env restoreAll v).world.log := by
      rw [hnext]
      exact run_issue_before r.env _ _ next v
    have hidle : Always (Gate r.env) (run r.env restoreAll v).world.log → GpuIdle ns := by
      intro hall
      rcases hall _ _ hlog huv with hopen | hidle
      · exact absurd hopen (gate_closed_early hearly)
      · exact hs ▸ hidle
    exact wp_mono (wp_and_world (J := fun v => Always (Gate r.env) v.log → GpuIdle ns)
      (wp_restoreAll v) hidle) (fun _ _ hf _ => hf.2) (fun _ _ hf _ => hf.2)
  exact hmoment hu h.1

/-- In a run that uncordons the workers, Deployments that request a GPU have no replicas before
the device plugin is ready or its time is up, exactly when they had none to begin with. A run that
does not get to uncordon all of them has no moment to be judged by. -/
theorem gated_iff_idle (r : Run) (ns : Namespace) :
    r.Gated ns ↔ (Uncordoned r.env (r.outcome ns).world.log → GpuIdle ns) := by
  constructor
  · exact fun h hu => idle_of_gated r hu h
  · intro h
    by_cases hu : Uncordoned r.env (r.outcome ns).world.log
    · exact gated_of_idle r (h hu)
    · refine ⟨fun pre e hpre hsome => ?_, fun hall => absurd hall hu⟩
      refine absurd (fun n hn => ?_) hu
      obtain ⟨hok, d, hd, hcall⟩ := hsome n hn
      exact ⟨hok, d, ((List.prefix_append _ _).trans hpre).subset hd, hcall⟩

def gpuLlm (replicas : Nat) : Namespace :=
  ⟨[⟨"speech-llm", replicas, some 1, [some ⟨['1'], '1', by decide⟩]⟩], by simp⟩

/-- A start run in which every worker has its plugin ready at the first look. -/
def readyStart : Run where
  controlPlane := "node0"
  env k := match k with
    | .getPlugin _ _ => ⟨0, ["true"], 1⟩
    | .getAllocatable _ _ => ⟨0, ["1"], 1⟩
    | _ => ⟨0, ["True"], 1⟩
  startedAt := 0

theorem gated_after_stop : readyStart.Gated (gpuLlm 0) := by
  refine (gated_iff_idle readyStart (gpuLlm 0)).mpr fun _ => ?_
  intro x hx _
  obtain rfl := List.mem_singleton.mp hx
  rfl

/-- A power cycle without a stop leaves a GPU Deployment with replicas when the workers are
uncordoned. -/
theorem not_gated_unstopped : ¬ ∀ (r : Run) (ns : Namespace),
    Uncordoned r.env (r.outcome ns).world.log → r.Gated ns := by
  intro h
  have hu : Uncordoned readyStart.env (readyStart.outcome (gpuLlm 1)).world.log := by decide
  have hidle := idle_of_gated readyStart hu (h readyStart (gpuLlm 1) hu)
  exact absurd (hidle _ List.mem_cons_self ⟨_, List.mem_cons_self⟩) (by decide)

end SpeechK8s.Cluster.Start
