import SpeechK8s.Cluster.Start

/-!
# Stopping and starting again

Stop runs, complete or cut short, followed by a start run. A Deployment comes back with its
count exactly when the count was saved while it was live and not saved again afterwards: the
annotation is rewritten from `spec.replicas` by every stop run, so a second one saves the 0
that the first one set. A start run that gives up on a node restores nothing.
-/
namespace SpeechK8s.Cluster
open Script
open Register (Op)

/-- The run saves the count of `d`. -/
def Stop.Run.Records (r : Stop.Run) (names : List String) (d : String) : Prop :=
  r.Lists ∧ Stop.Recorded r.env names d

def Stop.Run.ScalesDown (r : Stop.Run) (names : List String) (d : String) : Prop :=
  r.Records names d ∧ (r.env (.scale d)).ok = true

theorem Stop.Run.ops_eq (r : Stop.Run) {names : List String} (hn : names.Nodup) (d : String) :
    (¬ r.Records names d ∧ r.ops names d = []) ∨
    (r.Records names d ∧ ¬ r.ScalesDown names d ∧ r.ops names d = [.save]) ∨
    (r.ScalesDown names d ∧ r.ops names d = [.save, .set 0]) := by
  unfold Stop.Run.ops Stop.Run.ScalesDown Stop.Run.Records
  rw [Stop.loopOps_eq hn]
  by_cases hl : r.Lists <;> by_cases hr : Stop.Recorded r.env names d <;>
    cases hs : (r.env (.scale d)).ok <;> simp [hl, hr]

/-- Several stop runs, one after the other, with no other writer in between. -/
def shutdowns (ns : Namespace) (runs : List Stop.Run) : Namespace :=
  runs.foldl (fun s r => (r.outcome s).world.state) ns

def shutdownOps (runs : List Stop.Run) (names : List String) (n : String) : List (Op Nat) :=
  runs.flatMap fun r => r.ops names n

theorem shutdowns_eq (ns : Namespace) (runs : List Stop.Run) :
    shutdowns ns runs = ns.runOps (shutdownOps runs ns.names) := by
  induction runs generalizing ns with
  | nil => exact (Namespace.runOps_nil ns).symm
  | cons r runs ih =>
      have hstep : shutdowns ns (r :: runs) = shutdowns (r.outcome ns).world.state runs := rfl
      rw [hstep, ih, r.state, Namespace.runOps_names, Namespace.runOps_runOps]
      rfl

section
variable {runs : List Stop.Run} {names : List String} {d : String}

theorem shutdown_shutdownOps (hn : names.Nodup) :
    Register.Shutdown 0 (shutdownOps runs names d) := by
  intro o ho
  obtain ⟨r, -, ho⟩ := List.mem_flatMap.mp ho
  rcases r.ops_eq hn d with ⟨-, h⟩ | ⟨-, -, h⟩ | ⟨-, h⟩
  · simp [h] at ho
  · exact .inl (by simpa [h] using ho)
  · simpa [h] using ho

theorem save_mem_shutdownOps (hn : names.Nodup) :
    .save ∈ shutdownOps runs names d ↔ ∃ r ∈ runs, r.Records names d := by
  rw [shutdownOps, List.mem_flatMap]
  refine exists_congr fun r => and_congr_right fun _ => ?_
  rcases r.ops_eq hn d with ⟨hr, h⟩ | ⟨hr, -, h⟩ | ⟨hs, h⟩
  · simp [h, hr]
  · simp [h, hr]
  · simp [h, hs.1]

theorem set_mem_shutdownOps (hn : names.Nodup) :
    .set 0 ∈ shutdownOps runs names d ↔ ∃ r ∈ runs, r.ScalesDown names d := by
  rw [shutdownOps, List.mem_flatMap]
  refine exists_congr fun r => and_congr_right fun _ => ?_
  rcases r.ops_eq hn d with ⟨hr, h⟩ | ⟨-, hs, h⟩ | ⟨hs, h⟩
  · have hns : ¬ r.ScalesDown names d := fun hs => hr hs.1
    simp [h, hns]
  · simp [h, hs]
  · simp [h, hs]

/-- Some count is saved after a clear exactly when one run records `d` after an earlier run
has scaled it down. -/
theorem resaved_shutdownOps (hn : names.Nodup) :
    Register.Resaved 0 (shutdownOps runs names d) ↔
      ¬ runs.Pairwise fun r r' => r.ScalesDown names d → ¬ r'.Records names d := by
  induction runs with
  | nil => simp [shutdownOps, Register.Resaved]
  | cons r runs ih =>
      have hcons : shutdownOps (r :: runs) names d = r.ops names d ++ shutdownOps runs names d :=
        rfl
      rw [hcons, List.pairwise_cons]
      rcases r.ops_eq hn d with ⟨hr, h⟩ | ⟨-, hs, h⟩ | ⟨hs, h⟩
      · have hns : ¬ r.ScalesDown names d := fun hs => hr hs.1
        simp [h, ih, hns]
      · simp only [h, List.singleton_append, Register.resaved_save_cons, ih, hs, false_implies,
          implies_true, true_and]
      · rw [h, List.cons_append, Register.resaved_save_cons, List.singleton_append,
          Register.resaved_set_cons, save_mem_shutdownOps hn]
        constructor
        · rintro ⟨r', hr', hrec⟩ ⟨hall, -⟩
          exact hall r' hr' hs hrec
        · intro hnot
          by_contra hnone
          refine hnot ⟨fun r' hr' _ hrec => hnone ⟨r', hr', hrec⟩, ?_⟩
          exact List.pairwise_of_forall_mem_list fun _ _ r' hr' _ hrec => hnone ⟨r', hr', hrec⟩

end

def stopStart (ns : Namespace) (runs : List Stop.Run) (start : Start.Run) : Namespace :=
  (start.outcome (shutdowns ns runs)).world.state

theorem shutdowns_names (ns : Namespace) (runs : List Stop.Run) :
    (shutdowns ns runs).names = ns.names := by
  rw [shutdowns_eq, Namespace.runOps_names]

/-- The stop runs leave a saved count from which `x` can be restored. -/
def Saved (ns : Namespace) (runs : List Stop.Run) (x : Deployment) : Prop :=
  ((∃ r ∈ runs, r.Records ns.names x.name) ∧ (x.replicas = 0 ∨
    runs.Pairwise fun r r' => r.ScalesDown ns.names x.name → ¬ r'.Records ns.names x.name)) ∨
  ((∀ r ∈ runs, ¬ r.Records ns.names x.name) ∧ x.prevReplicas.getD 1 = x.replicas)

/-- The stop runs leave `x` as it was. -/
def Spared (ns : Namespace) (runs : List Stop.Run) (x : Deployment) : Prop :=
  x.replicas = 0 ∨ ∀ r ∈ runs, ¬ r.ScalesDown ns.names x.name

def Restorable (ns : Namespace) (runs : List Stop.Run) (start : Start.Run) (x : Deployment) :
    Prop :=
  (start.NodesUp → Saved ns runs x) ∧ (¬ start.NodesUp → Spared ns runs x)

section
variable {ns : Namespace} {runs : List Stop.Run} {start : Start.Run} {x : Deployment}

theorem stopStart_up (h : ∀ k, (start.env k).ok = true) (hup : start.NodesUp) :
    stopStart ns runs start =
      ns.runOps fun n => shutdownOps runs ns.names n ++ [.restore 1] := by
  have hstate := (start.state_of_calls (shutdowns ns runs) h).1 hup
  rw [stopStart, hstate, shutdowns_names, shutdowns_eq, Namespace.runOps_runOps]
  refine Namespace.runOps_congr fun n hn => ?_
  simp [Start.finishedOps, Start.restoreOps, Start.restoreOp, h .getDeployments,
    h (.getPrevReplicas n), hn]

theorem restores_iff_saved (h : ∀ k, (start.env k).ok = true) (hup : start.NodesUp)
    (hx : x ∈ ns.items) :
    ((stopStart ns runs start).find? x.name).map Deployment.replicas = some x.replicas ↔
      Saved ns runs x := by
  have hn : ns.names.Nodup := ns.nodup
  have hdown : Register.Shutdown 0 (shutdownOps runs ns.names x.name) := shutdown_shutdownOps hn
  have hlive := Register.restore_run_iff (d := 1) hdown x.counts
  rw [save_mem_shutdownOps hn, resaved_shutdownOps hn, not_not] at hlive
  rw [stopStart_up h hup, Namespace.find?_runOps hx, Option.map_some, Option.some_inj,
    Register.run_append]
  refine hlive.trans ?_
  simp only [Saved, not_exists, not_and]
  rfl

theorem restores_iff_spared (h : ∀ k, (start.env k).ok = true) (hdown : ¬ start.NodesUp)
    (hx : x ∈ ns.items) :
    ((stopStart ns runs start).find? x.name).map Deployment.replicas = some x.replicas ↔
      Spared ns runs x := by
  have hn : ns.names.Nodup := ns.nodup
  have hops : Register.Shutdown 0 (shutdownOps runs ns.names x.name) := shutdown_shutdownOps hn
  have hlive := Register.run_live_iff hops x.counts
  rw [set_mem_shutdownOps hn] at hlive
  have hstate := (start.state_of_calls (shutdowns ns runs) h).2 hdown
  rw [stopStart, hstate, shutdowns_eq, Namespace.find?_runOps hx, Option.map_some,
    Option.some_inj]
  refine hlive.trans ?_
  simp only [Spared, not_exists, not_and]
  rfl

theorem stopStart_restores_iff (h : ∀ k, (start.env k).ok = true) (hx : x ∈ ns.items) :
    ((stopStart ns runs start).find? x.name).map Deployment.replicas = some x.replicas ↔
      Restorable ns runs start x := by
  by_cases hup : start.NodesUp
  · rw [restores_iff_saved h hup hx]
    exact ⟨fun hs => ⟨fun _ => hs, fun hdown => absurd hup hdown⟩, fun hr => hr.1 hup⟩
  · rw [restores_iff_spared h hup hx]
    exact ⟨fun hs => ⟨fun hup' => absurd hup' hup, fun _ => hs⟩, fun hr => hr.2 hup⟩

end

/-- After any stop runs and one start run in which no call fails, every Deployment has its
first count again exactly when every Deployment was restorable. -/
theorem stop_start_round_trip (ns : Namespace) (runs : List Stop.Run) (start : Start.Run)
    (h : ∀ k, (start.env k).ok = true) :
    (∀ x ∈ ns.items,
      ((stopStart ns runs start).find? x.name).map Deployment.replicas = some x.replicas) ↔
      ∀ x ∈ ns.items, Restorable ns runs start x :=
  forall₂_congr fun _ hx => stopStart_restores_iff h hx

/-! A namespace with one Deployment, and runs in which every command succeeds. -/

def speechLlm : Namespace := ⟨[⟨"speech-llm", 2, none, []⟩], by simp⟩

def stopRun (args : List String) : Stop.Run := ⟨"node0", args, fun _ => ⟨0, [], 1⟩, 0⟩

def startRun : Start.Run := ⟨"node0", fun _ => ⟨0, ["True"], 1⟩, 0⟩

theorem startRun_nodesUp : startRun.NodesUp := by
  have htrue : Start.grepq "True" ["True"] = true := by decide
  have hup : ∀ n late, Start.ComesUp startRun.env n late 0 := fun n late =>
    ⟨htrue, fun j hj => absurd hj (Nat.not_lt_zero j)⟩
  exact ⟨0, hup _ _, 0, hup _ _, 0, hup _ _, 0, hup _ _, trivial⟩

theorem stop_start_once :
    ((stopStart speechLlm [stopRun []] startRun).find? "speech-llm").map Deployment.replicas =
      some 2 := by
  have hrec : (stopRun []).Records speechLlm.names "speech-llm" := by
    unfold Stop.Run.Records
    decide
  refine (stop_start_round_trip speechLlm [stopRun []] startRun fun _ => rfl).mpr
    ?_ ⟨"speech-llm", 2, none, []⟩ List.mem_cons_self
  intro x hx
  obtain rfl := List.mem_singleton.mp hx
  refine ⟨fun _ => .inl ⟨⟨_, List.mem_cons_self, hrec⟩, .inr (List.pairwise_singleton _ _)⟩, ?_⟩
  exact fun hdown => absurd startRun_nodesUp hdown

/-- Stopping, then stopping again with `--poweroff` as the first run suggests, saves 0. -/
theorem second_stop_loses_count : ¬ ∀ (ns : Namespace) (runs : List Stop.Run) (start : Start.Run),
    runs ≠ [] → (∀ k, (start.env k).ok = true) →
    ∀ x ∈ ns.items,
      ((stopStart ns runs start).find? x.name).map Deployment.replicas = some x.replicas := by
  intro h
  have hlost := h speechLlm [stopRun [], stopRun ["--poweroff", "--yes"]] startRun (by decide)
    (fun _ => rfl) _ List.mem_cons_self
  exact absurd hlost (by decide)

end SpeechK8s.Cluster
