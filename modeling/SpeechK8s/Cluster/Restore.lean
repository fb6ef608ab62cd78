import SpeechK8s.Cluster.RoundTrip

/-!
# What a start run that exits 0 has restored

Three failures of a read leave the exit status at 0: of the Deployment listing, which then
yields no Deployment to restore, and of an annotation, which then counts as missing. The
other calls end the run when they fail.
-/
namespace SpeechK8s.Cluster
open Script
open Register (Op)

/-- The count `restore` asks for: that of the annotation, or 1 where there is none or the read
fails. -/
def Start.want (env : Env Start.Call) (x : Deployment) : Nat :=
  if (env (.getPrevReplicas x.name)).ok then x.prevReplicas.getD 1 else 1

theorem Start.Run.find? (r : Start.Run) {ns : Namespace} (h : (r.outcome ns).status = some 0)
    {x : Deployment} (hx : x ∈ ns.items) :
    ((r.outcome ns).world.state.find? x.name).map Deployment.replicas =
      some (if (r.env .getDeployments).ok then Start.want r.env x else x.replicas) := by
  have hn : x.name ∈ ns.names := Namespace.mem_names.mpr ⟨x, hx, rfl⟩
  rw [r.state ns h, Namespace.find?_runOps hx, Option.map_some, Option.some_inj]
  cases hl : (r.env .getDeployments).ok with
  | false =>
      simp only [finishedOps, hl, Bool.false_eq_true, if_false]
      rfl
  | true =>
      simp only [finishedOps, hl, if_true, restoreOps, hn, restoreOp, Start.want]
      split <;> rfl

/-- A stop run that exits 0 has saved and cleared every Deployment, or it has listed none. -/
theorem Stop.Run.state_complete (r : Stop.Run) (ns : Namespace)
    (h : (r.outcome ns).status = some 0) :
    (r.outcome ns).world.state = if r.Lists then ns.runOps fun _ => [.save, .set 0] else ns := by
  rw [r.state]
  unfold Run.ops
  split
  · rename_i hl
    have hc := r.clears_all ns h hl
    exact Namespace.runOps_congr fun n hn => loopOps_cleared hc ns.nodup hn
  · exact Namespace.runOps_nil ns

/-- The start run can read what it needs to restore `x`, or the value that stands for a failed
read happens to be the saved one. -/
def Start.Reads (env : Env Start.Call) (x : Deployment) : Prop :=
  if (env .getDeployments).ok then
    ((env (.getPrevReplicas x.name)).ok = true ∧ x.prevReplicas ≠ none) ∨ x.prevReplicas = some 1
  else x.prevReplicas = some x.replicas

theorem Start.Run.restores_iff (r : Start.Run) {ns : Namespace}
    (h : (r.outcome ns).status = some 0) {x : Deployment} (hx : x ∈ ns.items) :
    ((r.outcome ns).world.state.find? x.name).map Deployment.replicas = x.prevReplicas ↔
      Start.Reads r.env x := by
  rw [r.find? h hx, Start.Reads]
  cases (r.env .getDeployments).ok with
  | false => simp [eq_comm]
  | true =>
      cases hr : (r.env (.getPrevReplicas x.name)).ok <;>
        cases hp : x.prevReplicas <;> simp [Start.want, hr, hp, eq_comm]

/-- After a stop run, whether complete or not, a start run ends, and one that exits 0 has
brought every Deployment to its saved count exactly when it could read the listing and the
annotations. -/
theorem start_restores_saved (ns : Namespace) (stop : Stop.Run) (start : Start.Run) :
    ∃ status, (start.outcome (stop.outcome ns).world.state).status = some status ∧
      (status = 0 →
        ((∀ x ∈ (stop.outcome ns).world.state.items,
          ((start.outcome (stop.outcome ns).world.state).world.state.find? x.name).map
            Deployment.replicas = x.prevReplicas) ↔
          ∀ x ∈ (stop.outcome ns).world.state.items, Start.Reads start.env x)) := by
  obtain ⟨status, h⟩ := start.ends (stop.outcome ns).world.state
  refine ⟨status, h, fun hzero => ?_⟩
  subst hzero
  exact forall₂_congr fun x hx => start.restores_iff h hx

def stoppedLlm : Deployment := ⟨"speech-llm", 0, some 2, []⟩

theorem stopped_items : ((stopRun []).outcome speechLlm).world.state.items = [stoppedLlm] := by
  rw [(stopRun []).state_complete speechLlm (by decide), if_pos (by decide)]
  rfl

theorem start_restores_after_stop :
    ((startRun.outcome ((stopRun []).outcome speechLlm).world.state).world.state.find?
      "speech-llm").map Deployment.replicas = some 2 := by
  obtain ⟨status, h, hiff⟩ := start_restores_saved speechLlm (stopRun []) startRun
  have hzero : some status = some 0 := h.symm.trans (by decide)
  have hreads : Start.Reads startRun.env stoppedLlm := .inl ⟨rfl, Option.some_ne_none 2⟩
  rw [stopped_items] at hiff
  refine (hiff (Option.some.inj hzero)).mpr ?_ stoppedLlm List.mem_cons_self
  intro x hx
  obtain rfl := List.mem_singleton.mp hx
  exact hreads

def blindStart : Start.Run :=
  ⟨"node0", fun k => ⟨match k with | .getPrevReplicas _ => 1 | _ => 0, ["True"], 1⟩, 0⟩

/-- One failed read of an annotation, and the run exits 0 with one replica in place of two. -/
theorem failed_read_restores_one : ¬ ∀ (ns : Namespace) (stop : Stop.Run),
    (∀ k, (stop.env k).ok = true) → (stop.outcome ns).status = some 0 →
    ∀ start : Start.Run, (start.outcome (stop.outcome ns).world.state).status = some 0 →
    ∀ x ∈ (stop.outcome ns).world.state.items,
      ((start.outcome (stop.outcome ns).world.state).world.state.find? x.name).map
        Deployment.replicas = x.prevReplicas := by
  intro h
  have hmem : stoppedLlm ∈ ((stopRun []).outcome speechLlm).world.state.items := by
    rw [stopped_items]
    exact List.mem_cons_self
  have hlost := h speechLlm (stopRun []) (fun _ => rfl) (by decide) blindStart (by decide)
    stoppedLlm hmem
  exact absurd hlost (by decide)

end SpeechK8s.Cluster
