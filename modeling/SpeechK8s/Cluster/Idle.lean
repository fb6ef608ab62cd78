import SpeechK8s.Cluster.Start

/-!
# How long the cluster scripts wait

The loops of both scripts sleep between two looks at the cluster. All nodes share one deadline,
and so do the device plugins of all workers, so what a run sleeps does not grow with them.
-/
namespace SpeechK8s.Cluster
open Script

/-! ## cluster-stop.sh -/

namespace Stop
variable {env : Env Call} {limit : Nat}

theorem sleepsBy_recordAndScale (d : String) : SleepsBy env limit (recordAndScale d) := by
  refine (sleepsBy_check _ _).bind fun _ => sleepsBy_state.bind fun ns => ?_
  cases ns.find? d with
  | none => exact sleepsBy_quit 1
  | some x => exact (sleepsBy_check _ _).bind fun _ => sleepsBy_check _ _

/-- The last pause may end 3 s after the deadline. -/
theorem idles_waitForPods : Idles env 123 waitForPods := by
  refine idles_now fun t => ?_
  have hpoll : ∀ i, SleepsBy env (t + 123) (pollPods i) := by
    intro i
    exact (sleepsBy_query _).bind fun _ => sleepsBy_pure _
  have hlast : t + scaleDownTimeout + 3 ≤ t + 123 := le_rfl
  refine (sleepsBy_waitUntil hlast hpoll).bind fun r => ?_
  cases r with
  | some u => exact sleepsBy_pure ()
  | none => exact sleepsBy_check _ _

theorem idles_quiesce (o : Options) : Idles env 123 (quiesce o) := by
  have hlisting : SleepsBy env 0 (getDeployments : Sh (List String)) :=
    (sleepsBy_query _).bind fun _ => sleepsBy_state.bind fun _ => sleepsBy_pure _
  have hsnapshot : SleepsBy env 0 (when (!o.skipSnapshot) (tolerate .snapshot) : Sh Unit) :=
    sleepsBy_when (sleepsBy_tolerate _)
  refine hsnapshot.bind_idles fun _ => hlisting.bind_idles fun deployments => ?_
  have hloop : SleepsBy env 0 (each deployments recordAndScale) :=
    sleepsBy_each sleepsBy_recordAndScale deployments
  exact hloop.bind_idles fun _ => idles_when idles_waitForPods

theorem sleepsBy_poweroff (o : Options) (controlPlane : String) :
    SleepsBy env limit (poweroff o controlPlane) := by
  have hconfirm : SleepsBy env limit (confirm : Sh Unit) :=
    (sleepsBy_query _).bind fun _ => sleepsBy_when (sleepsBy_quit 1)
  refine (sleepsBy_when (sleepsBy_quit 0)).bind fun _ => (sleepsBy_when hconfirm).bind fun _ => ?_
  exact (sleepsBy_each (fun _ => sleepsBy_tolerate _) workers).bind fun _ => sleepsBy_tolerate _

theorem sleepsBy_evacuate (o : Options) (controlPlane : String) :
    SleepsBy env limit (evacuate o controlPlane) := by
  refine (sleepsBy_each (fun _ => sleepsBy_check _ _) workers).bind fun _ => ?_
  refine (sleepsBy_each (fun _ => sleepsBy_check _ _) workers).bind fun _ => ?_
  exact (sleepsBy_check _ _).bind fun _ => sleepsBy_poweroff o controlPlane

/-- A run of cluster-stop.sh ends, and takes as long as its commands and 123 s at most on top of
it. -/
theorem stop_time (r : Run) (ns : Namespace) :
    (∃ status, (r.outcome ns).status = some status) ∧
      ∃ idle ≤ 123, (r.outcome ns).world.clock = r.startedAt +
        worked r.env (clusterStop r.controlPlane r.args) (World.boot ns r.startedAt) + idle := by
  have hidle : Idles r.env 123 (clusterStop r.controlPlane r.args) := by
    unfold clusterStop
    cases parseArgs r.args ⟨false, false, false⟩ with
    | none => exact fun _ => Nat.zero_le _
    | some o => exact (idles_quiesce o).bind fun _ => (sleepsBy_evacuate o r.controlPlane).idles
  exact ⟨r.ends ns, _, hidle _, run_clock r.env _ (World.boot ns r.startedAt)⟩

end Stop

/-! ## cluster-start.sh -/

namespace Start
variable {env : Env Call} {limit : Nat}

theorem sleepsBy_waitReady {deadline : Nat} (n : String) :
    SleepsBy env (deadline + 5) (waitReady deadline n) := by
  have hpoll : ∀ i, SleepsBy env (deadline + 5) (pollReady n i) := by
    intro i
    exact (sleepsBy_query _).bind fun _ => sleepsBy_pure _
  refine (sleepsBy_waitUntil le_rfl hpoll).bind fun r => ?_
  cases r with
  | some u => exact sleepsBy_pure ()
  | none => exact sleepsBy_quit 1

theorem idles_bringUp (controlPlane : String) : Idles env 605 (bringUp controlPlane) := by
  refine idles_now fun t => ?_
  refine (sleepsBy_each (fun n => sleepsBy_waitReady n) _).bind fun _ => ?_
  exact sleepsBy_each (fun _ => sleepsBy_check _ _) workers

theorem sleepsBy_classify (ds : List String) (acc : List String × List String) :
    SleepsBy env limit (classify ds acc) := by
  induction ds generalizing acc with
  | nil => exact sleepsBy_pure acc
  | cons d ds ih =>
      refine (sleepsBy_capture _).bind fun _ => sleepsBy_state.bind fun ns => ?_
      cases ns.find? d with
      | none => exact sleepsBy_quit 1
      | some x => exact ih _

theorem sleepsBy_restore (d : String) : SleepsBy env limit (restore d) :=
  (sleepsBy_query _).bind fun _ => sleepsBy_state.bind fun _ => sleepsBy_check _ _

theorem sleepsBy_waitPlugin {deadline : Nat} (n : String) :
    SleepsBy env (deadline + 3) (waitPlugin deadline n) := by
  have hpoll : ∀ i, SleepsBy env (deadline + 3) (pollPlugin n i) := by
    intro i
    exact (sleepsBy_query _).bind fun _ => (sleepsBy_query _).bind fun _ => sleepsBy_pure _
  exact (sleepsBy_waitUntil le_rfl hpoll).bind fun _ => sleepsBy_pure ()

theorem idles_restoreGpu (gpu : List String) : Idles env 183 (restoreGpu gpu) := by
  refine idles_now fun t => ?_
  refine (sleepsBy_each (fun n => sleepsBy_waitPlugin n) workers).bind fun _ => ?_
  exact sleepsBy_each sleepsBy_restore gpu

theorem sleepsBy_rollout (deployments : List String) :
    SleepsBy env limit (rollout deployments) := by
  refine (sleepsBy_each (fun _ => sleepsBy_tolerate _) deployments).bind fun _ => ?_
  refine (sleepsBy_capture _).bind fun _ => (sleepsBy_when (sleepsBy_check _ _)).bind fun _ => ?_
  exact sleepsBy_check _ _

theorem idles_restoreAll : Idles env 183 (restoreAll : Sh Unit) := by
  have hlisting : SleepsBy env 0 (getDeployments : Sh (List String)) :=
    (sleepsBy_query _).bind fun _ => sleepsBy_state.bind fun _ => sleepsBy_pure _
  refine hlisting.bind_idles fun deployments => ?_
  refine (sleepsBy_classify deployments _).bind_idles fun groups => ?_
  have hother : SleepsBy env 0 (when (!groups.2.isEmpty) (each groups.2 restore)) :=
    sleepsBy_when (sleepsBy_each sleepsBy_restore _)
  refine hother.bind_idles fun _ => ?_
  have hgpu : Idles env 183 (when (!groups.1.isEmpty) (restoreGpu groups.1)) :=
    idles_when (idles_restoreGpu groups.1)
  exact hgpu.bind (n := 0) fun _ => (sleepsBy_rollout deployments).idles

/-- A run of cluster-start.sh ends, and takes as long as its commands and 788 s at most on top of
it, however many nodes are late. -/
theorem start_time (r : Run) (ns : Namespace) :
    (∃ status, (r.outcome ns).status = some status) ∧
      ∃ idle ≤ 788, (r.outcome ns).world.clock = r.startedAt +
        worked r.env (clusterStart r.controlPlane) (World.boot ns r.startedAt) + idle := by
  have hidle : Idles r.env 788 (clusterStart r.controlPlane) :=
    (idles_bringUp r.controlPlane).bind fun _ => idles_restoreAll
  exact ⟨r.ends ns, _, hidle _, run_clock r.env _ (World.boot ns r.startedAt)⟩

end Start

end SpeechK8s.Cluster
