import SpeechK8s.Cluster.Stop

/-!
# scripts/cluster-start.sh

The script as it stands. Reads that end in `2>/dev/null || true` turn a failure into an empty
string: for the saved count that means the default 1, for the device plugin not ready.
-/
namespace SpeechK8s.Cluster.Start
open Script
open Register (Op)

inductive Call where
  | readyDeadline
  | getReady (n : String) (i : Nat)
  | readyClock (n : String) (i : Nat)
  | uncordon (n : String)
  | getDeployments
  | getGpuReq (d : String)
  | getPrevReplicas (d : String)
  | scale (d : String)
  | gpuDeadline
  | getPlugin (n : String) (i : Nat)
  | getAllocatable (n : String) (i : Nat)
  | gpuClock (n : String) (i : Nat)
  | rolloutStatus (d : String)
  | getLeftover
  | deleteLeftover
  | getPodsWide
  deriving DecidableEq, Repr

abbrev Sh := Script Call Namespace

def readyTimeout : Nat := 600

def gpuPluginTimeout : Nat := 180

def grepq (pat : String) (lines : List String) : Bool :=
  lines.any fun l => decide (pat.toList <:+: l.toList)

def pollReady (n : String) (i : Nat) : Sh (Option Unit) := do
  let r ← query (.getReady n i)
  pure (if grepq "True" r.stdout then some () else none)

def waitReady (deadline : Nat) (n : String) : Sh Unit := do
  match ← waitUntil readyTimeout deadline 5 (.readyClock n) (pollReady n) with
  | some () => pure ()
  | none => quit 1

/-- Up to the last `kubectl uncordon`. -/
def bringUp (controlPlane : String) : Sh Unit := do
  let t ← now .readyDeadline
  each (controlPlane :: workers) (waitReady (t + readyTimeout))
  each workers fun n => check (.uncordon n) id

/-- `mapfile -t DEPLOYMENTS < <(kubectl get deployments …)`, as in cluster-stop.sh. -/
def getDeployments : Sh (List String) := do
  let r ← query .getDeployments
  let ns ← state
  pure (if r.ok then ns.names else [])

/-- The loop that fills `GPU_DEPLOYMENTS` and `OTHER_DEPLOYMENTS`. -/
def classify : List String → List String × List String → Sh (List String × List String)
  | [], acc => pure acc
  | d :: ds, (gpu, other) => do
      let _ ← capture (.getGpuReq d)
      let ns ← state
      match ns.find? d with
      | none => quit 1
      | some x => classify ds (if x.isGpu then (gpu ++ [d], other) else (gpu, other ++ [d]))

def restore (d : String) : Sh Unit := do
  let r ← query (.getPrevReplicas d)
  let ns ← state
  let want := if r.ok then (ns.find? d).bind Deployment.prevReplicas else none
  check (.scale d) (·.scale d (want.getD 1))

/-- `"${ready}" == "true" && -n "${gpu_alloc}" && "${gpu_alloc}" != "0"` -/
def healthy (ready alloc : Reply) : Bool :=
  ready.text == "true" && alloc.text != "" && alloc.text != "0"

def pollPlugin (n : String) (i : Nat) : Sh (Option Unit) := do
  let ready ← query (.getPlugin n i)
  let alloc ← query (.getAllocatable n i)
  pure (if healthy ready alloc then some () else none)

/-- One worker's wait; after the deadline the script only warns. -/
def waitPlugin (deadline : Nat) (n : String) : Sh Unit := do
  let _ ← waitUntil gpuPluginTimeout deadline 3 (.gpuClock n) (pollPlugin n)
  pure ()

def restoreGpu (gpu : List String) : Sh Unit := do
  let t ← now .gpuDeadline
  each workers (waitPlugin (t + gpuPluginTimeout))
  each gpu restore

/-- `awk '$3=="ContainerStatusUnknown" || …'` on one line. -/
def isZombie (l : String) : Bool :=
  match (l.toList.splitOn ' ').filter (· ≠ []) with
  | _ :: _ :: status :: _ =>
      status == "ContainerStatusUnknown".toList || status == "UnexpectedAdmissionError".toList ||
        status == "Unknown".toList
  | _ => false

def rollout (deployments : List String) : Sh Unit := do
  each deployments fun d => tolerate (.rolloutStatus d)
  let r ← capture .getLeftover
  when (r.stdout.any isZombie) (check .deleteLeftover id)
  check .getPodsWide id

/-- From the Deployment listing on. -/
def restoreAll : Sh Unit := do
  let deployments ← getDeployments
  let groups ← classify deployments ([], [])
  when (!groups.2.isEmpty) (each groups.2 restore)
  when (!groups.1.isEmpty) (restoreGpu groups.1)
  rollout deployments

def clusterStart (controlPlane : String) : Sh Unit := do
  bringUp controlPlane
  restoreAll

/-! ## What a run does to one Deployment -/

/-- `restore d`, as an operation on the count of `d`. -/
def restoreOp (env : Env Call) (d : String) : Op Nat :=
  if (env (.getPrevReplicas d)).ok then .restore 1 else .set 1

def restoreOps (env : Env Call) (names : List String) (n : String) : List (Op Nat) :=
  if n ∈ names then [restoreOp env n] else []

theorem scale_restored {env : Env Call} {ns : Namespace} {d : String} (hd : d ∈ ns.names) :
    ns.scale d ((if (env (.getPrevReplicas d)).ok then (ns.find? d).bind Deployment.prevReplicas
      else none).getD 1) = ns.runOps (Namespace.only d [restoreOp env d]) := by
  obtain ⟨x, hx, rfl⟩ := Namespace.mem_names.mp hd
  rw [Namespace.find?_name hx]
  refine Namespace.update_congr fun y hy => ?_
  by_cases h : y.name = x.name
  · have hyx : y = x := Namespace.eq_of_name hy hx h
    subst hyx
    cases hr : (env (.getPrevReplicas y.name)).ok <;>
      simp [Namespace.only, restoreOp, hr, Register.apply, Deployment.counts]
  · simp [Namespace.only, h]

/-- After the wait for the nodes the script exits only for a call that failed. -/
def Failed (env : Env Call) (status : Nat) : Prop := status ≠ 0 ∧ ∃ k, (env k).ok = false

theorem wp_check_failed {env : Env Call} {k : Call} {effect : Namespace → Namespace}
    {Q : Unit → World Call Namespace → Prop} {w : World Call Namespace}
    (h : Q () (w.record k (env k).secs (effect w.state))) :
    wp env (check k effect) Q (fun status _ => Failed env status) w := by
  rw [wp_check]
  split
  · exact h
  · rename_i hno
    exact ⟨Reply.code_ne hno, k, by simpa using hno⟩

theorem wp_capture_failed {env : Env Call} {k : Call}
    {Q : Reply → World Call Namespace → Prop} {w : World Call Namespace}
    (h : Q (env k) (w.record k (env k).secs w.state)) :
    wp env (capture k) Q (fun status _ => Failed env status) w := by
  rw [wp_capture]
  split
  · exact h
  · rename_i hno
    exact ⟨Reply.code_ne hno, k, by simpa using hno⟩

theorem runOps_restoreOps_nil (env : Env Call) (ns : Namespace) :
    ns.runOps (restoreOps env []) = ns := by
  have h : restoreOps env [] = fun _ => [] := funext fun n => if_neg List.not_mem_nil
  rw [h]
  exact Namespace.runOps_nil ns

theorem wp_restore {env : Env Call} {w : World Call Namespace} {d : String}
    (hd : d ∈ w.state.names) :
    wp env (restore d)
      (fun _ w' => w'.state = w.state.runOps (Namespace.only d [restoreOp env d]))
      (fun k _ => Failed env k) w := by
  rw [restore]
  simp only [wp_bind, wp_query, wp_state, record_state]
  exact wp_check_failed (scale_restored hd)

theorem wp_restoreLoop {env : Env Call} {w : World Call Namespace} {names : List String}
    (hnd : names.Nodup) (hn : ∀ d ∈ names, d ∈ w.state.names) :
    wp env (each names restore) (fun _ w' => w'.state = w.state.runOps (restoreOps env names))
      (fun k _ => Failed env k) w := by
  induction names generalizing w with
  | nil => simp [each, runOps_restoreOps_nil]
  | cons d names ih =>
      obtain ⟨hd, hnd⟩ := List.nodup_cons.mp hnd
      rw [each, wp_bind]
      refine wp_mono (wp_restore (hn d List.mem_cons_self)) (fun _ v hv => ?_) (fun _ _ h => h)
      have hn' : ∀ e ∈ names, e ∈ v.state.names := by
        intro e he
        rw [hv, Namespace.runOps_names]
        exact hn e (List.mem_cons_of_mem d he)
      refine wp_mono (ih hnd hn') (fun _ w' hw => ?_) (fun _ _ h => h)
      rw [hw, hv, Namespace.runOps_runOps]
      refine Namespace.runOps_congr fun n _ => ?_
      by_cases h : n = d
      · subst h
        simp [Namespace.only, restoreOps, hd]
      · simp [Namespace.only, restoreOps, h]

/-- The group of a Deployment is decided by what its pod template requests. -/
def gpuNames (ns : Namespace) : List String :=
  (ns.items.filter Deployment.isGpu).map Deployment.name

def otherNames (ns : Namespace) : List String :=
  (ns.items.filter fun x => !x.isGpu).map Deployment.name

theorem wp_classify {env : Env Call} {w : World Call Namespace} (xs : List Deployment)
    (hx : ∀ x ∈ xs, x ∈ w.state.items) (gpu other : List String) :
    wp env (classify (xs.map Deployment.name) (gpu, other))
      (fun r w' => w'.state = w.state ∧
        r = (gpu ++ (xs.filter Deployment.isGpu).map Deployment.name,
          other ++ (xs.filter fun x => !x.isGpu).map Deployment.name))
      (fun k _ => Failed env k) w := by
  induction xs generalizing w gpu other with
  | nil => simp [classify]
  | cons x xs ih =>
      have hx' : ∀ y ∈ xs, y ∈ w.state.items := fun y hy => hx y (List.mem_cons_of_mem x hy)
      rw [List.map_cons, classify, wp_bind]
      apply wp_capture_failed
      simp only [wp_bind, wp_state, record_state]
      rw [Namespace.find?_name (hx x List.mem_cons_self)]
      dsimp only
      cases hg : x.isGpu with
      | true =>
          simp only [if_true]
          refine wp_mono (ih (w := w.record _ _ w.state) hx' (gpu ++ [x.name]) other) ?_
            (fun _ _ h => h)
          intro r w' hpost
          obtain ⟨hw, hr⟩ := hpost
          exact ⟨hw, by simp [hr, hg]⟩
      | false =>
          simp only [Bool.false_eq_true, if_false]
          refine wp_mono (ih (w := w.record _ _ w.state) hx' gpu (other ++ [x.name])) ?_
            (fun _ _ h => h)
          intro r w' hpost
          obtain ⟨hw, hr⟩ := hpost
          exact ⟨hw, by simp [hr, hg]⟩

/-! ## The phases -/

def UncordonedIn (env : Env Call) (log : List (Entry Call Namespace)) (n : String) : Prop :=
  (env (.uncordon n)).ok = true ∧ ∃ e ∈ log, e.call = .uncordon n

def Uncordoned (env : Env Call) (log : List (Entry Call Namespace)) : Prop :=
  ∀ n ∈ workers, UncordonedIn env log n

instance (env : Env Call) (log : List (Entry Call Namespace)) :
    DecidablePred (UncordonedIn env log) :=
  fun _ => inferInstanceAs (Decidable (_ ∧ _))

instance (env : Env Call) (log : List (Entry Call Namespace)) : Decidable (Uncordoned env log) :=
  inferInstanceAs (Decidable (∀ n ∈ workers, UncordonedIn env log n))

def Waits : Call → Prop
  | .readyDeadline | .getReady _ _ | .readyClock _ _ => True
  | _ => False

def Early (k : Call) : Prop := Waits k ∨ ∃ n, k = .uncordon n

theorem waits_waitReady (deadline : Nat) (n : String) :
    (waitReady deadline n).All fun k _ => Waits k := by
  refine (all_waitUntil (fun i => trivial) fun i => ?_).bind fun r => ?_
  · exact (all_query trivial).bind fun r => all_pure _
  · cases r with
    | none => exact all_quit 1
    | some u => exact all_pure _

/-- When poll `i` of the node `n` has been answered, counted from the start of its wait. -/
def polledAt (env : Env Call) (n : String) : Nat → Nat
  | 0 => (env (.getReady n 0)).secs
  | i + 1 => polledAt env n i + 5 + (env (.getReady n (i + 1))).secs

def SeesReady (env : Env Call) (n : String) (i : Nat) : Prop :=
  grepq "True" (env (.getReady n i)).stdout = true

/-- Poll `i` is the first that shows `n` ready, and the script gets that far, when `late`
seconds of `READY_TIMEOUT` are gone before the wait for `n` begins. -/
structure ComesUp (env : Env Call) (n : String) (late i : Nat) : Prop where
  ready : SeesReady env n i
  earlier : ∀ j < i, ¬ SeesReady env n j ∧ late + polledAt env n j ≤ readyTimeout

/-- The nodes come up one after the other, within one deadline for them all. -/
def AllUp (env : Env Call) : List String → Nat → Prop
  | [], _ => True
  | n :: rest, late => ∃ i, ComesUp env n late i ∧ AllUp env rest (late + polledAt env n i)

theorem ComesUp.unique {env : Env Call} {n : String} {late i j : Nat} (h : ComesUp env n late i)
    (h' : ComesUp env n late j) : i = j := by
  rcases Nat.lt_trichotomy i j with hlt | heq | hgt
  · exact absurd h.ready (h'.earlier i hlt).1
  · exact heq
  · exact absurd h'.ready (h.earlier j hgt).1

theorem allUp_cons {env : Env Call} {n : String} {rest : List String} {late i : Nat}
    (h : ComesUp env n late i) :
    AllUp env (n :: rest) late ↔ AllUp env rest (late + polledAt env n i) := by
  constructor
  · intro hall
    obtain ⟨j, hj, hrest⟩ := hall
    rwa [h.unique hj]
  · exact fun hrest => ⟨i, h, hrest⟩

/-- A poll that comes after the deadline and does not show the node ready is the last. -/
theorem not_comesUp {env : Env Call} {n : String} {late i : Nat} (hno : ¬ SeesReady env n i)
    (hlate : readyTimeout < late + polledAt env n i) (earlier : ∀ j < i, ¬ SeesReady env n j)
    (j : Nat) : ¬ ComesUp env n late j := by
  intro h
  rcases Nat.lt_trichotomy j i with hlt | rfl | hgt
  · exact earlier j hlt h.ready
  · exact hno h.ready
  · exact absurd (h.earlier i hgt).2 (by omega)

/-- Iteration `i` of the wait for `n` begins. -/
structure AwaitsNode (env : Env Call) (s : Namespace) (t late : Nat) (n : String) (i : Nat)
    (w : World Call Namespace) : Prop where
  state : w.state = s
  clock : w.clock + (env (.getReady n i)).secs = t + late + polledAt env n i
  earlier : ∀ j < i, ¬ SeesReady env n j ∧ late + polledAt env n j ≤ readyTimeout

theorem AwaitsNode.next {env : Env Call} {s : Namespace} {t late : Nat} {n : String} {i : Nat}
    {w : World Call Namespace} (h : AwaitsNode env s t late n i w) (hno : ¬ SeesReady env n i)
    (hin : w.clock + (env (.getReady n i)).secs ≤ t + readyTimeout) :
    AwaitsNode env s t late n (i + 1)
      (((w.record (.getReady n i) (env (.getReady n i)).secs w.state).record (.readyClock n i) 0
        w.state).pass 5) where
  state := h.state
  clock := by
    have hc := h.clock
    simp only [pass_clock, record_clock, polledAt]
    omega
  earlier := by
    have hc := h.clock
    intro j hj
    rcases Nat.lt_succ_iff_lt_or_eq.mp hj with hlt | rfl
    · exact h.earlier j hlt
    · exact ⟨hno, by omega⟩

theorem wp_waitReady {env : Env Call} {s : Namespace} {t late : Nat} {n : String}
    {w : World Call Namespace} (hs : w.state = s) (hc : w.clock = t + late) :
    wp env (waitReady (t + readyTimeout) n)
      (fun _ v => v.state = s ∧ ∃ i, ComesUp env n late i ∧
        v.clock = t + (late + polledAt env n i))
      (fun k v => k ≠ 0 ∧ v.state = s ∧ ∀ i, ¬ ComesUp env n late i) w := by
  rw [waitReady, wp_bind]
  have hstart : AwaitsNode env s t late n 0 w :=
    ⟨hs, by rw [hc, polledAt], fun j hj => absurd hj (Nat.not_lt_zero j)⟩
  refine wp_mono (wp_waitUntil (Q := fun r v => v.state = s ∧ match r with
      | some _ => ∃ i, ComesUp env n late i ∧ v.clock = t + (late + polledAt env n i)
      | none => ∀ i, ¬ ComesUp env n late i) (E := fun _ _ => False)
    (AwaitsNode env s t late n) (by decide) (by omega) ?_ hstart) ?_ (fun _ _ h => h.elim)
  · intro i v hv
    have hclock := hv.clock
    rw [pollReady]
    simp only [wp_bind, wp_query, wp_pure, record_clock, record_state]
    refine ⟨Nat.le_add_right _ _, ?_⟩
    by_cases hready : grepq "True" (env (.getReady n i)).stdout = true
    · rw [if_pos hready]
      exact ⟨hv.state, i, ⟨hready, hv.earlier⟩, by omega⟩
    · rw [if_neg hready]
      refine ⟨fun hlate => ⟨hv.state, ?_⟩, fun hin => hv.next hready hin⟩
      exact not_comesUp hready (by omega) fun j hj => (hv.earlier j hj).1
  · intro r v hpost
    cases r with
    | none => exact ⟨Nat.one_ne_zero, hpost⟩
    | some u => exact hpost

theorem wp_waitAll {env : Env Call} {s : Namespace} {t : Nat} (nodes : List String)
    {late : Nat} {w : World Call Namespace} (hs : w.state = s) (hc : w.clock = t + late) :
    wp env (each nodes (waitReady (t + readyTimeout)))
      (fun _ v => v.state = s ∧ AllUp env nodes late)
      (fun k v => k ≠ 0 ∧ v.state = s ∧ ¬ AllUp env nodes late) w := by
  induction nodes generalizing late w with
  | nil => exact ⟨hs, trivial⟩
  | cons n rest ih =>
      rw [each, wp_bind]
      refine wp_mono (wp_waitReady hs hc) ?_ ?_
      · intro _ v hpost
        obtain ⟨hv, i, hup, hclock⟩ := hpost
        rw [allUp_cons hup]
        exact ih hv hclock
      · intro k v hpost
        obtain ⟨hk, hv, hnone⟩ := hpost
        refine ⟨hk, hv, fun hall => ?_⟩
        obtain ⟨i, hup, -⟩ := hall
        exact hnone i hup

theorem wp_uncordon {env : Env Call} {s : Namespace} {w : World Call Namespace}
    (hs : w.state = s) :
    wp env (each workers fun n => check (.uncordon n) id)
      (fun _ v => v.state = s ∧ Uncordoned env v.log)
      (fun k v => k ≠ 0 ∧ v.state = s ∧ ∃ n ∈ workers, (env (.uncordon n)).ok = false) w := by
  have step : ∀ n rest (v : World Call Namespace),
      (v.state = s ∧ n :: rest <:+ workers ∧ ∀ m ∈ workers, m ∈ n :: rest ∨
        UncordonedIn env v.log m) →
      wp env (check (.uncordon n) id)
        (fun _ v' => v'.state = s ∧ rest <:+ workers ∧ ∀ m ∈ workers, m ∈ rest ∨
          UncordonedIn env v'.log m)
        (fun k v' => k ≠ 0 ∧ v'.state = s ∧ ∃ n ∈ workers, (env (.uncordon n)).ok = false) v := by
    intro n rest v hpost
    obtain ⟨hv, hsuf, hm⟩ := hpost
    rw [wp_check]
    split
    · rename_i hok
      refine ⟨hv, (List.suffix_cons n rest).trans hsuf, fun m hmw => ?_⟩
      rcases hm m hmw with hmem | ⟨hmok, e, he, hc⟩
      · rcases List.mem_cons.mp hmem with rfl | hrest
        · exact .inr ⟨hok, ⟨.uncordon m, v.clock, v.state⟩, by simp, rfl⟩
        · exact .inl hrest
      · exact .inr ⟨hmok, e, List.mem_append_left _ he, hc⟩
    · rename_i hno
      exact ⟨Reply.code_ne hno, hv, n, hsuf.subset List.mem_cons_self, by simpa using hno⟩
  refine wp_mono (wp_each (fun rest v => v.state = s ∧ rest <:+ workers ∧
    ∀ m ∈ workers, m ∈ rest ∨ UncordonedIn env v.log m) workers step
    ⟨hs, List.suffix_rfl, fun m hm => .inl hm⟩) ?_ (fun _ _ h => h)
  intro _ v hpost
  obtain ⟨hv, -, hm⟩ := hpost
  exact ⟨hv, fun m hmw => (hm m hmw).resolve_left List.not_mem_nil⟩

/-- The script gets to its Deployment listing exactly with all workers uncordoned, and it gets
there unless a node stays down or an uncordon fails. -/
theorem wp_bringUp {env : Env Call} {controlPlane : String} {w : World Call Namespace}
    (hw : w.log = []) :
    wp env (bringUp controlPlane)
      (fun _ v => (v.state = w.state ∧ AllUp env (controlPlane :: workers) 0) ∧
        Uncordoned env v.log ∧ ∀ e ∈ v.log, Early e.call)
      (fun k v => (k ≠ 0 ∧ v.state = w.state ∧ (¬ AllUp env (controlPlane :: workers) 0 ∨
        ∃ k, (env k).ok = false)) ∧ ¬ Uncordoned env v.log) w := by
  have hwaits : ∀ e ∈ (w.record .readyDeadline 0 w.state).log, Waits e.call := by
    simp [hw, Waits]
  rw [bringUp]
  simp only [wp_bind, wp_now]
  have hclock : (w.record .readyDeadline 0 w.state).clock = w.clock + 0 := rfl
  have hready : wp env (each (controlPlane :: workers) (waitReady (w.clock + readyTimeout)))
      (fun _ v => v.state = w.state ∧ AllUp env (controlPlane :: workers) 0)
      (fun k v => k ≠ 0 ∧ v.state = w.state ∧ ¬ AllUp env (controlPlane :: workers) 0)
      (w.record .readyDeadline 0 w.state) := wp_waitAll (controlPlane :: workers) rfl hclock
  have hall : (each (controlPlane :: workers) (waitReady (w.clock + readyTimeout))).All
      fun k _ => Waits k := all_each _ fun n _ => waits_waitReady _ n
  refine wp_mono (wp_and_world (J := fun v => ∀ e ∈ v.log, Waits e.call) hready
    (hall.log env _ hwaits)) ?_ ?_
  · intro _ v hpost
    obtain ⟨⟨hv, hup⟩, hlog⟩ := hpost
    have hearly : (each workers fun n => check (.uncordon n) (id : Namespace → Namespace)).All
        fun k _ => Early k := all_each _ fun n _ => all_check (.inr ⟨n, rfl⟩)
    refine wp_mono (wp_and_world (J := fun v => ∀ e ∈ v.log, Early e.call) (wp_uncordon hv)
      (hearly.log env v fun e he => .inl (hlog e he))) ?_ ?_
    · intro _ v' hpost
      obtain ⟨⟨hs, hu⟩, he⟩ := hpost
      exact ⟨⟨hs, hup⟩, hu, he⟩
    · intro k v' hpost
      obtain ⟨⟨hk, hs, n, hn, hno⟩, -⟩ := hpost
      exact ⟨⟨hk, hs, .inr ⟨_, hno⟩⟩, fun hu => by simp [(hu n hn).1] at hno⟩
  · intro k v hpost
    obtain ⟨⟨hk, hs, hdown⟩, hlog⟩ := hpost
    refine ⟨⟨hk, hs, .inl hdown⟩, fun hu => ?_⟩
    obtain ⟨-, e, he, hc⟩ := hu "node1" (by simp [workers])
    have hno := hlog e he
    rw [hc] at hno
    exact hno

/-- The plugin on worker `n` has been seen ready with a non-zero allocatable. -/
def Observed (env : Env Call) (log : List (Entry Call Namespace)) (n : String) : Prop :=
  ∃ i, healthy (env (.getPlugin n i)) (env (.getAllocatable n i)) = true ∧
    (∃ e ∈ log, e.call = .getPlugin n i) ∧ ∃ e ∈ log, e.call = .getAllocatable n i

/-- At time `t`, `GPU_PLUGIN_TIMEOUT` has passed since the wait for the plugin began. -/
def TimedOut (log : List (Entry Call Namespace)) (t : Nat) : Prop :=
  ∃ e ∈ log, e.call = .gpuDeadline ∧ e.time + gpuPluginTimeout < t

def GateOpen (env : Env Call) (log : List (Entry Call Namespace)) (t : Nat) : Prop :=
  ∀ n ∈ workers, Observed env log n ∨ TimedOut log t

theorem Observed.mono {env : Env Call} {log log' : List (Entry Call Namespace)} {n : String}
    (h : Observed env log n) (hl : log <+: log') : Observed env log' n := by
  obtain ⟨i, hh, ⟨e, he, hc⟩, e', he', hc'⟩ := h
  exact ⟨i, hh, ⟨e, hl.subset he, hc⟩, e', hl.subset he', hc'⟩

theorem TimedOut.mono {log log' : List (Entry Call Namespace)} {t t' : Nat}
    (h : TimedOut log t) (hl : log <+: log') (ht : t ≤ t') : TimedOut log' t' := by
  obtain ⟨e, he, hc, hlt⟩ := h
  exact ⟨e, hl.subset he, hc, hlt.trans_le ht⟩

/-- The wait for the plugin has begun at time `t`, in the state `s`. -/
structure PluginWait (s : Namespace) (t : Nat) (w : World Call Namespace) : Prop where
  state : w.state = s
  clock : t ≤ w.clock
  started : ∃ e ∈ w.log, e.call = .gpuDeadline ∧ e.time = t

theorem PluginWait.later {s : Namespace} {t : Nat} {w w' : World Call Namespace}
    (h : PluginWait s t w) (hb : w.Before w') (hs : w'.state = w.state) : PluginWait s t w' := by
  obtain ⟨e, he, hc⟩ := h.started
  exact ⟨hs.trans h.state, h.clock.trans hb.clock, e, hb.log.subset he, hc⟩

theorem wp_waitPlugin {env : Env Call} {s : Namespace} {t : Nat} {n : String}
    {w : World Call Namespace} (hw : PluginWait s t w) :
    wp env (waitPlugin (t + gpuPluginTimeout) n)
      (fun _ v => PluginWait s t v ∧ w.Before v ∧ (Observed env v.log n ∨ TimedOut v.log v.clock))
      (fun _ _ => False) w := by
  have hc := hw.clock
  rw [waitPlugin, wp_bind]
  refine wp_mono (wp_waitUntil (Q := fun _ v => PluginWait s t v ∧ w.Before v ∧
      (Observed env v.log n ∨ TimedOut v.log v.clock)) (fun _ v => PluginWait s t v ∧ w.Before v)
    (by decide) (by omega) ?_ ⟨hw, .refl w⟩) (fun _ _ h => h) (fun _ _ h => h)
  intro i v hpost
  obtain ⟨hv, hb⟩ := hpost
  rw [pollPlugin]
  simp only [wp_bind, wp_query, wp_pure, record_state]
  have hb1 := v.before_record (.getPlugin n i) (env (.getPlugin n i)).secs v.state
  have hb2 := hb1.trans (World.before_record _ (.getAllocatable n i)
    (env (.getAllocatable n i)).secs v.state)
  refine ⟨hb2.clock, ?_⟩
  by_cases hh : healthy (env (.getPlugin n i)) (env (.getAllocatable n i)) = true
  · rw [if_pos hh]
    refine ⟨hv.later hb2 rfl, hb.trans hb2, .inl ⟨i, hh, ?_, ?_⟩⟩
    · exact ⟨⟨.getPlugin n i, v.clock, v.state⟩, by simp, rfl⟩
    · exact ⟨⟨.getAllocatable n i, _, v.state⟩, List.mem_append_right _ List.mem_cons_self, rfl⟩
  · rw [if_neg hh]
    have hb3 := hb2.trans (World.before_record _ (.gpuClock n i) 0 v.state)
    refine ⟨fun hlate => ⟨hv.later hb3 rfl, hb.trans hb3, .inr ?_⟩, fun _ => ?_⟩
    · obtain ⟨e, he, hcall, htime⟩ := (hv.later hb3 rfl).started
      exact ⟨e, he, hcall, by rw [htime]; exact hlate⟩
    · have hb4 := hb3.trans (World.before_pass _ 3)
      exact ⟨hv.later hb4 rfl, hb.trans hb4⟩

theorem wp_plugins {env : Env Call} {s : Namespace} {t : Nat} {w : World Call Namespace}
    (hw : PluginWait s t w) :
    wp env (each workers (waitPlugin (t + gpuPluginTimeout)))
      (fun _ v => v.state = s ∧ GateOpen env v.log v.clock) (fun _ _ => False) w := by
  refine wp_mono (wp_each (fun rest v => PluginWait s t v ∧ ∀ m ∈ workers, m ∈ rest ∨
    Observed env v.log m ∨ TimedOut v.log v.clock) workers ?_ ⟨hw, fun m hm => .inl hm⟩) ?_
    (fun _ _ h => h)
  · intro n rest v hpost
    obtain ⟨hv, hm⟩ := hpost
    refine wp_mono (wp_waitPlugin hv) ?_ (fun _ _ h => h)
    intro _ v' hpost
    obtain ⟨hv', hb, hn⟩ := hpost
    refine ⟨hv', fun m hmw => ?_⟩
    rcases hm m hmw with hmem | hseen | hlate
    · rcases List.mem_cons.mp hmem with rfl | hrest
      · exact .inr hn
      · exact .inl hrest
    · exact .inr (.inl (hseen.mono hb.log))
    · exact .inr (.inr (hlate.mono hb.log hb.clock))
  · intro _ v hpost
    obtain ⟨hv, hm⟩ := hpost
    exact ⟨hv.state, fun m hmw => (hm m hmw).resolve_left List.not_mem_nil⟩

theorem wp_restoreGpu {env : Env Call} {w : World Call Namespace} {gpu : List String}
    (hnd : gpu.Nodup) (hn : ∀ d ∈ gpu, d ∈ w.state.names) :
    wp env (restoreGpu gpu) (fun _ v => v.state = w.state.runOps (restoreOps env gpu))
      (fun k _ => Failed env k) w := by
  rw [restoreGpu]
  simp only [wp_bind, wp_now]
  have hstart : PluginWait w.state w.clock (w.record .gpuDeadline 0 w.state) :=
    ⟨rfl, le_rfl, ⟨.gpuDeadline, w.clock, w.state⟩, by simp, rfl, rfl⟩
  refine wp_mono (wp_plugins hstart) ?_ (fun _ _ h => h.elim)
  intro _ v hpost
  obtain ⟨hv, -⟩ := hpost
  rw [← hv]
  exact wp_restoreLoop hnd (by rw [hv]; exact hn)

theorem wp_rollout {env : Env Call} {s : Namespace} {w : World Call Namespace}
    {deployments : List String} (hs : w.state = s) :
    wp env (rollout deployments) (fun _ v => v.state = s) (fun k _ => Failed env k) w := by
  have hloop : wp env (each deployments fun d => tolerate (.rolloutStatus d))
      (fun _ v => v.state = s) (fun k _ => Failed env k) w :=
    wp_each (fun _ v => v.state = s) deployments (fun d rest v hv => by
      rw [wp_tolerate]; exact hv) hs
  rw [rollout, wp_bind]
  refine wp_mono hloop (fun _ v hv => ?_) (fun _ _ h => h)
  rw [wp_bind]
  apply wp_capture_failed
  rw [wp_bind, wp_when]
  split
  · apply wp_check_failed
    exact wp_check_failed hv
  · exact wp_check_failed hv

theorem gpuNames_nodup (ns : Namespace) : (gpuNames ns).Nodup :=
  ns.nodup.sublist (List.filter_sublist.map _)

theorem otherNames_nodup (ns : Namespace) : (otherNames ns).Nodup :=
  ns.nodup.sublist (List.filter_sublist.map _)

theorem gpuNames_subset (ns : Namespace) : ∀ d ∈ gpuNames ns, d ∈ ns.names :=
  fun _ hd => (List.filter_sublist.map _).subset hd

theorem otherNames_subset (ns : Namespace) : ∀ d ∈ otherNames ns, d ∈ ns.names :=
  fun _ hd => (List.filter_sublist.map _).subset hd

theorem restoreOps_groups (env : Env Call) {ns : Namespace} {x : Deployment} (hx : x ∈ ns.items) :
    restoreOps env (otherNames ns) x.name ++ restoreOps env (gpuNames ns) x.name =
      restoreOps env ns.names x.name := by
  have hgpu : x.name ∈ gpuNames ns ↔ x.isGpu = true := by
    constructor
    · intro h
      obtain ⟨y, hy, hn⟩ := List.mem_map.mp h
      obtain ⟨hy, hg⟩ := List.mem_filter.mp hy
      exact Namespace.eq_of_name hy hx hn ▸ hg
    · exact fun h => List.mem_map.mpr ⟨x, List.mem_filter.mpr ⟨hx, h⟩, rfl⟩
  have hother : x.name ∈ otherNames ns ↔ x.isGpu = false := by
    constructor
    · intro h
      obtain ⟨y, hy, hn⟩ := List.mem_map.mp h
      obtain ⟨hy, hg⟩ := List.mem_filter.mp hy
      exact Namespace.eq_of_name hy hx hn ▸ by simpa using hg
    · exact fun h => List.mem_map.mpr ⟨x, List.mem_filter.mpr ⟨hx, by simpa using h⟩, rfl⟩
  have hall : x.name ∈ ns.names := Namespace.mem_names.mpr ⟨x, hx, rfl⟩
  unfold restoreOps
  cases hg : x.isGpu <;> simp [hgpu, hother, hg, hall]

/-- What a run that reaches its end has done to the Deployment `n`. -/
def finishedOps (env : Env Call) (names : List String) (n : String) : List (Op Nat) :=
  if (env .getDeployments).ok then restoreOps env names n else []

theorem wp_restoreGroups {env : Env Call} {s : Namespace} {w : World Call Namespace}
    (hs : w.state = s) (deployments : List String) :
    wp env (do
      when (!(otherNames s).isEmpty) (each (otherNames s) restore)
      when (!(gpuNames s).isEmpty) (restoreGpu (gpuNames s))
      rollout deployments)
      (fun _ v => v.state = s.runOps (restoreOps env s.names)) (fun k _ => Failed env k) w := by
  have hother : wp env (when (!(otherNames s).isEmpty) (each (otherNames s) restore))
      (fun _ v => v.state = s.runOps (restoreOps env (otherNames s)))
      (fun k _ => Failed env k) w := by
    rw [wp_when]
    split
    · rw [← hs]
      exact wp_restoreLoop (otherNames_nodup _) (otherNames_subset _)
    · rename_i he
      rw [show otherNames s = [] by simpa using he, runOps_restoreOps_nil]
      exact hs
  have hgpu : ∀ v : World Call Namespace, v.state.names = s.names →
      wp env (when (!(gpuNames s).isEmpty) (restoreGpu (gpuNames s)))
        (fun _ v' => v'.state = v.state.runOps (restoreOps env (gpuNames s)))
        (fun k _ => Failed env k) v := by
    intro v hv
    rw [wp_when]
    split
    · exact wp_restoreGpu (gpuNames_nodup s) (by rw [hv]; exact gpuNames_subset s)
    · rename_i he
      rw [show gpuNames s = [] by simpa using he, runOps_restoreOps_nil]
  rw [wp_bind]
  refine wp_mono hother (fun _ v hv => ?_) (fun _ _ h => h)
  rw [wp_bind]
  refine wp_mono (hgpu v (by rw [hv, Namespace.runOps_names])) (fun _ v' hv' => wp_rollout ?_)
    (fun _ _ h => h)
  rw [hv', hv, Namespace.runOps_runOps]
  refine Namespace.runOps_congr fun n hn => ?_
  obtain ⟨x, hx, rfl⟩ := Namespace.mem_names.mp hn
  exact restoreOps_groups env hx

theorem wp_getDeployments {env : Env Call} {w : World Call Namespace}
    {Q : List String → World Call Namespace → Prop} {E : Nat → World Call Namespace → Prop} :
    wp env getDeployments Q E w ↔
      Q (if (env .getDeployments).ok then w.state.names else [])
        (w.record .getDeployments (env .getDeployments).secs w.state) := by
  simp only [getDeployments, wp_bind, wp_query, wp_state, wp_pure, record_state]

theorem wp_restoreAll {env : Env Call} (w : World Call Namespace) :
    wp env restoreAll (fun _ v => v.state = w.state.runOps (finishedOps env w.state.names))
      (fun k _ => Failed env k) w := by
  rw [restoreAll, wp_bind, wp_getDeployments]
  by_cases hl : (env .getDeployments).ok = true
  · have hops : finishedOps env w.state.names = restoreOps env w.state.names :=
      funext fun n => if_pos hl
    rw [if_pos hl, hops, wp_bind]
    refine wp_mono (wp_classify (w := w.record .getDeployments _ w.state) w.state.items
      (fun x hx => hx) [] []) ?_ (fun _ _ h => h)
    intro groups v hpost
    obtain ⟨hv, rfl⟩ := hpost
    exact wp_restoreGroups hv _
  · have hops : w.state.runOps (finishedOps env w.state.names) = w.state := by
      rw [show finishedOps env w.state.names = fun _ => [] from funext fun n => if_neg hl]
      exact Namespace.runOps_nil _
    rw [if_neg hl, hops]
    simp only [classify, wp_bind, wp_pure, wp_when, List.isEmpty_nil, Bool.not_true,
      Bool.false_eq_true, if_false]
    exact wp_rollout rfl

/-! ## The whole run -/

/-- One execution of the script. -/
structure Run where
  controlPlane : String
  env : Env Call
  startedAt : Nat

def Run.outcome (r : Run) (ns : Namespace) : Outcome Call Namespace Unit :=
  run r.env (clusterStart r.controlPlane) (World.boot ns r.startedAt)

/-- Every node is seen ready before the run gives up on it. -/
def Run.NodesUp (r : Run) : Prop := AllUp r.env (r.controlPlane :: workers) 0

theorem wp_clusterStart (r : Run) (ns : Namespace) :
    wp r.env (clusterStart r.controlPlane)
      (fun _ v => v.state = ns.runOps (finishedOps r.env ns.names) ∧ r.NodesUp)
      (fun k v => k ≠ 0 ∧ ((v.state = ns ∧ ¬ r.NodesUp) ∨ ∃ k, (r.env k).ok = false))
      (World.boot ns r.startedAt) := by
  rw [clusterStart, wp_bind]
  refine wp_mono (wp_bringUp rfl) ?_ ?_
  · intro _ v hpost
    obtain ⟨⟨hv, hup⟩, -, -⟩ := hpost
    have hs : v.state = ns := hv
    rw [← hs]
    exact wp_mono (wp_restoreAll v) (fun _ _ h => ⟨h, hup⟩) (fun _ _ h => ⟨h.1, .inr h.2⟩)
  · intro k v hpost
    obtain ⟨⟨hk, hv, hdown⟩, -⟩ := hpost
    exact ⟨hk, hdown.imp_left fun h => ⟨hv, h⟩⟩

/-- Whatever its commands reply, the script ends. -/
theorem Run.ends (r : Run) (ns : Namespace) : ∃ s, (r.outcome ns).status = some s :=
  wp_ends (wp_clusterStart r ns)

theorem Run.state (r : Run) (ns : Namespace) (h : (r.outcome ns).status = some 0) :
    (r.outcome ns).world.state = ns.runOps (finishedOps r.env ns.names) :=
  wp_status (J := fun v => v.state = ns.runOps (finishedOps r.env ns.names))
    (wp_clusterStart r ns) h (fun _ _ _ hq => hq.1) (fun _ he => nomatch he.1)

/-- A run in which no call fails restores everything or, with a node that stays down, nothing. -/
theorem Run.state_of_calls (r : Run) (ns : Namespace) (h : ∀ k, (r.env k).ok = true) :
    (r.NodesUp → (r.outcome ns).world.state = ns.runOps (finishedOps r.env ns.names)) ∧
      (¬ r.NodesUp → (r.outcome ns).world.state = ns) := by
  refine wp_world (J := fun v => (r.NodesUp → v.state = ns.runOps (finishedOps r.env ns.names)) ∧
    (¬ r.NodesUp → v.state = ns)) (wp_mono (wp_clusterStart r ns) ?_ ?_)
  · intro _ v hpost
    exact ⟨fun _ => hpost.1, fun hdown => absurd hpost.2 hdown⟩
  · intro k v hpost
    obtain ⟨-, ⟨hv, hdown⟩ | ⟨k, hno⟩⟩ := hpost
    · exact ⟨fun hup => absurd hup hdown, fun _ => hv⟩
    · simp [h k] at hno

end SpeechK8s.Cluster.Start
