import SpeechK8s.Cluster.Quiesce

/-!
# The end of cluster-stop.sh

With `--poweroff` the script ends by shutting the nodes down over SSH. That cannot be undone from
where it runs, so what matters is when it may happen, and in which order.
-/
namespace SpeechK8s.Cluster.Stop
open Script

def IsShutdown : Call → Prop
  | .shutdown _ => True
  | _ => False

/-- The operator has typed `yes`. -/
def SaysYes (env : Env Call) : Prop := (env .readReply).line = some "yes"

/-- The script gets from the first cordon to the first shutdown. -/
structure Evacuates (env : Env Call) (o : Options) : Prop where
  cordoned : ∀ n ∈ workers, (env (.cordon n)).ok = true
  drained : ∀ n ∈ workers, (env (.drain n)).ok = true
  listed : (env .getPodsWide).ok = true
  asked : o.poweroff = true
  confirmed : o.confirm = true ∨ SaysYes env

/-- The commands from the first cordon to the last shutdown. -/
def poweroffCalls (o : Options) (controlPlane : String) : List Call :=
  workers.map .cordon ++ workers.map .drain ++ [.getPodsWide] ++
    (if o.confirm then [] else [.readReply]) ++
    (workers.map .shutdown ++ [.shutdown controlPlane])

/-- From `w` to `w'` no node is shut down. -/
def Spares (w w' : World Call Namespace) : Prop :=
  ∃ ks, w.Adds ks w' ∧ ∀ k ∈ ks, ¬ IsShutdown k

theorem spares_map {ι : Type} {k : ι → Call} {xs : List ι} {w w' : World Call Namespace}
    (hk : ∀ x, ¬ IsShutdown (k x)) (h : w.Adds (xs.map k) w') : Spares w w' := by
  refine ⟨_, h, fun c hc => ?_⟩
  obtain ⟨x, -, rfl⟩ := List.mem_map.mp hc
  exact hk x

theorem Spares.trans {u v w : World Call Namespace} (h : Spares u v) (h' : Spares v w) :
    Spares u w := by
  obtain ⟨ks, hks, hno⟩ := h
  obtain ⟨ls, hls, hno'⟩ := h'
  refine ⟨ks ++ ls, hks.trans hls, fun k hk => ?_⟩
  rcases List.mem_append.mp hk with hk | hk
  · exact hno k hk
  · exact hno' k hk

theorem spares_record {k : Call} (hk : ¬ IsShutdown k) (w : World Call Namespace) (n : Nat) :
    Spares w (w.record k n w.state) :=
  ⟨[k], w.adds_record k n, by simpa using hk⟩

section
variable {env : Env Call} {o : Options} {controlPlane : String}

theorem wp_shutdowns (v : World Call Namespace) :
    wp env (do each workers fun n => tolerate (.shutdown n); tolerate (.shutdown controlPlane))
      (fun _ w => v.Adds (workers.map .shutdown ++ [.shutdown controlPlane]) w)
      (fun _ _ => False) v := by
  rw [wp_bind]
  refine wp_mono (wp_each_tolerate Call.shutdown workers) (fun _ u hu => ?_) (fun _ _ h => h)
  rw [wp_tolerate]
  exact hu.trans (u.adds_record _ _)

theorem wp_poweroff_calls (v : World Call Namespace) :
    wp env (poweroff o controlPlane)
      (fun _ w => (o.poweroff = true ∧ (o.confirm = true ∨ SaysYes env)) ∧
        v.Adds ((if o.confirm then [] else [.readReply]) ++
          (workers.map .shutdown ++ [.shutdown controlPlane])) w)
      (fun _ w => ¬ (o.poweroff = true ∧ (o.confirm = true ∨ SaysYes env)) ∧ Spares v w) v := by
  rw [poweroff, wp_bind, wp_when]
  cases hp : o.poweroff with
  | false => exact ⟨fun h => Bool.false_ne_true h.1, [], .refl v, by simp⟩
  | true =>
      simp only [Bool.not_true, Bool.false_eq_true, if_false, true_and]
      rw [wp_bind, wp_when]
      cases hc : o.confirm with
      | true =>
          simp only [Bool.not_true, Bool.false_eq_true, if_false, true_or, true_and, if_true,
            List.nil_append]
          exact wp_mono (wp_shutdowns v) (fun _ _ h => h) (fun _ _ h => h.elim)
      | false =>
          have hread := v.adds_record .readReply (env .readReply).secs
          simp only [Bool.not_false, if_true, Bool.false_eq_true, if_false, false_or, confirm,
            wp_bind, wp_query, wp_when, wp_quit]
          split
          · rename_i hno
            exact ⟨by simpa [SaysYes] using hno, spares_record id v _⟩
          · rename_i hyes
            have hoff : wp env (do
                each workers fun n => tolerate (.shutdown n); tolerate (.shutdown controlPlane))
                (fun _ w => (v.record .readReply (env .readReply).secs v.state).Adds
                  (workers.map .shutdown ++ [.shutdown controlPlane]) w) (fun _ _ => False)
                (v.record .readReply (env .readReply).secs v.state) := wp_shutdowns _
            rw [← wp_bind]
            refine wp_mono hoff (fun _ w hw => ?_) (fun _ _ h => h.elim)
            exact ⟨by simpa [SaysYes] using hyes, hread.trans hw⟩

/-- From the first cordon on, a run shuts the nodes down if nothing is in its way, and with
these commands. -/
theorem wp_evacuate_calls (v : World Call Namespace) :
    wp env (evacuate o controlPlane)
      (fun _ w => Evacuates env o ∧ v.Adds (poweroffCalls o controlPlane) w)
      (fun _ w => ¬ Evacuates env o ∧ Spares v w) v := by
  rw [evacuate, wp_bind]
  refine wp_mono (wp_each_check Call.cordon workers) (fun _ a ha => ?_) (fun _ a ha => ?_)
  · obtain ⟨hcordon, hcordoned⟩ := ha
    have hspares : Spares v a := spares_map (fun _ => id) hcordon
    rw [wp_bind]
    refine wp_mono (wp_each_check Call.drain workers) (fun _ b hb => ?_) (fun _ b hb => ?_)
    · obtain ⟨hdrain, hdrained⟩ := hb
      have hspares : Spares v b := hspares.trans (spares_map (fun _ => id) hdrain)
      have hpods := b.adds_record .getPodsWide (env .getPodsWide).secs
      rw [wp_bind, wp_check]
      split
      · rename_i hlisted
        refine wp_mono (wp_poweroff_calls _) (fun _ w hw => ?_) (fun _ w hw => ?_)
        · obtain ⟨⟨hasked, hconfirmed⟩, hw⟩ := hw
          refine ⟨⟨hcordoned, hdrained, hlisted, hasked, hconfirmed⟩, ?_⟩
          have hall := ((hcordon.trans hdrain).trans hpods).trans hw
          rwa [← List.append_assoc] at hall
        · obtain ⟨hno, hw⟩ := hw
          exact ⟨fun h => hno ⟨h.asked, h.confirmed⟩,
            (hspares.trans (spares_record id b _)).trans hw⟩
      · rename_i hno
        exact ⟨fun h => hno h.listed, hspares.trans (spares_record id b _)⟩
    · obtain ⟨ys, hdrain, n, hn, hno⟩ := hb
      refine ⟨fun h => ?_, hspares.trans (spares_map (fun _ => id) hdrain)⟩
      exact Bool.false_ne_true (hno.symm.trans (h.drained n hn))
  · obtain ⟨ys, hcordon, n, hn, hno⟩ := ha
    refine ⟨fun h => ?_, spares_map (fun _ => id) hcordon⟩
    exact Bool.false_ne_true (hno.symm.trans (h.cordoned n hn))

end

/-! ## The whole run -/

theorem quiesce_keeps_nodes (o : Options) : (quiesce o).All fun k _ => ¬ IsShutdown k := by
  refine (all_when (all_tolerate id)).bind fun _ => ?_
  refine All.bind ((all_query id).bind fun r => all_state.bind fun ns => all_pure _) fun names => ?_
  refine (all_each names fun d _ => (sweep_recordAndScale d).mono ?_).bind fun _ => all_when ?_
  · intro k _ hk hc
    cases k <;> first | exact hk | exact hc
  · refine (all_now id).bind fun t => (all_waitUntil (fun i => id) fun i => ?_).bind fun r => ?_
    · exact (all_query id).bind fun r => all_pure _
    · cases r with
      | none => exact all_check id
      | some u => exact all_pure _

/-- The run gets to the first cordon, with the world then `v`, and on from there to a shutdown. -/
structure MayPowerOff (r : Run) (ns : Namespace) (o : Options) (v : World Call Namespace) :
    Prop where
  parsed : parseArgs r.args ⟨false, false, false⟩ = some o
  quiesced : run r.env (quiesce o) (World.boot ns r.startedAt) = .done () v
  evacuates : Evacuates r.env o

/-- How a run shuts the nodes down that cordons the first worker at `v`. -/
structure PowersOff (r : Run) (ns : Namespace) (o : Options) (v : World Call Namespace) : Prop where
  scaled : (r.env .getDeployments).ok = true → ∀ x ∈ ns.items,
    (v.state.find? x.name).map Deployment.counts = some ⟨0, some x.replicas⟩
  calls : v.Adds (poweroffCalls o r.controlPlane) (r.outcome ns).world

theorem outcome_eq {r : Run} {o : Options} (ns : Namespace)
    (h : parseArgs r.args ⟨false, false, false⟩ = some o) :
    r.outcome ns = match run r.env (quiesce o) (World.boot ns r.startedAt) with
      | .done _ v => run r.env (evacuate o r.controlPlane) v
      | .exit s v => .exit s v
      | .hang v => .hang v := by
  have hscript : r.outcome ns = run r.env (do quiesce o; evacuate o r.controlPlane)
      (World.boot ns r.startedAt) := by
    simp only [Run.outcome, clusterStop, h]
  rw [hscript, run_bind]
  cases run r.env (quiesce o) (World.boot ns r.startedAt) <;> rfl

/-- What a run that gets to the first cordon has behind it, and what it goes on to do. -/
theorem quiesced_then {r : Run} {ns : Namespace} {o : Options} {v : World Call Namespace}
    (hp : parseArgs r.args ⟨false, false, false⟩ = some o)
    (hq : run r.env (quiesce o) (World.boot ns r.startedAt) = .done () v) :
    Quiesced r.env (World.boot ns r.startedAt) v ∧
      (Evacuates r.env o ∧ v.Adds (poweroffCalls o r.controlPlane) (r.outcome ns).world ∨
        ¬ Evacuates r.env o ∧ Spares v (r.outcome ns).world) := by
  have hwp : wp r.env (quiesce o) (fun _ v => Quiesced r.env (World.boot ns r.startedAt) v)
      (fun s v => v.state = ns.runOps (sweepOps r.env ns.names) ∧ s ≠ 0)
      (World.boot ns r.startedAt) := wp_quiesce rfl
  unfold wp at hwp
  rw [hq] at hwp
  have hcalls : wp r.env (evacuate o r.controlPlane)
      (fun _ w => Evacuates r.env o ∧ v.Adds (poweroffCalls o r.controlPlane) w)
      (fun _ w => ¬ Evacuates r.env o ∧ Spares v w) v := wp_evacuate_calls v
  have hout := outcome_eq ns hp
  rw [hq] at hout
  refine ⟨hwp, ?_⟩
  rw [hout]
  exact wp_world (J := fun w => Evacuates r.env o ∧ v.Adds (poweroffCalls o r.controlPlane) w ∨
    ¬ Evacuates r.env o ∧ Spares v w) (wp_mono hcalls (fun _ _ => .inl) (fun _ _ => .inr))

/-- A run that shuts a node down has got that far. -/
theorem mayPowerOff_of_shutdown {r : Run} {ns : Namespace}
    (h : ∃ e ∈ (r.outcome ns).world.log, IsShutdown e.call) : ∃ o v, MayPowerOff r ns o v := by
  obtain ⟨e, he, hshutdown⟩ := h
  cases hp : parseArgs r.args ⟨false, false, false⟩ with
  | none =>
      simp only [Run.outcome, clusterStop, hp] at he
      exact nomatch he
  | some o =>
      have hquiesce := (quiesce_keeps_nodes o).log r.env (World.boot ns r.startedAt)
        (fun x hx => nomatch hx)
      have hout := outcome_eq ns hp
      cases hq : run r.env (quiesce o) (World.boot ns r.startedAt) with
      | done u v =>
          rw [hq] at hquiesce
          obtain ⟨-, ⟨hevacuates, -⟩ | ⟨-, ks, ⟨-, es, hlog, hmap, -⟩, hno⟩⟩ :=
            quiesced_then hp hq
          · exact ⟨o, v, hp, hq, hevacuates⟩
          · rw [hlog] at he
            rcases List.mem_append.mp he with he | he
            · exact absurd hshutdown (hquiesce e he)
            · exact absurd hshutdown (hno e.call (hmap ▸ List.mem_map_of_mem he))
      | exit s v | hang v =>
          rw [hq] at hout hquiesce
          rw [hout] at he
          exact absurd hshutdown (hquiesce e he)

theorem MayPowerOff.powersOff {r : Run} {ns : Namespace} {o : Options}
    {v : World Call Namespace} (h : MayPowerOff r ns o v) : PowersOff r ns o v := by
  obtain ⟨hquiesced, ⟨-, hcalls⟩ | ⟨hno, -⟩⟩ := quiesced_then h.parsed h.quiesced
  · exact ⟨fun hl x hx => hquiesced.scaled hl hx, hcalls⟩
  · exact absurd h.evacuates hno

theorem PowersOff.shutdown {r : Run} {ns : Namespace} {o : Options} {v : World Call Namespace}
    (h : PowersOff r ns o v) : ∃ e ∈ (r.outcome ns).world.log, IsShutdown e.call := by
  obtain ⟨es, hlog, hcalls, -⟩ := h.calls.log
  have hmem : Call.shutdown r.controlPlane ∈ es.map Entry.call := by
    rw [hcalls]
    simp [poweroffCalls]
  obtain ⟨e, he, hcall⟩ := List.mem_map.mp hmem
  refine ⟨e, ?_, ?_⟩
  · rw [hlog]
    exact List.mem_append_right _ he
  · rw [hcall]
    trivial

/-- A run shuts a node down exactly when it gets to the first cordon, all workers are cordoned and
drained and the pods listed, and the operator has asked for it and agreed. By then every Deployment
that it could list is at 0 with its count saved, and it ends with all workers and the control
plane, in this order. -/
theorem poweroff_iff (r : Run) (ns : Namespace) :
    ((∃ e ∈ (r.outcome ns).world.log, IsShutdown e.call) ↔ ∃ o v, MayPowerOff r ns o v) ∧
      ∀ o v, MayPowerOff r ns o v → PowersOff r ns o v := by
  refine ⟨⟨mayPowerOff_of_shutdown, ?_⟩, fun o v h => h.powersOff⟩
  rintro ⟨o, v, h⟩
  exact h.powersOff.shutdown

end SpeechK8s.Cluster.Stop
