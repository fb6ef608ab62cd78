import SpeechK8s.Cluster.Deploy

/-!
# Installing and cleaning up, over and over

The scripts are run by hand, in any order, and any run may fail anywhere. What a cluster holds of
this project after such a history is decided by the last run that has gone through.
-/
namespace SpeechK8s.Cluster.Deploy
open Script

inductive Job where
  | deploy (args : List String)
  | install
  | cleanup (args : List String)

/-- The variable `NAMESPACE` is not set. -/
def Job.script : Job → Sh Unit
  | .deploy args => Deploy.deploy args
  | .install => Deploy.install
  | .cleanup args => Deploy.cleanup "speech" args

/-- What has to be there before the run. -/
def Job.base : Job → List Object
  | .deploy args =>
      match phases (phaseArg args) with
      | some [p] => p.base
      | _ => []
  | .install | .cleanup _ => []

abbrev Visit := Script.Visit Job Call

def everything : List Object := objectsOf allPhases

/-! ## The order -/

section
variable {env : Env Call} {w : World Call (Finset Object)}

/-- A run of deploy.sh that goes through has put all of its phases into the cluster. -/
theorem wp_deploy {args : List String} {os : List Object} (hbase : (Job.deploy args).base = os)
    (h : Standing os w) :
    wp env (deploy args) (fun _ v => ∃ ps, phases (phaseArg args) = some ps ∧
      Standing (objectsOf ps) v) Stopped w := by
  subst hbase
  unfold deploy
  cases hp : phases (phaseArg args) with
  | none => exact ⟨Nat.one_ne_zero, h.founded⟩
  | some ps =>
      have horderly : orderly (Job.deploy args).base (ps.flatMap Phase.manifests) = true := by
        rcases phases_cases hp with rfl | ⟨p, rfl⟩
        · have hnone : (Job.deploy args).base = [] := by
            simp only [Job.base, hp]
            rfl
          rw [hnone]
          exact orderly_all
        · have hone : (Job.deploy args).base = p.base := by simp only [Job.base, hp]
          rw [hone, List.flatMap_singleton]
          exact p.orderly_base
      exact wp_mono (wp_phases horderly h) (fun _ v hv => ⟨ps, rfl, hv⟩) (fun _ _ h => h)

theorem wp_install (h : ∀ e ∈ w.log, Founded e) :
    wp env install (fun _ v => Standing everything v) Stopped w := by
  have hstart : Standing [] w := ⟨h, nofun⟩
  rw [install, wp_bind, wp_query, wp_bind]
  refine wp_mono (wp_deploy rfl (hstart.record _ trivial nofun)) (fun _ v hv => ?_)
    (fun _ _ h => h)
  obtain ⟨ps, hps, hv⟩ := hv
  obtain rfl : allPhases = ps := Option.some.inj hps
  rw [wp_bind]
  have hrollouts : ∀ d ∈ rollouts, inSpeech .deployment d ∈ everything := by decide +kernel
  refine wp_mono (wp_each (fun rest v => rest ⊆ rollouts ∧ Standing everything v) rollouts ?_
    ⟨List.Subset.refl _, hv⟩) (fun _ u hu => ?_) (fun _ _ h => h)
  · intro d rest u ⟨hrest, hu⟩
    have hd : inSpeech .deployment d ∈ u.state :=
      hu.there _ (hrollouts d (hrest List.mem_cons_self))
    rw [wp_check]
    split
    · refine ⟨fun x hx => hrest (List.mem_cons_of_mem d hx), ?_⟩
      exact hu.record (k := .rolloutStatus d) _ hd hu.there
    · rename_i hno
      exact ⟨Reply.code_ne hno, (hu.record (k := .rolloutStatus d) _ hd hu.there).founded⟩
  · rw [wp_bind, wp_query]
    exact hu.2.record _ trivial hu.2.there

end

/-- Whatever fails on the way, each object is applied where all that its manifest needs is there,
and only Deployments that are there are waited for. -/
theorem commands_founded (v : Visit) {s : Finset Object} (hbase : ∀ o ∈ v.job.base, o ∈ s) :
    ∀ e ∈ (v.outcome Job.script s).world.log, Founded e := by
  obtain ⟨job, env⟩ := v
  cases job with
  | deploy args =>
      have hboot : Standing (Job.deploy args).base (World.boot s 0 : World Call (Finset Object)) :=
        ⟨nofun, hbase⟩
      have hdeploy : wp env (deploy args) (fun _ v => ∃ ps, phases (phaseArg args) = some ps ∧
          Standing (objectsOf ps) v) Stopped (World.boot s 0) := wp_deploy rfl hboot
      refine wp_world (wp_mono hdeploy (fun _ v hv => ?_) (fun _ _ h => h.2))
      obtain ⟨ps, -, hv⟩ := hv
      exact hv.founded
  | install =>
      have hinstall : wp env install (fun _ v => Standing everything v) Stopped (World.boot s 0) :=
        wp_install nofun
      exact wp_world (wp_mono hinstall (fun _ v hv => hv.founded) (fun _ _ h => h.2))
  | cleanup args =>
      have hfounded : (cleanup "speech" args).All fun k _ => ∀ n s, Founded ⟨k, n, s⟩ := by
        refine (all_when ?_).bind fun _ => ?_
        · exact (all_query fun _ _ => trivial).bind fun _ => all_when (all_quit 1)
        · refine (all_check fun _ _ => trivial).bind fun _ => ?_
          refine (all_check fun _ _ => trivial).bind fun _ => ?_
          refine (all_check fun _ _ => trivial).bind fun _ => ?_
          exact all_check fun _ _ => trivial
      intro e he
      exact hfounded.log env (World.boot s 0) nofun e he e.time e.before

/-! ## Histories -/

/-- A run of install.sh, or one of deploy.sh for all phases, that ends with status 0. -/
def Installs (v : Visit) (s : Finset Object) : Prop :=
  (v.outcome Job.script s).status = some 0 ∧
    match v.job with
    | .deploy args => phaseArg args = "all"
    | .install => True
    | .cleanup _ => False

/-- A run of cleanup.sh that ends with status 0. -/
def Cleans (v : Visit) (s : Finset Object) : Prop :=
  (v.outcome Job.script s).status = some 0 ∧ ∃ args, v.job = .cleanup args

/-- Not of this project, and not in its namespace. -/
def Foreign (o : Object) : Prop := o.ns ≠ some "speech" ∧ o ∉ everything

/-- The scripts that only apply. -/
def Job.Applies : Job → Prop
  | .deploy _ | .install => True
  | .cleanup _ => False

/-- The command changes nothing, or puts an object of the project there. -/
def Adds (_ : Call) (effect : Finset Object → Finset Object) : Prop :=
  effect = id ∨ ∃ o ∈ everything, effect = insert o

/-- The command changes nothing, or takes away Traefik or the namespace. -/
def Removes (_ : Call) (effect : Finset Object → Finset Object) : Prop :=
  effect = id ∨ (∃ o ∈ traefikWide, effect = (·.erase o)) ∨ effect = deleteNamespace "speech"

theorem all_deploy (args : List String) : (deploy args).All Adds := by
  unfold deploy
  cases hp : phases (phaseArg args) with
  | none => exact all_quit 1
  | some ps =>
      have hsub : ∀ p ∈ ps, p ∈ allPhases := fun p _ => by cases p <;> decide
      refine all_each ps fun p hp => all_each p.manifests fun m hm => ?_
      refine (all_attemptEach m.objects (fun o ho => .inr ⟨o, ?_, rfl⟩) true).bind fun ok =>
        all_when (all_quit 1)
      exact List.mem_flatMap.mpr ⟨p, hsub p hp, List.mem_flatMap.mpr ⟨m, hm, ho⟩⟩

theorem all_install : install.All Adds := by
  refine (all_query (.inl rfl)).bind fun _ => (all_deploy ["all"]).bind fun _ => ?_
  refine (all_each rollouts fun d _ => all_check (.inl rfl)).bind fun _ => ?_
  exact (all_query (.inl rfl)).bind fun _ => all_pure _

theorem all_applies {job : Job} (h : job.Applies) : job.script.All Adds := by
  cases job with
  | deploy args => exact all_deploy args
  | install => exact all_install
  | cleanup args => exact h.elim

theorem all_cleanup (args : List String) : (cleanup "speech" args).All Removes := by
  refine (all_when ?_).bind fun _ => ?_
  · exact (all_query (.inl rfl)).bind fun _ => all_when (all_quit 1)
  · refine (all_check (.inr (.inr rfl))).bind fun _ => ?_
    have herase : ∀ o ∈ traefikWide, (deleteObject o).All Removes := fun o ho =>
      all_check (.inr (.inl ⟨o, ho, rfl⟩))
    exact (herase _ (by decide)).bind fun _ => (herase _ (by decide)).bind fun _ =>
      herase _ (by decide)

/-- What cleanup.sh does not take away. -/
def kept : List Object :=
  [localSsd, clusterWide .persistentVolume "models-node2",
    clusterWide .persistentVolume "models-node3"]

/-- Where a cluster that was `s` may get to. -/
structure Descends (s t : Finset Object) : Prop where
  foreign : ∀ o, Foreign o → (o ∈ t ↔ o ∈ s)
  known : ∀ o ∈ t, o ∈ s ∨ o ∈ everything
  kept : ∀ o ∈ kept, o ∈ s → o ∈ t

theorem Descends.refl (s : Finset Object) : Descends s s :=
  ⟨fun _ _ => Iff.rfl, fun _ => .inl, fun _ _ => id⟩

theorem Descends.trans {s t u : Finset Object} (h : Descends s t) (h' : Descends t u) :
    Descends s u := by
  refine ⟨fun o ho => (h'.foreign o ho).trans (h.foreign o ho), fun o ho => ?_, fun o hk ho => ?_⟩
  · rcases h'.known o ho with ht | hall
    · exact h.known o ht
    · exact .inr hall
  · exact h'.kept o hk (h.kept o hk ho)

theorem descends_insert {o : Object} (ho : o ∈ everything) (s : Finset Object) :
    Descends s (insert o s) := by
  refine ⟨fun x hx => ?_, fun x hx => ?_, fun x _ hx => Finset.mem_insert_of_mem hx⟩
  · rw [Finset.mem_insert, or_iff_right]
    rintro rfl
    exact hx.2 ho
  · rcases Finset.mem_insert.mp hx with rfl | hx
    · exact .inr ho
    · exact .inl hx

theorem descends_erase {o : Object} (ho : o ∈ traefikWide) (s : Finset Object) :
    Descends s (s.erase o) := by
  have htraefik : ∀ x ∈ traefikWide, x ∈ everything ∧ x ∉ kept := by decide +kernel
  obtain ⟨hall, hkept⟩ := htraefik o ho
  refine ⟨fun x hx => ?_, fun x hx => .inl (Finset.mem_of_mem_erase hx), fun x hx hs => ?_⟩
  · rw [Finset.mem_erase, and_iff_right]
    rintro rfl
    exact hx.2 hall
  · rw [Finset.mem_erase, and_iff_left hs]
    rintro rfl
    exact hkept hx

theorem mem_deleteNamespace {o : Object} {ns : String} {s : Finset Object} :
    o ∈ deleteNamespace ns s ↔ o ∈ s ∧ o ≠ clusterWide .ns ns ∧ o.ns ≠ some ns := Finset.mem_filter

theorem descends_deleteNamespace (s : Finset Object) :
    Descends s (deleteNamespace "speech" s) := by
  have hspeech : speech ∈ everything := by decide +kernel
  have hkept : ∀ x ∈ kept, x ≠ speech ∧ x.ns ≠ some "speech" := by decide +kernel
  refine ⟨fun x hx => ?_, fun x hx => .inl (mem_deleteNamespace.mp hx).1, fun x hx hs => ?_⟩
  · rw [mem_deleteNamespace, and_iff_left]
    refine ⟨?_, hx.1⟩
    rintro rfl
    exact hx.2 hspeech
  · exact mem_deleteNamespace.mpr ⟨hs, hkept x hx⟩

theorem descends_after (v : Visit) (s : Finset Object) : Descends s (v.after Job.script s) := by
  obtain ⟨job, env⟩ := v
  have hsteps : job.script.All fun _ e => ∀ t, Descends s t → Descends s (e t) := by
    cases job with
    | deploy args =>
        refine (all_deploy args).mono fun k e he t ht => ht.trans ?_
        rcases he with rfl | ⟨o, ho, rfl⟩
        · exact .refl t
        · exact descends_insert ho t
    | install =>
        refine all_install.mono fun k e he t ht => ht.trans ?_
        rcases he with rfl | ⟨o, ho, rfl⟩
        · exact .refl t
        · exact descends_insert ho t
    | cleanup args =>
        refine (all_cleanup args).mono fun k e he t ht => ht.trans ?_
        rcases he with rfl | ⟨o, ho, rfl⟩ | rfl
        · exact .refl t
        · exact descends_erase ho t
        · exact descends_deleteNamespace t
  exact hsteps.state env (World.boot s 0) (.refl s)

theorem descends_replay (vs : List Visit) (s : Finset Object) :
    Descends s (replay Job.script s vs) :=
  replay_relates Descends.refl Descends.trans (fun v _ => descends_after v) s

/-- Applying what is there changes nothing, and neither does a run that fails. -/
theorem after_applies {v : Visit} (h : v.job.Applies) {s : Finset Object}
    (hs : ∀ o ∈ everything, o ∈ s) : v.after Job.script s = s := by
  obtain ⟨job, env⟩ := v
  have hsteps : job.script.All fun _ e => ∀ t, t = s → e t = s := by
    refine (all_applies h).mono fun k e he t ht => ?_
    subst ht
    rcases he with rfl | ⟨o, ho, rfl⟩
    · rfl
    · exact Finset.insert_eq_of_mem (hs o ho)
  exact hsteps.state env (World.boot s 0) rfl

theorem replay_applies {vs : List Visit} (h : ∀ v ∈ vs, v.job.Applies) {s : Finset Object}
    (hs : ∀ o ∈ everything, o ∈ s) : replay Job.script s vs = s := by
  induction vs with
  | nil => rfl
  | cons v vs ih =>
      obtain ⟨hv, hvs⟩ := List.forall_mem_cons.mp h
      rw [Script.replay_cons, after_applies hv hs]
      exact ih hvs

theorem everything_of_installs {v : Visit} {s : Finset Object} (h : Installs v s) :
    ∀ o ∈ everything, o ∈ v.after Job.script s := by
  obtain ⟨job, env⟩ := v
  obtain ⟨hok, hjob⟩ := h
  have hboot : Standing [] (World.boot s 0 : World Call (Finset Object)) := ⟨nofun, nofun⟩
  cases job with
  | deploy args =>
      have hall : phases (phaseArg args) = some allPhases := by
        rw [show phaseArg args = "all" from hjob]
        rfl
      have hbase : (Job.deploy args).base = [] := by
        simp only [Job.base, hall]
        rfl
      have hdeploy : wp env (deploy args) (fun _ v => ∃ ps, phases (phaseArg args) = some ps ∧
          Standing (objectsOf ps) v) Stopped (World.boot s 0) := wp_deploy hbase hboot
      refine wp_status (J := fun w => ∀ o ∈ everything, o ∈ w.state) hdeploy hok
        (fun _ w _ hw => ?_) (fun w hw => absurd rfl hw.1)
      obtain ⟨ps, hps, hw⟩ := hw
      obtain rfl : allPhases = ps := Option.some.inj (hall.symm.trans hps)
      exact hw.there
  | install =>
      have hinstall : wp env install (fun _ v => Standing everything v) Stopped (World.boot s 0) :=
        wp_install nofun
      exact wp_status (J := fun w => ∀ o ∈ everything, o ∈ w.state) hinstall hok
        (fun _ w _ hw => hw.there) (fun w hw => absurd rfl hw.1)
  | cleanup args => exact hjob.elim

/-- Every command succeeds, in a second. -/
def smooth : Env Call := fun _ => ⟨0, [], 1⟩

/-- deploy.sh llm, on a cluster with the namespace and the volumes, begins so. -/
theorem llm_founded : Founded ⟨.apply llmDeployment (inSpeech .deployment "speech-llm"), 0,
    (objectsOf [.scaffolding]).toFinset⟩ := by
  refine commands_founded ⟨.deploy ["llm"], smooth⟩ (fun _ ho => List.mem_toFinset.mpr ho) _ ?_
  exact List.mem_of_getElem? (i := 0) rfl

/-- Over every history of runs that fail or not: after a run that installs everything, all of it is
there, later runs that apply change nothing, and objects of others are as they were. -/
theorem installed (s : Finset Object) (vs : List Visit) {v : Visit} {ws : List Visit}
    (hv : Installs v (replay Job.script s vs)) (hws : ∀ w ∈ ws, w.job.Applies) :
    (∀ o ∈ everything, o ∈ replay Job.script s (vs ++ v :: ws)) ∧
      replay Job.script s (vs ++ v :: ws) = v.after Job.script (replay Job.script s vs) ∧
      ∀ o, Foreign o → (o ∈ replay Job.script s (vs ++ v :: ws) ↔ o ∈ s) := by
  have hall := everything_of_installs hv
  have hlast :
      replay Job.script s (vs ++ v :: ws) = v.after Job.script (replay Job.script s vs) := by
    rw [replay_append]
    exact replay_applies hws hall
  refine ⟨fun o ho => ?_, hlast, (descends_replay (vs ++ v :: ws) s).foreign⟩
  rw [hlast]
  exact hall o ho

def installing : Visit := ⟨.install, smooth⟩

theorem installing_installs (s : Finset Object) : Installs installing s := ⟨rfl, trivial⟩

/-- A run of deploy.sh in which nothing succeeds, on an installed cluster. -/
theorem installed_before_failure :
    let failing : Visit := ⟨.deploy [], fun _ => ⟨1, [], 0⟩⟩
    (∀ o ∈ everything, o ∈ replay Job.script ∅ ([] ++ installing :: [failing])) ∧
      replay Job.script ∅ ([] ++ installing :: [failing]) = installing.after Job.script ∅ ∧
      ∀ o, Foreign o →
        (o ∈ replay Job.script ∅ ([] ++ installing :: [failing]) ↔ o ∈ (∅ : Finset Object)) := by
  intro failing
  refine installed ∅ [] (installing_installs ∅) fun w hw => ?_
  obtain rfl := List.mem_singleton.mp hw
  trivial

/-- A cleanup that goes through leaves of the cluster what is neither in the namespace nor of
Traefik. -/
theorem after_cleans {v : Visit} {s : Finset Object} (h : Cleans v s) (o : Object) :
    o ∈ v.after Job.script s ↔ o ∈ s ∧ o ≠ speech ∧ o.ns ≠ some "speech" ∧ o ∉ traefikWide := by
  obtain ⟨job, env⟩ := v
  obtain ⟨hok, args, rfl⟩ := h
  have hdelete : ∀ w : World Call (Finset Object), w.state = s → wp env (tearDown "speech")
      (fun _ u => o ∈ u.state ↔ o ∈ s ∧ o ≠ speech ∧ o.ns ≠ some "speech" ∧ o ∉ traefikWide)
      (fun status _ => status ≠ 0) w := by
    intro w hw
    rw [tearDown, wp_bind]
    refine wp_checked ?_
    rw [wp_bind]
    refine wp_checked ?_
    rw [wp_bind]
    refine wp_checked (wp_checked ?_)
    simp only [record_state, Finset.mem_erase, mem_deleteNamespace, hw, traefikWide, speech,
      List.mem_cons, List.not_mem_nil, or_false, not_or]
    tauto
  have hcleanup : wp env (cleanup "speech" args)
      (fun _ u => o ∈ u.state ↔ o ∈ s ∧ o ≠ speech ∧ o.ns ≠ some "speech" ∧ o ∉ traefikWide)
      (fun status _ => status ≠ 0) (World.boot s 0) := by
    rw [cleanup, wp_bind, wp_when]
    split
    · simp only [confirm, wp_bind, wp_query, wp_when, wp_quit]
      split
      · exact Nat.one_ne_zero
      · exact hdelete _ rfl
    · exact hdelete _ rfl
  exact wp_status (J := fun u => o ∈ u.state ↔ o ∈ s ∧ o ≠ speech ∧ o.ns ≠ some "speech" ∧
    o ∉ traefikWide) hcleanup hok (fun _ _ _ hu => hu) (fun _ hu => absurd rfl hu)

/-- What a cleanup that goes through leaves behind a history. -/
theorem mem_cleaned (s : Finset Object) (vs : List Visit) {v : Visit}
    (hv : Cleans v (replay Job.script s vs)) (o : Object) :
    o ∈ v.after Job.script (replay Job.script s vs) ↔
      o ∈ s ∧ Foreign o ∨ o ∈ kept ∧ o ∈ replay Job.script s vs := by
  have hsplit : ∀ x ∈ everything,
      x = speech ∨ x.ns = some "speech" ∨ x ∈ traefikWide ∨ x ∈ kept := by
    decide +kernel
  have hkept : ∀ x ∈ kept, x ≠ speech ∧ x.ns ≠ some "speech" ∧ x ∉ traefikWide := by
    decide +kernel
  have hspeech : speech ∈ everything := by decide +kernel
  have htraefik : ∀ x ∈ traefikWide, x ∈ everything := by decide +kernel
  have hdown := descends_replay vs s
  rw [after_cleans hv o]
  constructor
  · rintro ⟨ho, hns, hin, hwide⟩
    by_cases hall : o ∈ everything
    · rcases hsplit o hall with h | h | h | h
      · exact absurd h hns
      · exact absurd h hin
      · exact absurd h hwide
      · exact .inr ⟨h, ho⟩
    · exact .inl ⟨(hdown.known o ho).resolve_right hall, hin, hall⟩
  · rintro (⟨ho, hforeign⟩ | ⟨hk, ho⟩)
    · refine ⟨(hdown.foreign o hforeign).mpr ho, ?_, hforeign.1, fun h => ?_⟩
      · rintro rfl
        exact hforeign.2 hspeech
      · exact hforeign.2 (htraefik o h)
    · exact ⟨ho, hkept o hk⟩

/-- Over every history that ends with a cleanup that goes through: what is left is what others had
there before, and the storage class and the volumes if any run has made them. -/
theorem cleaned (s : Finset Object) (vs : List Visit) {v : Visit}
    (hv : Cleans v (replay Job.script s vs)) :
    (∀ o, o ∈ replay Job.script s (vs ++ [v]) ↔
      o ∈ s ∧ Foreign o ∨ o ∈ kept ∧ o ∈ replay Job.script s vs) ∧
    ∀ us ws, vs = us ++ ws → ∀ o ∈ kept, o ∈ replay Job.script s us →
      o ∈ replay Job.script s (vs ++ [v]) := by
  have hlast : replay Job.script s (vs ++ [v]) = v.after Job.script (replay Job.script s vs) := by
    rw [replay_append]
    rfl
  refine ⟨fun o => ?_, fun us ws hvs o hk ho => ?_⟩
  · rw [hlast]
    exact mem_cleaned s vs hv o
  · rw [hvs, List.append_assoc, replay_append]
    exact (descends_replay (ws ++ [v]) _).kept o hk ho

theorem volume_left : clusterWide .persistentVolume "models-node2" ∈
    replay Job.script ∅ ([installing] ++ [⟨.cleanup ["--yes"], smooth⟩]) := by
  have hcleans : Cleans ⟨.cleanup ["--yes"], smooth⟩ (replay Job.script ∅ [installing]) :=
    ⟨rfl, ["--yes"], rfl⟩
  have hmade := everything_of_installs (installing_installs ∅)
    (clusterWide .persistentVolume "models-node2") (by decide +kernel)
  exact ((cleaned ∅ [installing] hcleans).1 _).mpr (.inr ⟨by decide, hmade⟩)

end SpeechK8s.Cluster.Deploy
