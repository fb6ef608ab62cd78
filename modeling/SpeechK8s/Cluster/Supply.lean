import SpeechK8s.Cluster.Images

/-!
# What there is to pull

Which runs of mirror-images.sh and build-and-push.sh bring the images of the pods that deploy.sh
sets up, and that no run of either brings the images of the private registry that the Dockerfiles
start from.
-/
namespace SpeechK8s.Cluster.Images
open Script

/-! ## Names of images -/

/-- A full name whose parts can be told apart. -/
structure Ref where
  registry : String
  name : String
  tag : String
  registryPlain : '/' ∉ registry.toList
  namePlain : '/' ∉ name.toList ∧ ':' ∉ name.toList
  tagPlain : '/' ∉ tag.toList ∧ ':' ∉ tag.toList

def Ref.image (r : Ref) : String := imageRef r.registry r.name r.tag

theorem Ref.image_eq_iff (r : Ref) {registry name tag : String} :
    r.image = imageRef registry name tag ↔
      r.registry = registry ∧ r.name = name ∧ r.tag = tag := by
  have hlist : ∀ a b c : String, (imageRef a b c).toList =
      a.toList ++ '/' :: (b.toList ++ ':' :: c.toList) := by
    intro a b c
    simp [imageRef, String.toList_append]
  have hrest : '/' ∉ r.name.toList ++ ':' :: r.tag.toList := by
    simp [r.namePlain.1, r.tagPlain.1]
  rw [← String.toList_inj, Ref.image, hlist, hlist,
    List.append_cons_inj_of_notMem r.registryPlain hrest,
    List.append_cons_inj_of_notMem r.namePlain.2 r.tagPlain.2]
  simp only [String.toList_inj, true_and]

/-- An image of the registry that all manifests and Dockerfiles name. -/
def inLocal (name tag : String)
    (h : ('/' ∉ name.toList ∧ ':' ∉ name.toList) ∧ '/' ∉ tag.toList ∧ ':' ∉ tag.toList) : Ref :=
  ⟨"local-registry:5000", name, tag, by decide +kernel, h.1, h.2⟩

/-! ## The pods -/

theorem Component.image_inj {c d : Component} (h : c.image = d.image) : c = d := by
  cases c <;> cases d <;> first | rfl | exact absurd h (by decide)

theorem Component.image_not_mem (c : Component) : c.image ∉ names := by
  cases c <;> decide +kernel

/-- The scripts make the image, if at all, from `o`. -/
def Offers (r : Ref) : Origin → Prop
  | .pulled src => r.name ∈ names ∧ r.tag = tagOf src ∧ src = source r.name
  | .built c => r.name = c.image ∧ r.tag ≠ ""

instance (r : Ref) : (o : Origin) → Decidable (Offers r o)
  | .pulled _ => inferInstanceAs (Decidable (_ ∧ _ ∧ _))
  | .built _ => inferInstanceAs (Decidable (_ ∧ _))

/-- An image that the pods of a manifest run. -/
structure Part where
  manifest : Deploy.Manifest
  ref : Ref
  origin : Origin
  offered : Offers ref origin

def deployed : List Part :=
  [⟨Deploy.llmDeployment, inLocal "llama-cpp-server-cuda" "server-cuda" (by decide +kernel),
      .pulled "ghcr.io/ggml-org/llama.cpp:server-cuda", by decide +kernel⟩,
    ⟨Deploy.colocated, inLocal "speech-stt" "latest" (by decide +kernel), .built .stt,
      by decide +kernel⟩,
    ⟨Deploy.colocated, inLocal "speech-tts" "voicefix6" (by decide +kernel), .built .tts,
      by decide +kernel⟩,
    ⟨Deploy.gatewayDeployment, inLocal "speech-gateway" "latest" (by decide +kernel),
      .built .gateway, by decide +kernel⟩,
    ⟨Deploy.traefikDeployment, inLocal "traefik" "v3.3" (by decide +kernel),
      .pulled "docker.io/library/traefik:v3.3", by decide +kernel⟩,
    ⟨Deploy.demoDeployment, inLocal "speech-demo" "v2" (by decide +kernel), .built .demo,
      by decide +kernel⟩,
    ⟨Deploy.searxngDeployment, inLocal "searxng" "2026.9.8-3fdc6d753" (by decide +kernel),
      .pulled "docker.io/searxng/searxng:2026.9.8-3fdc6d753", by decide +kernel⟩,
    ⟨Deploy.speechMcpDeployment, inLocal "speech-mcp" "v2" (by decide +kernel), .built .mcp,
      by decide +kernel⟩]

/-- The manifests with pods are those that deploy.sh applies and that set up a Deployment. -/
theorem deployed_manifests : ∀ m ∈ Deploy.allPhases.flatMap Deploy.Phase.manifests,
    (m ∈ deployed.map Part.manifest ↔ ∃ o ∈ m.objects, o.kind = .deployment) := by
  decide +kernel

/-- The registry that a run pushes to. -/
def Job.registry : Job → String
  | .mirror _ args => orDefault "local-registry:5000" args.head?
  | .build fromEnv _ => orDefault "local-registry:5000" fromEnv

/-- The tag that a run builds; a mirror has none. -/
def Job.tag : Job → Option String
  | .mirror _ _ => none
  | .build _ args => some (args.head?.getD "")

def Part.tag (p : Part) : Option String :=
  match p.origin with
  | .pulled _ => none
  | .built _ => some p.ref.tag

/-- A run of this kind, if it goes through, brings the image. -/
def Job.Brings (j : Job) (p : Part) : Prop := j.registry = p.ref.registry ∧ j.tag = p.tag

theorem mem_pushes_mirror {r : Ref} {o : Origin} {order : Order} {args : List String} :
    (r.image, o) ∈ (Job.mirror order args).pushes ↔
      (Job.mirror order args).registry = r.registry ∧ r.name ∈ names ∧
        r.tag = tagOf (source r.name) ∧ o = .pulled (source r.name) := by
  simp only [Job.pushes, Job.registry, List.mem_map, Prod.mk.injEq, localImage]
  constructor
  · rintro ⟨name, hname, himage, horigin⟩
    obtain ⟨hregistry, rfl, htag⟩ := r.image_eq_iff.mp himage.symm
    exact ⟨hregistry.symm, order.property.mem_iff.mp hname, htag, horigin.symm⟩
  · rintro ⟨hregistry, hname, htag, rfl⟩
    refine ⟨r.name, order.property.mem_iff.mpr hname, ?_, rfl⟩
    exact (r.image_eq_iff.mpr ⟨hregistry.symm, rfl, htag⟩).symm

theorem mem_pushes_build {r : Ref} {o : Origin} {fromEnv : Option String} {args : List String} :
    (r.image, o) ∈ (Job.build fromEnv args).pushes ↔
      (Job.build fromEnv args).registry = r.registry ∧ r.tag ≠ "" ∧
        (Job.build fromEnv args).tag = some r.tag ∧ ∃ c, r.name = c.image ∧ o = .built c := by
  have hall : ∀ c : Component, c ∈ [Component.stt, .tts, .mcp, .gateway, .demo] := by
    intro c
    cases c <;> decide
  cases args with
  | nil => simpa [Job.pushes, Job.tag] using fun _ h h' => absurd h' h
  | cons tag rest =>
      by_cases hempty : tag = ""
      · simpa [Job.pushes, Job.tag, hempty] using fun _ h h' => absurd h' h
      · simp only [Job.pushes, Job.registry, Job.tag, hempty, if_false, List.mem_map,
          Prod.mk.injEq, List.head?_cons, Option.getD_some, Option.some.injEq]
        constructor
        · rintro ⟨c, -, himage, horigin⟩
          obtain ⟨hregistry, hname, htag⟩ := r.image_eq_iff.mp himage.symm
          exact ⟨hregistry.symm, htag ▸ hempty, htag.symm, c, hname, horigin.symm⟩
        · rintro ⟨hregistry, -, rfl, c, hname, rfl⟩
          refine ⟨c, hall c, ?_, rfl⟩
          exact (r.image_eq_iff.mpr ⟨hregistry.symm, hname, rfl⟩).symm

/-- A run pushes the image of a pod exactly if it is of the kind that does, and from its origin. -/
theorem mem_pushes_iff (p : Part) {j : Job} {o : Origin} :
    (p.ref.image, o) ∈ j.pushes ↔ j.Brings p ∧ o = p.origin := by
  obtain ⟨manifest, r, origin, hoffered⟩ := p
  cases j with
  | mirror order args =>
      rw [mem_pushes_mirror]
      cases origin with
      | pulled src =>
          obtain ⟨hname, htag, rfl⟩ := hoffered
          simp [Job.Brings, Job.tag, Part.tag, hname, htag]
      | built c =>
          have hnot : r.name ∉ names := hoffered.1 ▸ c.image_not_mem
          simp [Job.Brings, Job.tag, Part.tag, hnot]
  | build fromEnv args =>
      rw [mem_pushes_build]
      cases origin with
      | pulled src =>
          have hnot : ∀ c : Component, r.name ≠ c.image := by
            intro c hc
            exact c.image_not_mem (hc ▸ hoffered.1)
          simp [Job.Brings, Job.tag, Part.tag, hnot]
      | built c =>
          obtain ⟨hname, htag⟩ := hoffered
          have hinj : ∀ d : Component, c.image = d.image ↔ c = d := by
            intro d
            exact ⟨Component.image_inj, congrArg _⟩
          simp [Job.Brings, Part.tag, hname, htag, hinj, and_assoc]

/-- An image that was not there comes from a run of its kind, and has the origin it should have. -/
theorem part_there (p : Part) {s : Hub} (hs : s.registry p.ref.image = none) {vs : List Visit}
    {o : Origin} (h : (replay Job.script s vs).registry p.ref.image = some o) :
    o = p.origin ∧ ∃ v ∈ vs, v.job.Brings p := by
  rcases replay_or vs s p.ref.image with hsame | ⟨o', hpushed, v, hv, hmem⟩
  · rw [hsame, hs] at h
    cases h
  · obtain ⟨hbrings, rfl⟩ := (mem_pushes_iff p).mp hmem
    rw [hpushed] at h
    exact ⟨(Option.some.inj h).symm, v, hv, hbrings⟩

/-- A run of the kind that brings the image has gone through. -/
def Brought (p : Part) (s : Hub) (vs : List Visit) : Prop :=
  ∃ us v ws, vs = us ++ v :: ws ∧ v.job.Brings p ∧
    (v.outcome Job.script (replay Job.script s us)).status = some 0

theorem part_brought {p : Part} {s : Hub} {vs : List Visit} (h : Brought p s vs) :
    (replay Job.script s vs).registry p.ref.image = some p.origin := by
  obtain ⟨us, v, ws, rfl, hbrings, hok⟩ := h
  obtain ⟨o, hafter, hmem⟩ := after_completed hok ((mem_pushes_iff p).mpr ⟨hbrings, rfl⟩)
  obtain ⟨-, rfl⟩ := (mem_pushes_iff p).mp hmem
  rw [replay_append, Script.replay_cons]
  rcases replay_or ws (v.after Job.script (replay Job.script s us)) p.ref.image with
    hsame | ⟨o, hpushed, u, -, hmem⟩
  · rw [hsame]
    exact hafter
  · obtain ⟨-, rfl⟩ := (mem_pushes_iff p).mp hmem
    exact hpushed

/-- The tags of the runs that the images of the pods take. -/
def tagsTaken : List (Option String) := [none, some "latest", some "v2", some "voicefix6"]

theorem tagsTaken_deployed : ∀ t ∈ tagsTaken, ∃ p ∈ deployed, p.tag = t := by
  simp [tagsTaken, deployed, Part.tag, inLocal]

/-- Of the images that deploy.sh has the pods run, each is in the registry only as made from its
origin and by a run of its kind, and is there after such a run that has gone through. Fewer than
four runs do not bring all of them. -/
theorem deployed_supplied {s : Hub} (hs : ∀ p ∈ deployed, s.registry p.ref.image = none)
    (vs : List Visit) :
    (∀ p ∈ deployed, ∀ o, (replay Job.script s vs).registry p.ref.image = some o →
      o = p.origin ∧ ∃ v ∈ vs, v.job.Brings p) ∧
    (∀ p ∈ deployed, Brought p s vs →
      (replay Job.script s vs).registry p.ref.image = some p.origin) ∧
    ((∀ p ∈ deployed, (replay Job.script s vs).registry p.ref.image ≠ none) → 4 ≤ vs.length) := by
  refine ⟨fun p hp o ho => part_there p (hs p hp) ho, fun p _ h => part_brought h, ?_⟩
  intro hall
  have htags : tagsTaken ⊆ vs.map fun v => v.job.tag := by
    intro t ht
    obtain ⟨p, hp, rfl⟩ := tagsTaken_deployed t ht
    obtain ⟨o, ho⟩ := Option.ne_none_iff_exists'.mp (hall p hp)
    obtain ⟨-, v, hv, hbrings⟩ := part_there p (hs p hp) ho
    exact List.mem_map.mpr ⟨v, hv, hbrings.2⟩
  have hlength := (List.subperm_of_subset (by decide : tagsTaken.Nodup) htags).length_le
  rwa [List.length_map] at hlength

/-- An empty host and an empty registry. -/
def emptyHub : Hub := ⟨fun _ => none, fun _ => none⟩

/-- Every command succeeds, in a second. -/
def smooth : Env Call := fun _ => ⟨0, [], 1⟩

def fourRuns : List Visit :=
  [⟨.build none ["latest"], smooth⟩, ⟨.mirror ⟨names, .refl _⟩ [], smooth⟩,
    ⟨.build none ["v2", "/srv/speech-to-speech"], smooth⟩,
    ⟨.build (some "local-registry:5000") ["voicefix6"], smooth⟩]

theorem demo_supplied : (replay Job.script emptyHub fourRuns).registry
    "local-registry:5000/speech-demo:v2" = some (.built .demo) := by
  have hdeployed := (deployed_supplied (s := emptyHub) (fun _ _ => rfl) fourRuns).2.1
  have hdemo : deployed[5] ∈ deployed := List.getElem_mem _
  exact hdeployed _ hdemo ⟨fourRuns.take 2, fourRuns[2], fourRuns.drop 3, rfl, ⟨rfl, rfl⟩, rfl⟩

/-! ## The images that the Dockerfiles start from -/

/-- No script makes the image. -/
structure Unoffered (r : Ref) : Prop where
  pulled : ∀ name ∈ names, source name ≠ r.image
  mirrored : r.name ∈ names → tagOf (source r.name) ≠ r.tag
  built : ∀ c : Component, c.image ≠ r.name

/-- Neither the host nor the registry has the image. -/
def Hub.Lacks (s : Hub) (r : Ref) : Prop := s.host r.image = none ∧ s.registry r.image = none

section
variable {r : Ref} {s : Hub}

theorem Hub.Lacks.pull (h : s.Lacks r) {src : String} (hsrc : src ≠ r.image) :
    (s.pull src).Lacks r := ⟨(Function.update_of_ne hsrc.symm _ _).trans h.1, h.2⟩

theorem Hub.Lacks.tag (h : s.Lacks r) {src dest : String} (hdest : dest ≠ r.image) :
    (s.tag src dest).Lacks r := ⟨(Function.update_of_ne hdest.symm _ _).trans h.1, h.2⟩

theorem Hub.Lacks.build (h : s.Lacks r) {c : Component} {image : String}
    (himage : image ≠ r.image) : (s.build c image).Lacks r :=
  ⟨(Function.update_of_ne himage.symm _ _).trans h.1, h.2⟩

theorem Hub.Lacks.push (h : s.Lacks r) {image : String} (himage : image ≠ r.image) :
    (s.push image).Lacks r := ⟨h.1, (Function.update_of_ne himage.symm _ _).trans h.2⟩

/-- Every command leaves the image missing where it is. -/
theorem all_lacks (h : Unoffered r) (j : Job) :
    j.script.All fun _ effect => ∀ s, s.Lacks r → (effect s).Lacks r := by
  have hbuildOne : ∀ registry tag upstream c, (buildOne registry tag upstream c).All
      fun _ effect => ∀ s, s.Lacks r → (effect s).Lacks r := by
    intro registry tag upstream c
    have himage : imageRef registry c.image tag ≠ r.image := by
      intro heq
      exact h.built c (r.image_eq_iff.mp heq.symm).2.1.symm
    exact (all_check fun s hs => hs.build himage).bind fun _ => all_check fun s hs => hs.push himage
  have hneed : ∀ path, (needDirectory path).All
      fun _ effect => ∀ s, s.Lacks r → (effect s).Lacks r := by
    intro path
    exact (all_query fun s hs => hs).bind fun _ => all_when (all_quit 1)
  cases j with
  | mirror order args =>
      refine all_each order.val ?_
      intro name hname
      have hmem := order.property.mem_iff.mp hname
      have hdest : ∀ registry, localImage registry name ≠ r.image := by
        intro registry heq
        obtain ⟨-, rfl, htag⟩ := r.image_eq_iff.mp heq.symm
        exact h.mirrored hmem htag.symm
      refine (all_check fun s hs => hs.pull (h.pulled name hmem)).bind fun _ => ?_
      exact (all_check fun s hs => hs.tag (hdest _)).bind fun _ =>
        all_check fun s hs => hs.push (hdest _)
  | build fromEnv args =>
      cases args with
      | nil => exact all_quit 1
      | cons tag rest =>
          simp only [Job.script, buildAndPush]
          split
          · exact all_quit 1
          · refine (all_each [Component.stt, .tts, .mcp] fun c _ => hbuildOne _ _ _ c).bind ?_
            intro _
            refine (hneed _).bind fun _ => (hbuildOne _ _ _ _).bind fun _ => ?_
            exact (hneed _).bind fun _ => hbuildOne _ _ _ _

theorem Hub.Lacks.replay (h : Unoffered r) (hs : s.Lacks r) (vs : List Visit) :
    (replay Job.script s vs).Lacks r := by
  refine replay_relates (R := fun s t : Hub => s.Lacks r → t.Lacks r) ?_ ?_ ?_ s hs
  · intro s hs
    exact hs
  · intro s t u hst htu hs
    exact htu (hst hs)
  · intro v _ s hs
    exact (all_lacks h v.job).state v.env (World.boot s 0) hs

end

def cudaBase : Ref := inLocal "cuda" "12.9.1-cudnn-runtime-ubuntu24.04" (by decide +kernel)

def nodeBase : Ref := inLocal "node" "24-slim" (by decide +kernel)

/-- What the `FROM` lines of the Dockerfile name in the private registry. -/
def Component.bases : Component → List Ref
  | .stt | .tts | .gateway => [cudaBase]
  | .mcp => []
  | .demo => [nodeBase]

theorem unoffered_cuda : Unoffered cudaBase where
  pulled := by decide +kernel
  mirrored := by decide +kernel
  built c := by cases c <;> decide +kernel

theorem unoffered_node : Unoffered nodeBase where
  pulled := by decide +kernel
  mirrored := by decide +kernel
  built c := by cases c <;> decide +kernel

theorem unoffered_base {c : Component} {b : Ref} (hb : b ∈ c.bases) : Unoffered b := by
  cases c with
  | stt | tts | gateway =>
      obtain rfl := List.mem_singleton.mp hb
      exact unoffered_cuda
  | mcp => cases hb
  | demo =>
      obtain rfl := List.mem_singleton.mp hb
      exact unoffered_node

/-- Nothing of what the Dockerfiles start from is there. -/
def Baseless (s : Hub) : Prop := ∀ c : Component, ∀ b ∈ c.bases, s.Lacks b

/-- A build succeeds only where the images that its Dockerfile starts from can be had. -/
def Honest (v : Visit) (s : Hub) : Prop :=
  ∀ e ∈ (v.outcome Job.script s).world.log, ∀ c image context, e.call = .build c image context →
    (v.env e.call).ok = true → ∀ b ∈ c.bases, ¬ e.before.Lacks b

def AllHonest : Hub → List Visit → Prop
  | _, [] => True
  | s, v :: vs => Honest v s ∧ AllHonest (v.after Job.script s) vs

theorem Baseless.replay {s : Hub} (hs : Baseless s) (vs : List Visit) :
    Baseless (replay Job.script s vs) :=
  fun c b hb => (hs c b hb).replay (unoffered_base hb) vs

/-- build-and-push.sh gets no further than its first build. -/
theorem build_stuck {v : Visit} {s : Hub} (hs : Baseless s) (hv : Honest v s)
    {fromEnv : Option String} {args : List String} (hjob : v.job = .build fromEnv args) :
    (∃ status, status ≠ 0 ∧ (v.outcome Job.script s).status = some status) ∧
      v.after Job.script s = s := by
  obtain ⟨job, env⟩ := v
  obtain rfl : job = .build fromEnv args := hjob
  cases args with
  | nil => exact ⟨⟨1, Nat.one_ne_zero, rfl⟩, rfl⟩
  | cons tag rest =>
      by_cases hempty : tag = ""
      · subst hempty
        exact ⟨⟨1, Nat.one_ne_zero, rfl⟩, rfl⟩
      · have hscript : (Job.build fromEnv (tag :: rest)).script =
            buildAll (orDefault "local-registry:5000" fromEnv) tag
              (orDefault "../speech-to-speech" rest.head?) := if_neg hempty
        obtain ⟨image, context, hstarts⟩ : ∃ image context,
            Starts (.build .stt image context) (Job.build fromEnv (tag :: rest)).script := by
          rw [hscript]
          exact ⟨_, _, (((starts_check _ _).bind _).bind _).bind _⟩
        have hno : ¬ (env (.build .stt image context)).ok = true := by
          intro hok
          have hcuda : cudaBase ∈ Component.stt.bases := List.mem_singleton_self _
          exact hv _ (hstarts.mem env (World.boot s 0)) _ _ _ rfl hok cudaBase hcuda
            (hs .stt cudaBase hcuda)
        rw [Visit.after, Visit.outcome, hstarts.failed (Bool.eq_false_iff.mpr hno)]
        exact ⟨⟨_, Reply.code_ne hno, rfl⟩, rfl⟩

/-- On a host and a registry without the images that the Dockerfiles start from, no run of
mirror-images.sh ever brings them, each run of build-and-push.sh fails and has changed nothing, and
so the registry gets no image of a component. -/
theorem nothing_built {s : Hub} (hs : Baseless s) {vs : List Visit} (h : AllHonest s vs) :
    Baseless (replay Job.script s vs) ∧
      (∀ us v ws fromEnv args, vs = us ++ v :: ws → v.job = .build fromEnv args →
        (∃ status, status ≠ 0 ∧
          (v.outcome Job.script (replay Job.script s us)).status = some status) ∧
          v.after Job.script (replay Job.script s us) = replay Job.script s us) ∧
      ∀ p : Part, ∀ c, p.origin = .built c →
        (replay Job.script s vs).registry p.ref.image = s.registry p.ref.image := by
  refine ⟨hs.replay vs, ?_, ?_⟩
  · intro us v ws fromEnv args hvs hjob
    refine build_stuck (hs.replay us) ?_ hjob
    subst hvs
    induction us generalizing s with
    | nil => exact h.1
    | cons u us ih => exact ih (hs.replay [u]) h.2
  · intro p c hp
    induction vs generalizing s with
    | nil => rfl
    | cons v vs ih =>
        have hrest : Baseless (v.after Job.script s) := hs.replay [v]
        rw [Script.replay_cons, ih hrest h.2]
        cases hjob : v.job with
        | build fromEnv args => rw [(build_stuck hs h.1 hjob).2]
        | mirror order args =>
            rcases after_or v s p.ref.image with hsame | ⟨o, -, hmem⟩
            · exact hsame
            · rw [hjob] at hmem
              have htag := ((mem_pushes_iff p).mp hmem).1.2
              rw [Part.tag, hp] at htag
              cases htag

/-- Every command succeeds, but a build that would have to pull from the private registry. -/
def publicOnly : Env Call
  | .build c _ _ => ⟨if c.bases.isEmpty then 0 else 1, [], 1⟩
  | .pull _ | .tag _ _ | .push _ | .isDirectory _ => ⟨0, [], 1⟩

theorem honest_publicOnly (j : Job) (s : Hub) : Honest ⟨j, publicOnly⟩ s := by
  intro e _ c image context hcall hok b hb
  rw [hcall] at hok
  have hnone : c.bases = [] := by
    by_contra hsome
    simp [publicOnly, hsome] at hok
  rw [hnone] at hb
  cases hb

/-- The images are mirrored, and then those of the components built. -/
def mirrorThenBuild : List Visit :=
  [⟨.mirror ⟨names, .refl _⟩ [], publicOnly⟩, ⟨.build none ["v2"], publicOnly⟩]

theorem demo_not_built : (replay Job.script emptyHub mirrorThenBuild).registry
    "local-registry:5000/speech-demo:v2" = none := by
  have hbaseless : Baseless emptyHub := fun _ _ _ => ⟨rfl, rfl⟩
  have hhonest : AllHonest emptyHub mirrorThenBuild :=
    ⟨honest_publicOnly _ _, honest_publicOnly _ _, trivial⟩
  exact (nothing_built hbaseless hhonest).2.2 deployed[5] .demo rfl

end SpeechK8s.Cluster.Images
