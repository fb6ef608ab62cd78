import Mathlib.Data.List.Dedup
import Mathlib.Data.List.DropRight
import Mathlib.Logic.Function.Basic
import SpeechK8s.Cluster.Deploy

/-!
# scripts/mirror-images.sh and scripts/build-and-push.sh

Where the images of the pods come from. The host that runs the scripts and the private registry
are one state, in which an image is known by its full name; all that counts of an image is what it
was made from.
-/
namespace SpeechK8s.Cluster.Images
open Script

/-! ## The scripts -/

inductive Component where
  | stt
  | tts
  | mcp
  | gateway
  | demo
  deriving DecidableEq, Repr

def Component.image : Component → String
  | .stt => "speech-stt"
  | .tts => "speech-tts"
  | .mcp => "speech-mcp"
  | .gateway => "speech-gateway"
  | .demo => "speech-demo"

inductive Origin where
  | pulled (src : String)
  | built (c : Component)
  deriving DecidableEq, Repr

abbrev Store := String → Option Origin

structure Hub where
  host : Store
  registry : Store

def Hub.pull (src : String) (s : Hub) : Hub :=
  { s with host := Function.update s.host src (some (.pulled src)) }

def Hub.tag (src dest : String) (s : Hub) : Hub :=
  { s with host := Function.update s.host dest (s.host src) }

def Hub.build (c : Component) (image : String) (s : Hub) : Hub :=
  { s with host := Function.update s.host image (some (.built c)) }

def Hub.push (image : String) (s : Hub) : Hub :=
  { s with registry := Function.update s.registry image (s.host image) }

inductive Call where
  | pull (src : String)
  | tag (src dest : String)
  | push (image : String)
  | build (c : Component) (image context : String)
  | isDirectory (path : String)
  deriving DecidableEq, Repr

abbrev Sh := Script Call Hub

/-- `${x:-d}` -/
def orDefault (d : String) : Option String → String
  | none => d
  | some x => if x = "" then d else x

def imageRef (registry name tag : String) : String := registry ++ "/" ++ name ++ ":" ++ tag

/-- The assignments of `IMAGES`, as they are written. -/
def entries : List (String × String) :=
  [("cuda-cudnn-runtime", "nvidia/cuda:12.9.1-cudnn-runtime-ubuntu24.04"),
    ("cuda-base", "nvidia/cuda:12.9.1-base-ubuntu24.04"),
    ("llama-cpp-server-cuda", "ghcr.io/ggml-org/llama.cpp:server-cuda"),
    ("csi-attacher", "docker.io/longhornio/csi-attacher:v4.12.0"),
    ("csi-node-driver-registrar", "docker.io/longhornio/csi-node-driver-registrar:v2.17.0"),
    ("csi-provisioner", "docker.io/longhornio/csi-provisioner:v5.3.0"),
    ("csi-resizer", "docker.io/longhornio/csi-resizer:v2.2.1"),
    ("csi-snapshotter", "docker.io/longhornio/csi-snapshotter:v8.6.0"),
    ("livenessprobe", "docker.io/longhornio/livenessprobe:v2.19.0"),
    ("longhorn-engine", "docker.io/longhornio/longhorn-engine:v1.12.1"),
    ("longhorn-instance-manager", "docker.io/longhornio/longhorn-instance-manager:v1.12.1"),
    ("longhorn-manager", "docker.io/longhornio/longhorn-manager:v1.12.1"),
    ("longhorn-share-manager", "docker.io/longhornio/longhorn-share-manager:v1.12.1"),
    ("longhorn-ui", "docker.io/longhornio/longhorn-ui:v1.12.1"),
    ("traefik", "docker.io/library/traefik:v3.3"),
    ("searxng", "docker.io/searxng/searxng:2026.9.8-3fdc6d753"),
    ("node", "docker.io/library/node:24-slim"),
    ("node", "docker.io/library/python:3.11-slim")]

/-- `${!IMAGES[@]}`, in some order. -/
def names : List String := (entries.map Prod.fst).dedup

/-- `${IMAGES[$local_name]}`: of two assignments to one name the later stands. -/
def source (name : String) : String := (entries.reverse.lookup name).getD ""

/-- `${src##*:}` -/
def tagOf (src : String) : String := String.ofList (src.toList.rtakeWhile (· ≠ ':'))

/-- An order in which bash may go through the array. -/
abbrev Order := { keys : List String // keys.Perm names }

def localImage (registry name : String) : String := imageRef registry name (tagOf (source name))

def mirrorOne (registry name : String) : Sh Unit := do
  let src := source name
  let dest := localImage registry name
  check (.pull src) (Hub.pull src)
  check (.tag src dest) (Hub.tag src dest)
  check (.push dest) (Hub.push dest)

def mirrorImages (order : Order) (args : List String) : Sh Unit :=
  each order.val (mirrorOne (orDefault "local-registry:5000" args.head?))

/-- Relative to the repository, where it is not in the checkout. -/
def Component.context (upstream : String) : Component → String
  | .stt => "stt"
  | .tts => "tts"
  | .mcp => "speech-mcp"
  | .gateway => upstream
  | .demo => upstream ++ "/demo"

def buildOne (registry tag upstream : String) (c : Component) : Sh Unit := do
  let image := imageRef registry c.image tag
  check (.build c image (c.context upstream)) (Hub.build c image)
  check (.push image) (Hub.push image)

/-- `if [[ ! -d "${path}" ]]; then …; exit 1; fi` -/
def needDirectory (path : String) : Sh Unit := do
  let r ← query (.isDirectory path)
  when (!r.ok) (quit 1)

def buildAll (registry tag upstream : String) : Sh Unit := do
  each [.stt, .tts, .mcp] (buildOne registry tag upstream)
  needDirectory upstream
  buildOne registry tag upstream .gateway
  needDirectory (upstream ++ "/demo")
  buildOne registry tag upstream .demo

/-- `fromEnv` is the variable `REGISTRY`. -/
def buildAndPush (fromEnv : Option String) (args : List String) : Sh Unit :=
  match args with
  | [] => quit 1
  | tag :: rest =>
      if tag = "" then quit 1
      else
        buildAll (orDefault "local-registry:5000" fromEnv) tag
          (orDefault "../speech-to-speech" rest.head?)

inductive Job where
  | mirror (order : Order) (args : List String)
  | build (fromEnv : Option String) (args : List String)

def Job.script : Job → Sh Unit
  | .mirror order args => mirrorImages order args
  | .build fromEnv args => buildAndPush fromEnv args

abbrev Visit := Script.Visit Job Call

/-! ## What a run puts into the registry -/

/-- One push after the other. -/
def pushAll (l : List (String × Origin)) (r : Store) : Store :=
  l.foldl (fun r p => Function.update r p.1 (some p.2)) r

theorem pushAll_cons (p : String × Origin) (l : List (String × Origin)) (r : Store) :
    pushAll (p :: l) r = pushAll l (Function.update r p.1 (some p.2)) := rfl

theorem pushAll_append (l m : List (String × Origin)) (r : Store) :
    pushAll (l ++ m) r = pushAll m (pushAll l r) := List.foldl_append

/-- An image is as before, or one of those pushed. -/
theorem pushAll_or (l : List (String × Origin)) (r : Store) (i : String) :
    pushAll l r i = r i ∨ ∃ o, pushAll l r i = some o ∧ (i, o) ∈ l := by
  induction l generalizing r with
  | nil => exact .inl rfl
  | cons p l ih =>
      rw [pushAll_cons]
      rcases ih (Function.update r p.1 (some p.2)) with h | ⟨o, h, ho⟩
      · by_cases hi : i = p.1
        · subst hi
          rw [Function.update_self] at h
          exact .inr ⟨p.2, h, List.mem_cons_self⟩
        · rw [Function.update_of_ne hi] at h
          exact .inl h
      · exact .inr ⟨o, h, List.mem_cons_of_mem p ho⟩

/-- What is pushed is there, as one of the origins it was pushed with. -/
theorem pushAll_mem {l : List (String × Origin)} {i : String} {o : Origin} (h : (i, o) ∈ l)
    (r : Store) : ∃ o', pushAll l r i = some o' ∧ (i, o') ∈ l := by
  induction l generalizing r with
  | nil => cases h
  | cons p l ih =>
      rw [pushAll_cons]
      rcases List.mem_cons.mp h with rfl | h
      · rcases pushAll_or l (Function.update r i (some o)) i with hsame | ⟨o', hpushed, ho⟩
        · rw [Function.update_self] at hsame
          exact ⟨o, hsame, List.mem_cons_self⟩
        · exact ⟨o', hpushed, List.mem_cons_of_mem _ ho⟩
      · obtain ⟨o', hpushed, ho⟩ := ih h (Function.update r p.1 (some p.2))
        exact ⟨o', hpushed, List.mem_cons_of_mem p ho⟩

/-- The script pushes the images `l` in their order, or fails on the way. -/
def Ships (p : Sh Unit) (l : List (String × Origin)) : Prop :=
  ∀ env w, wp env p (fun _ v => v.state.registry = pushAll l w.state.registry)
    (fun status v => status ≠ 0 ∧
      ∃ l', l' <+: l ∧ v.state.registry = pushAll l' w.state.registry) w

theorem Ships.bind {p q : Sh Unit} {l m : List (String × Origin)} (hp : Ships p l)
    (hq : Ships q m) : Ships (p >>= fun _ => q) (l ++ m) := by
  intro env w
  rw [wp_bind]
  refine wp_mono (hp env w) ?_ ?_
  · intro _ v hv
    refine wp_mono (hq env v) ?_ ?_
    · intro _ u hu
      rw [hu, hv, pushAll_append]
    · intro status u hu
      obtain ⟨hstatus, m', hm, hu⟩ := hu
      refine ⟨hstatus, l ++ m', (List.prefix_append_right_inj l).mpr hm, ?_⟩
      rw [hu, hv, pushAll_append]
  · intro status v hv
    obtain ⟨hstatus, l', hl, hv⟩ := hv
    exact ⟨hstatus, l', hl.trans (List.prefix_append l m), hv⟩

theorem ships_each {ι : Type} {f : ι → Sh Unit} {g : ι → String × Origin}
    (h : ∀ x, Ships (f x) [g x]) (xs : List ι) : Ships (each xs f) (xs.map g) := by
  induction xs with
  | nil =>
      intro env w
      rfl
  | cons x xs ih => exact (h x).bind ih

theorem ships_mirrorOne (registry name : String) :
    Ships (mirrorOne registry name) [(localImage registry name, .pulled (source name))] := by
  intro env w
  have hfailed : ∃ l', l' <+: [(localImage registry name, Origin.pulled (source name))] ∧
      w.state.registry = pushAll l' w.state.registry := ⟨[], List.nil_prefix, rfl⟩
  simp only [mirrorOne, wp_bind, wp_check, record_state]
  split
  · split
    · split
      · funext i
        simp [Hub.push, Hub.tag, Hub.pull, pushAll]
      · exact ⟨Reply.code_ne ‹_›, hfailed⟩
    · exact ⟨Reply.code_ne ‹_›, hfailed⟩
  · exact ⟨Reply.code_ne ‹_›, hfailed⟩

theorem ships_buildOne (registry tag upstream : String) (c : Component) :
    Ships (buildOne registry tag upstream c) [(imageRef registry c.image tag, .built c)] := by
  intro env w
  have hfailed : ∃ l', l' <+: [(imageRef registry c.image tag, Origin.built c)] ∧
      w.state.registry = pushAll l' w.state.registry := ⟨[], List.nil_prefix, rfl⟩
  simp only [buildOne, wp_bind, wp_check, record_state]
  split
  · split
    · funext i
      simp [Hub.push, Hub.build, pushAll]
    · exact ⟨Reply.code_ne ‹_›, hfailed⟩
  · exact ⟨Reply.code_ne ‹_›, hfailed⟩

theorem ships_needDirectory (path : String) : Ships (needDirectory path) [] := by
  intro env w
  simp only [needDirectory, wp_bind, wp_query, wp_when, wp_quit, record_state]
  split
  · exact ⟨Nat.one_ne_zero, [], List.nil_prefix, rfl⟩
  · rfl

/-- What a run that goes through pushes. -/
def Job.pushes : Job → List (String × Origin)
  | .mirror order args => order.val.map fun name =>
      (localImage (orDefault "local-registry:5000" args.head?) name, .pulled (source name))
  | .build fromEnv args =>
      match args with
      | [] => []
      | tag :: _ =>
          if tag = "" then []
          else [Component.stt, .tts, .mcp, .gateway, .demo].map fun c =>
            (imageRef (orDefault "local-registry:5000" fromEnv) c.image tag, .built c)

theorem Job.ships (j : Job) : Ships j.script j.pushes := by
  cases j with
  | mirror order args => exact ships_each (ships_mirrorOne _) order.val
  | build fromEnv args =>
      have hquit : Ships (quit 1) [] := fun env w =>
        ⟨Nat.one_ne_zero, [], List.nil_prefix, rfl⟩
      cases args with
      | nil => exact hquit
      | cons tag rest =>
          simp only [Job.script, buildAndPush, Job.pushes]
          split
          · exact hquit
          · have hbuild := ships_buildOne (orDefault "local-registry:5000" fromEnv) tag
              (orDefault "../speech-to-speech" rest.head?)
            refine (ships_each hbuild [.stt, .tts, .mcp]).bind ?_
            refine (ships_needDirectory _).bind ?_
            exact (hbuild .gateway).bind ((ships_needDirectory _).bind (hbuild .demo))

/-- After a run an image is as before, or the run has pushed it. -/
theorem after_or (v : Visit) (s : Hub) (i : String) :
    (v.after Job.script s).registry i = s.registry i ∨
      ∃ o, (v.after Job.script s).registry i = some o ∧ (i, o) ∈ v.job.pushes := by
  refine wp_world (J := fun w => w.state.registry i = s.registry i ∨
    ∃ o, w.state.registry i = some o ∧ (i, o) ∈ v.job.pushes)
    (wp_mono (v.job.ships v.env (World.boot s 0)) ?_ ?_)
  · intro _ w hw
    rw [hw]
    exact pushAll_or _ _ i
  · intro _ w hw
    obtain ⟨-, l, hl, hw⟩ := hw
    rw [hw]
    rcases pushAll_or l s.registry i with h | ⟨o, h, ho⟩
    · exact .inl h
    · exact .inr ⟨o, h, hl.subset ho⟩

theorem after_completed {v : Visit} {s : Hub}
    (hok : (v.outcome Job.script s).status = some 0) {i : String} {o : Origin}
    (h : (i, o) ∈ v.job.pushes) :
    ∃ o', (v.after Job.script s).registry i = some o' ∧ (i, o') ∈ v.job.pushes := by
  refine wp_status (J := fun w => ∃ o', w.state.registry i = some o' ∧ (i, o') ∈ v.job.pushes)
    (v.job.ships v.env (World.boot s 0)) hok ?_ ?_
  · intro _ w _ hw
    rw [hw]
    exact pushAll_mem h _
  · intro w hw
    exact absurd rfl hw.1

theorem replay_or (vs : List Visit) (s : Hub) (i : String) :
    (replay Job.script s vs).registry i = s.registry i ∨
      ∃ o, (replay Job.script s vs).registry i = some o ∧ ∃ v ∈ vs, (i, o) ∈ v.job.pushes := by
  refine replay_relates (R := fun s t : Hub => t.registry i = s.registry i ∨
    ∃ o, t.registry i = some o ∧ ∃ v ∈ vs, (i, o) ∈ v.job.pushes) ?_ ?_ ?_ s
  · intro s
    exact .inl rfl
  · intro s t u hst htu
    rcases htu with htu | htu
    · rw [htu]
      exact hst
    · exact .inr htu
  · intro v hv s
    rcases after_or v s i with h | ⟨o, h, ho⟩
    · exact .inl h
    · exact .inr ⟨o, h, v, hv, ho⟩

end SpeechK8s.Cluster.Images
