import Mathlib.Data.Finset.Erase
import Mathlib.Data.Finset.Filter
import Mathlib.Data.Finset.Insert
import SpeechK8s.Lib.Script

/-!
# scripts/deploy.sh, scripts/install.sh and scripts/cleanup.sh

What the manifests of k8s/ that deploy.sh applies put into the cluster, by kind and name, and what
each of them has to find there. `kubectl apply` goes on to the other objects of a manifest when
one of them is refused. A deletion that fails has deleted nothing.
-/
namespace SpeechK8s.Cluster.Deploy
open Script

/-! ## The manifests -/

inductive Kind where
  | ns
  | storageClass
  | persistentVolume
  | persistentVolumeClaim
  | configMap
  | deployment
  | service
  | serviceAccount
  | clusterRole
  | clusterRoleBinding
  | ingressClass
  | ingress
  deriving DecidableEq, Repr

/-- An object of the cluster; `ns` is empty for one outside of all namespaces. -/
structure Object where
  kind : Kind
  ns : Option String
  name : String
  deriving DecidableEq, Repr

def clusterWide (kind : Kind) (name : String) : Object := ⟨kind, none, name⟩

def inSpeech (kind : Kind) (name : String) : Object := ⟨kind, some "speech", name⟩

/-- `needs` is what the objects refer to, other than one another, in order to be created and to
have their pods started; of the Secrets and runtime classes, which are made by hand, nothing is
said. -/
structure Manifest where
  path : String
  objects : List Object
  needs : List Object
  deriving DecidableEq, Repr

def speech : Object := clusterWide .ns "speech"

def localSsd : Object := clusterWide .storageClass "local-ssd"

def namespaceYaml : Manifest := ⟨"namespace.yaml", [speech], []⟩

def storageclassLocal : Manifest := ⟨"storage/storageclass-local.yaml", [localSsd], []⟩

/-- storage/pv-models-node2.yaml and storage/pv-models-node3.yaml -/
def pvModels (path name : String) : Manifest where
  path := path
  objects := [clusterWide .persistentVolume name, inSpeech .persistentVolumeClaim name]
  needs := [speech, localSsd]

def pvModelsNode2 : Manifest := pvModels "storage/pv-models-node2.yaml" "models-node2"

def pvModelsNode3 : Manifest := pvModels "storage/pv-models-node3.yaml" "models-node3"

def configmaps : Manifest where
  path := "configmaps/"
  objects := ["gateway-config", "llm-config", "stt-config", "tts-config"].map (inSpeech .configMap)
  needs := [speech]

def llmDeployment : Manifest where
  path := "llm/deployment.yaml"
  objects := [inSpeech .deployment "speech-llm", inSpeech .service "speech-llm-service"]
  needs := [speech, inSpeech .configMap "llm-config"]

def llmService : Manifest := ⟨"llm/service.yaml", [inSpeech .service "speech-llm"], [speech]⟩

def colocated : Manifest where
  path := "stt/deployment-colocated-with-tts.yaml"
  objects := [inSpeech .deployment "speech-stt-tts", inSpeech .service "speech-stt",
    inSpeech .service "speech-tts"]
  needs := [speech]

def gatewayDeployment : Manifest where
  path := "gateway/deployment.yaml"
  objects := [inSpeech .deployment "speech-gateway"]
  needs := [speech, inSpeech .configMap "gateway-config"]

def gatewayService : Manifest :=
  ⟨"gateway/service.yaml", [inSpeech .service "speech-gateway"], [speech]⟩

def gatewayNodeport : Manifest :=
  ⟨"gateway/service-nodeport.yaml", [inSpeech .service "speech-gateway-external"], [speech]⟩

/-- What deleting the namespace does not delete of Traefik. -/
def traefikWide : List Object :=
  [clusterWide .clusterRole "traefik", clusterWide .clusterRoleBinding "traefik",
    clusterWide .ingressClass "traefik"]

def traefikDeployment : Manifest where
  path := "traefik/deployment.yaml"
  objects := [inSpeech .serviceAccount "traefik", clusterWide .clusterRole "traefik",
    clusterWide .clusterRoleBinding "traefik", inSpeech .deployment "traefik",
    inSpeech .service "traefik", clusterWide .ingressClass "traefik"]
  needs := [speech]

/-- The backends of an ingress may come later. -/
def traefikIngress : Manifest where
  path := "traefik/ingress.yaml"
  objects := [inSpeech .ingress "speech-demo"]
  needs := [speech, clusterWide .ingressClass "traefik"]

def demoDeployment : Manifest where
  path := "demo/deployment.yaml"
  objects := [inSpeech .deployment "speech-demo", inSpeech .service "speech-demo"]
  needs := [speech]

def searxngConfigmap : Manifest :=
  ⟨"searxng/configmap.yaml", [inSpeech .configMap "searxng-settings"], [speech]⟩

def searxngDeployment : Manifest where
  path := "searxng/deployment.yaml"
  objects := [inSpeech .deployment "searxng", inSpeech .service "searxng"]
  needs := [speech, inSpeech .configMap "searxng-settings"]

/-- Its readiness check looks for the search backend. -/
def speechMcpDeployment : Manifest where
  path := "speech-mcp/deployment.yaml"
  objects := [inSpeech .deployment "speech-mcp", inSpeech .service "speech-mcp"]
  needs := [speech, inSpeech .deployment "searxng", inSpeech .service "searxng"]

/-! ## The scripts -/

inductive Call where
  | apply (m : Manifest) (o : Object)
  | getSecret (name : String)
  | rolloutStatus (d : String)
  | readReply
  | deleteNamespace (name : String)
  | delete (o : Object)
  deriving DecidableEq, Repr

abbrev Sh := Script Call (Finset Object)

/-- `kubectl apply -f` -/
def kubectlApply (m : Manifest) : Sh Unit := do
  let ok ← attemptEach (Call.apply m) insert true m.objects
  when (!ok) (quit 1)

/-- The functions of deploy.sh; `stt` and `tts` are the same as `sttTts`. -/
inductive Phase where
  | scaffolding
  | llm
  | sttTts
  | gateway
  | traefik
  | demo
  | searxng
  | speechMcp
  deriving DecidableEq, Repr

def Phase.manifests : Phase → List Manifest
  | .scaffolding => [namespaceYaml, storageclassLocal, pvModelsNode2, pvModelsNode3, configmaps]
  | .llm => [llmDeployment, llmService]
  | .sttTts => [colocated]
  | .gateway => [gatewayDeployment, gatewayService, gatewayNodeport]
  | .traefik => [traefikDeployment, traefikIngress]
  | .demo => [demoDeployment]
  | .searxng => [searxngConfigmap, searxngDeployment]
  | .speechMcp => [speechMcpDeployment]

def allPhases : List Phase :=
  [.scaffolding, .llm, .sttTts, .gateway, .traefik, .demo, .searxng, .speechMcp]

/-- `case "${PHASE}" in` -/
def phases (arg : String) : Option (List Phase) :=
  if arg = "all" then some allPhases
  else if arg = "scaffolding" then some [.scaffolding]
  else if arg = "llm" then some [.llm]
  else if arg = "stt" ∨ arg = "tts" ∨ arg = "stt_tts" then some [.sttTts]
  else if arg = "gateway" then some [.gateway]
  else if arg = "traefik" then some [.traefik]
  else if arg = "demo" then some [.demo]
  else if arg = "searxng" then some [.searxng]
  else if arg = "speech_mcp" ∨ arg = "speech-mcp" ∨ arg = "mcp" then some [.speechMcp]
  else none

def Phase.run (p : Phase) : Sh Unit := each p.manifests kubectlApply

/-- `"${1:-all}"` -/
def phaseArg : List String → String
  | [] => "all"
  | arg :: _ => if arg = "" then "all" else arg

def deploy (args : List String) : Sh Unit :=
  match phases (phaseArg args) with
  | some ps => each ps Phase.run
  | none => quit 1

def rollouts : List String :=
  ["speech-llm", "speech-stt-tts", "speech-gateway", "traefik", "speech-demo"]

def install : Sh Unit := do
  let _ ← query (.getSecret "local-registry-cred")
  deploy ["all"]
  each rollouts fun d => check (.rolloutStatus d) id
  let _ ← query (.getSecret "speech-demo-tls")
  pure ()

/-- A namespace goes with everything in it. -/
def deleteNamespace (ns : String) (s : Finset Object) : Finset Object :=
  s.filter fun o => o ≠ clusterWide .ns ns ∧ o.ns ≠ some ns

def deleteObject (o : Object) : Sh Unit := check (.delete o) (·.erase o)

/-- `read -rp "Type 'yes' to continue: " reply` and the test of the reply -/
def confirm : Sh Unit := do
  let r ← query .readReply
  when (r.line ≠ some "yes") (quit 1)

def tearDown (ns : String) : Sh Unit := do
  check (.deleteNamespace ns) (deleteNamespace ns)
  deleteObject (clusterWide .clusterRoleBinding "traefik")
  deleteObject (clusterWide .clusterRole "traefik")
  deleteObject (clusterWide .ingressClass "traefik")

def cleanup (ns : String) (args : List String) : Sh Unit := do
  when (args.head? ≠ some "--yes") confirm
  tearDown ns

/-! ## The order -/

/-- Each manifest finds what it needs, if `os` is there before the first of them. -/
def orderly : List Object → List Manifest → Bool
  | _, [] => true
  | os, m :: ms => m.needs.all (os.contains ·) && orderly (os ++ m.objects) ms

/-- What a command acts on or waits for is set up to start. -/
def Founded (e : Entry Call (Finset Object)) : Prop :=
  match e.call with
  | .apply m _ => ∀ n ∈ m.needs, n ∈ e.before
  | .rolloutStatus d => inSpeech .deployment d ∈ e.before
  | .getSecret _ | .readReply | .deleteNamespace _ | .delete _ => True

/-- The script has ended at a command that failed, or at an argument that it does not know. -/
def Stopped (status : Nat) (w : World Call (Finset Object)) : Prop :=
  status ≠ 0 ∧ ∀ e ∈ w.log, Founded e

/-- All commands so far were set up, and the objects `os` are there. -/
structure Standing (os : List Object) (w : World Call (Finset Object)) : Prop where
  founded : ∀ e ∈ w.log, Founded e
  there : ∀ o ∈ os, o ∈ w.state

section
variable {env : Env Call} {os : List Object} {ms : List Manifest} {w : World Call (Finset Object)}

theorem Standing.record (h : Standing os w) {k : Call} {s : Finset Object} (n : Nat)
    (hk : Founded ⟨k, w.clock, w.state⟩) (hs : ∀ o ∈ os, o ∈ s) :
    Standing os (w.record k n s) := by
  refine ⟨fun e he => ?_, hs⟩
  rcases List.mem_append.mp he with he | he
  · exact h.founded e he
  · obtain rfl := List.mem_singleton.mp he
    exact hk

/-- A manifest whose needs are met is applied, or the script ends. -/
theorem wp_kubectlApply {m : Manifest} (hneeds : ∀ n ∈ m.needs, n ∈ os) (h : Standing os w) :
    wp env (kubectlApply m) (fun _ v => Standing (os ++ m.objects) v)
      Stopped w := by
  have hloop : wp env (attemptEach (Call.apply m) insert true m.objects)
      (fun ok v => Standing os v ∧ (ok = true → ∀ o ∈ m.objects, o ∈ v.state))
      Stopped w := by
    refine wp_mono (wp_attemptEach (fun rest ok v => Standing os v ∧ (ok = true →
      ∀ o ∈ m.objects, o ∈ rest ∨ o ∈ v.state)) m.objects ?_ ?_) ?_ (fun _ _ h => h)
    · intro o rest ok v ⟨hv, hdone⟩
      have hkept : ∀ x ∈ v.state,
          x ∈ (if (env (.apply m o)).ok then insert o v.state else v.state) := by
        intro x hx
        split
        · exact Finset.mem_insert_of_mem hx
        · exact hx
      refine ⟨hv.record _ (fun n hn => hv.there n (hneeds n hn)) fun x hx =>
        hkept x (hv.there x hx), fun hok x hx => ?_⟩
      obtain ⟨hok, hlast⟩ := Bool.and_eq_true_iff.mp hok
      rcases hdone hok x hx with hrest | hstate
      · rcases List.mem_cons.mp hrest with rfl | hrest
        · rw [record_state, if_pos hlast]
          exact .inr (Finset.mem_insert_self _ _)
        · exact .inl hrest
      · exact .inr (hkept x hstate)
    · exact ⟨h, fun _ o ho => .inl ho⟩
    · intro ok v ⟨hv, hdone⟩
      refine ⟨hv, fun hok o ho => ?_⟩
      exact (hdone hok o ho).resolve_left List.not_mem_nil
  rw [kubectlApply, wp_bind]
  refine wp_mono hloop (fun ok v hv => ?_) (fun _ _ h => h)
  obtain ⟨hv, hdone⟩ := hv
  rw [wp_when]
  cases ok with
  | false => exact ⟨Nat.one_ne_zero, hv.founded⟩
  | true =>
      refine ⟨hv.founded, fun o ho => ?_⟩
      rcases List.mem_append.mp ho with ho | ho
      · exact hv.there o ho
      · exact hdone rfl o ho

theorem wp_each_kubectlApply (rest : List Manifest) (horderly : orderly os (ms ++ rest) = true)
    (h : Standing os w) :
    wp env (each ms kubectlApply)
      (fun _ v => ∃ os', orderly os' rest = true ∧ Standing os' v ∧
        (∀ o ∈ os, o ∈ os') ∧ ∀ m ∈ ms, ∀ o ∈ m.objects, o ∈ os')
      Stopped w := by
  induction ms generalizing os w with
  | nil => exact ⟨os, horderly, h, fun _ ho => ho, nofun⟩
  | cons m ms ih =>
      obtain ⟨hneeds, hrest⟩ := Bool.and_eq_true_iff.mp horderly
      rw [each, wp_bind]
      have hmet : ∀ n ∈ m.needs, n ∈ os := by simpa using hneeds
      refine wp_mono (wp_kubectlApply hmet h) (fun _ v hv => ?_) (fun _ _ h => h)
      refine wp_mono (ih hrest hv) (fun _ u hu => ?_) (fun _ _ h => h)
      obtain ⟨os', ho', hu, hsub, hall⟩ := hu
      refine ⟨os', ho', hu, fun o ho => hsub o (List.mem_append_left _ ho), fun m' hm' => ?_⟩
      rcases List.mem_cons.mp hm' with rfl | hm'
      · exact fun o ho => hsub o (List.mem_append_right _ ho)
      · exact hall m' hm'

/-- What the phases put into the cluster. -/
def objectsOf (ps : List Phase) : List Object :=
  ps.flatMap fun p => p.manifests.flatMap Manifest.objects

theorem wp_phases {ps : List Phase} (horderly : orderly os (ps.flatMap Phase.manifests) = true)
    (h : Standing os w) :
    wp env (each ps Phase.run) (fun _ v => Standing (objectsOf ps) v)
      Stopped w := by
  suffices wp env (each ps Phase.run) (fun _ v => ∃ os', Standing os' v ∧ (∀ o ∈ os, o ∈ os') ∧
      ∀ o ∈ objectsOf ps, o ∈ os') Stopped w by
    refine wp_mono this (fun _ v hv => ?_) (fun _ _ h => h)
    obtain ⟨os', hv, -, hall⟩ := hv
    exact ⟨hv.founded, fun o ho => hv.there o (hall o ho)⟩
  induction ps generalizing os w with
  | nil => exact ⟨os, h, fun _ ho => ho, nofun⟩
  | cons p ps ih =>
      rw [List.flatMap_cons] at horderly
      rw [each, wp_bind, Phase.run]
      refine wp_mono (wp_each_kubectlApply _ horderly h) (fun _ v hv => ?_) (fun _ _ h => h)
      obtain ⟨os₁, horderly, hv, hsub, hfirst⟩ := hv
      refine wp_mono (ih horderly hv) (fun _ u hu => ?_) (fun _ _ h => h)
      obtain ⟨os₂, hu, hsub', hrest⟩ := hu
      refine ⟨os₂, hu, fun o ho => hsub' o (hsub o ho), fun o ho => ?_⟩
      rcases List.mem_append.mp ho with ho | ho
      · obtain ⟨m, hm, ho⟩ := List.mem_flatMap.mp ho
        exact hsub' o (hfirst m hm o ho)
      · exact hrest o ho

end

theorem orderly_all : orderly [] (allPhases.flatMap Phase.manifests) = true := by decide +kernel

/-- What has to be there for a phase by itself. -/
def Phase.base : Phase → List Object
  | .scaffolding => []
  | .speechMcp => objectsOf [.scaffolding, .searxng]
  | .llm | .sttTts | .gateway | .traefik | .demo | .searxng => objectsOf [.scaffolding]

theorem Phase.orderly_base (p : Phase) : orderly p.base p.manifests = true := by
  cases p <;> decide +kernel

theorem phases_cases {arg : String} {ps : List Phase} (h : phases arg = some ps) :
    ps = allPhases ∨ ∃ p, ps = [p] := by
  unfold phases at h
  split at h
  · exact .inl (Option.some.inj h).symm
  · right
    repeat'
      split at h
      · exact ⟨_, (Option.some.inj h).symm⟩
    cases h

end SpeechK8s.Cluster.Deploy
