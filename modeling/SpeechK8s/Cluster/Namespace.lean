import SpeechK8s.Lib.Register

/-!
# The Deployments of one namespace

What the two cluster scripts read and write of the API server: for each Deployment its
`spec.replicas`, the `speech.cluster/prev-replicas` annotation as the count it spells, and
the `nvidia.com/gpu` request of every container of the pod template.
-/
namespace SpeechK8s.Cluster
open Register (Op)

structure Quantity where
  text : List Char
  visible : ∃ c ∈ text, c ≠ ' '

structure Deployment where
  name : String
  replicas : Nat
  prevReplicas : Option Nat
  gpuRequests : List (Option Quantity)

def Deployment.counts (x : Deployment) : Register Nat := ⟨x.replicas, x.prevReplicas⟩

def Deployment.withCounts (x : Deployment) (r : Register Nat) : Deployment :=
  { x with replicas := r.live, prevReplicas := r.saved }

@[simp] theorem withCounts_name (x : Deployment) (r : Register Nat) :
    (x.withCounts r).name = x.name := rfl
@[simp] theorem withCounts_counts (x : Deployment) (r : Register Nat) :
    (x.withCounts r).counts = r := rfl
@[simp] theorem withCounts_gpuRequests (x : Deployment) (r : Register Nat) :
    (x.withCounts r).gpuRequests = x.gpuRequests := rfl

@[simp] theorem withCounts_withCounts (x : Deployment) (r s : Register Nat) :
    (x.withCounts r).withCounts s = x.withCounts s := rfl

/-- The API server keeps names unique within a namespace. -/
@[ext] structure Namespace where
  items : List Deployment
  nodup : (items.map Deployment.name).Nodup

namespace Namespace

def names (ns : Namespace) : List String := ns.items.map Deployment.name

def find? (ns : Namespace) (d : String) : Option Deployment := ns.items.find? (·.name == d)

def update (ns : Namespace) (f : Deployment → Register Nat) : Namespace where
  items := ns.items.map fun x => x.withCounts (f x)
  nodup := by
    rw [List.map_map]
    exact ns.nodup

/-- `kubectl annotate deployment d speech.cluster/prev-replicas=count --overwrite` -/
def annotate (ns : Namespace) (d : String) (count : Nat) : Namespace :=
  ns.update fun x => if x.name = d then { x.counts with saved := some count } else x.counts

/-- `kubectl scale deployment d --replicas=count` -/
def scale (ns : Namespace) (d : String) (count : Nat) : Namespace :=
  ns.update fun x => if x.name = d then { x.counts with live := count } else x.counts

/-- `kubectl create`, which refuses a name that is taken. -/
def create (ns : Namespace) (x : Deployment) : Namespace :=
  if h : x.name ∈ ns.items.map Deployment.name then ns
  else ⟨ns.items ++ [x], by simpa [List.nodup_append, ns.nodup] using h⟩

/-- Every Deployment taken through its own operations on its count and saved count. -/
def runOps (ns : Namespace) (ops : String → List (Op Nat)) : Namespace :=
  ns.update fun x => x.counts.run (ops x.name)

theorem eq_of_name {ns : Namespace} {x y : Deployment} (hx : x ∈ ns.items) (hy : y ∈ ns.items)
    (h : x.name = y.name) : x = y :=
  List.inj_on_of_nodup_map ns.nodup hx hy h

theorem mem_names {ns : Namespace} {d : String} :
    d ∈ ns.names ↔ ∃ x ∈ ns.items, x.name = d := List.mem_map

theorem find?_name {ns : Namespace} {x : Deployment} (hx : x ∈ ns.items) :
    ns.find? x.name = some x := by
  cases h : ns.find? x.name with
  | none => simpa using List.find?_eq_none.mp h x hx
  | some y =>
      have hn : y.name = x.name := by simpa using List.find?_some h
      rw [eq_of_name (List.mem_of_find?_eq_some h) hx hn]

@[simp] theorem update_names (ns : Namespace) (f : Deployment → Register Nat) :
    (ns.update f).names = ns.names := by
  simp [names, update, Function.comp_def]

@[simp] theorem runOps_names (ns : Namespace) (ops : String → List (Op Nat)) :
    (ns.runOps ops).names = ns.names := update_names ns _

theorem update_congr {ns : Namespace} {f g : Deployment → Register Nat}
    (h : ∀ x ∈ ns.items, f x = g x) : ns.update f = ns.update g := by
  ext1
  exact List.map_congr_left fun x hx => by rw [h x hx]

theorem runOps_congr {ns : Namespace} {a b : String → List (Op Nat)}
    (h : ∀ n ∈ ns.names, a n = b n) : ns.runOps a = ns.runOps b :=
  update_congr fun x hx => by rw [h x.name (mem_names.mpr ⟨x, hx, rfl⟩)]

@[simp] theorem runOps_nil (ns : Namespace) : (ns.runOps fun _ => []) = ns := by
  ext1
  exact List.map_id'' (fun _ => rfl) ns.items

theorem runOps_runOps (ns : Namespace) (a b : String → List (Op Nat)) :
    (ns.runOps a).runOps b = ns.runOps fun n => a n ++ b n := by
  ext1
  simp [runOps, update, Function.comp_def, Register.run_append]

theorem find?_runOps {ns : Namespace} {x : Deployment} (hx : x ∈ ns.items)
    (ops : String → List (Op Nat)) :
    (ns.runOps ops).find? x.name = some (x.withCounts (x.counts.run (ops x.name))) :=
  find?_name (x := x.withCounts _) (List.mem_map.mpr ⟨x, hx, rfl⟩)

def only (d : String) (ops : List (Op Nat)) : String → List (Op Nat) :=
  fun n => if n = d then ops else []

theorem only_append (d : String) (a b : List (Op Nat)) (n : String) :
    only d a n ++ only d b n = only d (a ++ b) n := by
  unfold only; split <;> rfl

theorem annotate_current {ns : Namespace} {x : Deployment} (hx : x ∈ ns.items) :
    ns.annotate x.name x.replicas = ns.runOps (only x.name [.save]) := by
  refine update_congr fun y hy => ?_
  by_cases h : y.name = x.name
  · rw [eq_of_name hy hx h]
    simp only [only, if_true]
    rfl
  · simp [only, h]

theorem scale_eq (ns : Namespace) (d : String) (count : Nat) :
    ns.scale d count = ns.runOps (only d [.set count]) := by
  refine update_congr fun y _ => ?_
  by_cases h : y.name = d
  · simp only [h, only, if_true]
    rfl
  · simp [only, h]

end Namespace

/-! ## GPU requests -/

/-- The values of a jsonpath `[*]`, which it separates by spaces. -/
def joinSpaces : List (List Char) → List Char
  | [] => []
  | [v] => v
  | v :: vs => v ++ ' ' :: joinSpaces vs

/-- `{.spec.template.spec.containers[*].resources.requests.nvidia\.com/gpu}`: containers
without the key print nothing. -/
def Deployment.gpuReq (x : Deployment) : List Char :=
  joinSpaces (x.gpuRequests.filterMap (·.map Quantity.text))

/-- `[[ -n "${gpu_req// }" ]]` -/
def Deployment.isGpu (x : Deployment) : Bool := !(x.gpuReq.filter (· != ' ')).isEmpty

def Deployment.RequestsGpu (x : Deployment) : Prop := ∃ q, some q ∈ x.gpuRequests

theorem mem_joinSpaces {vs : List (List Char)} {c : Char} (hc : c ≠ ' ') :
    c ∈ joinSpaces vs ↔ ∃ v ∈ vs, c ∈ v := by
  induction vs with
  | nil => simp [joinSpaces]
  | cons v vs ih =>
      cases vs with
      | nil => simp [joinSpaces]
      | cons u us => simp [joinSpaces, ih, hc]

/-- The test on the printed text finds exactly the Deployments that request a GPU. -/
theorem isGpu_iff (x : Deployment) : x.isGpu = true ↔ x.RequestsGpu := by
  have visible : x.isGpu = true ↔ ∃ c ∈ x.gpuReq, c ≠ ' ' := by
    simp [Deployment.isGpu]
  rw [visible]
  constructor
  · intro h
    obtain ⟨c, hc, hne⟩ := h
    obtain ⟨v, hv, -⟩ := (mem_joinSpaces hne).mp hc
    obtain ⟨o, ho, hov⟩ := List.mem_filterMap.mp hv
    obtain ⟨q, rfl, -⟩ := Option.map_eq_some_iff.mp hov
    exact ⟨q, ho⟩
  · intro h
    obtain ⟨q, hq⟩ := h
    obtain ⟨c, hc, hne⟩ := q.visible
    exact ⟨c, (mem_joinSpaces hne).mpr ⟨q.text, List.mem_filterMap.mpr ⟨some q, hq, rfl⟩, hc⟩, hne⟩

end SpeechK8s.Cluster
