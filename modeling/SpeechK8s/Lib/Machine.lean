import Mathlib.Logic.Function.Basic
import Mathlib.Tactic.Common

/-!
# Machines whose parties share a lock

A machine is a partial step function: a step that is not enabled gives no state. The second
part says how the owner of a lock and the one party inside the section it guards move together.
-/
namespace Machine
variable {σ α ι : Type}

/-- Reached from `s` by any sequence of steps. -/
inductive Reachable (step : σ → α → Option σ) (s : σ) : σ → Prop where
  | start : Reachable step s s
  | next {t u : σ} (a : α) (before : Reachable step s t) (taken : step t a = some u) :
      Reachable step s u

variable {step : σ → α → Option σ}

theorem Reachable.invariant {I : σ → Prop} {s t : σ} (h : Reachable step s t) (hs : I s)
    (hstep : ∀ t a u, I t → step t a = some u → I u) : I t := by
  induction h with
  | start => exact hs
  | next a _ taken ih => exact hstep _ a _ ih taken

/-- The state after a list of steps, if each is enabled in its turn. -/
def exec (step : σ → α → Option σ) : σ → List α → Option σ
  | s, [] => some s
  | s, a :: as => (step s a).bind fun t => exec step t as

theorem reachable_exec {s t u : σ} {as : List α} (h : Reachable step s t)
    (he : exec step t as = some u) : Reachable step s u := by
  induction as generalizing t with
  | nil =>
      have htu : t = u := Option.some.inj he
      exact htu ▸ h
  | cons a as ih =>
      obtain ⟨v, hv, hrest⟩ := Option.bind_eq_some_iff.mp he
      exact ih (h.next a hv) hrest

/-- A list of steps keeps what each of them keeps. -/
theorem exec_invariant {I : σ → Prop} {s t : σ} {as : List α} (he : exec step s as = some t)
    (hs : I s) (hstep : ∀ a ∈ as, ∀ t u, I t → step t a = some u → I u) : I t := by
  induction as generalizing s with
  | nil =>
      have hst : s = t := Option.some.inj he
      exact hst ▸ hs
  | cons a as ih =>
      obtain ⟨v, hv, hrest⟩ := Option.bind_eq_some_iff.mp he
      refine ih hrest (hstep a (List.mem_cons_self ..) s v hs hv) ?_
      intro b hb
      exact hstep b (List.mem_cons_of_mem a hb)

/-! ## A lock -/

/-- The lock is held exactly by the party that is inside. -/
def Owned (lock : Option ι) (inside : ι → Prop) : Prop := ∀ p, inside p ↔ lock = some p

variable {lock : Option ι} {inside inside' : ι → Prop} {p q : ι}

theorem Owned.exclusive (h : Owned lock inside) (hp : inside p) (hq : inside q) : p = q := by
  have hlock := (h p).mp hp
  rw [(h q).mp hq] at hlock
  exact (Option.some.inj hlock).symm

theorem Owned.keep (h : Owned lock inside) (hp : inside' p ↔ inside p)
    (hframe : ∀ q, q ≠ p → (inside' q ↔ inside q)) : Owned lock inside' := by
  intro q
  by_cases hq : q = p
  · subst hq
    exact hp.trans (h q)
  · exact (hframe q hq).trans (h q)

theorem Owned.acquire (h : Owned none inside) (hp : inside' p)
    (hframe : ∀ q, q ≠ p → (inside' q ↔ inside q)) : Owned (some p) inside' := by
  intro q
  by_cases hq : q = p
  · subst hq
    exact iff_of_true hp rfl
  · have hout : ¬ inside q := fun hin => nomatch (h q).mp hin
    have hne : some p ≠ some q := fun he => hq (Option.some.inj he).symm
    exact iff_of_false (fun hin => hout ((hframe q hq).mp hin)) hne

theorem Owned.release (h : Owned lock inside) (hp : inside p) (hout : ¬ inside' p)
    (hframe : ∀ q, q ≠ p → (inside' q ↔ inside q)) : Owned none inside' := by
  intro q
  refine iff_of_false (fun hin => ?_) (fun hn => nomatch hn)
  by_cases hq : q = p
  · exact hout (hq ▸ hin)
  · exact hq (h.exclusive ((hframe q hq).mp hin) hp)

end Machine
