import Mathlib.Data.List.Induction
import Mathlib.Tactic.Common

/-!
# Ledgers of one open item

A ledger records that items are opened, used and closed. At most one item is open at a time: to
open another displaces it, and it may be dropped. In an orderly ledger only the open item is used
or closed.
-/
namespace Ledger

/-- What an entry says about the items of one sort. -/
inductive Act (α : Type) where
  | opens (x : α)
  | uses (x : α)
  | closes (x : α)
  | drops
  | other
  deriving DecidableEq, Repr

variable {ε α : Type} (act : ε → Act α)

def after (open' : Option α) (e : ε) : Option α :=
  match act e with
  | .opens x => some x
  | .closes _ | .drops => none
  | .uses _ | .other => open'

/-- The item that is open at the end. -/
def holder (log : List ε) : Option α := log.foldl (after act) none

/-- What may stand after `log`. -/
def Allowed (log : List ε) (e : ε) : Prop :=
  match act e with
  | .uses x | .closes x => holder act log = some x
  | .opens _ | .drops | .other => True

def Orderly (log : List ε) : Prop := ∀ pre e, pre ++ [e] <+: log → Allowed act pre e

variable {act} {log : List ε} {x : α}

@[simp] theorem holder_nil : holder act [] = none := rfl

theorem holder_concat (log : List ε) (e : ε) :
    holder act (log ++ [e]) = after act (holder act log) e := by
  rw [holder, List.foldl_append]
  rfl

theorem orderly_nil : Orderly act [] := by
  intro pre e h
  simp [List.prefix_nil] at h

theorem orderly_concat {e : ε} :
    Orderly act (log ++ [e]) ↔ Orderly act log ∧ Allowed act log e := by
  constructor
  · intro h
    exact ⟨fun pre d hd => h pre d (hd.trans (List.prefix_append _ _)), h log e List.prefix_rfl⟩
  · rintro ⟨h, he⟩ pre d hd
    rcases List.prefix_concat_iff.mp hd with same | within
    · obtain ⟨rfl, hde⟩ := List.append_inj' same rfl
      obtain rfl := List.singleton_inj.mp hde
      exact he
    · exact h pre d within

theorem Orderly.allowed (h : Orderly act log) {pre post : List ε} {e : ε}
    (hlog : log = pre ++ e :: post) : Allowed act pre e := by
  have hpre : pre ++ [e] <+: log := ⟨post, by rw [hlog, List.append_assoc, List.singleton_append]⟩
  exact h pre e hpre

/-- The open item has been opened, and since then no item has been opened, closed or dropped. -/
theorem opened_of_holder (h : holder act log = some x) :
    ∃ pre o post, log = pre ++ o :: post ∧ act o = .opens x ∧
      ∀ e ∈ post, act e = .other ∨ ∃ y, act e = .uses y := by
  induction log using List.reverseRecOn with
  | nil => cases h
  | append_singleton log e ih =>
      rw [holder_concat, after] at h
      cases hact : act e with
      | opens y =>
          rw [hact] at h
          obtain rfl := Option.some.inj h
          exact ⟨log, e, [], rfl, hact, by simp⟩
      | closes y | drops =>
          rw [hact] at h
          cases h
      | uses y =>
          rw [hact] at h
          obtain ⟨pre, o, post, rfl, ho, hpost⟩ := ih h
          refine ⟨pre, o, post ++ [e], by simp, ho, fun d hd => ?_⟩
          rcases List.mem_append.mp hd with hd | hd
          · exact hpost d hd
          · exact .inr ⟨y, List.mem_singleton.mp hd ▸ hact⟩
      | other =>
          rw [hact] at h
          obtain ⟨pre, o, post, rfl, ho, hpost⟩ := ih h
          refine ⟨pre, o, post ++ [e], by simp, ho, fun d hd => ?_⟩
          rcases List.mem_append.mp hd with hd | hd
          · exact hpost d hd
          · exact .inl (List.mem_singleton.mp hd ▸ hact)

section
variable [DecidableEq α]

def opened (act : ε → Act α) (x : α) (log : List ε) : Nat := log.countP fun e => act e = .opens x

def closed (act : ε → Act α) (x : α) (log : List ε) : Nat := log.countP fun e => act e = .closes x

/-- An item is closed no more often than it is opened. -/
theorem Orderly.closed_le (h : Orderly act log) (x : α) :
    closed act x log + (if holder act log = some x then 1 else 0) ≤ opened act x log := by
  induction log using List.reverseRecOn with
  | nil => simp [closed, opened]
  | append_singleton log e ih =>
      obtain ⟨hlog, he⟩ := orderly_concat.mp h
      have hle := ih hlog
      have hopened : opened act x (log ++ [e]) =
          opened act x log + if act e = .opens x then 1 else 0 := by
        simp [opened, List.countP_append, List.countP_cons]
      have hclosed : closed act x (log ++ [e]) =
          closed act x log + if act e = .closes x then 1 else 0 := by
        simp [closed, List.countP_append, List.countP_cons]
      rw [hopened, hclosed, holder_concat, after]
      cases hact : act e with
      | opens y =>
          by_cases hy : y = x
          · subst hy
            simp only [reduceCtorEq, if_false, if_true]
            omega
          · simp only [reduceCtorEq, if_false, Option.some.injEq, Act.opens.injEq, hy]
            omega
      | closes y =>
          simp only [Allowed, hact] at he
          by_cases hy : y = x
          · subst hy
            rw [if_pos he] at hle
            simp only [reduceCtorEq, if_false, if_true]
            omega
          · simp only [reduceCtorEq, if_false, Act.closes.injEq, hy]
            omega
      | drops =>
          simp only [reduceCtorEq, if_false]
          omega
      | uses y =>
          simp only [reduceCtorEq, if_false]
          omega
      | other =>
          simp only [reduceCtorEq, if_false]
          omega

end

end Ledger
