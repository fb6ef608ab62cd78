import Mathlib.Data.List.Nodup
import Mathlib.Logic.Function.Basic
import Mathlib.Tactic.Common

/-!
# Timers that are kept in variables

A program keeps the id of its running timer of each kind in a variable, 0 for none. It stops the
timer of the variable before it starts another, and nothing else starts or stops timers. Then the
variables know all the timers there are.
-/

structure Timers (κ : Type) where
  slot : κ → Nat
  running : List (Nat × κ)
  next : Nat

namespace Timers
variable {κ : Type} [DecidableEq κ]
open Function (update)

def stop (t : Timers κ) (k : κ) : Timers κ :=
  if t.slot k ≠ 0 then
    { t with slot := update t.slot k 0, running := t.running.filter (·.1 ≠ t.slot k) }
  else t

def start (t : Timers κ) (k : κ) : Timers κ :=
  { slot := update (t.stop k).slot k (t.stop k).next
    running := (t.stop k).running ++ [((t.stop k).next, k)]
    next := (t.stop k).next + 1 }

/-- The running timers are those of the variables, and each kind has one of its own. -/
structure Owned (t : Timers κ) : Prop where
  running : ∀ n k, (n, k) ∈ t.running ↔ n = t.slot k ∧ n ≠ 0
  known : ∀ k, t.slot k < t.next
  apart : ∀ j k, t.slot j = t.slot k → j ≠ k → t.slot k = 0

variable {t : Timers κ}

theorem stop_slot (t : Timers κ) (k : κ) : (t.stop k).slot k = 0 := by
  unfold stop
  split
  · exact Function.update_self k 0 t.slot
  · exact not_not.mp ‹_›

theorem stop_slot_ne (t : Timers κ) {j k : κ} (h : j ≠ k) : (t.stop k).slot j = t.slot j := by
  unfold stop
  split
  · exact Function.update_of_ne h 0 t.slot
  · rfl

@[simp] theorem stop_next (t : Timers κ) (k : κ) : (t.stop k).next = t.next := by
  unfold stop
  split <;> rfl

theorem stop_idle {k : κ} (h : t.slot k = 0) : t.stop k = t := if_neg (not_not.mpr h)

theorem mem_stop_running {k : κ} (h : t.slot k ≠ 0) {e : Nat × κ} :
    e ∈ (t.stop k).running ↔ e ∈ t.running ∧ e.1 ≠ t.slot k := by
  rw [stop, if_pos h, List.mem_filter, decide_eq_true_eq]

theorem Owned.stop (h : t.Owned) (k : κ) : (t.stop k).Owned := by
  by_cases hk : t.slot k = 0
  · rwa [stop_idle hk]
  refine ⟨fun n j => ?_, fun j => ?_, fun i j heq hij => ?_⟩
  · rw [mem_stop_running hk, h.running]
    by_cases hj : j = k
    · subst hj
      rw [stop_slot]
      exact iff_of_false (fun hn => hn.2 hn.1.1) fun hn => hn.2 hn.1
    · rw [stop_slot_ne t hj]
      refine ⟨fun hn => hn.1, fun hn => ⟨hn, fun heq => hk ?_⟩⟩
      exact h.apart j k (hn.1.symm.trans heq) hj
  · rw [stop_next]
    by_cases hj : j = k
    · subst hj
      rw [stop_slot]
      exact Nat.zero_lt_of_lt (h.known j)
    · rw [stop_slot_ne t hj]
      exact h.known j
  · by_cases hj : j = k
    · subst hj
      exact stop_slot t j
    · by_cases hi : i = k
      · subst hi
        rw [← heq]
        exact stop_slot t i
      · rw [stop_slot_ne t hi, stop_slot_ne t hj] at heq
        rw [stop_slot_ne t hj]
        exact h.apart i j heq hij

theorem start_slot (t : Timers κ) (k : κ) : (t.start k).slot k = t.next := by
  rw [start, stop_next]
  exact Function.update_self ..

theorem start_slot_ne (t : Timers κ) {j k : κ} (h : j ≠ k) : (t.start k).slot j = t.slot j := by
  rw [← stop_slot_ne t h]
  exact Function.update_of_ne h _ _

theorem Owned.start (h : t.Owned) (k : κ) : (t.start k).Owned := by
  have hfresh : ∀ i, t.slot i ≠ t.next := fun i => Nat.ne_of_lt (h.known i)
  have hpos : t.next ≠ 0 := Nat.ne_zero_of_lt (h.known k)
  have hrunning : (t.start k).running = (t.stop k).running ++ [(t.next, k)] := by
    rw [Timers.start, stop_next]
  have hnext : (t.start k).next = t.next + 1 := by rw [Timers.start, stop_next]
  refine ⟨fun n j => ?_, fun j => ?_, fun i j heq hij => ?_⟩
  · rw [hrunning, List.mem_append, (h.stop k).running, List.mem_singleton, Prod.mk.injEq]
    by_cases hj : j = k
    · subst hj
      rw [start_slot, stop_slot]
      constructor
      · rintro (⟨hz, hne⟩ | ⟨rfl, -⟩)
        · exact absurd hz hne
        · exact ⟨rfl, hpos⟩
      · rintro ⟨rfl, -⟩
        exact .inr ⟨rfl, rfl⟩
    · rw [start_slot_ne t hj, stop_slot_ne t hj]
      exact ⟨fun hn => hn.resolve_right fun hn => hj hn.2, .inl⟩
  · rw [hnext]
    by_cases hj : j = k
    · subst hj
      rw [start_slot]
      exact Nat.lt_succ_self _
    · rw [start_slot_ne t hj]
      exact Nat.lt_succ_of_lt (h.known j)
  · by_cases hj : j = k
    · subst hj
      rw [start_slot, start_slot_ne t hij] at heq
      exact absurd heq (hfresh i)
    · by_cases hi : i = k
      · subst hi
        rw [start_slot, start_slot_ne t hj] at heq
        exact absurd heq.symm (hfresh j)
      · rw [start_slot_ne t hi, start_slot_ne t hj] at heq
        rw [start_slot_ne t hj]
        exact h.apart i j heq hij

end Timers
