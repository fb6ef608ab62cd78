import Mathlib.Data.List.Basic
import Mathlib.Algebra.Order.BigOperators.Group.List
import Mathlib.Algebra.Order.Ring.Nat

/-!
# Lines

Lists joined with a separator and split at it again. The parts come back exactly when none of
them has a separator of its own, and else there are more of them.
-/
namespace Lines

section
variable {α : Type} [BEq α] (sep : α)

theorem length_splitOn (xs : List α) : (xs.splitOn sep).length = xs.count sep + 1 := by
  induction xs with
  | nil => rfl
  | cons x xs ih =>
      rw [List.splitOn_cons_eq_if_modifyHead, List.count_cons]
      split
      · rw [List.length_cons, ih]
      · rw [List.length_modifyHead, ih, Nat.add_zero]

variable [LawfulBEq α]

theorem count_intercalate {parts : List (List α)} (h : parts ≠ []) :
    ([sep].intercalate parts).count sep + 1 =
      parts.length + (parts.map fun l => l.count sep).sum := by
  induction parts with
  | nil => exact absurd rfl h
  | cons l rest ih =>
      cases rest with
      | nil => simp [Nat.add_comm]
      | cons m rest =>
          have htail := ih (List.cons_ne_nil m rest)
          rw [List.intercalate_cons_cons, List.count_append, List.count_append,
            List.count_singleton_self, List.map_cons, List.sum_cons, List.length_cons]
          omega

theorem length_splitOn_intercalate {parts : List (List α)} (h : parts ≠ []) :
    (([sep].intercalate parts).splitOn sep).length =
      parts.length + (parts.map fun l => l.count sep).sum := by
  rw [length_splitOn, count_intercalate sep h]

variable {sep}

theorem separate_of_length {parts : List (List α)} (h : parts ≠ [])
    (hlen : (([sep].intercalate parts).splitOn sep).length = parts.length) :
    ∀ l ∈ parts, sep ∉ l := by
  intro l hl hmem
  rw [length_splitOn_intercalate sep h] at hlen
  have hcount : 0 < l.count sep := List.count_pos_iff.mpr hmem
  have hle : l.count sep ≤ (parts.map fun l => l.count sep).sum :=
    List.le_sum_of_mem (List.mem_map.mpr ⟨l, hl, rfl⟩)
  omega

/-- The parts come back exactly when no part has a separator. -/
theorem splitOn_intercalate_iff {parts : List (List α)} (h : parts ≠ []) :
    ([sep].intercalate parts).splitOn sep = parts ↔ ∀ l ∈ parts, sep ∉ l := by
  constructor
  · intro heq
    exact separate_of_length h (congrArg List.length heq)
  · intro hfree
    exact List.splitOn_intercalate sep hfree h

end

theorem intercalate_begins {α : Type} (sep x : α) (l : List α) (rest : List (List α)) :
    ∃ tail, [sep].intercalate ((x :: l) :: rest) = x :: tail := by
  cases rest with
  | nil => exact ⟨l, List.intercalate_singleton⟩
  | cons m rest =>
      rw [List.intercalate_cons_cons, List.cons_append, List.cons_append]
      exact ⟨_, rfl⟩

end Lines
