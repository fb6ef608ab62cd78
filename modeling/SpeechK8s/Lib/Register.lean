import Mathlib.Data.List.Basic
import Mathlib.Data.List.Sublists
import Mathlib.Tactic.Common

/-!
# A register with one saved copy

A value `live` with at most one saved copy. `save` overwrites the copy by the current value,
whatever it is, and `restore` reads the copy back without consuming it. The results say when
a value survives a sequence of saves and clears.
-/

@[ext] structure Register (α : Type) where
  live : α
  saved : Option α
  deriving DecidableEq, Repr

namespace Register

inductive Op (α : Type) where
  | save
  | set (a : α)
  | restore (default : α)
  deriving DecidableEq, Repr

variable {α : Type}

def apply (r : Register α) : Op α → Register α
  | .save => { r with saved := some r.live }
  | .set a => { r with live := a }
  | .restore d => { r with live := r.saved.getD d }

def run (r : Register α) (ops : List (Op α)) : Register α := ops.foldl apply r

@[simp] theorem run_nil (r : Register α) : r.run [] = r := rfl

@[simp] theorem run_cons (r : Register α) (o : Op α) (ops : List (Op α)) :
    r.run (o :: ops) = (r.apply o).run ops := rfl

theorem run_append (r : Register α) (a b : List (Op α)) : r.run (a ++ b) = (r.run a).run b :=
  List.foldl_append

@[simp] theorem apply_save_live (r : Register α) : (r.apply .save).live = r.live := rfl
@[simp] theorem apply_save_saved (r : Register α) : (r.apply .save).saved = some r.live := rfl
@[simp] theorem apply_set_live (r : Register α) (a : α) : (r.apply (.set a)).live = a := rfl
@[simp] theorem apply_set_saved (r : Register α) (a : α) : (r.apply (.set a)).saved = r.saved := rfl

/-! ## Saving and clearing

A shutdown saves the register and clears it to `z`; one that is cut short may do neither, or
only save. Several in a row are any sequence of the two operations. -/

/-- Only saves and clears to `z`. -/
def Shutdown (z : α) (ops : List (Op α)) : Prop := ∀ o ∈ ops, o = .save ∨ o = .set z

/-- Some save comes after a clear, and so saves the cleared value. -/
def Resaved (z : α) (ops : List (Op α)) : Prop := List.Sublist [.set z, .save] ops

theorem resaved_set_cons {z : α} {ops : List (Op α)} :
    Resaved z (.set z :: ops) ↔ .save ∈ ops := by
  unfold Resaved
  constructor
  · intro h
    cases h with
    | cons _ h => exact h.subset (by simp)
    | cons_cons _ h => exact List.singleton_sublist.mp h
  · exact fun h => (List.singleton_sublist.mpr h).cons_cons _

theorem resaved_save_cons {z : α} {ops : List (Op α)} :
    Resaved z (.save :: ops) ↔ Resaved z ops := by
  unfold Resaved
  constructor
  · intro h
    cases h with
    | cons _ h => exact h
  · exact fun h => h.cons _

theorem run_cleared {z : α} {ops : List (Op α)} (h : Shutdown z ops) (r : Register α)
    (hz : r.live = z) :
    (r.run ops).live = z ∧ (.save ∈ ops → (r.run ops).saved = some z) ∧
      (.save ∉ ops → (r.run ops).saved = r.saved) := by
  induction ops generalizing r with
  | nil => simp [hz]
  | cons o ops ih =>
      have ht : Shutdown z ops := fun x hx => h x (List.mem_cons_of_mem o hx)
      rcases h o List.mem_cons_self with rfl | rfl
      · obtain ⟨live, hit, miss⟩ := ih ht (r.apply .save) hz
        refine ⟨live, fun _ => ?_, fun hn => absurd List.mem_cons_self hn⟩
        by_cases hs : .save ∈ ops
        · exact hit hs
        · rw [run_cons, miss hs, apply_save_saved, hz]
      · obtain ⟨live, hit, miss⟩ := ih ht (r.apply (.set z)) rfl
        refine ⟨live, fun hs => hit ?_, fun hs => miss ?_⟩
        · simpa using hs
        · simpa using hs

theorem run_live_iff {z : α} {ops : List (Op α)} (h : Shutdown z ops) (r : Register α) :
    (r.run ops).live = r.live ↔ r.live = z ∨ .set z ∉ ops := by
  induction ops generalizing r with
  | nil => simp
  | cons o ops ih =>
      have ht : Shutdown z ops := fun x hx => h x (List.mem_cons_of_mem o hx)
      rcases h o List.mem_cons_self with rfl | rfl
      · simpa using ih ht (r.apply .save)
      · obtain ⟨live, -, -⟩ := run_cleared ht (r.apply (.set z)) rfl
        simp [live, eq_comm]

/-- The copy after a sequence of saves and clears: the first value, unless a save came after
a clear; the earlier copy, if there was no save. -/
theorem run_saved {z : α} {ops : List (Op α)} (h : Shutdown z ops) (r : Register α) :
    (.save ∉ ops → (r.run ops).saved = r.saved) ∧
    (.save ∈ ops → ¬ Resaved z ops → (r.run ops).saved = some r.live) ∧
    (Resaved z ops → (r.run ops).saved = some z) := by
  induction ops generalizing r with
  | nil => exact ⟨fun _ => rfl, fun hs => absurd hs List.not_mem_nil, fun h => by cases h⟩
  | cons o ops ih =>
      have ht : Shutdown z ops := fun x hx => h x (List.mem_cons_of_mem o hx)
      rcases h o List.mem_cons_self with rfl | rfl
      · obtain ⟨none, once, again⟩ := ih ht (r.apply .save)
        refine ⟨fun hn => absurd List.mem_cons_self hn, fun _ hr => ?_, fun hr => ?_⟩
        · rw [resaved_save_cons] at hr
          by_cases hs : .save ∈ ops
          · exact once hs hr
          · exact none hs
        · exact again (resaved_save_cons.mp hr)
      · obtain ⟨-, hit, miss⟩ := run_cleared ht (r.apply (.set z)) rfl
        refine ⟨fun hn => miss (by simpa using hn), fun hs hr => ?_, fun hr => ?_⟩
        · exact absurd (by simpa using hs) (mt resaved_set_cons.mpr hr)
        · exact hit (resaved_set_cons.mp hr)

/-- Restoring after saves and clears gives the first value back exactly when it was saved and
never saved again once cleared, or was never saved but is what the old copy restores. -/
theorem restore_run_iff {z d : α} {ops : List (Op α)} (h : Shutdown z ops) (r : Register α) :
    ((r.run ops).apply (.restore d)).live = r.live ↔
      (.save ∈ ops ∧ (r.live = z ∨ ¬ Resaved z ops)) ∨
      (.save ∉ ops ∧ r.saved.getD d = r.live) := by
  obtain ⟨none, once, again⟩ := run_saved h r
  change (r.run ops).saved.getD d = r.live ↔ _
  by_cases hs : .save ∈ ops
  · by_cases hr : Resaved z ops
    · simp [again hr, hs, hr, eq_comm]
    · simp [once hs hr, hs, hr]
  · simp [none hs, hs]

end Register
