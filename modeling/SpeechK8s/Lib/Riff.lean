import Mathlib.Algebra.Group.Nat.Defs
import Mathlib.Data.List.Basic
import Mathlib.Tactic.Common

/-!
# RIFF files

Little-endian integers and the chunk format built from them: an identifier of four bytes, the
size of the body in four bytes, the body, and a padding byte after a body of odd size.
-/
namespace Riff

/-- The `n` little-endian bytes of `v`. -/
def le : Nat → Nat → List UInt8
  | 0, _ => []
  | n + 1, v => UInt8.ofNat v :: le n (v / 256)

def ofLE : List UInt8 → Nat
  | [] => 0
  | b :: bs => b.toNat + 256 * ofLE bs

@[simp] theorem le_length (n v : Nat) : (le n v).length = n := by
  induction n generalizing v with
  | zero => rfl
  | succ n ih => simp [le, ih]

theorem ofLE_le {n v : Nat} (h : v < 256 ^ n) : ofLE (le n v) = v := by
  induction n generalizing v with
  | zero =>
      have hv : v = 0 := by simpa using h
      exact hv.symm
  | succ n ih =>
      have hdiv : v / 256 < 256 ^ n := Nat.div_lt_of_lt_mul (by rwa [Nat.pow_succ'] at h)
      have hlow : (UInt8.ofNat v).toNat = v % 256 := by simp
      rw [le, ofLE, ih hdiv, hlow]
      omega

def field (n : Nat) (bs : List UInt8) : Option (List UInt8 × List UInt8) :=
  if n ≤ bs.length then some (bs.take n, bs.drop n) else none

theorem field_append {n : Nat} {a : List UInt8} (h : a.length = n) (b : List UInt8) :
    field n (a ++ b) = some (a, b) := by
  subst h
  simp [field]

@[simp] theorem field_le (n v : Nat) (b : List UInt8) : field n (le n v ++ b) = some (le n v, b) :=
  field_append (le_length n v) b

structure Chunk where
  id : List UInt8
  body : List UInt8
  deriving DecidableEq, Repr

/-- The chunk can be written: its fields have the sizes the format gives them. -/
structure Chunk.Fits (c : Chunk) : Prop where
  id : c.id.length = 4
  body : c.body.length < 256 ^ 4

def pad (n : Nat) : List UInt8 := List.replicate (n % 2) 0

def Chunk.write (c : Chunk) : List UInt8 :=
  c.id ++ (le 4 c.body.length ++ (c.body ++ pad c.body.length))

def readChunk (bs : List UInt8) : Option (Chunk × List UInt8) := do
  let (id, bs) ← field 4 bs
  let (size, bs) ← field 4 bs
  let (body, bs) ← field (ofLE size) bs
  some (⟨id, body⟩, bs.drop (ofLE size % 2))

theorem readChunk_write {c : Chunk} (h : c.Fits) (rest : List UInt8) :
    readChunk (c.write ++ rest) = some (c, rest) := by
  have hsize : ofLE (le 4 c.body.length) = c.body.length := ofLE_le h.body
  have hpad : (pad c.body.length ++ rest).drop (c.body.length % 2) = rest := by
    rw [List.drop_append_of_le_length (by simp [pad])]
    simp [pad]
  simp only [readChunk, Chunk.write, List.append_assoc, field_append h.id, field_le, hsize,
    field_append rfl, Option.bind_eq_bind, Option.bind_some, hpad]

def readChunks : Nat → List UInt8 → Option (List Chunk)
  | _, [] => some []
  | 0, _ :: _ => none
  | fuel + 1, b :: bs => do
      let (c, rest) ← readChunk (b :: bs)
      let cs ← readChunks fuel rest
      some (c :: cs)

theorem write_ne_nil {c : Chunk} (h : c.Fits) : c.write ≠ [] := by
  intro hnil
  have hid : c.id = [] := (List.append_eq_nil_iff.mp hnil).1
  have hlen := h.id
  simp [hid] at hlen

theorem readChunks_write {cs : List Chunk} (h : ∀ c ∈ cs, c.Fits) {fuel : Nat}
    (hf : cs.length ≤ fuel) : readChunks fuel (cs.flatMap Chunk.write) = some cs := by
  induction cs generalizing fuel with
  | nil => cases fuel <;> rfl
  | cons c cs ih =>
      have hc : c.Fits := h c List.mem_cons_self
      have hcs : ∀ c ∈ cs, c.Fits := fun d hd => h d (List.mem_cons_of_mem c hd)
      obtain ⟨b, bs, hb⟩ := List.exists_cons_of_ne_nil (write_ne_nil hc)
      cases fuel with
      | zero => simp at hf
      | succ fuel =>
          have hread := readChunk_write hc (cs.flatMap Chunk.write)
          have hrest := ih hcs (Nat.le_of_succ_le_succ hf)
          rw [List.flatMap_cons]
          rw [hb, List.cons_append] at hread ⊢
          simp only [readChunks, hread, hrest, Option.bind_eq_bind, Option.bind_some]

theorem length_le_write {cs : List Chunk} (h : ∀ c ∈ cs, c.Fits) :
    cs.length ≤ (cs.flatMap Chunk.write).length := by
  induction cs with
  | nil => exact Nat.le_refl 0
  | cons c cs ih =>
      have hc := List.length_pos_iff.mpr (write_ne_nil (h c List.mem_cons_self))
      have hcs := ih fun d hd => h d (List.mem_cons_of_mem c hd)
      simp only [List.flatMap_cons, List.length_append, List.length_cons]
      omega

def tag (s : String) : List UInt8 := s.toList.map fun c => UInt8.ofNat c.toNat

/-- A file: one chunk `RIFF` whose body is a type and the chunks of that type. -/
def form (type : List UInt8) (cs : List Chunk) : Chunk :=
  ⟨tag "RIFF", type ++ cs.flatMap Chunk.write⟩

/-- The chunks of a file of the given type. Its first chunk says where the file ends, and what
comes after that is not looked at. -/
def readForm (type : List UInt8) (bs : List UInt8) : Option (List Chunk) := do
  let (riff, _) ← readChunk bs
  let (name, body) ← field 4 riff.body
  if riff.id = tag "RIFF" ∧ name = type then readChunks body.length body else none

theorem readForm_write {type : List UInt8} {cs : List Chunk} (ht : type.length = 4)
    (hcs : ∀ c ∈ cs, c.Fits) (hf : (form type cs).Fits) (rest : List UInt8) :
    readForm type ((form type cs).write ++ rest) = some cs := by
  have hbody : field 4 (form type cs).body = some (type, cs.flatMap Chunk.write) :=
    field_append ht _
  simp only [readForm, readChunk_write hf, hbody, Option.bind_eq_bind, Option.bind_some]
  rw [if_pos ⟨rfl, trivial⟩]
  exact readChunks_write hcs (length_le_write hcs)

end Riff
