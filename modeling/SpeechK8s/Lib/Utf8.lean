import Mathlib.Data.List.Basic

/-!
# Strings of bytes

Strings that are sequences of bytes, in UTF-8 or not. Reading one character by character gives
U+FFFD for every byte that no character accounts for.
-/
namespace Utf8

abbrev Bytes := List UInt8

def encode (cs : List Char) : Bytes := cs.flatMap String.utf8EncodeChar

def replacement : Char := Char.ofNat 0xFFFD

def decodeUpTo : Nat → Bytes → List Char
  | 0, _ => []
  | _, [] => []
  | fuel + 1, b :: bs =>
      match (b :: bs).toByteArray.utf8DecodeChar? 0 with
      | some c => c :: decodeUpTo fuel ((b :: bs).drop c.utf8Size)
      | none => replacement :: decodeUpTo fuel bs

def decode (bs : Bytes) : List Char := decodeUpTo bs.length bs

theorem encode_cons (c : Char) (cs : List Char) :
    encode (c :: cs) = String.utf8EncodeChar c ++ encode cs := List.flatMap_cons

theorem encode_append (cs ds : List Char) : encode (cs ++ ds) = encode cs ++ encode ds :=
  List.flatMap_append

theorem encode_length_cons (c : Char) (cs : List Char) :
    (encode (c :: cs)).length = c.utf8Size + (encode cs).length := by
  rw [encode_cons, List.length_append, String.length_utf8EncodeChar]

theorem encode_ne_nil (c : Char) (cs : List Char) : encode (c :: cs) ≠ [] := by
  have hpos : 0 < c.utf8Size := c.utf8Size_pos
  have hlen := encode_length_cons c cs
  exact List.ne_nil_of_length_pos (by omega)

theorem length_le_encode (cs : List Char) : cs.length ≤ (encode cs).length := by
  induction cs with
  | nil => exact Nat.le_refl 0
  | cons c cs ih =>
      have hpos : 0 < c.utf8Size := c.utf8Size_pos
      rw [encode_length_cons, List.length_cons]
      omega

/-- The first character can be read back, whatever comes after it. -/
theorem read_encode (c : Char) (rest : Bytes) :
    (String.utf8EncodeChar c ++ rest).toByteArray.utf8DecodeChar? 0 = some c := by
  rw [List.toByteArray_append']
  exact ByteArray.utf8DecodeChar?_utf8EncodeChar_append

theorem decodeUpTo_encode {cs : List Char} {fuel : Nat} (h : cs.length ≤ fuel) :
    decodeUpTo fuel (encode cs) = cs := by
  induction cs generalizing fuel with
  | nil => cases fuel <;> rfl
  | cons c cs ih =>
      have hread : (encode (c :: cs)).toByteArray.utf8DecodeChar? 0 = some c := by
        rw [encode_cons]
        exact read_encode c (encode cs)
      have hrest : (encode (c :: cs)).drop c.utf8Size = encode cs := by
        rw [encode_cons, ← String.length_utf8EncodeChar c, List.drop_left]
      obtain ⟨b, bs, hb⟩ := List.exists_cons_of_ne_nil (encode_ne_nil c cs)
      cases fuel with
      | zero => simp at h
      | succ fuel =>
          rw [hb] at hread hrest ⊢
          simp only [decodeUpTo, hread, hrest]
          rw [ih (Nat.le_of_succ_le_succ h)]

/-- Decoding takes an encoded string back. -/
theorem decode_encode (cs : List Char) : decode (encode cs) = cs :=
  decodeUpTo_encode (length_le_encode cs)

/-- Two strings that begin with the same bytes begin with the same character. -/
theorem head_of_encode {c d : Char} {xs ys : Bytes}
    (h : String.utf8EncodeChar c ++ xs = String.utf8EncodeChar d ++ ys) : c = d := by
  have hc := read_encode c xs
  rw [h, read_encode d ys] at hc
  exact (Option.some.inj hc).symm

/-- A prefix that is UTF-8 itself ends where a character does. -/
theorem prefix_of_encode {cs ds : List Char} (h : encode cs <+: encode ds) : cs <+: ds := by
  induction cs generalizing ds with
  | nil => exact List.nil_prefix
  | cons c cs ih =>
      cases ds with
      | nil => exact absurd (List.prefix_nil.mp h) (encode_ne_nil c cs)
      | cons d ds =>
          obtain ⟨t, ht⟩ := h
          rw [encode_cons, encode_cons, List.append_assoc] at ht
          obtain rfl := head_of_encode ht
          have htail : encode cs <+: encode ds := ⟨t, List.append_cancel_left ht⟩
          exact (List.prefix_cons_inj c).mpr (ih htail)

/-- The bytes up to the `n`th are whole characters exactly when a character ends there. -/
theorem take_encode_iff {cs : List Char} {n : Nat} (hn : n ≤ (encode cs).length) :
    (∃ ds, (encode cs).take n = encode ds) ↔ ∃ k, (encode (cs.take k)).length = n := by
  constructor
  · rintro ⟨ds, hds⟩
    have hprefix : ds <+: cs := prefix_of_encode (hds ▸ List.take_prefix n (encode cs))
    refine ⟨ds.length, ?_⟩
    rw [← List.prefix_iff_eq_take.mp hprefix, ← hds, List.length_take]
    omega
  · rintro ⟨k, hk⟩
    refine ⟨cs.take k, ?_⟩
    have hsplit : encode cs = encode (cs.take k) ++ encode (cs.drop k) := by
      rw [← encode_append, List.take_append_drop]
    rw [hsplit, ← hk, List.take_left]

end Utf8
