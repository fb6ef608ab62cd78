import SpeechK8s.Mcp.Wire

/-!
# Snippets of internal/search/searxng.go

`truncate` cuts bytes. The content is text, the snippet need not be, and what `encoding/json`
makes of the bytes of half a character is longer than they are.
-/
namespace SpeechK8s.Mcp
open Utf8 (Bytes encode)

/-- A snippet that is text and a bounded prefix of the content, and still is after a client has
decoded what `encoding/json` writes for it. -/
structure Excerpt (content : String) (snippet : Bytes) : Prop where
  utf8 : ∃ cs, snippet = encode cs
  isPrefix : snippet <+: bytes content
  bounded : snippet.length ≤ maxSnippetLen
  received : (text snippet).toList <+: content.toList
  receivedBounded : (bytes (text snippet)).length ≤ maxSnippetLen

/-- The cut falls between two characters, or there is none. -/
def CutsCleanly (content : String) : Prop :=
  (bytes content).length ≤ maxSnippetLen ∨
    ∃ k, (encode (content.toList.take k)).length = maxSnippetLen

theorem truncate_begins (s : Bytes) (n : Nat) : truncate s n <+: s := by
  unfold truncate
  split
  · exact List.prefix_rfl
  · exact List.take_prefix n s

theorem truncate_length (s : Bytes) (n : Nat) : (truncate s n).length ≤ n := by
  unfold truncate
  split
  · assumption
  · exact List.length_take_le n s

theorem truncate_utf8_iff (content : String) :
    (∃ cs, truncate (bytes content) maxSnippetLen = encode cs) ↔ CutsCleanly content := by
  unfold truncate CutsCleanly
  split
  · rename_i hshort
    exact iff_of_true ⟨content.toList, rfl⟩ (.inl hshort)
  · rename_i hlong
    rw [or_iff_right hlong]
    exact Utf8.take_encode_iff (Nat.le_of_not_le hlong)

theorem excerpt_of_utf8 {content : String} {snippet : Bytes} {cs : List Char}
    (hcs : snippet = encode cs) (hbegins : snippet <+: bytes content)
    (hlen : snippet.length ≤ maxSnippetLen) : Excerpt content snippet := by
  have hreceived : text snippet = String.ofList cs := by
    rw [text, hcs, Utf8.decode_encode]
  refine ⟨⟨cs, hcs⟩, hbegins, hlen, ?_, ?_⟩
  · rw [hreceived, String.toList_ofList]
    exact Utf8.prefix_of_encode (hcs ▸ hbegins)
  · rw [hreceived, bytes, String.toList_ofList, ← hcs]
    exact hlen

theorem excerpt_iff_utf8 (urlHost : String → Option Bytes) (r : BackendResult) :
    Excerpt r.content (toResult urlHost r).snippet ↔
      ∃ cs, truncate (bytes r.content) maxSnippetLen = encode cs := by
  have hsnippet : (toResult urlHost r).snippet = truncate (bytes r.content) maxSnippetLen := rfl
  rw [hsnippet]
  constructor
  · exact Excerpt.utf8
  · rintro ⟨cs, hcs⟩
    exact excerpt_of_utf8 hcs (truncate_begins _ _) (truncate_length _ _)

/-- A snippet is an excerpt of the content exactly when the cut hits no character. -/
theorem snippet_excerpt_iff (urlHost : String → Option Bytes) (r : BackendResult) :
    Excerpt r.content (toResult urlHost r).snippet ↔ CutsCleanly r.content := by
  rw [excerpt_iff_utf8, truncate_utf8_iff]

/-- One byte and then `n` characters of two bytes. -/
def accented (n : Nat) : String := String.ofList ('a' :: List.replicate n 'é')

theorem encode_accents (n : Nat) : (encode (List.replicate n 'é')).length = 2 * n := by
  induction n with
  | zero => rfl
  | succ n ih =>
      have htwo : (String.utf8EncodeChar 'é').length = 2 := rfl
      rw [List.replicate_succ, Utf8.encode_cons, List.length_append, ih, htwo]
      omega

theorem encode_accented (n : Nat) :
    (encode ('a' :: List.replicate n 'é')).length = 2 * n + 1 := by
  have hone : (String.utf8EncodeChar 'a').length = 1 := rfl
  rw [Utf8.encode_cons, List.length_append, encode_accents, hone]
  omega

/-- No character of it ends after an even number of bytes. -/
theorem accented_cut {n : Nat} (hn : 250 ≤ n) : ¬ CutsCleanly (accented n) := by
  have hmax : maxSnippetLen = 500 := rfl
  rw [CutsCleanly, bytes, accented, String.toList_ofList, encode_accented, hmax]
  rintro (hshort | ⟨k, hk⟩)
  · omega
  · cases k with
    | zero => simp [encode] at hk
    | succ k =>
        rw [List.take_succ_cons, List.take_replicate, encode_accented] at hk
        omega

theorem half_character : ¬ ∀ (urlHost : String → Option Bytes) (r : BackendResult),
    Excerpt r.content (toResult urlHost r).snippet := by
  intro h
  have hutf8 := (excerpt_iff_utf8 (fun _ => none) _).mp
    (h (fun _ => none) ⟨"title", "url", accented 250, "engine", []⟩)
  exact accented_cut (Nat.le_refl 250) ((truncate_utf8_iff _).mp hutf8)

end SpeechK8s.Mcp
