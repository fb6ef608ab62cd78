import Mathlib.Data.List.DropRight
import SpeechK8s.Tts.Streams

/-!
# The voice of a request in tts/app/main.py

`TTS_VOICES` is split at its commas. The lookup table has the entries without the whitespace
around them, the list that the fallback is taken from has them as they stand.
-/
namespace SpeechK8s.Tts
open Function (update)

/-- `str.isspace` on one character. -/
def isSpace (c : Char) : Bool :=
  let n := c.toNat
  (9 ≤ n && n ≤ 13) || (28 ≤ n && n ≤ 32) || n == 0x85 || n == 0xa0 || n == 0x1680 ||
    (0x2000 ≤ n && n ≤ 0x200a) || n == 0x2028 || n == 0x2029 || n == 0x202f || n == 0x205f ||
    n == 0x3000

def trim (cs : List Char) : List Char := (cs.dropWhile isSpace).rdropWhile isSpace

def strip (s : String) : String := String.ofList (trim s.toList)

/-- `str.lower`. Only the empty string becomes the empty string. -/
structure Lower where
  lower : String → String
  lower_eq_empty : ∀ s, lower s = "" ↔ s = ""

/-- `AVAILABLE_VOICES` -/
def availableVoices (ttsVoices : String) : List String :=
  (ttsVoices.toList.splitOn ',').map String.ofList

theorem availableVoices_ne_nil (ttsVoices : String) : availableVoices ttsVoices ≠ [] :=
  fun h => List.splitOn_ne_nil ',' ttsVoices.toList (List.map_eq_nil_iff.mp h)

section
variable (py : Lower)

/-- One entry of the comprehension: a later entry takes the key of an earlier one. -/
def enterVoice (table : String → Option String) (v : String) : String → Option String :=
  update table (py.lower (strip v)) (some (strip v))

/-- `_VOICE_LOOKUP` -/
def voiceLookup (voices : List String) : String → Option String :=
  voices.foldl (enterVoice py) fun _ => none

/-- What `synthesize` makes of the requested voice. -/
def resolveVoice (ttsVoices requested : String) : String :=
  match voiceLookup py (availableVoices ttsVoices) (py.lower (strip requested)) with
  | some voice => voice
  | none => (availableVoices ttsVoices).head (availableVoices_ne_nil ttsVoices)

/-- A request on its way to the model. -/
def jobOf (ttsVoices : String) (req : SpeechRequest) : Job :=
  ⟨req, resolveVoice py ttsVoices req.voice⟩

/-- The voices that `TTS_VOICES` names. -/
def namedVoices (ttsVoices : String) : List String :=
  ((availableVoices ttsVoices).map strip).filter (· ≠ "")

/-- The requested name is that of the voice, up to case and surrounding whitespace. -/
def Asks (requested voice : String) : Prop := py.lower voice = py.lower (strip requested)

/-- A named voice, the one that was asked for if there is such a one, else the first. -/
structure Resolves (ttsVoices requested voice : String) : Prop where
  named : voice ∈ namedVoices ttsVoices
  asked : (∃ v ∈ namedVoices ttsVoices, Asks py requested v) → Asks py requested voice
  default : (∀ v ∈ namedVoices ttsVoices, ¬ Asks py requested v) →
    (namedVoices ttsVoices).head? = some voice

end

/-! ## Trimming -/

theorem dropWhile_trim (cs : List Char) : (trim cs).dropWhile isSpace = trim cs := by
  rw [List.dropWhile_eq_self_iff]
  intro hpos
  have hbegins : trim cs <+: cs.dropWhile isSpace := List.rdropWhile_prefix isSpace _
  have hlong : 0 < (cs.dropWhile isSpace).length := hpos.trans_le hbegins.length_le
  have hfirst := List.dropWhile_get_zero_not isSpace cs hlong
  rw [hbegins.getElem hpos]
  exact hfirst

@[simp] theorem strip_strip (s : String) : strip (strip s) = strip s := by
  have htrim : trim (trim s.toList) = trim s.toList := by
    rw [trim, dropWhile_trim]
    exact List.rdropWhile_idempotent isSpace _
  rw [strip, strip, String.toList_ofList, htrim]

theorem mem_namedVoices {ttsVoices voice : String} : voice ∈ namedVoices ttsVoices ↔
    ∃ v ∈ availableVoices ttsVoices, strip v ≠ "" ∧ strip v = voice := by
  simp only [namedVoices, List.mem_filter, List.mem_map, decide_eq_true_eq]
  constructor
  · rintro ⟨⟨v, hv, rfl⟩, hne⟩
    exact ⟨v, hv, hne, rfl⟩
  · rintro ⟨v, hv, hne, rfl⟩
    exact ⟨⟨v, hv, rfl⟩, hne⟩

theorem namedVoices_ne_empty {ttsVoices voice : String} (h : voice ∈ namedVoices ttsVoices) :
    voice ≠ "" := by
  obtain ⟨v, -, hne, rfl⟩ := mem_namedVoices.mp h
  exact hne

theorem strip_named {ttsVoices voice : String} (h : voice ∈ namedVoices ttsVoices) :
    strip voice = voice := by
  obtain ⟨v, -, -, rfl⟩ := mem_namedVoices.mp h
  exact strip_strip v

/-! ## The table -/

section
variable (py : Lower)

theorem lookup_some {voices : List String} {table : String → Option String} {key voice : String}
    (h : voices.foldl (enterVoice py) table key = some voice) :
    (∃ v ∈ voices, py.lower (strip v) = key ∧ strip v = voice) ∨ table key = some voice := by
  induction voices generalizing table with
  | nil => exact .inr h
  | cons v voices ih =>
      rcases ih h with ⟨w, hw, hkey⟩ | htable
      · exact .inl ⟨w, List.mem_cons_of_mem v hw, hkey⟩
      · by_cases hv : key = py.lower (strip v)
        · subst hv
          rw [enterVoice, Function.update_self, Option.some_inj] at htable
          exact .inl ⟨v, List.mem_cons_self, rfl, htable⟩
        · rw [enterVoice, Function.update_of_ne hv] at htable
          exact .inr htable

theorem lookup_none {voices : List String} {table : String → Option String} {key : String} :
    voices.foldl (enterVoice py) table key = none ↔
      (∀ v ∈ voices, py.lower (strip v) ≠ key) ∧ table key = none := by
  induction voices generalizing table with
  | nil => simp
  | cons v voices ih =>
      rw [List.foldl_cons, ih, List.forall_mem_cons]
      by_cases hv : key = py.lower (strip v)
      · subst hv
        simp [enterVoice]
      · rw [enterVoice, Function.update_of_ne hv]
        simp only [ne_eq, Ne.symm hv, not_false_eq_true, true_and]

theorem voiceLookup_some {voices : List String} {key voice : String}
    (h : voiceLookup py voices key = some voice) :
    ∃ v ∈ voices, py.lower (strip v) = key ∧ strip v = voice := by
  rcases lookup_some py h with hfound | hempty
  · exact hfound
  · cases hempty

theorem voiceLookup_none {voices : List String} {key : String} :
    voiceLookup py voices key = none ↔ ∀ v ∈ voices, py.lower (strip v) ≠ key := by
  rw [voiceLookup, lookup_none]
  exact and_iff_left rfl

/-! ## Resolution -/

/-- An entry, blank or not, has the key that the request looks up. -/
def Keyed (ttsVoices requested : String) : Prop :=
  ∃ v ∈ availableVoices ttsVoices, Asks py requested (strip v)

/-- The first entry can be used as it stands. -/
def CleanDefault (ttsVoices : String) : Prop :=
  ∃ v rest, availableVoices ttsVoices = v :: rest ∧ v ≠ "" ∧ strip v = v

theorem asks_blank {requested voice : String} (h : Asks py requested voice) (hblank : voice = "") :
    strip requested = "" := by
  have hkey : py.lower (strip requested) = "" := by
    rw [← h, hblank]
    exact (py.lower_eq_empty "").mpr rfl
  exact (py.lower_eq_empty _).mp hkey

/-- With a key in the table, the voice is an entry of that key. -/
theorem resolveVoice_keyed {ttsVoices requested : String} (h : Keyed py ttsVoices requested) :
    ∃ v ∈ availableVoices ttsVoices, Asks py requested (strip v) ∧
      resolveVoice py ttsVoices requested = strip v := by
  cases hlookup : voiceLookup py (availableVoices ttsVoices) (py.lower (strip requested)) with
  | none =>
      obtain ⟨v, hv, hasks⟩ := h
      exact absurd hasks ((voiceLookup_none py).mp hlookup v hv)
  | some voice =>
      obtain ⟨v, hv, hasks, hvoice⟩ := voiceLookup_some py hlookup
      refine ⟨v, hv, hasks, ?_⟩
      rw [resolveVoice, hlookup, hvoice]

theorem resolveVoice_default {ttsVoices requested v : String} {rest : List String}
    (h : ¬ Keyed py ttsVoices requested) (hv : availableVoices ttsVoices = v :: rest) :
    resolveVoice py ttsVoices requested = v := by
  have hlookup : voiceLookup py (availableVoices ttsVoices) (py.lower (strip requested)) = none :=
    (voiceLookup_none py).mpr fun w hw hasks => h ⟨w, hw, hasks⟩
  rw [resolveVoice, hlookup]
  simp [hv]

theorem resolves_asked {ttsVoices requested : String}
    (h : ∃ v ∈ namedVoices ttsVoices, Asks py requested v) :
    Resolves py ttsVoices requested (resolveVoice py ttsVoices requested) := by
  obtain ⟨w, hw, hasksw⟩ := h
  have hkeyed : Keyed py ttsVoices requested := by
    obtain ⟨u, hu, -, rfl⟩ := mem_namedVoices.mp hw
    exact ⟨u, hu, hasksw⟩
  obtain ⟨v, hv, hasks, hvoice⟩ := resolveVoice_keyed py hkeyed
  have hne : strip v ≠ "" := by
    intro hblank
    have hw' : py.lower w = "" := by
      rw [hasksw, asks_blank py hasks hblank]
      exact (py.lower_eq_empty "").mpr rfl
    exact namedVoices_ne_empty hw ((py.lower_eq_empty w).mp hw')
  rw [hvoice]
  exact ⟨mem_namedVoices.mpr ⟨v, hv, hne, rfl⟩, fun _ => hasks, fun hno => absurd hasksw (hno w hw)⟩

/-- A blank entry that takes the request hands its empty name to the model. -/
theorem not_resolves_blank {ttsVoices requested : String} (hkeyed : Keyed py ttsVoices requested)
    (hno : ¬ ∃ v ∈ namedVoices ttsVoices, Asks py requested v) :
    ¬ Resolves py ttsVoices requested (resolveVoice py ttsVoices requested) := by
  intro h
  obtain ⟨v, hv, hasks, hvoice⟩ := resolveVoice_keyed py hkeyed
  have hnamed := h.named
  rw [hvoice] at hnamed
  exact hno ⟨strip v, hnamed, hasks⟩

theorem resolves_default_iff {ttsVoices requested : String}
    (hkeyed : ¬ Keyed py ttsVoices requested) :
    Resolves py ttsVoices requested (resolveVoice py ttsVoices requested) ↔
      CleanDefault ttsVoices := by
  obtain ⟨v, rest, hv⟩ := List.exists_cons_of_ne_nil (availableVoices_ne_nil ttsVoices)
  rw [resolveVoice_default py hkeyed hv]
  have hno : ∀ w ∈ namedVoices ttsVoices, ¬ Asks py requested w := by
    intro w hw hasks
    obtain ⟨u, hu, -, rfl⟩ := mem_namedVoices.mp hw
    exact hkeyed ⟨u, hu, hasks⟩
  constructor
  · exact fun h => ⟨v, rest, hv, namedVoices_ne_empty h.named, strip_named h.named⟩
  · rintro ⟨w, rest', hw, hne, hstrip⟩
    obtain ⟨rfl, rfl⟩ : v = w ∧ rest = rest' := List.cons.inj (hv.symm.trans hw)
    have hfirst : namedVoices ttsVoices = v :: (rest.map strip).filter (· ≠ "") := by
      rw [namedVoices, hv, List.map_cons, hstrip, List.filter_cons_of_pos (by simpa using hne)]
    refine ⟨?_, ?_, ?_⟩
    · rw [hfirst]
      exact List.mem_cons_self
    · rintro ⟨w, hw, hasks⟩
      exact absurd hasks (hno w hw)
    · rw [hfirst]
      exact fun _ => rfl

/-- The voice that reaches the model is right exactly when a named voice was asked for, or when
nothing took the request and the first entry of `TTS_VOICES` has neither whitespace around it nor
nothing in it. -/
theorem resolves_iff (ttsVoices : String) (req : SpeechRequest) :
    Resolves py ttsVoices req.voice (jobOf py ttsVoices req).args.speaker ↔
      (∃ v ∈ namedVoices ttsVoices, Asks py req.voice v) ∨
        ¬ Keyed py ttsVoices req.voice ∧ CleanDefault ttsVoices := by
  have hspeaker : (jobOf py ttsVoices req).args.speaker = resolveVoice py ttsVoices req.voice := rfl
  rw [hspeaker]
  by_cases hasked : ∃ v ∈ namedVoices ttsVoices, Asks py req.voice v
  · exact iff_of_true (resolves_asked py hasked) (.inl hasked)
  · rw [or_iff_right hasked]
    by_cases hkeyed : Keyed py ttsVoices req.voice
    · exact iff_of_false (not_resolves_blank py hkeyed hasked) (fun h => h.1 hkeyed)
    · rw [resolves_default_iff py hkeyed]
      exact (and_iff_right hkeyed).symm

end

/-- `str.lower` as far as ASCII goes. -/
def asciiLower : Lower where
  lower s := String.ofList (s.toList.map Char.toLower)
  lower_eq_empty s := by
    rw [← String.toList_inj, String.toList_ofList, ← String.toList_inj]
    exact List.map_eq_nil_iff

/-- A trailing comma and a blank request: the model is asked for the voice "". -/
theorem trailing_comma : ¬ ∀ (py : Lower) (ttsVoices : String) (req : SpeechRequest),
    namedVoices ttsVoices ≠ [] →
    Resolves py ttsVoices req.voice (jobOf py ttsVoices req).args.speaker := by
  intro h
  have hnamed := (h asciiLower "Aiden,Ryan," { defaultRequest with voice := " " } (by decide)).named
  exact absurd hnamed (by decide)

/-- The fallback as it stands in the setting. -/
example : resolveVoice asciiLower " Aiden,Ryan" "bob" = " Aiden" := by decide

end SpeechK8s.Tts
