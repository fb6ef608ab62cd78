import SpeechK8s.Tts.Speech

/-!
# Sample rates of tts/app/main.py

The requested rate reaches the header of a WAV response and nothing else. The samples come at
the rate of the model, whatever was requested, and the generator runs after the status has gone
out.
-/
namespace SpeechK8s.Tts
open Riff

/-- A response as a client sees it: what `gen` yields after the start of the response, and what
it raises there. -/
structure StreamingResponse where
  statusCode : Nat
  mediaType : String
  content : List (List UInt8)
  raised : Option Error
  deriving DecidableEq, Repr

/-- The end of `synthesize`. -/
def streamingResponse (req : SpeechRequest) (chunks : List Chunk) : StreamingResponse where
  statusCode := 200
  mediaType := if req.responseFormat = "wav" then "audio/wav" else "audio/pcm"
  content := (gen req chunks).1
  raised := (gen req chunks).2

def StreamingResponse.bytes (r : StreamingResponse) : List UInt8 := r.content.flatten

/-- What `writeframes(b"")` leaves in front of the samples. -/
def headerLength : Nat := 44

/-- The rate a client plays the samples at: the one in the header, or the one it asked for. -/
def toldRate (req : SpeechRequest) (r : StreamingResponse) : Option ℤ :=
  if r.mediaType = "audio/wav" then (readWav r.bytes).map fun w => (w.rate : ℤ)
  else some req.sampleRate

/-- The samples in a response, two bytes each. -/
def delivered (r : StreamingResponse) : Nat :=
  if r.mediaType = "audio/wav" then (r.bytes.length - headerLength) / 2 else r.bytes.length / 2

def produced (chunks : List Chunk) : Nat := (chunks.map fun c => c.samples.length).sum

/-- Refused with nothing sent of the body. -/
def Rejected (r : StreamingResponse) : Prop := 400 ≤ r.statusCode ∧ r.content = []

/-- `n` samples at one rate last as long as `m` at the other, give or take a sample. -/
def SameDuration (n : ℕ) (rate : ℤ) (m : ℕ) (native : ℕ) : Prop :=
  rate ≠ 0 ∧ |(n : ℚ) / rate - m / native| ≤ 1 / |(rate : ℚ)|

/-- The response runs to its end and lasts as long as what the model produced. -/
def PlaysRight (req : SpeechRequest) (chunks : List Chunk) (native : ℕ)
    (r : StreamingResponse) : Prop :=
  r.raised = none ∧
    ∃ rate, toldRate req r = some rate ∧ SameDuration (delivered r) rate (produced chunks) native

def RatesAgree (req : SpeechRequest) (chunks : List Chunk) (native : ℕ) : Prop :=
  Rejected (streamingResponse req chunks) ∨
    PlaysRight req chunks native (streamingResponse req chunks)

/-- The rates for which a response is not broken off. A WAV header holds the bytes per second in
32 bits. -/
def Usable (req : SpeechRequest) : Prop :=
  if req.responseFormat = "wav" then 0 < req.sampleRate ∧ 2 * req.sampleRate < 256 ^ 4
  else req.sampleRate ≠ 0

/-! ## Durations -/

/-- The same samples last as long at two rates when the rates differ by so little that it comes
to less than one sample over the whole stream. -/
theorem sameDuration_iff {n : ℕ} {rate : ℤ} {native : ℕ} (hn : 0 < native) :
    SameDuration n rate n native ↔ rate ≠ 0 ∧ (n : ℤ) * |(native : ℤ) - rate| ≤ native := by
  unfold SameDuration
  refine and_congr_right fun hr => ?_
  have hnative : (0 : ℚ) < native := by exact_mod_cast hn
  have hrate : (rate : ℚ) ≠ 0 := by exact_mod_cast hr
  have hsplit : (n : ℚ) / rate - n / native = n * (native - rate) / (rate * native) := by
    field_simp
  have habs : |(n : ℚ) / rate - n / native| =
      n * |(native : ℚ) - rate| / native * (1 / |(rate : ℚ)|) := by
    rw [hsplit, abs_div, abs_mul, abs_mul, Nat.abs_cast, Nat.abs_cast]
    field_simp
  rw [habs, mul_le_iff_le_one_left (by positivity), div_le_one hnative]
  exact_mod_cast Iff.rfl

/-! ## Responses -/

theorem pcm_length (chunks : List Chunk) : (pcm chunks).length = 2 * produced chunks := by
  induction chunks with
  | nil => rfl
  | cons c chunks ih =>
      have hcons : pcm (c :: chunks) = toPcm16Bytes c ++ pcm chunks := rfl
      have hsum : produced (c :: chunks) = c.samples.length + produced chunks := rfl
      rw [hcons, hsum, List.length_append, toPcm16Bytes_length, ih, Nat.mul_add]

theorem header_length (rate : Nat) :
    (form (tag "WAVE") (headerChunks rate)).write.length = headerLength := by
  rw [write_header]
  simp [tag, headerLength]

/-- Nothing is refused: the status is chosen before the generator starts. -/
theorem not_rejected (req : SpeechRequest) (chunks : List Chunk) :
    ¬ Rejected (streamingResponse req chunks) :=
  fun h => absurd h.1 (by simp [streamingResponse])

section
variable {req : SpeechRequest} (chunks : List Chunk)

theorem response_pcm (hformat : req.responseFormat = "pcm") :
    streamingResponse req chunks = ⟨200, "audio/pcm", chunks.map toPcm16Bytes, none⟩ := by
  have hne : ("pcm" : String) ≠ "wav" := by decide
  simp [streamingResponse, gen, opening, hformat, hne, pure, Except.pure]

theorem response_wav {header : List UInt8} (hformat : req.responseFormat = "wav")
    (hheader : wavHeader 1 16 req.sampleRate = .ok header) :
    streamingResponse req chunks = ⟨200, "audio/wav", header :: chunks.map toPcm16Bytes, none⟩ := by
  simp [streamingResponse, gen, opening, hformat, hheader, bind, Except.bind, pure, Except.pure]

theorem response_wav_error {e : Error} (hformat : req.responseFormat = "wav")
    (hheader : wavHeader 1 16 req.sampleRate = .error e) :
    streamingResponse req chunks = ⟨200, "audio/wav", [], some e⟩ := by
  simp [streamingResponse, gen, opening, hformat, hheader, bind, Except.bind]

theorem playsRight_pcm {native : ℕ} (hn : 0 < native) (hformat : req.responseFormat = "pcm") :
    PlaysRight req chunks native (streamingResponse req chunks) ↔
      req.sampleRate ≠ 0 ∧ (produced chunks : ℤ) * |(native : ℤ) - req.sampleRate| ≤ native := by
  have hbytes : (streamingResponse req chunks).bytes = pcm chunks := by
    rw [response_pcm chunks hformat, StreamingResponse.bytes, pcm, List.flatMap_def]
  have hne : ("audio/pcm" : String) ≠ "audio/wav" := by decide
  have hmedia : (streamingResponse req chunks).mediaType = "audio/pcm" := by
    rw [response_pcm chunks hformat]
  have hraised : (streamingResponse req chunks).raised = none := by
    rw [response_pcm chunks hformat]
  have htold : toldRate req (streamingResponse req chunks) = some req.sampleRate := by
    rw [toldRate, hmedia, if_neg hne]
  have hdelivered : delivered (streamingResponse req chunks) = produced chunks := by
    rw [delivered, hmedia, if_neg hne, hbytes, pcm_length]
    omega
  rw [← sameDuration_iff hn, PlaysRight, hdelivered, htold]
  simp [hraised]

theorem playsRight_wav {native : ℕ} (hn : 0 < native) (hformat : req.responseFormat = "wav") :
    PlaysRight req chunks native (streamingResponse req chunks) ↔
      (0 < req.sampleRate ∧ 2 * req.sampleRate < 256 ^ 4) ∧
        (produced chunks : ℤ) * |(native : ℤ) - req.sampleRate| ≤ native := by
  cases hheader : wavHeader 1 16 req.sampleRate with
  | error e =>
      have hraised : (streamingResponse req chunks).raised = some e := by
        rw [response_wav_error chunks hformat hheader]
      constructor
      · intro h
        rw [PlaysRight, hraised] at h
        exact absurd h.1 (by simp)
      · exact fun h => absurd h.1 (wavHeader_error hheader)
  | ok header =>
      obtain ⟨hrate, rfl⟩ := wavHeader_ok_iff.mp hheader
      have hbytes : (streamingResponse req chunks).bytes =
          (form (tag "WAVE") (headerChunks req.sampleRate.toNat)).write ++ pcm chunks := by
        rw [response_wav chunks hformat hheader, StreamingResponse.bytes, pcm, List.flatMap_def]
        rfl
      have hmedia : (streamingResponse req chunks).mediaType = "audio/wav" := by
        rw [response_wav chunks hformat hheader]
      have hraised : (streamingResponse req chunks).raised = none := by
        rw [response_wav chunks hformat hheader]
      have htold : toldRate req (streamingResponse req chunks) = some req.sampleRate := by
        rw [toldRate, hmedia, if_pos rfl, hbytes, readWav_header _ (by omega), Option.map_some]
        simp [hrate.1.le]
      have hdelivered : delivered (streamingResponse req chunks) = produced chunks := by
        rw [delivered, hmedia, if_pos rfl, hbytes, List.length_append, header_length, pcm_length]
        omega
      have hduration : SameDuration (produced chunks) req.sampleRate (produced chunks) native ↔ _ :=
        sameDuration_iff hn
      rw [PlaysRight, hdelivered, htold]
      simp only [hraised, Option.some.injEq, exists_eq_left', true_and, hduration, hrate, and_true]
      exact and_iff_right hrate.1.ne'

end

/-- A response plays right exactly when its rate can be written and is so close to the rate of
the model that nobody could tell over the length of the stream. -/
theorem ratesAgree_iff (req : SpeechRequest) (chunks : List Chunk) (native : ℕ)
    (hformat : req.responseFormat = "pcm" ∨ req.responseFormat = "wav") (hn : 0 < native) :
    RatesAgree req chunks native ↔
      Usable req ∧ (produced chunks : ℤ) * |(native : ℤ) - req.sampleRate| ≤ native := by
  rw [RatesAgree, or_iff_right (not_rejected req chunks)]
  rcases hformat with hpcm | hwav
  · have hne : ("pcm" : String) ≠ "wav" := by decide
    rw [playsRight_pcm chunks hn hpcm, Usable, hpcm, if_neg hne]
  · rw [playsRight_wav chunks hn hwav, Usable, hwav, if_pos rfl]

/-- Two samples asked for at twice the rate of the model: they take half the time. -/
theorem doubled_rate : ¬ ∀ (req : SpeechRequest) (chunks : List Chunk) (native : ℕ),
    (req.responseFormat = "pcm" ∨ req.responseFormat = "wav") → 0 < native →
    RatesAgree req chunks native := by
  intro h
  have hagree := h { defaultRequest with sampleRate := 48000 } [.int16 [1000, 1000]] 24000
    (.inl rfl) (by decide)
  rw [RatesAgree, or_iff_right (not_rejected _ _), playsRight_pcm _ (by decide) rfl] at hagree
  exact absurd hagree.2 (by decide)

theorem default_rate_agrees : RatesAgree defaultRequest [.int16 [1000, 1000]] 24000 :=
  (ratesAgree_iff _ _ _ (.inl rfl) (by decide)).mpr
    ⟨by simp [Usable, defaultRequest], by decide⟩

end SpeechK8s.Tts
