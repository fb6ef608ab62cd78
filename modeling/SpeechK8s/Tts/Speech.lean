import SpeechK8s.Tts.Pcm

/-!
# `POST /v1/audio/speech` in tts/app/main.py

The bytes of one response. The header of a WAV response is what Python's `wave` module writes
for a file without frames; it goes out before the first chunk exists and is not patched.
-/
namespace SpeechK8s.Tts
open Riff

structure SpeechRequest where
  model : Option String
  input : String
  voice : String
  responseFormat : String
  sampleRate : Int
  language : Option String
  deriving DecidableEq, Repr

inductive Error where
  /-- `wave.Error("bad frame rate")` -/
  | badFrameRate
  /-- `struct.error`: a number does not fit its field. -/
  | struct
  /-- `RuntimeError("model not loaded")` -/
  | modelNotLoaded
  /-- Raised inside the model's generation. -/
  | model
  deriving DecidableEq, Repr

/-- One unsigned field of `struct.pack`, `n` bytes wide. -/
def pack (n v : Nat) : Except Error (List UInt8) :=
  if v < 256 ^ n then .ok (le n v) else .error .struct

/-- `Wave_write._write_header` -/
def writeHeader (nchannels sampwidth framerate nframes : Nat) : Except Error (List UInt8) := do
  let datalength := nframes * nchannels * sampwidth
  let size ← pack 4 (36 + datalength)
  let formatTag ← pack 2 1
  let channels ← pack 2 nchannels
  let rate ← pack 4 framerate
  let byteRate ← pack 4 (nchannels * framerate * sampwidth)
  let align ← pack 2 (nchannels * sampwidth)
  let bits ← pack 2 (sampwidth * 8)
  let data ← pack 4 datalength
  pure (tag "RIFF" ++ size ++ tag "WAVE" ++ tag "fmt " ++ le 4 16 ++ formatTag ++ channels ++
    rate ++ byteRate ++ align ++ bits ++ tag "data" ++ data)

/-- `_wav_header`: `setframerate` refuses rates that are not positive, and `writeframes(b"")`
writes the header for no frame. -/
def wavHeader (numChannels bitsPerSample : Nat) (sampleRate : Int) : Except Error (List UInt8) :=
  if sampleRate ≤ 0 then .error .badFrameRate
  else writeHeader numChannels (bitsPerSample / 8) sampleRate.toNat 0

def opening (req : SpeechRequest) : Except Error (List (List UInt8)) :=
  if req.responseFormat = "wav" then do
    let header ← wavHeader 1 16 req.sampleRate
    pure [header]
  else pure []

/-- `gen`, run to its end over the chunks of the model: what it yields, and what it raises. -/
def gen (req : SpeechRequest) (chunks : List Chunk) : List (List UInt8) × Option Error :=
  match opening req with
  | .error e => ([], some e)
  | .ok header => (header ++ chunks.map toPcm16Bytes, none)

def body (req : SpeechRequest) (chunks : List Chunk) : List UInt8 := (gen req chunks).1.flatten

/-! ## Reading a WAV file -/

structure Wav where
  channels : Nat
  rate : Nat
  bits : Nat
  data : List UInt8
  deriving DecidableEq, Repr

/-- A `fmt ` and a `data` chunk, read as PCM. -/
def readWav (bs : List UInt8) : Option Wav := do
  let chunks ← readForm (tag "WAVE") bs
  let format ← chunks.find? (·.id = tag "fmt ")
  let data ← chunks.find? (·.id = tag "data")
  let (_, rest) ← field 2 format.body
  let (channels, rest) ← field 2 rest
  let (rate, rest) ← field 4 rest
  let (_, rest) ← field 4 rest
  let (_, rest) ← field 2 rest
  let (bits, _) ← field 2 rest
  some ⟨ofLE channels, ofLE rate, ofLE bits, data.body⟩

def headerChunks (rate : Nat) : List Riff.Chunk :=
  [⟨tag "fmt ", le 2 1 ++ (le 2 1 ++ (le 4 rate ++ (le 4 (2 * rate) ++ (le 2 2 ++
    (le 2 16 ++ [])))))⟩, ⟨tag "data", []⟩]

theorem headerChunks_fits (rate : Nat) : ∀ c ∈ headerChunks rate, c.Fits := by
  intro c hc
  simp only [headerChunks, List.mem_cons, List.not_mem_nil, or_false] at hc
  rcases hc with rfl | rfl
  · exact ⟨rfl, by simp⟩
  · exact ⟨rfl, by simp⟩

theorem header_fits (rate : Nat) : (form (tag "WAVE") (headerChunks rate)).Fits :=
  ⟨rfl, by simp [form, headerChunks, Chunk.write, tag, pad]⟩

theorem write_header (rate : Nat) : (form (tag "WAVE") (headerChunks rate)).write =
    tag "RIFF" ++ le 4 36 ++ tag "WAVE" ++ tag "fmt " ++ le 4 16 ++ le 2 1 ++ le 2 1 ++
      le 4 rate ++ le 4 (2 * rate) ++ le 2 2 ++ le 2 16 ++ tag "data" ++ le 4 0 := by
  have hlen : (form (tag "WAVE") (headerChunks rate)).body.length = 36 := by
    simp [form, headerChunks, Chunk.write, tag, pad]
  rw [Chunk.write, hlen]
  simp [form, headerChunks, Chunk.write, pad]

theorem pack_ok {n v : Nat} (h : v < 256 ^ n) : pack n v = .ok (le n v) := if_pos h

theorem pack_error {n v : Nat} (h : ¬ v < 256 ^ n) : pack n v = .error .struct := if_neg h

/-- A rate is accepted if it is positive and the bytes per second fit their field. -/
theorem wavHeader_ok_iff {rate : Int} {header : List UInt8} :
    wavHeader 1 16 rate = .ok header ↔ (0 < rate ∧ 2 * rate < 256 ^ 4) ∧
      header = (form (tag "WAVE") (headerChunks rate.toNat)).write := by
  rw [write_header]
  by_cases hpos : rate ≤ 0
  · simp only [wavHeader, hpos, if_true]
    constructor
    · exact fun h => nomatch h
    · exact fun h => absurd h.1.1 (by omega)
  · obtain ⟨r, rfl⟩ := Int.eq_ofNat_of_zero_le (by omega : 0 ≤ rate)
    simp only [wavHeader, hpos, if_false, writeHeader, Int.toNat_natCast]
    have hbytes : 1 * r * (16 / 8) = 2 * r := by omega
    by_cases hfit : 2 * r < 256 ^ 4
    · simp (disch := omega) only [pack_ok, bind, Except.bind, pure, Except.pure]
      rw [hbytes]
      have hrate : 0 < (r : Int) ∧ 2 * (r : Int) < 256 ^ 4 := by omega
      constructor
      · exact fun h => ⟨hrate, (Except.ok.inj h).symm⟩
      · exact fun h => congrArg Except.ok h.2.symm
    · simp (disch := omega) only [pack_ok, bind, Except.bind, pure, Except.pure]
      rw [hbytes, pack_error hfit]
      have hrate : ¬ (2 * (r : Int) < 256 ^ 4) := by omega
      constructor
      · intro h
        cases hr : pack 4 r with
        | error e => simp [hr] at h
        | ok v => simp [hr] at h
      · exact fun h => absurd h.1.2 hrate

theorem wavHeader_error {rate : Int} {e : Error} (h : wavHeader 1 16 rate = .error e) :
    ¬ (0 < rate ∧ 2 * rate < 256 ^ 4) := by
  intro hrate
  have hok := wavHeader_ok_iff.mpr ⟨hrate, rfl⟩
  rw [h] at hok
  cases hok

theorem readWav_header (rate : Nat) (h : rate < 256 ^ 4) (rest : List UInt8) :
    readWav ((form (tag "WAVE") (headerChunks rate)).write ++ rest) = some ⟨1, rate, 16, []⟩ := by
  have hform : readForm (tag "WAVE") ((form (tag "WAVE") (headerChunks rate)).write ++ rest) =
      some (headerChunks rate) :=
    readForm_write rfl (headerChunks_fits rate) (header_fits rate) rest
  have hdata : tag "fmt " ≠ tag "data" := by decide
  have hone : ofLE (le 2 1) = 1 := rfl
  have hbits : ofLE (le 2 16) = 16 := rfl
  have hrate : ofLE (le 4 rate) = rate := ofLE_le h
  rw [readWav, hform]
  simp only [headerChunks, Option.bind_eq_bind, Option.bind_some, List.find?_cons,
    decide_true, hdata, decide_false, field_le, hone, hbits, hrate]

/-! ## What a WAV response decodes to -/

theorem body_pcm (req : SpeechRequest) (chunks : List Chunk) :
    body { req with responseFormat := "pcm" } chunks = pcm chunks := by
  have hne : ("pcm" : String) ≠ "wav" := by decide
  simp only [body, gen, opening, hne, if_false, pure, Except.pure, List.nil_append]
  exact (List.flatMap_def ..).symm

theorem body_wav (req : SpeechRequest) (chunks : List Chunk) :
    body { req with responseFormat := "wav" } chunks =
      match wavHeader 1 16 req.sampleRate with
      | .error _ => []
      | .ok header => header ++ pcm chunks := by
  simp only [body, gen, opening, if_true]
  cases wavHeader 1 16 req.sampleRate with
  | error e => rfl
  | ok header =>
      simp only [bind, Except.bind, pure, Except.pure, List.singleton_append, List.flatten_cons]
      rw [pcm, List.flatMap_def]

/-- A WAV response decodes to the bytes of the PCM response exactly when there are none and the
header could be written. -/
theorem wav_decodes_iff (req : SpeechRequest) (chunks : List Chunk) :
    (readWav (body { req with responseFormat := "wav" } chunks)).map Wav.data =
        some (body { req with responseFormat := "pcm" } chunks) ↔
      (0 < req.sampleRate ∧ 2 * req.sampleRate < 256 ^ 4) ∧ ∀ c ∈ chunks, c.samples = [] := by
  rw [body_pcm, body_wav, ← pcm_eq_nil]
  cases hheader : wavHeader 1 16 req.sampleRate with
  | error e =>
      constructor
      · exact fun h => nomatch h
      · exact fun h => absurd h.1 (wavHeader_error hheader)
  | ok header =>
      obtain ⟨hrate, rfl⟩ := wavHeader_ok_iff.mp hheader
      dsimp only
      rw [readWav_header _ (by omega), Option.map_some, Option.some_inj]
      constructor
      · exact fun h => ⟨hrate, h.symm⟩
      · exact fun h => h.2.symm

def defaultRequest : SpeechRequest := ⟨none, "hello", "aiden", "pcm", 24000, none⟩

/-- One sample, and the `data` chunk of the response still says 0 bytes. -/
theorem wav_loses_sample : ¬ ∀ (req : SpeechRequest) (chunks : List Chunk),
    (readWav (body { req with responseFormat := "wav" } chunks)).map Wav.data =
      some (body { req with responseFormat := "pcm" } chunks) := by
  intro h
  exact absurd (h defaultRequest [.int16 [1000]]) (by decide)

end SpeechK8s.Tts
