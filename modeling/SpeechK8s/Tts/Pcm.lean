import Mathlib.Data.Rat.Floor
import SpeechK8s.Lib.Riff

/-!
# `_to_pcm16_bytes` in tts/app/model.py

A chunk of the model is an array of floating-point samples, taken as exact rationals, or of
samples that are int16 already.
-/
namespace SpeechK8s.Tts

inductive Chunk where
  | float (xs : List ℚ)
  | int16 (xs : List Int16)

/-- `np.clip(arr, -1.0, 1.0)` -/
def clip (x : ℚ) : ℚ := min (max x (-1)) 1

/-- `astype(np.int16)`, which drops the fraction. -/
def truncate (x : ℚ) : Int16 := Int16.ofInt (x.num.tdiv x.den)

/-- `(np.clip(arr, -1.0, 1.0) * 32767.0).astype(np.int16)` -/
def quantize (x : ℚ) : Int16 := truncate (clip x * 32767)

def Chunk.samples : Chunk → List Int16
  | .float xs => xs.map quantize
  | .int16 xs => xs

def sampleBytes (v : Int16) : List UInt8 := Riff.le 2 v.toUInt16.toNat

/-- `arr.tobytes()` -/
def toPcm16Bytes (chunk : Chunk) : List UInt8 := chunk.samples.flatMap sampleBytes

/-- `b"".join` of the encoded chunks. -/
def pcm (chunks : List Chunk) : List UInt8 := chunks.flatMap toPcm16Bytes

theorem toPcm16Bytes_length (chunk : Chunk) :
    (toPcm16Bytes chunk).length = 2 * chunk.samples.length := by
  simp [toPcm16Bytes, List.length_flatMap, sampleBytes, Nat.mul_comm]

theorem toPcm16Bytes_eq_nil {chunk : Chunk} : toPcm16Bytes chunk = [] ↔ chunk.samples = [] := by
  rw [← List.length_eq_zero_iff, toPcm16Bytes_length, ← List.length_eq_zero_iff]
  omega

theorem pcm_eq_nil {chunks : List Chunk} : pcm chunks = [] ↔ ∀ c ∈ chunks, c.samples = [] := by
  simp [pcm, List.flatMap_eq_nil_iff, toPcm16Bytes_eq_nil]

end SpeechK8s.Tts
