import SpeechK8s.Tts.Pcm

/-!
# What the PCM encoding keeps of the samples

The conversion to `int16` drops the fraction of a clipped and scaled sample, so it is symmetric
about zero and never leaves the range between -32767 and 32767.
-/
namespace SpeechK8s.Tts

/-- A rational without its fraction. -/
def towardZero (x : ℚ) : ℤ := x.num.tdiv x.den

theorem towardZero_neg (x : ℚ) : towardZero (-x) = -towardZero x := by
  simp [towardZero, Int.neg_tdiv]

theorem towardZero_nonneg {x : ℚ} (h : 0 ≤ x) : towardZero x = ⌊x⌋ := by
  rw [towardZero, Rat.floor_def', Int.tdiv_eq_ediv_of_nonneg (Rat.num_nonneg.mpr h)]

theorem towardZero_nonpos {x : ℚ} (h : x ≤ 0) : towardZero x = ⌈x⌉ := by
  have hneg := towardZero_nonneg (neg_nonneg.mpr h)
  rw [towardZero_neg, Int.floor_neg, neg_inj] at hneg
  exact hneg

theorem towardZero_mono {x y : ℚ} (h : x ≤ y) : towardZero x ≤ towardZero y := by
  rcases le_total 0 x with hx | hx
  · rw [towardZero_nonneg hx, towardZero_nonneg (hx.trans h)]
    exact Int.floor_le_floor h
  · rcases le_total 0 y with hy | hy
    · rw [towardZero_nonpos hx, towardZero_nonneg hy]
      have hlow : ⌈x⌉ ≤ 0 := Int.ceil_le.mpr (by simpa using hx)
      exact hlow.trans (Int.floor_nonneg.mpr hy)
    · rw [towardZero_nonpos hx, towardZero_nonpos hy]
      exact Int.ceil_le_ceil h

theorem abs_towardZero_sub_lt (x : ℚ) : |(towardZero x : ℚ) - x| < 1 := by
  rw [abs_lt]
  rcases le_total 0 x with hx | hx
  · rw [towardZero_nonneg hx]
    have hlow := Int.floor_le x
    have hhigh := Int.lt_floor_add_one x
    constructor <;> linarith
  · rw [towardZero_nonpos hx]
    have hlow := Int.le_ceil x
    have hhigh := Int.ceil_lt_add_one x
    constructor <;> linarith

theorem towardZero_bounds {x : ℚ} {n : ℕ} (hlow : -(n : ℚ) ≤ x) (hhigh : x ≤ n) :
    -(n : ℤ) ≤ towardZero x ∧ towardZero x ≤ n := by
  have hnat : towardZero (n : ℚ) = n := by simp [towardZero]
  constructor
  · have h := towardZero_mono hlow
    rwa [towardZero_neg, hnat] at h
  · have h := towardZero_mono hhigh
    rwa [hnat] at h

/-! ## Clipping -/

theorem clip_bounds (x : ℚ) : -1 ≤ clip x ∧ clip x ≤ 1 := by
  unfold clip
  exact ⟨le_min (le_max_right _ _) (by norm_num), min_le_right _ _⟩

theorem clip_mono {x y : ℚ} (h : x ≤ y) : clip x ≤ clip y :=
  min_le_min_right 1 (max_le_max_right (-1) h)

theorem clip_neg (x : ℚ) : clip (-x) = -clip x := by
  simp only [clip, min_def, max_def]
  split_ifs <;> linarith

/-! ## Samples -/

/-- The encoded value of a sample, which no conversion wraps around. -/
theorem quantize_toInt (x : ℚ) : (quantize x).toInt = towardZero (clip x * 32767) := by
  obtain ⟨hlow, hhigh⟩ := clip_bounds x
  obtain ⟨hmin, hmax⟩ := towardZero_bounds (x := clip x * 32767) (n := 32767)
    (by push_cast; linarith) (by push_cast; linarith)
  have hvalue : quantize x = Int16.ofInt (towardZero (clip x * 32767)) := rfl
  rw [hvalue]
  exact Int16.toInt_ofInt_of_le (by omega) (by omega)

/-- A sample encoder that neither wraps nor favours a sign. -/
structure Faithful (enc : ℚ → Int16) : Prop where
  bounded : ∀ x, -32767 ≤ (enc x).toInt ∧ (enc x).toInt ≤ 32767
  monotone : ∀ x y, x ≤ y → (enc x).toInt ≤ (enc y).toInt
  odd : ∀ x, (enc (-x)).toInt = -(enc x).toInt
  close : ∀ x, |((enc x).toInt : ℚ) / 32767 - min (max x (-1)) 1| ≤ 1 / 32767

theorem quantize_bounded (x : ℚ) : -32767 ≤ (quantize x).toInt ∧ (quantize x).toInt ≤ 32767 := by
  obtain ⟨hlow, hhigh⟩ := clip_bounds x
  rw [quantize_toInt]
  exact towardZero_bounds (n := 32767) (by push_cast; linarith) (by push_cast; linarith)

theorem quantize_monotone {x y : ℚ} (h : x ≤ y) : (quantize x).toInt ≤ (quantize y).toInt := by
  rw [quantize_toInt, quantize_toInt]
  apply towardZero_mono
  have hclip := clip_mono h
  linarith

theorem quantize_odd (x : ℚ) : (quantize (-x)).toInt = -(quantize x).toInt := by
  rw [quantize_toInt, quantize_toInt, clip_neg, neg_mul, towardZero_neg]

theorem quantize_close (x : ℚ) : |((quantize x).toInt : ℚ) / 32767 - clip x| ≤ 1 / 32767 := by
  have hlt := abs_towardZero_sub_lt (clip x * 32767)
  have hscale : ((towardZero (clip x * 32767) : ℤ) : ℚ) / 32767 - clip x =
      (towardZero (clip x * 32767) - clip x * 32767) / 32767 := by ring
  rw [quantize_toInt, hscale, abs_div, abs_of_pos (by norm_num : (0 : ℚ) < 32767)]
  exact div_le_div_of_nonneg_right hlt.le (by norm_num)

theorem quantize_faithful : Faithful quantize where
  bounded := quantize_bounded
  monotone := fun _ _ h => quantize_monotone h
  odd := quantize_odd
  close := quantize_close

/-! ## Bytes -/

/-- Two little-endian bytes a sample, in two's complement. -/
def readSamples : List UInt8 → Option (List Int16)
  | [] => some []
  | [_] => none
  | a :: b :: bs => (readSamples bs).map fun vs => Int16.ofNat (Riff.ofLE [a, b]) :: vs

theorem readSamples_bytes (vs : List Int16) : readSamples (vs.flatMap sampleBytes) = some vs := by
  induction vs with
  | nil => rfl
  | cons v vs ih =>
      have hfits : v.toUInt16.toNat < 256 ^ 2 := v.toUInt16.toNat_lt
      have hread : Int16.ofNat (Riff.ofLE (Riff.le 2 v.toUInt16.toNat)) = v := by
        rw [Riff.ofLE_le hfits]
        exact Int16.toBitVec_inj.mp (by simp)
      calc readSamples (sampleBytes v ++ vs.flatMap sampleBytes)
          = (readSamples (vs.flatMap sampleBytes)).map fun ws =>
              Int16.ofNat (Riff.ofLE (Riff.le 2 v.toUInt16.toNat)) :: ws := rfl
        _ = some (v :: vs) := by rw [ih, hread, Option.map_some]

theorem readSamples_chunk (chunk : Chunk) :
    readSamples (toPcm16Bytes chunk) = some chunk.samples := readSamples_bytes chunk.samples

/-- Encoding a sequence in chunks is encoding it whole. -/
theorem pcm_split {α : Type} (make : List α → Chunk) (one : α → Int16)
    (h : ∀ xs, (make xs).samples = xs.map one) (parts : List (List α)) :
    pcm (parts.map make) = toPcm16Bytes (make parts.flatten) := by
  induction parts with
  | nil => simp [pcm, toPcm16Bytes, h]
  | cons xs parts ih =>
      have hcons : pcm ((xs :: parts).map make) = toPcm16Bytes (make xs) ++ pcm (parts.map make) :=
        rfl
      rw [hcons, ih]
      simp [toPcm16Bytes, h, List.flatten_cons]

/-- The encoding is faithful sample by sample, two bytes each, leaves `int16` samples alone, and
does not depend on how a sequence is cut into chunks. -/
theorem pcm_encoding :
    Faithful quantize ∧
    (∀ xs, readSamples (toPcm16Bytes (.float xs)) = some (xs.map quantize) ∧
      (toPcm16Bytes (.float xs)).length = 2 * xs.length) ∧
    (∀ x, (quantize x).toInt = towardZero (clip x * 32767)) ∧
    (∀ vs, readSamples (toPcm16Bytes (.int16 vs)) = some vs ∧
      (toPcm16Bytes (.int16 vs)).length = 2 * vs.length) ∧
    (∀ parts : List (List ℚ), pcm (parts.map .float) = toPcm16Bytes (.float parts.flatten)) ∧
    ∀ parts : List (List Int16), pcm (parts.map .int16) = toPcm16Bytes (.int16 parts.flatten) := by
  refine ⟨quantize_faithful, fun xs => ⟨readSamples_chunk _, ?_⟩, quantize_toInt,
    fun vs => ⟨readSamples_chunk _, toPcm16Bytes_length _⟩, ?_, ?_⟩
  · rw [toPcm16Bytes_length]
    simp [Chunk.samples]
  · exact pcm_split .float quantize fun _ => rfl
  · exact pcm_split .int16 id fun vs => (List.map_id vs).symm

end SpeechK8s.Tts
