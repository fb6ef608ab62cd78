import Mathlib.Algebra.Order.Floor.Semifield
import Mathlib.Data.Int.Log
import Mathlib.Data.Rat.Floor

/-!
# Decimals and binary64

The magnitudes that IEEE 754 doubles can have, the one nearest to a rational, and the shortest
decimal that leads back to a magnitude. Whole numbers below 10 ^ 15 survive both ways.
-/
namespace Binary64

/-- The nearest natural number, the even one of two. -/
def roundEven (q : ℚ) : ℕ :=
  if q - ⌊q⌋₊ < 1 / 2 ∨ (q - ⌊q⌋₊ = 1 / 2 ∧ ⌊q⌋₊ % 2 = 0) then ⌊q⌋₊ else ⌊q⌋₊ + 1

/-- What a magnitude near `q` is a multiple of: it has 53 binary digits, and none beyond the last
place of the subnormal numbers. -/
def ulp (q : ℚ) : ℚ := 2 ^ max (Int.log 2 q - 52) (-1074)

/-- The magnitude nearest to `q`, `none` for infinity. -/
def nearest (q : ℚ) : Option ℚ :=
  if roundEven (q / ulp q) * ulp q < 2 ^ 1024 then some (roundEven (q / ulp q) * ulp q) else none

structure Decimal where
  digits : ℕ
  exponent : ℤ
  deriving DecidableEq, Repr

def Decimal.value (d : Decimal) : ℚ := d.digits * 10 ^ d.exponent

/-- A count of `k` digits that has run over is a 1 and zeros. -/
def Decimal.ofCount (k n : ℕ) (exponent : ℤ) : Decimal :=
  if n = 10 ^ k then ⟨1, exponent + k⟩ else ⟨n, exponent⟩

/-- The decimal with `k` digits that leads back to `v`, the closer one of two. -/
def withDigits (v : ℚ) (k : ℕ) : Option Decimal :=
  let exponent := Int.log 10 v + 1 - k
  let scaled := v / 10 ^ exponent
  let below := Decimal.ofCount k ⌊scaled⌋₊ exponent
  let above := Decimal.ofCount k ⌈scaled⌉₊ exponent
  if nearest below.value = some v then
    if nearest above.value = some v ∧ roundEven scaled = ⌈scaled⌉₊ then some above else some below
  else if nearest above.value = some v then some above
  else none

/-- The shortest decimal that leads back to `v`; 17 digits always do. -/
def shortest (v : ℚ) : Decimal :=
  ((List.range 17).findSome? fun k => withDigits v (k + 1)).getD ⟨0, 0⟩

/-! ## Whole numbers -/

theorem roundEven_natCast (n : ℕ) : roundEven n = n := by
  rw [roundEven, Nat.floor_natCast, sub_self, if_pos (.inl (by norm_num))]

theorem ulp_natCast {n : ℕ} (h : n < 2 ^ 53) : ∃ j : ℕ, ulp n * 2 ^ j = 1 := by
  have hlog : Int.log 2 (n : ℚ) ≤ 52 := by
    rw [Int.log_natCast]
    by_cases hn : n = 0
    · simp [hn]
    · have hlt : Nat.log 2 n < 53 := Nat.log_lt_of_lt_pow hn h
      omega
  obtain ⟨j, hj⟩ : ∃ j : ℕ, max (Int.log 2 (n : ℚ) - 52) (-1074) = -(j : ℤ) :=
    ⟨(-max (Int.log 2 (n : ℚ) - 52) (-1074)).toNat, by omega⟩
  refine ⟨j, ?_⟩
  rw [ulp, hj, zpow_neg, zpow_natCast]
  exact inv_mul_cancel₀ (by positivity)

/-- Below 2 ^ 53 every whole number is a magnitude. -/
theorem nearest_natCast {n : ℕ} (h : n < 2 ^ 53) : nearest (n : ℚ) = some (n : ℚ) := by
  obtain ⟨j, hj⟩ := ulp_natCast h
  have hulp : ulp (n : ℚ) ≠ 0 := left_ne_zero_of_mul_eq_one hj
  have hscaled : (n : ℚ) / ulp n = ((n * 2 ^ j : ℕ) : ℚ) := by
    rw [div_eq_iff hulp]
    push_cast
    rw [mul_assoc, mul_comm ((2 : ℚ) ^ j), hj, mul_one]
  have hround : (roundEven ((n : ℚ) / ulp n) : ℚ) * ulp n = n := by
    rw [hscaled, roundEven_natCast, ← hscaled, div_mul_cancel₀ _ hulp]
  have hsmall : (n : ℚ) < 2 ^ 1024 := by
    have hlt : (n : ℚ) < 2 ^ 53 := by exact_mod_cast h
    exact hlt.trans (pow_lt_pow_right₀ (by norm_num) (by norm_num))
  rw [nearest, hround, if_pos hsmall]

theorem ofCount_value (k n : ℕ) (e : ℤ) : (Decimal.ofCount k n e).value = n * 10 ^ e := by
  unfold Decimal.ofCount
  split
  · rename_i hn
    rw [Decimal.value, hn, zpow_add₀ (by norm_num), zpow_natCast]
    push_cast
    ring
  · rfl

theorem ofCount_exponent {k n : ℕ} {e : ℤ} (he : 0 ≤ e) :
    0 ≤ (Decimal.ofCount k n e).exponent := by
  unfold Decimal.ofCount
  split
  · exact Int.add_nonneg he (Int.natCast_nonneg k)
  · exact he

/-- A decimal that leads back to `v` is either of the two around it. -/
theorem withDigits_some {v : ℚ} {k : ℕ} {d : Decimal} (h : withDigits v k = some d) :
    nearest d.value = some v ∧
      (d = .ofCount k ⌊v / 10 ^ (Int.log 10 v + 1 - k)⌋₊ (Int.log 10 v + 1 - k) ∨
        d = .ofCount k ⌈v / 10 ^ (Int.log 10 v + 1 - k)⌉₊ (Int.log 10 v + 1 - k)) := by
  unfold withDigits at h
  dsimp only at h
  split at h
  · rename_i hbelow
    split at h
    · rename_i habove
      obtain rfl := Option.some.inj h
      exact ⟨habove.1, .inr rfl⟩
    · obtain rfl := Option.some.inj h
      exact ⟨hbelow, .inl rfl⟩
  · split at h
    · rename_i habove
      obtain rfl := Option.some.inj h
      exact ⟨habove, .inr rfl⟩
    · cases h

/-- Either of the two decimals around `v` will do. -/
theorem withDigits_of_nearest {v : ℚ} {k c : ℕ}
    (hc : c = ⌊v / 10 ^ (Int.log 10 v + 1 - k)⌋₊ ∨ c = ⌈v / 10 ^ (Int.log 10 v + 1 - k)⌉₊)
    (h : nearest (c * 10 ^ (Int.log 10 v + 1 - k)) = some v) : withDigits v k ≠ none := by
  unfold withDigits
  simp only [ofCount_value]
  rcases hc with rfl | rfl
  · rw [if_pos h]
    split <;> exact nofun
  · split
    · split <;> exact nofun
    · exact nofun

/-- With as many digits as it has, a whole number is its own decimal. -/
theorem withDigits_natCast {n : ℕ} (h : n < 2 ^ 53) :
    ∃ d, withDigits n (Nat.log 10 n + 1) = some d := by
  have hexp : Int.log 10 (n : ℚ) + 1 - ((Nat.log 10 n + 1 : ℕ) : ℤ) = 0 := by
    rw [Int.log_natCast]
    push_cast
    omega
  have hvalue : (Decimal.ofCount (Nat.log 10 n + 1) n 0).value = n := by
    rw [ofCount_value, zpow_zero, mul_one]
  unfold withDigits
  dsimp only
  rw [hexp, zpow_zero, div_one, Nat.floor_natCast, Nat.ceil_natCast, hvalue, nearest_natCast h,
    roundEven_natCast]
  simp

/-- A decimal of few enough digits that leads back to a small whole number is that number. -/
theorem withDigits_exact {n k : ℕ} {d : Decimal} (h : n < 10 ^ 15) (hk : k ≤ Nat.log 10 n + 1)
    (hd : withDigits n k = some d) : d.value = n ∧ 0 ≤ d.exponent := by
  obtain ⟨hnearest, hcases⟩ := withDigits_some hd
  rw [Int.log_natCast] at hcases
  obtain ⟨j, hj⟩ : ∃ j : ℕ, (Nat.log 10 n : ℤ) + 1 - k = j :=
    ⟨Nat.log 10 n + 1 - k, by omega⟩
  rw [hj, zpow_natCast] at hcases
  have hlog : Nat.log 10 n < 15 := by
    by_cases hn : n = 0
    · simp [hn]
    · exact Nat.log_lt_of_lt_pow hn h
  have hten : 10 ^ (15 - j) * 10 ^ j = 10 ^ 15 := by
    rw [← Nat.pow_add, Nat.sub_add_cancel (by omega)]
  have hceil : ⌈(n : ℚ) / 10 ^ j⌉₊ * 10 ^ j ≤ 10 ^ 15 := by
    rw [← hten]
    refine Nat.mul_le_mul_right _ (Nat.ceil_le.mpr ?_)
    rw [div_le_iff₀ (by positivity)]
    push_cast
    exact_mod_cast hten ▸ h.le
  have hfloor : ⌊(n : ℚ) / 10 ^ j⌋₊ ≤ ⌈(n : ℚ) / 10 ^ j⌉₊ := Nat.floor_le_ceil _
  have hwhole : ∀ c : ℕ, c ≤ ⌈(n : ℚ) / 10 ^ j⌉₊ → d = .ofCount k c j →
      d.value = n ∧ 0 ≤ d.exponent := by
    rintro c hc rfl
    have hsmall : c * 10 ^ j < 2 ^ 53 := by
      have hle := (Nat.mul_le_mul_right (10 ^ j) hc).trans hceil
      omega
    have hvalue : (Decimal.ofCount k c j).value = ((c * 10 ^ j : ℕ) : ℚ) := by
      rw [ofCount_value, zpow_natCast]
      push_cast
      rfl
    rw [hvalue, nearest_natCast hsmall] at hnearest
    refine ⟨?_, ofCount_exponent (Int.natCast_nonneg j)⟩
    rw [hvalue]
    exact Option.some.inj hnearest
  rcases hcases with hbelow | habove
  · exact hwhole _ hfloor hbelow
  · exact hwhole _ (Nat.le_refl _) habove

/-- The shortest decimal of a small whole number is the number itself. -/
theorem shortest_natCast {n : ℕ} (h : n < 10 ^ 15) :
    (shortest n).value = n ∧ 0 ≤ (shortest n).exponent := by
  have hlog : Nat.log 10 n < 15 := by
    by_cases hn : n = 0
    · simp [hn]
    · exact Nat.log_lt_of_lt_pow hn h
  obtain ⟨d, hd⟩ := withDigits_natCast (n := n) (h.trans (by norm_num))
  have hmem : Nat.log 10 n ∈ List.range 17 := List.mem_range.mpr (by omega)
  have hsome : ((List.range 17).findSome? fun k => withDigits (n : ℚ) (k + 1)).isSome := by
    rw [List.findSome?_isSome_iff]
    exact ⟨Nat.log 10 n, hmem, by rw [hd, Option.isSome_some]⟩
  obtain ⟨d', hd'⟩ := Option.isSome_iff_exists.mp hsome
  obtain ⟨before, k, after, hsplit, hk, hbefore⟩ := List.findSome?_eq_some_iff.mp hd'
  -- The search stops at the number's own count of digits, if not before.
  have hle : k ≤ Nat.log 10 n := by
    rw [hsplit, List.mem_append, List.mem_cons] at hmem
    rcases hmem with hmem | hmem | hmem
    · rw [hbefore _ hmem] at hd
      cases hd
    · exact hmem.ge
    · have hsorted := List.pairwise_lt_range (n := 17)
      rw [hsplit, List.pairwise_append] at hsorted
      exact (List.rel_of_pairwise_cons hsorted.2.1 hmem).le
  rw [shortest, hd', Option.getD_some]
  exact withDigits_exact h (by omega) hk

/-! ## Whole decimals -/

theorem nearest_nonneg {q v : ℚ} (h : nearest q = some v) : 0 ≤ v := by
  unfold nearest at h
  split at h
  · obtain rfl := Option.some.inj h
    exact mul_nonneg (Nat.cast_nonneg _) (zpow_nonneg (by norm_num) _)
  · cases h

theorem nearest_zero : nearest 0 = some 0 := by
  have hzero := nearest_natCast (n := 0) (by norm_num)
  rwa [Nat.cast_zero] at hzero

theorem shortest_zero : (shortest 0).value = 0 := by
  have hzero := (shortest_natCast (n := 0) (by norm_num)).1
  rwa [Nat.cast_zero] at hzero

theorem floor_tenth {s : ℚ} {b : ℕ} (h : ⌊s⌋₊ = 10 * b) : ⌊s / 10⌋₊ = b := by
  have htenth := Nat.floor_div_ofNat s 10
  rw [h] at htenth
  have hten : (OfNat.ofNat 10 : ℚ) = 10 := rfl
  rw [hten] at htenth
  rw [htenth]
  exact Nat.mul_div_cancel_left b (by norm_num)

theorem ceil_tenth {s : ℚ} {b : ℕ} (hs : 0 < s) (h : ⌈s⌉₊ = 10 * b) : ⌈s / 10⌉₊ = b := by
  have hpos : 0 < b := by
    have hceil := Nat.ceil_pos.mpr hs
    omega
  have hle : s ≤ 10 * b := by
    have hle := Nat.le_ceil s
    rw [h] at hle
    push_cast at hle
    exact hle
  have hlt : 10 * b < s + 1 := by
    have hlt := Nat.ceil_lt_add_one hs.le
    rw [h] at hlt
    push_cast at hlt
    exact hlt
  rw [Nat.ceil_eq_iff (by omega)]
  constructor
  · rw [Nat.cast_sub hpos, Nat.cast_one]
    linarith
  · linarith

/-- A count that ends with 0 would have been found with a digit less. -/
theorem withDigits_shorter {v : ℚ} (hv : 0 < v) {k c : ℕ} (hten : 10 ∣ c)
    (hc : c = ⌊v / 10 ^ (Int.log 10 v + 1 - (k + 1 : ℕ))⌋₊ ∨
      c = ⌈v / 10 ^ (Int.log 10 v + 1 - (k + 1 : ℕ))⌉₊)
    (h : nearest (c * 10 ^ (Int.log 10 v + 1 - (k + 1 : ℕ))) = some v) : withDigits v k ≠ none := by
  obtain ⟨b, rfl⟩ := hten
  have hpow : (10 : ℚ) ^ (Int.log 10 v + 1 - (k : ℤ)) =
      10 ^ (Int.log 10 v + 1 - (k + 1 : ℕ)) * 10 := by
    have hexp : Int.log 10 v + 1 - (k : ℤ) = Int.log 10 v + 1 - (k + 1 : ℕ) + 1 := by
      push_cast
      omega
    rw [hexp, zpow_add₀ (by norm_num), zpow_one]
  have hpos : 0 < v / 10 ^ (Int.log 10 v + 1 - (k + 1 : ℕ)) :=
    div_pos hv (zpow_pos (by norm_num) _)
  refine withDigits_of_nearest (c := b) ?_ ?_
  · rw [hpow, div_mul_eq_div_div]
    rcases hc with hc | hc
    · exact .inl (floor_tenth hc.symm).symm
    · exact .inr (ceil_tenth hpos hc.symm).symm
  · have hvalue : (b : ℚ) * (10 ^ (Int.log 10 v + 1 - (k + 1 : ℕ)) * 10) =
        ((10 * b : ℕ) : ℚ) * 10 ^ (Int.log 10 v + 1 - (k + 1 : ℕ)) := by
      push_cast
      ring
    rw [hpow, hvalue, h]

/-- The digits of the first decimal that `shortest` comes to. -/
theorem shortest_first {v : ℚ} {d : Decimal}
    (h : ((List.range 17).findSome? fun k => withDigits v (k + 1)) = some d) :
    ∃ k, withDigits v (k + 1) = some d ∧ ∀ j < k, withDigits v (j + 1) = none := by
  obtain ⟨before, k, after, hsplit, hk, hbefore⟩ := List.findSome?_eq_some_iff.mp h
  refine ⟨k, hk, fun j hj => hbefore j ?_⟩
  have hsorted := List.pairwise_lt_range (n := 17)
  have hrange : k ∈ List.range 17 := by simp [hsplit]
  have hmem : j ∈ List.range 17 := List.mem_range.mpr (hj.trans (List.mem_range.mp hrange))
  rw [hsplit, List.pairwise_append] at hsorted
  rw [hsplit, List.mem_append, List.mem_cons] at hmem
  rcases hmem with hmem | rfl | hmem
  · exact hmem
  · exact absurd hj (Nat.lt_irrefl j)
  · exact absurd (List.rel_of_pairwise_cons hsorted.2.1 hmem) (Nat.lt_asymm hj)

theorem count_bounds {v : ℚ} (hv : 0 < v) {k c : ℕ}
    (hc : c = ⌊v / 10 ^ (Int.log 10 v + 1 - (k + 1 : ℕ))⌋₊ ∨
      c = ⌈v / 10 ^ (Int.log 10 v + 1 - (k + 1 : ℕ))⌉₊) : 0 < c ∧ c ≤ 10 ^ (k + 1) := by
  have hlow := Int.zpow_log_le_self (b := 10) (by norm_num) hv
  have hhigh := Int.lt_zpow_succ_log_self (b := 10) (by norm_num) v
  have hone : 1 ≤ v / 10 ^ (Int.log 10 v + 1 - (k + 1 : ℕ)) := by
    rw [le_div_iff₀ (zpow_pos (by norm_num) _), one_mul]
    refine le_trans (zpow_le_zpow_right₀ (by norm_num) ?_) hlow
    push_cast
    omega
  have hfloor : 0 < ⌊v / 10 ^ (Int.log 10 v + 1 - (k + 1 : ℕ))⌋₊ := Nat.floor_pos.mpr hone
  have hfloor_ceil := Nat.floor_le_ceil (v / 10 ^ (Int.log 10 v + 1 - (k + 1 : ℕ)))
  have hceil : ⌈v / 10 ^ (Int.log 10 v + 1 - (k + 1 : ℕ))⌉₊ ≤ 10 ^ (k + 1) := by
    refine Nat.ceil_le.mpr ?_
    have hpow : (((10 ^ (k + 1) : ℕ) : ℚ)) * 10 ^ (Int.log 10 v + 1 - (k + 1 : ℕ)) =
        10 ^ (Int.log 10 v + 1) := by
      push_cast
      rw [← zpow_natCast, ← zpow_add₀ (by norm_num)]
      congr 1
      push_cast
      omega
    rw [div_le_iff₀ (zpow_pos (by norm_num) _), hpow]
    exact_mod_cast hhigh.le
  rcases hc with rfl | rfl
  · exact ⟨hfloor, hfloor_ceil.trans hceil⟩
  · exact ⟨hfloor.trans_le hfloor_ceil, hceil⟩

theorem natCast_ne_zpow {e : ℤ} (he : e < 0) (z : ℕ) : (z : ℚ) ≠ 10 ^ e := by
  intro hz
  have hlt : (z : ℚ) < 1 := by
    rw [hz]
    exact zpow_lt_one_of_neg₀ (by norm_num) he
  have hzero : z = 0 := by
    have hlt : z < 1 := by exact_mod_cast hlt
    omega
  rw [hzero, Nat.cast_zero] at hz
  exact absurd hz.symm (zpow_ne_zero _ (by norm_num))

/-- A shortest decimal that is a whole number has no fraction to write. -/
theorem shortest_whole {v : ℚ} (hv : 0 < v) {z : ℕ} (hz : (shortest v).value = z) :
    0 ≤ (shortest v).exponent := by
  unfold shortest at hz ⊢
  cases hd : (List.range 17).findSome? fun k => withDigits v (k + 1) with
  | none => exact Int.le_refl 0
  | some d =>
      rw [hd, Option.getD_some] at hz
      rw [Option.getD_some]
      obtain ⟨k, hk, hshorter⟩ := shortest_first hd
      obtain ⟨hnearest, hcases⟩ := withDigits_some hk
      obtain ⟨c, hc, rfl⟩ : ∃ c, (c = ⌊v / 10 ^ (Int.log 10 v + 1 - (k + 1 : ℕ))⌋₊ ∨
          c = ⌈v / 10 ^ (Int.log 10 v + 1 - (k + 1 : ℕ))⌉₊) ∧
          d = .ofCount (k + 1) c (Int.log 10 v + 1 - (k + 1 : ℕ)) := by
        rcases hcases with h | h
        · exact ⟨_, .inl rfl, h⟩
        · exact ⟨_, .inr rfl, h⟩
      obtain ⟨hpos, hle⟩ := count_bounds hv hc
      rw [ofCount_value] at hz hnearest
      by_contra hneg
      unfold Decimal.ofCount at hneg
      split at hneg
      · -- a power of ten below 1
        rename_i hfull
        have hvalue : (z : ℚ) = 10 ^ (Int.log 10 v + 1) := by
          rw [← hz, hfull]
          push_cast
          rw [← zpow_natCast, ← zpow_add₀ (by norm_num)]
          congr 1
          push_cast
          omega
        push_cast at hneg
        exact natCast_ne_zpow (by omega) z hvalue
      · -- digits that end with a zero
        rename_i hfull
        obtain ⟨j, hj⟩ : ∃ j : ℕ, Int.log 10 v + 1 - (k + 1 : ℕ) = -((j + 1 : ℕ) : ℤ) :=
          ⟨(-(Int.log 10 v + 1 - (k + 1 : ℕ)) - 1).toNat, by
            push_cast at hneg ⊢
            omega⟩
        have hdigits : c = z * 10 ^ (j + 1) := by
          rw [hj, zpow_neg, zpow_natCast, ← div_eq_mul_inv, div_eq_iff (by positivity)] at hz
          exact_mod_cast hz
        have hten : 10 ∣ c := ⟨z * 10 ^ j, by rw [hdigits, pow_succ]; ring⟩
        cases k with
        | zero => omega
        | succ k => exact withDigits_shorter hv hten hc hnearest (hshorter k (Nat.lt_succ_self k))

end Binary64
