import SpeechK8s.Lib.Binary64
import SpeechK8s.Lib.Json

/-!
# Numbers in strings

What ECMAScript's `Number` makes of a string without blanks around it, and that it reads back the
text of every whole number below 2 ^ 53. A number that is not finite is `none`.
-/
namespace Numeral
open Json (Text readDigits readExponent printInt)

/-- Digits, with or without a point, and an exponent. -/
def decimal (cs : Text) : Option ℚ :=
  let (whole, rest) := readDigits cs
  let (fraction, rest) :=
    match rest with
    | '.' :: rest => readDigits rest
    | rest => ([], rest)
  if whole = [] ∧ fraction = [] then none
  else
    match readExponent rest with
    | some (exponent, []) =>
        let digits : ℚ := Nat.ofDigitChars 10 (whole ++ fraction) 0
        Binary64.nearest (digits * 10 ^ (exponent - fraction.length))
    | _ => none

/-- Digits in another base. -/
def radix (base : ℕ) (cs : Text) : Option ℚ :=
  match cs.mapM fun c => (Json.hexDigit c).filter (· < base) with
  | some (d :: ds) =>
      let n : ℕ := (d :: ds).foldl (fun n d => base * n + d) 0
      Binary64.nearest n
  | _ => none

def number : Text → Option ℚ
  | [] => some 0
  | '-' :: cs => (decimal cs).map fun q => -q
  | '+' :: cs => decimal cs
  | '0' :: c :: cs =>
      if c = 'x' ∨ c = 'X' then radix 16 cs
      else if c = 'o' ∨ c = 'O' then radix 8 cs
      else if c = 'b' ∨ c = 'B' then radix 2 cs
      else decimal ('0' :: c :: cs)
  | cs => decimal cs

/-- `Math.round` -/
def round (q : ℚ) : ℤ := ⌊q + 1 / 2⌋

theorem round_intCast (m : ℤ) : round m = m := by
  rw [round, Int.floor_intCast_add]
  norm_num

theorem decimal_toDigits {n : ℕ} (h : n < 2 ^ 53) : decimal (Nat.toDigits 10 n) = some (n : ℚ) := by
  have hread : readDigits (Nat.toDigits 10 n ++ []) = (Nat.toDigits 10 n, []) :=
    Json.readDigits_print n nofun
  rw [List.append_nil] at hread
  have hexponent : readExponent [] = some (0, []) := rfl
  simp only [decimal, hread, hexponent, Nat.toDigits_ne_nil, false_and, if_false, List.append_nil,
    Nat.ofDigitChars_ten_toDigits, List.length_nil, Nat.cast_zero, sub_zero, zpow_zero, mul_one]
  exact Binary64.nearest_natCast h

/-- A whole number is read back from its text. -/
theorem number_printInt {m : ℤ} (h : m.natAbs < 2 ^ 53) : number (printInt m) = some (m : ℚ) := by
  cases m with
  | ofNat n =>
      have hn : n < 2 ^ 53 := h
      obtain ⟨d, ds, hdigits, hd⟩ := Json.toDigits_cons n
      have hdecimal := decimal_toDigits hn
      rw [hdigits] at hdecimal
      have hprint : printInt (Int.ofNat n) = d :: ds := hdigits
      rw [hprint]
      unfold number
      split
      · rename_i hnil
        cases hnil
      · rename_i heq
        obtain ⟨rfl, -⟩ := List.cons.inj heq
        exact absurd hd (by decide)
      · rename_i heq
        obtain ⟨rfl, -⟩ := List.cons.inj heq
        exact absurd hd (by decide)
      · rename_i c cs heq
        obtain ⟨rfl, rfl⟩ := List.cons.inj heq
        have hzero : n = 0 := Json.toDigits_head (by rw [hdigits]; rfl)
        subst hzero
        have hone : Nat.toDigits 10 0 = ['0'] := rfl
        rw [hone] at hdigits
        cases hdigits
      · exact hdecimal
  | negSucc n =>
      have hn : n + 1 < 2 ^ 53 := h
      have hprint : printInt (Int.negSucc n) = '-' :: Nat.toDigits 10 (n + 1) := rfl
      rw [hprint, number, decimal_toDigits hn, Option.map_some, Int.cast_negSucc]

end Numeral
