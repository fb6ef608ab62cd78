import Mathlib.Algebra.Group.Int.Defs
import Mathlib.Algebra.Group.Nat.Defs
import Mathlib.Tactic.Common

/-!
# internal/config/config.go

The settings the tool handlers read. Go's `int` has 64 bits here and its arithmetic wraps.
-/
namespace SpeechK8s.Mcp

/-- `os.Getenv`: a variable that is not set reads as the empty string. Values are text, as `range`
reads them: in one that is not UTF-8 it finds U+FFFD for every wrong byte. -/
abbrev Environment := String → String

structure Config where
  toolMaxResults : Int64
  defaultTimezone : String

def getEnv (env : Environment) (key default : String) : String :=
  if env key ≠ "" then env key else default

/-- The loop over the characters of the value, with what it has accumulated so far. -/
def readDigits (default : Int64) : List Char → Int64 → Int64
  | [], n => n
  | c :: cs, n =>
      if c < '0' ∨ '9' < c then default
      else readDigits default cs (n * 10 + Int64.ofNat (c.toNat - '0'.toNat))

def getEnvInt (env : Environment) (key : String) (default : Int64) : Int64 :=
  if env key = "" then default else readDigits default (env key).toList 0

def load (env : Environment) : Config where
  toolMaxResults := getEnvInt env "TOOL_MAX_RESULTS" 5
  defaultTimezone := getEnv env "MCP_DEFAULT_TIMEZONE" "UTC"

/-! ## Exact settings -/

def IsDecimal (v : String) : Prop := v ≠ "" ∧ ∀ c ∈ v.toList, '0' ≤ c ∧ c ≤ '9'

/-- The number that a string of digits stands for. -/
def decimal (v : String) : Nat := Nat.ofDigitChars 10 v.toList 0

/-- `n` is the number that `v` stands for if `v` stands for one that fits 64 bits, and else the
default. -/
structure Exact (v : String) (default n : Int64) : Prop where
  fits : IsDecimal v → decimal v < 2 ^ 63 → n.toInt = decimal v
  other : ¬ (IsDecimal v ∧ decimal v < 2 ^ 63) → n = default

theorem readDigits_decimal {default : Int64} {cs : List Char}
    (h : ∀ c ∈ cs, '0' ≤ c ∧ c ≤ '9') (n : Nat) :
    readDigits default cs (Int64.ofNat n) = Int64.ofNat (Nat.ofDigitChars 10 cs n) := by
  induction cs generalizing n with
  | nil => simp [readDigits]
  | cons c cs ih =>
      have hc := h c List.mem_cons_self
      have hno : ¬ (c < '0' ∨ '9' < c) := by
        simp only [not_or, Char.not_lt]
        exact hc
      rw [readDigits, if_neg hno, Nat.ofDigitChars_cons, Nat.mul_comm 10 n,
        ← ih fun d hd => h d (List.mem_cons_of_mem c hd)]
      rw [Int64.ofNat_add, Int64.ofNat_mul]
      rfl

theorem readDigits_other {default : Int64} {cs : List Char}
    (h : ¬ ∀ c ∈ cs, '0' ≤ c ∧ c ≤ '9') (n : Int64) : readDigits default cs n = default := by
  induction cs generalizing n with
  | nil => exact absurd (fun c hc => absurd hc List.not_mem_nil) h
  | cons c cs ih =>
      rw [readDigits]
      split
      · rfl
      · rename_i hc
        simp only [not_or, Char.not_lt] at hc
        refine ih (fun hcs => h fun d hd => ?_) _
        rcases List.mem_cons.mp hd with rfl | hd
        · exact hc
        · exact hcs d hd

theorem getEnvInt_decimal {env : Environment} {key : String} {default : Int64}
    (h : IsDecimal (env key)) : getEnvInt env key default = Int64.ofNat (decimal (env key)) := by
  rw [getEnvInt, if_neg h.1]
  exact readDigits_decimal h.2 0

theorem getEnvInt_other {env : Environment} {key : String} {default : Int64}
    (h : ¬ IsDecimal (env key)) : getEnvInt env key default = default := by
  unfold getEnvInt
  split
  · rfl
  · rename_i hne
    exact readDigits_other (fun hall => h ⟨hne, hall⟩) 0

/-- Two numbers wrap to the same `int` exactly when they differ by a multiple of 2^64. -/
theorem ofNat_eq_iff (n : Nat) (m : Int64) :
    Int64.ofNat n = m ↔ (2 : Int) ^ 64 ∣ n - m.toInt := by
  rw [← Int64.ofInt_eq_ofNat, Int64.ofInt_eq_iff_bmod_eq_toInt]
  have hlow := m.le_toInt
  have hhigh := m.toInt_lt
  constructor
  · intro h
    rw [← h]
    exact Int.dvd_self_sub_bmod
  · intro h
    obtain ⟨k, hk⟩ := h
    have hn : (n : Int) = m.toInt + (2 ^ 64 : Nat) * k := by omega
    rw [hn, Int.add_mul_bmod_self_left]
    exact Int.bmod_eq_of_le (by omega) (by omega)

/-- A setting is read exactly unless its digits stand for a number that does not fit and does not
happen to wrap to the default. -/
theorem getEnvInt_exact_iff (env : Environment) (key : String) (default : Int64) :
    Exact (env key) default (getEnvInt env key default) ↔
      (IsDecimal (env key) → 2 ^ 63 ≤ decimal (env key) →
        (2 : Int) ^ 64 ∣ decimal (env key) - default.toInt) := by
  by_cases hd : IsDecimal (env key)
  · rw [getEnvInt_decimal hd]
    constructor
    · intro h _ hbig
      exact (ofNat_eq_iff _ _).mp (h.other fun hfit => by omega)
    · intro h
      constructor
      · exact fun _ hfit => Int64.toInt_ofNat_of_lt hfit
      · intro hno
        refine (ofNat_eq_iff _ _).mpr (h hd ?_)
        by_contra hlt
        exact hno ⟨hd, by omega⟩
  · rw [getEnvInt_other hd]
    exact ⟨fun _ h => absurd h hd, fun _ => ⟨fun h => absurd h hd, fun _ => rfl⟩⟩

/-- 2^64 + 3 is read as 3. -/
theorem overflow_reads_three : ¬ ∀ (env : Environment) (key : String) (default : Int64),
    Exact (env key) default (getEnvInt env key default) := by
  intro h
  have hexact := h (fun _ => "18446744073709551619") "TOOL_MAX_RESULTS" 5
  have hread := hexact.other (fun hfit => absurd hfit.2 (by decide))
  exact absurd hread (by decide)

end SpeechK8s.Mcp
