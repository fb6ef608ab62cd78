import SpeechK8s.Demo.Relay
import SpeechK8s.Lib.Binary64

/-!
# The tool schemas of demo/main.js and of speech-mcp

The model is offered the schemas of `TOOL_DEFS`, and speech-mcp accepts what its input types
decode. In between the page parses the arguments and writes them again, and a number is a double
on the way.
-/
namespace SpeechK8s.Demo
open Mcp

/-! ## TOOL_DEFS -/

inductive JsonType where
  | string
  | number
  deriving DecidableEq, Repr

def JsonType.Admits : JsonType → Json → Prop
  | .string, .str _ => True
  | .number, .num _ _ => True
  | _, _ => False

structure Parameters where
  properties : List (String × JsonType)
  required : List String

/-- The tools that speech-mcp runs. -/
inductive McpTool where
  | localTime
  | globalInternetSearch
  deriving DecidableEq, Repr

def McpTool.name : McpTool → String
  | .localTime => "local_time"
  | .globalInternetSearch => "global_internet_search"

/-- `TOOL_DEFS[t].parameters` -/
def McpTool.parameters : McpTool → Parameters
  | .localTime => ⟨[("timezone", .string)], []⟩
  | .globalInternetSearch => ⟨[("query", .string), ("max_results", .number)], ["query"]⟩

/-- The object is valid; it may have more fields than the schema names. -/
structure Parameters.Admits (p : Parameters) (fields : Json.Fields) : Prop where
  typed : ∀ q ∈ p.properties, ∀ v, Json.lookup fields q.1 = some v → q.2.Admits v
  required : ∀ key ∈ p.required, ∃ v, Json.lookup fields key = some v

/-! ## The input types of speech-mcp -/

def CodePoint.received : CodePoint → Char
  | .char c => c
  | .surrogate _ => '\uFFFD'

/-- What speech-mcp reads where the proxy sends a string. The client of the proxy either cannot send
a surrogate without its partner or, where it `escapes` all but ASCII, sends an escape that
`encoding/json` replaces. -/
def received (escapes : Bool) : Str → Option String
  | .text s => some s
  | .ill ps _ => if escapes then some (String.ofList (ps.map CodePoint.received)) else none

/-- The schema that the SDK infers for `localtime.Input` and the decoding after it. -/
def decodeTimeInput (escapes : Bool) (fields : Json.Fields) : Option TimeInput :=
  if fields.all fun f => f.1 = "timezone" then
    match Json.lookup fields "timezone" with
    | none => some ⟨""⟩
    | some (.str timezone) => (received escapes timezone).map TimeInput.mk
    | some _ => none
  else none

/-- `max_results`, which takes the literals of integers only. -/
def decodeCount : Option Json → Option Int64
  | none => decodeMaxResults none
  | some (.num z e) => if e = 0 then decodeMaxResults (some z) else none
  | some _ => none

/-- The same for `search.Input`. -/
def decodeSearchInput (escapes : Bool) (fields : Json.Fields) : Option SearchInput :=
  if fields.all fun f => f.1 = "query" || f.1 = "max_results" then
    match Json.lookup fields "query" with
    | some (.str query) =>
        match received escapes query, decodeCount (Json.lookup fields "max_results") with
        | some query, some n => some ⟨query, n⟩
        | _, _ => none
    | _ => none
  else none

/-! ## Numbers on the page -/

def magnitude (m e : Int) : ℚ := m.natAbs * 10 ^ e

/-- The number is read as 0 or -0. -/
def readsZero (m e : Int) : Bool := Binary64.nearest (magnitude m e) = some 0

def signed (m : Int) (n : Nat) : Int := if m < 0 then -n else n

/-- What `JSON.stringify` writes for what `JSON.parse` has read: the shortest digits, in an
integer literal if the number is one and has no more than 21 digits, and `null` for infinity. -/
def rewritten (m e : Int) : Json :=
  match Binary64.nearest (magnitude m e) with
  | none => .null
  | some v =>
      let d := Binary64.shortest v
      if v = 0 then .num 0 0
      else if 0 ≤ d.exponent ∧ d.value < 10 ^ 21 then
        .num (signed m (d.digits * 10 ^ d.exponent.toNat)) 0
      else .num (signed m d.digits) d.exponent

/-- An engine with the numbers of ECMAScript. -/
def ecma (numberText : Int → Int → String) (message : NativeError → String) : Engine where
  zero := readsZero
  numberText := numberText
  sent := rewritten
  message := message

/-! ## Agreement -/

/-- An absent text is the empty one, which stands for the default. -/
def SameText : Option Json → String → Prop
  | none, decoded => decoded = ""
  | some (.str s), decoded => s = decoded
  | some _, _ => False

/-- An absent count stands for the default, as do 0 and what is below. -/
def SameCount : Option Json → Int64 → Prop
  | none, decoded => decoded ≤ 0
  | some (.num m e), decoded =>
      if 0 < m then (decoded.toInt : ℚ) = m * 10 ^ e else decoded ≤ 0
  | some _, _ => False

variable (engine : Engine) (escapes : Bool)

def McpTool.request : McpTool → Json.Fields → McpCallRequest
  | .localTime, fields => timeRequest fields
  | .globalInternetSearch, fields => searchRequest engine fields

/-- speech-mcp accepts what is forwarded, and takes it for what the model has asked. -/
def McpTool.Accepts (fields : Json.Fields) : McpTool → Prop
  | .localTime => ∃ input, decodeTimeInput escapes (timeRequest fields).arguments = some input ∧
      SameText (Json.lookup fields "timezone") input.timezone
  | .globalInternetSearch =>
      ∃ input, decodeSearchInput escapes (searchRequest engine fields).arguments = some input ∧
        SameText (Json.lookup fields "query") input.query ∧
        SameCount (Json.lookup fields "max_results") input.maxResults

/-- A string without a surrogate that stands alone. -/
def TextSurvives : Option Json → Prop
  | some (.str s) => s.isText = true
  | _ => True

/-- The double that the count is read as has a whole number for its shortest decimal: of a positive
count the count itself, below 2 ^ 63, and of any other one that fits 64 bits. -/
def CountSurvives : Option Json → Prop
  | some (.num m e) =>
      ∃ (v : ℚ) (z : ℕ), Binary64.nearest (magnitude m e) = some v ∧
        (Binary64.shortest v).value = z ∧
        if 0 < m then z = magnitude m e ∧ z < 2 ^ 63 else z ≤ 2 ^ 63
  | _ => True

/-- The arguments that get through. -/
def McpTool.Survives (fields : Json.Fields) : McpTool → Prop
  | .localTime => TextSurvives (Json.lookup fields "timezone")
  | .globalInternetSearch => TextSurvives (Json.lookup fields "query") ∧
      CountSurvives (Json.lookup fields "max_results")

/-! ## Numbers -/

theorem rewritten_zero {m e : Int} (h : readsZero m e = true) : rewritten m e = .num 0 0 := by
  have hzero : Binary64.nearest (magnitude m e) = some 0 := of_decide_eq_true h
  simp only [rewritten, hzero, if_true]

theorem rewritten_nonpos {m e z : Int} (hm : m < 0) (h : rewritten m e = .num z 0) : z ≤ 0 := by
  have hsigned : ∀ n : Nat, signed m n ≤ 0 := fun n => by
    rw [signed, if_pos hm]
    omega
  unfold rewritten at h
  split at h
  · cases h
  · dsimp only at h
    split at h
    · obtain ⟨rfl, -⟩ := Json.num.inj h
      exact Int.le_refl 0
    · split at h
      · obtain ⟨rfl, -⟩ := Json.num.inj h
        exact hsigned _
      · obtain ⟨rfl, -⟩ := Json.num.inj h
        exact hsigned _

theorem magnitude_int (n : Int) : magnitude n 0 = (n.natAbs : ℚ) := by
  rw [magnitude, zpow_zero, mul_one]

/-- Whole numbers of up to 15 digits are written as they are. -/
theorem rewritten_int {n : Int} (h : n.natAbs < 10 ^ 15) : rewritten n 0 = .num n 0 := by
  have hnearest : Binary64.nearest (magnitude n 0) = some (n.natAbs : ℚ) := by
    rw [magnitude_int]
    exact Binary64.nearest_natCast (h.trans (by norm_num))
  obtain ⟨hvalue, hexp⟩ := Binary64.shortest_natCast h
  have hsmall : (n.natAbs : ℚ) < 10 ^ 21 := by
    have hlt : (n.natAbs : ℚ) < 10 ^ 15 := by exact_mod_cast h
    exact hlt.trans (by norm_num)
  obtain ⟨j, hj⟩ := Int.eq_ofNat_of_zero_le hexp
  have hdigits : (Binary64.shortest n.natAbs).digits *
      10 ^ (Binary64.shortest n.natAbs).exponent.toNat = n.natAbs := by
    rw [Binary64.Decimal.value, hj, zpow_natCast] at hvalue
    rw [hj, Int.toNat_natCast]
    exact_mod_cast hvalue
  simp only [rewritten, hnearest]
  by_cases hn : n = 0
  · subst hn
    rfl
  · have hne : (n.natAbs : ℚ) ≠ 0 := by exact_mod_cast Int.natAbs_ne_zero.mpr hn
    rw [if_neg hne, if_pos ⟨hexp, hvalue.symm ▸ hsmall⟩, hdigits, signed]
    congr 1
    split <;> omega

theorem magnitude_pos {m e : Int} (h : 0 < m) : magnitude m e = m * 10 ^ e := by
  rw [magnitude, ← Int.cast_natCast, Int.natAbs_of_nonneg h.le]

theorem signed_neg {m : Int} (h : ¬ 0 < m) (hm : m ≠ 0) (n : Nat) : signed m n = -n :=
  if_pos (by omega)

theorem signed_pos {m : Int} (h : 0 < m) (n : Nat) : signed m n = n := if_neg (by omega)

/-- What is written as the literal of an integer: 0, or a whole number of not too many digits. -/
theorem rewritten_whole {m e : Int} {v : ℚ} (hv : Binary64.nearest (magnitude m e) = some v)
    (hne : v ≠ 0) {n : Nat} (hn : (Binary64.shortest v).value = n) (hsmall : n ≤ 2 ^ 63) :
    rewritten m e = .num (signed m n) 0 := by
  have hpos : 0 < v := lt_of_le_of_ne (Binary64.nearest_nonneg hv) (Ne.symm hne)
  have hexp := Binary64.shortest_whole hpos hn
  have hlt : (Binary64.shortest v).value < 10 ^ 21 := by
    have hle : (n : ℚ) ≤ 2 ^ 63 := by exact_mod_cast hsmall
    rw [hn]
    exact hle.trans_lt (by norm_num)
  have hdigits : (Binary64.shortest v).digits * 10 ^ (Binary64.shortest v).exponent.toNat = n := by
    obtain ⟨j, hj⟩ := Int.eq_ofNat_of_zero_le hexp
    rw [Binary64.Decimal.value, hj, zpow_natCast] at hn
    rw [hj, Int.toNat_natCast]
    exact_mod_cast hn
  simp only [rewritten, hv, if_neg hne, if_pos (And.intro hexp hlt), hdigits]

theorem rewritten_literal {m e z : Int} (h : rewritten m e = .num z 0) :
    ∃ v, Binary64.nearest (magnitude m e) = some v ∧ ((v = 0 ∧ z = 0) ∨
      v ≠ 0 ∧ ∃ n : ℕ, (Binary64.shortest v).value = n ∧ z = signed m n) := by
  unfold rewritten at h
  split at h
  · cases h
  · rename_i v hv
    refine ⟨v, hv, ?_⟩
    dsimp only at h
    split at h
    · exact .inl ⟨‹_›, (Json.num.inj h).1.symm⟩
    · refine .inr ⟨‹_›, ?_⟩
      split at h
      · rename_i hwhole
        obtain ⟨j, hj⟩ := Int.eq_ofNat_of_zero_le hwhole.1
        refine ⟨_, ?_, (Json.num.inj h).1.symm⟩
        rw [Binary64.Decimal.value, hj, zpow_natCast, Int.toNat_natCast]
        push_cast
        rfl
      · obtain ⟨hz, hexp⟩ := Json.num.inj h
        refine ⟨_, ?_, hz.symm⟩
        rw [Binary64.Decimal.value, hexp, zpow_zero, mul_one]

theorem countSurvives_pos {m e : Int} (h : 0 < m) : CountSurvives (some (.num m e)) ↔
    ∃ z : Int, rewritten m e = .num z 0 ∧ (z : ℚ) = m * 10 ^ e ∧ z < 2 ^ 63 := by
  have hpos : (0 : ℚ) < m * 10 ^ e := mul_pos (by exact_mod_cast h) (zpow_pos (by norm_num) e)
  simp only [CountSurvives, h, if_true, magnitude_pos h]
  constructor
  · rintro ⟨v, n, hv, hn, hq, hlt⟩
    rw [← magnitude_pos h] at hv
    have hne : v ≠ 0 := by
      rintro rfl
      rw [Binary64.shortest_zero] at hn
      rw [← hq, ← hn] at hpos
      exact absurd hpos (lt_irrefl 0)
    refine ⟨n, ?_, by exact_mod_cast hq, by exact_mod_cast hlt⟩
    rw [rewritten_whole hv hne hn (le_of_lt hlt), signed_pos h]
  · rintro ⟨z, hz, hq, hlt⟩
    obtain ⟨v, hv, ⟨-, rfl⟩ | ⟨hne, n, hn, rfl⟩⟩ := rewritten_literal hz
    · rw [← hq] at hpos
      exact absurd hpos (by norm_num)
    · rw [signed_pos h] at hq hlt
      rw [magnitude_pos h] at hv
      exact ⟨v, n, hv, hn, by exact_mod_cast hq, by exact_mod_cast hlt⟩

theorem countSurvives_nonpos {m e : Int} (h : ¬ 0 < m) : CountSurvives (some (.num m e)) ↔
    readsZero m e = true ∨ ∃ z : Int, rewritten m e = .num z 0 ∧ -2 ^ 63 ≤ z := by
  simp only [CountSurvives, h, if_false]
  have hm : ∀ {v}, Binary64.nearest (magnitude m e) = some v → v ≠ 0 → m ≠ 0 := by
    rintro v hv hne rfl
    rw [magnitude, Int.natAbs_zero, Nat.cast_zero, zero_mul, Binary64.nearest_zero] at hv
    exact hne (Option.some.inj hv).symm
  constructor
  · rintro ⟨v, n, hv, hn, hle⟩
    by_cases hzero : v = 0
    · subst hzero
      exact .inl (decide_eq_true hv)
    · refine .inr ⟨_, rewritten_whole hv hzero hn hle, ?_⟩
      rw [signed_neg h (hm hv hzero)]
      omega
  · rintro (hzero | ⟨z, hz, hle⟩)
    · exact ⟨0, 0, of_decide_eq_true hzero, by rw [Binary64.shortest_zero, Nat.cast_zero],
        Nat.zero_le _⟩
    · obtain ⟨v, hv, ⟨rfl, -⟩ | ⟨hne, n, hn, rfl⟩⟩ := rewritten_literal hz
      · exact ⟨0, 0, hv, by rw [Binary64.shortest_zero, Nat.cast_zero], Nat.zero_le _⟩
      · rw [signed_neg h (hm hv hne)] at hle
        exact ⟨v, n, hv, hn, by omega⟩

theorem countSurvives_int {n : Int} (h : n.natAbs < 10 ^ 15) :
    CountSurvives (some (.num n 0)) := by
  have hrewritten := rewritten_int h
  by_cases hpos : 0 < n
  · exact (countSurvives_pos hpos).mpr
      ⟨n, hrewritten, by rw [zpow_zero, mul_one], by omega⟩
  · exact (countSurvives_nonpos hpos).mpr (.inr ⟨n, hrewritten, by omega⟩)

/-- A positive count with a fraction never gets through. -/
theorem not_countSurvives_fraction {m : Int} {j : Nat} (hpos : 0 < m)
    (hfraction : ¬ (10 : Int) ^ j ∣ m) : ¬ CountSurvives (some (.num m (-j))) := by
  rw [countSurvives_pos hpos]
  rintro ⟨z, -, hz, -⟩
  have hpow : (10 : ℚ) ^ j ≠ 0 := by positivity
  rw [zpow_neg, zpow_natCast, ← div_eq_mul_inv, eq_div_iff hpow] at hz
  have hint : z * 10 ^ j = m := by exact_mod_cast hz
  exact hfraction ⟨z, by rw [← hint, Int.mul_comm]⟩

/-! ## What is forwarded -/

theorem admits_string {v : Json} (h : JsonType.string.Admits v) : ∃ s, v = .str s := by
  cases v with
  | str s => exact ⟨s, rfl⟩
  | null | bool b | num m e | arr items | obj fields => exact h.elim

theorem admits_number {v : Json} (h : JsonType.number.Admits v) : ∃ m e, v = .num m e := by
  cases v with
  | num m e => exact ⟨m, e, rfl⟩
  | null | bool b | str s | arr items | obj fields => exact h.elim

theorem accepts_localTime_iff {fields : Json.Fields}
    (h : McpTool.localTime.parameters.Admits fields) :
    McpTool.localTime.Accepts engine escapes fields ↔
      TextSurvives (Json.lookup fields "timezone") := by
  cases htimezone : Json.lookup fields "timezone" with
  | none =>
      refine iff_of_true ⟨⟨""⟩, ?_, by rw [htimezone]; rfl⟩ trivial
      simp only [timeRequest, htimezone, stringArg]
      rfl
  | some v =>
      obtain ⟨s, rfl⟩ :=
        admits_string (h.typed ("timezone", .string) List.mem_cons_self v htimezone)
      cases s with
      | ill ps unpaired =>
          refine iff_of_false ?_ Bool.false_ne_true
          rintro ⟨input, -, hsame⟩
          rw [htimezone] at hsame
          cases hsame
      | text s =>
          refine iff_of_true ⟨⟨s⟩, ?_, by rw [htimezone]; rfl⟩ rfl
          simp only [timeRequest, htimezone, stringArg, timeArgs]
          by_cases hs : Str.text s = ""
          · obtain rfl := Str.text.inj hs
            rfl
          · rw [if_pos hs]
            rfl

theorem query_of_admits {fields : Json.Fields}
    (h : McpTool.globalInternetSearch.parameters.Admits fields) :
    ∃ s, Json.lookup fields "query" = some (.str s) := by
  obtain ⟨v, hv⟩ := h.required "query" List.mem_cons_self
  obtain ⟨s, rfl⟩ := admits_string (h.typed ("query", .string) List.mem_cons_self v hv)
  exact ⟨s, hv⟩

theorem decodeSearchInput_query (query : String) :
    decodeSearchInput escapes [("query", .str query)] = some ⟨query, 0⟩ := rfl

theorem decodeSearchInput_count (query : String) (v : Json) :
    decodeSearchInput escapes [("query", .str query), ("max_results", v)] =
      (decodeCount (some v)).map fun n => ⟨query, n⟩ := by
  have hdecode : decodeSearchInput escapes [("query", .str query), ("max_results", v)] =
      match some query, decodeCount (some v) with
      | some query, some n => some (SearchInput.mk query n)
      | _, _ => none := rfl
  rw [hdecode]
  cases decodeCount (some v) <;> rfl

/-- The literals that speech-mcp takes for a count. -/
theorem decodeCount_some {v : Json} {n : Int64} : decodeCount (some v) = some n ↔
    ∃ z, v = .num z 0 ∧ FitsInt z ∧ n = Int64.ofInt z := by
  constructor
  · intro h
    cases v with
    | num z e =>
        simp only [decodeCount, decodeMaxResults] at h
        split at h
        · rename_i he
          split at h
          · rename_i hz
            exact ⟨z, by rw [he], hz, (Option.some.inj h).symm⟩
          · cases h
        · cases h
    | null | bool b | str s | arr items | obj fields => cases h
  · rintro ⟨z, rfl, hz, rfl⟩
    simp only [decodeCount, decodeMaxResults, if_true, if_pos hz]

theorem readsZero_zero (e : Int) : readsZero 0 e = true := by
  have hzero : Binary64.nearest ((0 : ℕ) : ℚ) = some ((0 : ℕ) : ℚ) :=
    Binary64.nearest_natCast (by norm_num)
  rw [Nat.cast_zero] at hzero
  rw [readsZero, magnitude, Int.natAbs_zero, Nat.cast_zero, zero_mul, hzero]
  exact decide_eq_true rfl

/-- A number that is read as 0 is not forwarded, which is right unless it is positive. -/
theorem sameCount_zero {m e : Int} (h : readsZero m e = true) :
    SameCount (some (.num m e)) 0 ↔ CountSurvives (some (.num m e)) := by
  by_cases hm : 0 < m
  · rw [countSurvives_pos hm, rewritten_zero h, SameCount, if_pos hm]
    have hpos : (0 : ℚ) < m * 10 ^ e := mul_pos (by exact_mod_cast hm) (zpow_pos (by norm_num) e)
    have hint : (0 : Int64).toInt = 0 := rfl
    rw [hint]
    refine iff_of_false (fun heq => ?_) ?_
    · rw [← heq] at hpos
      exact absurd hpos (by norm_num)
    · rintro ⟨z, hz, heq, -⟩
      obtain ⟨rfl, -⟩ := Json.num.inj hz
      rw [← heq] at hpos
      exact absurd hpos (by norm_num)
  · rw [countSurvives_nonpos hm, SameCount, if_neg hm]
    exact iff_of_true (by decide) (.inl h)

theorem sameCount_forwarded {m e : Int} (h : readsZero m e = false) :
    (∃ n, decodeCount (some (rewritten m e)) = some n ∧ SameCount (some (.num m e)) n) ↔
      CountSurvives (some (.num m e)) := by
  have htoInt : ∀ z, FitsInt z → (Int64.ofInt z).toInt = z :=
    fun z hz => Int64.toInt_ofInt_of_le hz.1 hz.2
  have hzero : (0 : Int64).toInt = 0 := rfl
  by_cases hm : 0 < m
  · rw [countSurvives_pos hm]
    simp only [SameCount, hm, if_true]
    constructor
    · rintro ⟨n, hn, heq⟩
      obtain ⟨z, hz, hfits, rfl⟩ := decodeCount_some.mp hn
      rw [htoInt z hfits] at heq
      exact ⟨z, hz, heq, hfits.2⟩
    · rintro ⟨z, hz, heq, hlt⟩
      have hpos : (0 : ℚ) < z := by
        rw [heq]
        exact mul_pos (by exact_mod_cast hm) (zpow_pos (by norm_num) e)
      have hpos' : 0 < z := by exact_mod_cast hpos
      have hfits : FitsInt z := ⟨by omega, hlt⟩
      exact ⟨_, decodeCount_some.mpr ⟨z, hz, hfits, rfl⟩, by rw [htoInt z hfits, heq]⟩
  · rw [countSurvives_nonpos hm, h]
    simp only [SameCount, hm, if_false, Bool.false_eq_true, false_or]
    constructor
    · rintro ⟨n, hn, -⟩
      obtain ⟨z, hz, hfits, -⟩ := decodeCount_some.mp hn
      exact ⟨z, hz, hfits.1⟩
    · rintro ⟨z, hz, hlow⟩
      have hneg : m < 0 := by
        rcases Int.lt_or_eq_of_le (Int.not_lt.mp hm) with hlt | rfl
        · exact hlt
        · rw [readsZero_zero] at h
          cases h
      have hnonpos := rewritten_nonpos hneg hz
      have hfits : FitsInt z := ⟨hlow, by omega⟩
      refine ⟨_, decodeCount_some.mpr ⟨z, hz, hfits, rfl⟩, ?_⟩
      rw [Int64.le_iff_toInt_le, htoInt z hfits, hzero]
      exact hnonpos

variable (numberText : Int → Int → String) (message : NativeError → String)

theorem searchArgs_zero {query : Str} {m e : Int} (h : readsZero m e = true) :
    (ecma numberText message).searchArgs query (some (m, e)) =
      ([("query", .str query)] : Json.Fields) := by
  have hzero : (ecma numberText message).zero m e = true := h
  rw [Engine.searchArgs, if_pos hzero]

theorem searchArgs_count {query : Str} {m e : Int} (h : readsZero m e = false) :
    (ecma numberText message).searchArgs query (some (m, e)) =
      ([("query", .str query), ("max_results", rewritten m e)] : Json.Fields) := by
  have hzero : (ecma numberText message).zero m e = false := h
  rw [Engine.searchArgs, hzero, if_neg Bool.false_ne_true]
  rfl

theorem accepts_search_iff {fields : Json.Fields}
    (h : McpTool.globalInternetSearch.parameters.Admits fields) :
    McpTool.globalInternetSearch.Accepts (ecma numberText message) escapes fields ↔
      TextSurvives (Json.lookup fields "query") ∧
        CountSurvives (Json.lookup fields "max_results") := by
  obtain ⟨s, hquery⟩ := query_of_admits h
  cases s with
  | ill ps unpaired =>
      rw [hquery]
      refine iff_of_false ?_ fun hno => Bool.false_ne_true hno.1
      rintro ⟨input, -, hsame, -⟩
      rw [hquery] at hsame
      cases hsame
  | text query =>
      have hsame : ∀ n : Int64, SameText (some (.str query)) (SearchInput.mk query n).query :=
        fun _ => rfl
      have hsurvives : TextSurvives (some (.str query)) := rfl
      rw [hquery, and_iff_right hsurvives]
      cases hcount : Json.lookup fields "max_results" with
      | none =>
          refine iff_of_true ⟨⟨query, 0⟩, ?_, ?_, ?_⟩ trivial
          · simp only [searchRequest, hquery, hcount, stringArg, numberArg, Engine.searchArgs]
            exact decodeSearchInput_query escapes query
          · rw [hquery]
            exact hsame 0
          · rw [hcount]
            exact (by decide : (0 : Int64) ≤ 0)
      | some v =>
          obtain ⟨m, e, rfl⟩ := admits_number
            (h.typed ("max_results", .number) (by simp [McpTool.parameters]) v hcount)
          simp only [McpTool.Accepts, searchRequest, hquery, hcount, stringArg, numberArg]
          cases hzero : readsZero m e with
          | true =>
              rw [searchArgs_zero numberText message hzero, decodeSearchInput_query,
                ← sameCount_zero hzero]
              simp [SameText]
          | false =>
              rw [searchArgs_count numberText message hzero, decodeSearchInput_count,
                ← sameCount_forwarded hzero]
              simp [SameText]

/-! ## runTool -/

variable {engine}

/-- `runTool` sends this request to speech-mcp and no other: if it is not answered the tool fails,
and else the answer to it is all that counts. -/
structure Forwards (engine : Engine) (name : String) (argsJson : Str) (req : McpCallRequest) :
    Prop where
  asked : ∀ page : Page, page.client = true → page.postMcpCall req = none →
    runTool engine page name argsJson =
      ⟨("Tool failed: " ++ engine.message .network : String), none⟩
  only : ∀ page : Page, runTool engine page name argsJson =
    runTool engine { page with postMcpCall := fun _ => page.postMcpCall req } name argsJson

theorem forwards_request {tool : McpTool} {argsJson : Str} {fields : Json.Fields}
    (hparse : parseArgs argsJson = .obj fields)
    (hquery : tool = .globalInternetSearch → stringArg (Json.lookup fields "query") ≠ "") :
    Forwards engine tool.name argsJson (tool.request engine fields) := by
  cases tool with
  | localTime =>
      refine ⟨fun page hclient hnone => ?_, fun page => ?_⟩
      · have hcall : execLocalTime engine page (stringArg (Json.lookup fields "timezone")) =
            .error (.native .network) := by
          have hpost : page.postMcpCall ⟨"local_time",
              timeArgs (stringArg (Json.lookup fields "timezone"))⟩ = none := hnone
          simp only [execLocalTime, execMcpCall, hpost, Engine.fetched, bind, Except.bind]
        unfold runTool McpTool.name
        rw [if_pos hclient, hparse, callTool_localTime, hcall, ← Str.text_append]
        rfl
      · unfold runTool McpTool.name
        rw [hparse, callTool_localTime, callTool_localTime]
        rfl
  | globalInternetSearch =>
      refine ⟨fun page hclient hnone => ?_, fun page => ?_⟩
      · have hcall : execGlobalSearch engine page (stringArg (Json.lookup fields "query"))
            (numberArg (Json.lookup fields "max_results")) = .error (.native .network) := by
          have hpost : page.postMcpCall ⟨"global_internet_search",
              engine.searchArgs (stringArg (Json.lookup fields "query"))
                (numberArg (Json.lookup fields "max_results"))⟩ = none := hnone
          simp only [execGlobalSearch, hquery rfl, if_false, execMcpCall, hpost, Engine.fetched,
            bind, Except.bind]
        unfold runTool McpTool.name
        rw [if_pos hclient, hparse, callTool_globalSearch, hcall, ← Str.text_append]
        rfl
      · unfold runTool McpTool.name
        rw [hparse, callTool_globalSearch, callTool_globalSearch]
        rfl

/-- What the model may ask for is what speech-mcp is asked for, but for strings that are no text and
the counts that a double or the literal of an integer cannot carry. -/
theorem schemas_agree_iff (tool : McpTool) (argsJson : Str) (fields : Json.Fields)
    (hparse : parseArgs argsJson = .obj fields) (hvalid : tool.parameters.Admits fields)
    (hquery : tool = .globalInternetSearch → Json.lookup fields "query" ≠ some (.str "")) :
    Forwards (ecma numberText message) tool.name argsJson
        (tool.request (ecma numberText message) fields) ∧
      (tool.Accepts (ecma numberText message) escapes fields ↔ tool.Survives fields) := by
  cases tool with
  | localTime =>
      exact ⟨forwards_request hparse fun h => absurd h (by decide),
        accepts_localTime_iff _ _ hvalid⟩
  | globalInternetSearch =>
      refine ⟨forwards_request hparse fun _ => ?_, accepts_search_iff _ numberText message hvalid⟩
      obtain ⟨query, hq⟩ := query_of_admits hvalid
      intro hempty
      rw [hq] at hempty
      obtain rfl : query = "" := hempty
      exact hquery rfl hq

/-- The arguments of a search for soup. -/
def soup (m e : Int) : Json.Fields := [("query", .str "soup"), ("max_results", .num m e)]

def soupText (m e : Int) : Str := String.ofList (Json.print (fun _ => false) (.obj (soup m e)))

theorem parseArgs_soup (m e : Int) : parseArgs (soupText m e) = .obj (soup m e) :=
  parseArgs_print (fun _ => false) (rfl : (Json.obj (soup m e)).renders (fun _ _ => true) = true)

theorem soup_admitted (m e : Int) : McpTool.globalInternetSearch.parameters.Admits (soup m e) := by
  constructor
  · intro q hq v hv
    rcases List.mem_cons.mp hq with rfl | hq
    · obtain rfl := Option.some.inj hv
      trivial
    · obtain rfl := List.mem_singleton.mp hq
      obtain rfl := Option.some.inj hv
      trivial
  · intro key hkey
    obtain rfl := List.mem_singleton.mp hkey
    exact ⟨_, rfl⟩

theorem soup_query (m e : Int) : Json.lookup (soup m e) "query" ≠ some (.str "") := by
  intro h
  exact absurd (Json.str.inj (Option.some.inj h)) (by decide)

theorem three_accepted : McpTool.globalInternetSearch.Accepts
    (ecma (fun _ _ => "3") (fun _ => "Failed to fetch")) false (soup 3 0) :=
  (schemas_agree_iff _ _ _ .globalInternetSearch (soupText 3 0) (soup 3 0) (parseArgs_soup 3 0)
    (soup_admitted 3 0) (fun _ => soup_query 3 0)).2.mpr ⟨rfl, countSurvives_int (by decide)⟩

/-- Two and a half results: a number to the model, nothing that speech-mcp decodes. -/
theorem fraction_refused : ¬ ∀ (numberText : Int → Int → String)
    (message : NativeError → String) (escapes : Bool) (tool : McpTool) (argsJson : Str)
    (fields : Json.Fields), parseArgs argsJson = .obj fields → tool.parameters.Admits fields →
    (tool = .globalInternetSearch → Json.lookup fields "query" ≠ some (.str "")) →
    tool.Accepts (ecma numberText message) escapes fields := by
  intro h
  have haccepts := h (fun _ _ => "2.5") (fun _ => "Failed to fetch") false .globalInternetSearch
    (soupText 25 (-1)) (soup 25 (-1)) (parseArgs_soup 25 (-1)) (soup_admitted 25 (-1))
    (fun _ => soup_query 25 (-1))
  rw [accepts_search_iff _ _ _ (soup_admitted 25 (-1))] at haccepts
  exact not_countSurvives_fraction (m := 25) (j := 1) (by decide) (by decide) haccepts.2

end SpeechK8s.Demo
