import SpeechK8s.Lib.Str

/-!
# JSON texts

Values, a printer and a parser of JSON, and that parsing takes a printed value back. The
printer is told which characters to write as `\u` escapes beyond those it must, so it stands
for any encoder that prints without blanks. A surrogate is only ever written as an escape.
-/

/-- A JSON value. A number is a mantissa and a power of ten. -/
inductive Json where
  | null
  | bool (b : Bool)
  | num (mantissa exponent : Int)
  | str (s : Str)
  | arr (items : List Json)
  | obj (fields : List (Str × Json))

namespace Json

abbrev Text := List Char

abbrev Fields := List (Str × Json)

def field (key : String) (v : Json) : Str × Json := (key, v)

/-! ## Printing -/

def unicode (n : Nat) : Text :=
  ['\\', 'u', (n / 4096).digitChar, (n / 256 % 16).digitChar, (n / 16 % 16).digitChar,
    (n % 16).digitChar]

def backspace : Char := Char.ofNat 8

def formFeed : Char := Char.ofNat 12

def escape (extra : Char → Bool) (c : Char) : Text :=
  if c = '"' then ['\\', '"']
  else if c = '\\' then ['\\', '\\']
  else if c = '\n' then ['\\', 'n']
  else if c = '\r' then ['\\', 'r']
  else if c = '\t' then ['\\', 't']
  else if c = backspace then ['\\', 'b']
  else if c = formFeed then ['\\', 'f']
  else if c.toNat < 32 ∨ (extra c = true ∧ c.toNat < 65536) then unicode c.toNat
  else [c]

def escapePoint (extra : Char → Bool) : CodePoint → Text
  | .char c => escape extra c
  | .surrogate n => unicode (0xD800 + n)

def printString (extra : Char → Bool) (s : Str) : Text :=
  '"' :: (s.points.flatMap (escapePoint extra) ++ ['"'])

def printInt : Int → Text
  | .ofNat n => Nat.toDigits 10 n
  | .negSucc n => '-' :: Nat.toDigits 10 (n + 1)

def printNumber (mantissa exponent : Int) : Text :=
  if exponent = 0 then printInt mantissa else printInt mantissa ++ 'e' :: printInt exponent

mutual

def print (extra : Char → Bool) : Json → Text
  | .null => ['n', 'u', 'l', 'l']
  | .bool true => ['t', 'r', 'u', 'e']
  | .bool false => ['f', 'a', 'l', 's', 'e']
  | .num m e => printNumber m e
  | .str s => printString extra s
  | .arr [] => ['[', ']']
  | .arr (x :: xs) => '[' :: (print extra x ++ printItems extra xs)
  | .obj [] => ['{', '}']
  | .obj ((k, x) :: fs) =>
      '{' :: (printString extra k ++ ':' :: (print extra x ++ printFields extra fs))

/-- What comes after the first item, up to the closing bracket. -/
def printItems (extra : Char → Bool) : List Json → Text
  | [] => [']']
  | x :: xs => ',' :: (print extra x ++ printItems extra xs)

/-- What comes after the first field, up to the closing brace. -/
def printFields (extra : Char → Bool) : List (Str × Json) → Text
  | [] => ['}']
  | (k, x) :: fs => ',' :: (printString extra k ++ ':' :: (print extra x ++ printFields extra fs))

end

/-! ## Parsing -/

def isBlank (c : Char) : Bool := c = ' ' || c = '\t' || c = '\n' || c = '\r'

def skip (cs : Text) : Text := cs.dropWhile isBlank

def hexDigit (c : Char) : Option Nat :=
  if '0' ≤ c ∧ c ≤ '9' then some (c.toNat - 48)
  else if 'a' ≤ c ∧ c ≤ 'f' then some (c.toNat - 87)
  else if 'A' ≤ c ∧ c ≤ 'F' then some (c.toNat - 55)
  else none

def readUnit : Text → Option (Nat × Text)
  | a :: b :: c :: d :: cs => do
      let a ← hexDigit a
      let b ← hexDigit b
      let c ← hexDigit c
      let d ← hexDigit d
      some (a * 4096 + b * 256 + c * 16 + d, cs)
  | _ => none

/-- The second half of a pair of surrogates. -/
def readLow : Text → Option (Nat × Text)
  | '\\' :: 'u' :: cs => do
      let (m, cs) ← readUnit cs
      if 0xDC00 ≤ m ∧ m < 0xE000 then some (m, cs) else none
  | _ => none

def ofUnit (n : Nat) : CodePoint :=
  if 0xD800 ≤ n ∧ n < 0xE000 then .surrogate (Fin.ofNat 2048 (n - 0xD800))
  else .char (Char.ofNat n)

/-- What comes after `\u`: a character beyond 16 bits is written as a pair of surrogates, and a
surrogate may also stand alone. -/
def readUnicode (cs : Text) : Option (CodePoint × Text) := do
  let (n, cs) ← readUnit cs
  if 0xD800 ≤ n ∧ n < 0xDC00 then
    match readLow cs with
    | some (m, cs) =>
        some (.char (Char.ofNat (0x10000 + (n - 0xD800) * 0x400 + (m - 0xDC00))), cs)
    | none => some (ofUnit n, cs)
  else some (ofUnit n, cs)

def readEscape : Text → Option (CodePoint × Text)
  | [] => none
  | c :: cs =>
      if c = 'u' then readUnicode cs
      else if c = 'n' then some (.char '\n', cs)
      else if c = 'r' then some (.char '\r', cs)
      else if c = 't' then some (.char '\t', cs)
      else if c = 'b' then some (.char backspace, cs)
      else if c = 'f' then some (.char formFeed, cs)
      else if c = '"' ∨ c = '\\' ∨ c = '/' then some (.char c, cs)
      else none

def readChars : Nat → Text → Option (List CodePoint × Text)
  | 0, _ | _, [] => none
  | fuel + 1, c :: cs =>
      if c = '"' then some ([], cs)
      else if c = '\\' then do
        let (p, cs) ← readEscape cs
        let (s, cs) ← readChars fuel cs
        some (p :: s, cs)
      else if c.toNat < 32 then none
      else do
        let (s, cs) ← readChars fuel cs
        some (.char c :: s, cs)

def readString (cs : Text) : Option (Str × Text) := do
  let (s, cs) ← readChars cs.length cs
  some (Str.ofPoints s, cs)

def readDigits (cs : Text) : Text × Text := (cs.takeWhile Char.isDigit, cs.dropWhile Char.isDigit)

def readFraction : Text → Option (Text × Text)
  | '.' :: cs =>
      let (ds, cs) := readDigits cs
      if ds = [] then none else some (ds, cs)
  | cs => some ([], cs)

def readSigned (negative : Bool) (cs : Text) : Option (Int × Text) :=
  let (ds, cs) := readDigits cs
  if ds = [] then none
  else
    let n : Int := Nat.ofDigitChars 10 ds 0
    some (if negative then -n else n, cs)

def readExponent : Text → Option (Int × Text)
  | c :: cs =>
      if c = 'e' ∨ c = 'E' then
        match cs with
        | '-' :: cs => readSigned true cs
        | '+' :: cs => readSigned false cs
        | cs => readSigned false cs
      else some (0, c :: cs)
  | [] => some (0, [])

/-- The digits of a number after its sign; more than one do not begin with 0. -/
def readUnsigned (negative : Bool) (cs : Text) : Option (Json × Text) := do
  let (int, cs) := readDigits cs
  if int = [] ∨ (int.head? = some '0' ∧ int.length ≠ 1) then none
  else
    let (fraction, cs) ← readFraction cs
    let (exponent, cs) ← readExponent cs
    let n : Int := Nat.ofDigitChars 10 (int ++ fraction) 0
    some (.num (if negative then -n else n) (exponent - fraction.length), cs)

def readNumber : Text → Option (Json × Text)
  | '-' :: cs => readUnsigned true cs
  | cs => readUnsigned false cs

def readKeyword (word : Text) (v : Json) (cs : Text) : Option (Json × Text) :=
  if cs.take word.length = word then some (v, cs.drop word.length) else none

mutual

def readValue : Nat → Text → Option (Json × Text)
  | 0, _ => none
  | fuel + 1, cs =>
      match skip cs with
      | [] => none
      | c :: cs =>
          if c = 'n' then readKeyword ['u', 'l', 'l'] .null cs
          else if c = 't' then readKeyword ['r', 'u', 'e'] (.bool true) cs
          else if c = 'f' then readKeyword ['a', 'l', 's', 'e'] (.bool false) cs
          else if c = '"' then do
            let (s, cs) ← readString cs
            some (.str s, cs)
          else if c = '[' then
            match skip cs with
            | ']' :: cs => some (.arr [], cs)
            | cs => do
                let (x, cs) ← readValue fuel cs
                let (xs, cs) ← readItems fuel cs
                some (.arr (x :: xs), cs)
          else if c = '{' then
            match skip cs with
            | '}' :: cs => some (.obj [], cs)
            | cs => do
                let (f, cs) ← readField fuel cs
                let (fs, cs) ← readFields fuel cs
                some (.obj (f :: fs), cs)
          else readNumber (c :: cs)

def readItems : Nat → Text → Option (List Json × Text)
  | 0, _ => none
  | fuel + 1, cs =>
      match skip cs with
      | ']' :: cs => some ([], cs)
      | ',' :: cs => do
          let (x, cs) ← readValue fuel cs
          let (xs, cs) ← readItems fuel cs
          some (x :: xs, cs)
      | _ => none

def readField : Nat → Text → Option ((Str × Json) × Text)
  | 0, _ => none
  | fuel + 1, cs =>
      match skip cs with
      | '"' :: cs => do
          let (k, cs) ← readString cs
          match skip cs with
          | ':' :: cs => do
              let (x, cs) ← readValue fuel cs
              some ((k, x), cs)
          | _ => none
      | _ => none

def readFields : Nat → Text → Option (List (Str × Json) × Text)
  | 0, _ => none
  | fuel + 1, cs =>
      match skip cs with
      | '}' :: cs => some ([], cs)
      | ',' :: cs => do
          let (f, cs) ← readField fuel cs
          let (fs, cs) ← readFields fuel cs
          some (f :: fs, cs)
      | _ => none

end

def parse (cs : Text) : Option Json := do
  let (v, cs) ← readValue cs.length cs
  if skip cs = [] then some v else none

/-- A string as a text for the parser, where a surrogate that is not escaped counts as its escape;
after a backslash it is no escape at all. -/
def escaped (afterBackslash : Bool) : List CodePoint → Option Text
  | [] => some []
  | .char c :: ps => (escaped (c = '\\' && !afterBackslash) ps).map (c :: ·)
  | .surrogate n :: ps =>
      if afterBackslash then none
      else (escaped false ps).map (unicode (0xD800 + n) ++ ·)

def parseStr (s : Str) : Option Json := (escaped false s.points).bind parse

theorem escaped_char (cs : Text) (afterBackslash : Bool) :
    escaped afterBackslash (cs.map .char) = some cs := by
  induction cs generalizing afterBackslash with
  | nil => rfl
  | cons c cs ih => rw [List.map_cons, escaped, ih, Option.map_some]

@[simp] theorem parseStr_text (s : String) : parseStr s = parse s.toList := by
  rw [parseStr, Str.points, escaped_char, Option.bind_some]

/-! ## Encoding -/

section
variable (finite : Int → Int → Bool)

mutual

/-- Whether a value can be written in UTF-8: its strings are text, and it has no number that is
read as an infinity. -/
def renders : Json → Bool
  | .null | .bool _ => true
  | .num m e => finite m e
  | .str s => s.isText
  | .arr items => rendersItems items
  | .obj fields => rendersFields fields

def rendersItems : List Json → Bool
  | [] => true
  | x :: xs => renders x && rendersItems xs

def rendersFields : List (Str × Json) → Bool
  | [] => true
  | (k, x) :: fs => k.isText && renders x && rendersFields fs

end

end

/-! ## Strings read back -/

theorem hexDigit_digitChar {n : Nat} (h : n < 16) : hexDigit n.digitChar = some n := by
  have hall : ∀ n < 16, hexDigit n.digitChar = some n := by decide
  exact hall n h

theorem readUnit_unicode {n : Nat} (h : n < 65536) (rest : Text) :
    readUnit ((n / 4096).digitChar :: (n / 256 % 16).digitChar :: (n / 16 % 16).digitChar ::
      (n % 16).digitChar :: rest) = some (n, rest) := by
  have hsum : n / 4096 * 4096 + n / 256 % 16 * 256 + n / 16 % 16 * 16 + n % 16 = n := by omega
  have h1 : n / 4096 < 16 := by omega
  have h2 : n / 256 % 16 < 16 := by omega
  have h3 : n / 16 % 16 < 16 := by omega
  have h4 : n % 16 < 16 := by omega
  simp only [readUnit, hexDigit_digitChar h1, hexDigit_digitChar h2, hexDigit_digitChar h3,
    hexDigit_digitChar h4, Option.bind_eq_bind, Option.bind_some, hsum]

theorem toNat_scalar (c : Char) : c.toNat < 0xD800 ∨ 0xE000 ≤ c.toNat := by
  rcases c.valid with h | h
  · exact .inl h
  · exact .inr h.1

theorem ofUnit_toNat (c : Char) : ofUnit c.toNat = .char c := by
  have hscalar := toNat_scalar c
  rw [ofUnit, if_neg (by omega), Char.ofNat_toNat]

theorem readEscape_unicode {c : Char} (h : c.toNat < 65536) (rest : Text) :
    readEscape ((unicode c.toNat).tail ++ rest) = some (.char c, rest) := by
  have hscalar := toNat_scalar c
  have hhigh : ¬ (0xD800 ≤ c.toNat ∧ c.toNat < 0xDC00) := by omega
  simp only [unicode, List.tail_cons, List.cons_append, List.nil_append, readEscape, if_true,
    readUnicode, readUnit_unicode h, Option.bind_eq_bind, Option.bind_some, hhigh, if_false,
    ofUnit_toNat]

theorem readChars_escape {extra : Char → Bool} {fuel : Nat} {s : List CodePoint}
    {text rest : Text} (h : readChars fuel text = some (s, rest)) (c : Char) :
    readChars (fuel + 1) (escape extra c ++ text) = some (.char c :: s, rest) := by
  have escaped : ∀ e, readEscape (e ++ text) = some (.char c, text) →
      readChars (fuel + 1) ('\\' :: (e ++ text)) = some (.char c :: s, rest) := by
    intro e he
    have hne : ('\\' : Char) ≠ '"' := by decide
    simp only [readChars, hne, if_false, if_true, he, h, Option.bind_eq_bind, Option.bind_some]
  unfold escape
  split_ifs with hq hs hn hr ht hb hf hu
  · exact escaped ['"'] (by subst hq; rfl)
  · exact escaped ['\\'] (by subst hs; rfl)
  · exact escaped ['n'] (by subst hn; rfl)
  · exact escaped ['r'] (by subst hr; rfl)
  · exact escaped ['t'] (by subst ht; rfl)
  · exact escaped ['b'] (by subst hb; rfl)
  · exact escaped ['f'] (by subst hf; rfl)
  · exact escaped (unicode c.toNat).tail (readEscape_unicode (by omega) text)
  · have hc : ¬ c.toNat < 32 := fun hlt => hu (.inl hlt)
    simp only [List.singleton_append, readChars, hq, hs, hc, if_false, h, Option.bind_eq_bind,
      Option.bind_some]

theorem readChars_print (extra : Char → Bool) (s : List Char) (rest : Text) {fuel : Nat}
    (hf : s.length < fuel) :
    readChars fuel (s.flatMap (escape extra) ++ '"' :: rest) = some (s.map .char, rest) := by
  induction s generalizing fuel with
  | nil =>
      cases fuel with
      | zero => simp at hf
      | succ fuel => simp [readChars]
  | cons c s ih =>
      cases fuel with
      | zero => simp at hf
      | succ fuel =>
          rw [List.flatMap_cons, List.append_assoc]
          exact readChars_escape (ih (Nat.lt_of_succ_lt_succ hf)) c

theorem escape_length (extra : Char → Bool) (c : Char) : 1 ≤ (escape extra c).length := by
  unfold escape unicode
  split_ifs <;> simp

theorem length_flatMap_escape (extra : Char → Bool) (s : List Char) :
    s.length ≤ (s.flatMap (escape extra)).length := by
  induction s with
  | nil => exact Nat.le_refl 0
  | cons c s ih =>
      have hc := escape_length extra c
      simp only [List.flatMap_cons, List.length_append, List.length_cons]
      omega

theorem flatMap_escapePoint (extra : Char → Bool) (s : String) :
    (Str.text s).points.flatMap (escapePoint extra) = s.toList.flatMap (escape extra) := by
  simp only [Str.points, List.flatMap_map, escapePoint]

theorem readString_print (extra : Char → Bool) {s : Str} (h : s.isText = true) (rest : Text) :
    readString ((s.points.flatMap (escapePoint extra) ++ ['"']) ++ rest) = some (s, rest) := by
  cases s with
  | ill ps unpaired => cases h
  | text s =>
      have hlen := length_flatMap_escape extra s.toList
      have hread : readChars ((s.toList.flatMap (escape extra) ++ ['"']) ++ rest).length
          (s.toList.flatMap (escape extra) ++ '"' :: rest) =
            some (s.toList.map .char, rest) := by
        refine readChars_print extra s.toList rest ?_
        simp only [List.length_append, List.length_singleton]
        omega
      have htext : (s.toList.flatMap (escape extra) ++ ['"']) ++ rest =
          s.toList.flatMap (escape extra) ++ '"' :: rest := by simp
      rw [← htext] at hread
      simp only [flatMap_escapePoint, readString, hread, Option.bind_eq_bind, Option.bind_some,
        Str.ofPoints_char, String.ofList_toList]

/-! ## Numbers read back -/

/-- The text does not continue a number. -/
def Stops (rest : Text) : Prop :=
  ∀ c ∈ rest.head?, c.isDigit = false ∧ c ≠ '.' ∧ c ≠ 'e' ∧ c ≠ 'E'

theorem stops_nil : Stops [] := fun _ hc => nomatch hc

theorem stops_cons {c : Char} {cs : Text}
    (h : c.isDigit = false ∧ c ≠ '.' ∧ c ≠ 'e' ∧ c ≠ 'E') : Stops (c :: cs) := by
  intro d hd
  obtain rfl := Option.some.inj hd
  exact h

theorem isDigit_toDigits {n : Nat} {c : Char} (h : c ∈ Nat.toDigits 10 n) : c.isDigit = true :=
  Nat.isDigit_of_mem_toDigits (by decide) (by decide) h

theorem readDigits_print (n : Nat) {rest : Text} (h : ∀ c ∈ rest.head?, c.isDigit = false) :
    readDigits (Nat.toDigits 10 n ++ rest) = (Nat.toDigits 10 n, rest) := by
  have hall : ∀ c ∈ Nat.toDigits 10 n, c.isDigit = true := fun _ hc => isDigit_toDigits hc
  have hrest : rest.takeWhile Char.isDigit = [] ∧ rest.dropWhile Char.isDigit = rest := by
    cases rest with
    | nil => exact ⟨rfl, rfl⟩
    | cons c cs => simp [h c rfl]
  unfold readDigits
  rw [List.takeWhile_append_of_pos hall, List.dropWhile_append_of_pos hall, hrest.1, hrest.2,
    List.append_nil]

theorem toDigits_head {n : Nat} (h : (Nat.toDigits 10 n).head? = some '0') : n = 0 := by
  induction n using Nat.strongRecOn with
  | _ n ih =>
      by_cases hn : n < 10
      · rw [Nat.toDigits_of_lt_base hn] at h
        simpa using h
      · rw [Nat.toDigits_of_base_le (by decide) (by omega)] at h
        rw [List.head?_append_of_ne_nil _ Nat.toDigits_ne_nil] at h
        have hdiv : n / 10 = 0 := ih (n / 10) (by omega) h
        omega

theorem toDigits_cons (n : Nat) :
    ∃ d ds, Nat.toDigits 10 n = d :: ds ∧ d.isDigit = true := by
  obtain ⟨d, ds, h⟩ := List.exists_cons_of_ne_nil (Nat.toDigits_ne_nil (n := n) (b := 10))
  exact ⟨d, ds, h, isDigit_toDigits (h ▸ List.mem_cons_self)⟩

theorem readSigned_print (negative : Bool) (n : Nat) {rest : Text}
    (h : ∀ c ∈ rest.head?, c.isDigit = false) :
    readSigned negative (Nat.toDigits 10 n ++ rest) =
      some (if negative then -(n : Int) else n, rest) := by
  simp only [readSigned, readDigits_print n h, Nat.toDigits_ne_nil, if_false,
    Nat.ofDigitChars_ten_toDigits]

def exponentText (e : Int) : Text := if e = 0 then [] else 'e' :: printInt e

theorem readExponent_print (e : Int) {rest : Text} (h : Stops rest) :
    readExponent (exponentText e ++ rest) = some (e, rest) := by
  have hdigit : ∀ c ∈ rest.head?, c.isDigit = false := fun c hc => (h c hc).1
  unfold exponentText
  by_cases he : e = 0
  · subst he
    cases rest with
    | nil => rfl
    | cons c cs =>
        have hc := h c rfl
        have hno : ¬ (c = 'e' ∨ c = 'E') := by
          rintro (hce | hce)
          · exact hc.2.2.1 hce
          · exact hc.2.2.2 hce
        simp only [if_true, List.nil_append, readExponent, hno, if_false]
  · rw [if_neg he, List.cons_append]
    cases e with
    | ofNat n =>
        obtain ⟨d, ds, hd, hdd⟩ := toDigits_cons n
        have hread := readSigned_print false n hdigit
        have hminus : d ≠ '-' := fun hc => by subst hc; exact absurd hdd (by decide)
        have hplus : d ≠ '+' := fun hc => by subst hc; exact absurd hdd (by decide)
        simp only [printInt, readExponent, true_or, if_true]
        rw [hd, List.cons_append] at hread ⊢
        split
        · rename_i heq
          exact absurd (List.cons.inj heq).1 hminus
        · rename_i heq
          exact absurd (List.cons.inj heq).1 hplus
        · exact hread
    | negSucc n =>
        simp only [printInt, List.cons_append, readExponent, true_or, if_true]
        exact readSigned_print true (n + 1) hdigit

theorem stops_exponent (e : Int) {rest : Text} (h : Stops rest) :
    ∀ c ∈ (exponentText e ++ rest).head?, c.isDigit = false ∧ c ≠ '.' := by
  unfold exponentText
  split
  · exact fun c hc => ⟨(h c hc).1, (h c hc).2.1⟩
  · intro c hc
    obtain rfl := Option.some.inj hc
    decide

theorem readUnsigned_print (negative : Bool) (n : Nat) (e : Int) {rest : Text} (h : Stops rest) :
    readUnsigned negative (Nat.toDigits 10 n ++ (exponentText e ++ rest)) =
      some (.num (if negative then -(n : Int) else n) e, rest) := by
  have hstop := stops_exponent e h
  have hzero : ¬ (Nat.toDigits 10 n = [] ∨ ((Nat.toDigits 10 n).head? = some '0' ∧
      (Nat.toDigits 10 n).length ≠ 1)) := by
    rintro (hnil | ⟨hhead, hlen⟩)
    · exact Nat.toDigits_ne_nil hnil
    · obtain rfl := toDigits_head hhead
      exact hlen rfl
  have hfraction : readFraction (exponentText e ++ rest) = some ([], exponentText e ++ rest) := by
    cases hcs : exponentText e ++ rest with
    | nil => rfl
    | cons c cs =>
        rw [hcs] at hstop
        have hdot := (hstop c rfl).2
        unfold readFraction
        split
        · rename_i heq
          exact absurd (List.cons.inj heq).1 hdot
        · rfl
  simp only [readUnsigned, readDigits_print n fun c hc => (hstop c hc).1, hzero, if_false,
    hfraction, readExponent_print e h, Option.bind_eq_bind, Option.bind_some, List.append_nil,
    Nat.ofDigitChars_ten_toDigits, List.length_nil, Int.ofNat_zero, Int.sub_zero]

theorem printNumber_eq (m e : Int) : printNumber m e = printInt m ++ exponentText e := by
  unfold printNumber exponentText
  split
  · rw [List.append_nil]
  · rfl

theorem readNumber_print (m e : Int) {rest : Text} (h : Stops rest) :
    readNumber (printNumber m e ++ rest) = some (.num m e, rest) := by
  rw [printNumber_eq, List.append_assoc]
  cases m with
  | ofNat n =>
      obtain ⟨d, ds, hd, hdd⟩ := toDigits_cons n
      have hread := readUnsigned_print false n e h
      have hminus : d ≠ '-' := fun hc => by subst hc; exact absurd hdd (by decide)
      simp only [printInt]
      rw [hd, List.cons_append] at hread ⊢
      unfold readNumber
      split
      · rename_i heq
        exact absurd (List.cons.inj heq).1 hminus
      · exact hread
  | negSucc n => exact readUnsigned_print true (n + 1) e h

theorem printNumber_cons (m e : Int) :
    ∃ c cs, printNumber m e = c :: cs ∧ (c.isDigit = true ∨ c = '-') := by
  rw [printNumber_eq]
  cases m with
  | ofNat n =>
      obtain ⟨d, ds, hd, hdd⟩ := toDigits_cons n
      exact ⟨d, ds ++ exponentText e, by rw [printInt, hd, List.cons_append], .inl hdd⟩
  | negSucc n => exact ⟨'-', _, rfl, .inr rfl⟩

/-! ## Values read back -/

theorem skip_cons {c : Char} (h : isBlank c = false) (cs : Text) : skip (c :: cs) = c :: cs := by
  simp [skip, h]

theorem readValue_number (fuel : Nat) (m e : Int) {rest : Text} (h : Stops rest) :
    readValue (fuel + 1) (printNumber m e ++ rest) = some (.num m e, rest) := by
  have hread := readNumber_print m e h
  obtain ⟨c, cs, hcs, hc⟩ := printNumber_cons m e
  have other : ∀ d : Char, d.isDigit = false → d ≠ '-' → c ≠ d := by
    rintro d hd hm rfl
    rcases hc with hdigit | hminus
    · rw [hd] at hdigit
      exact Bool.false_ne_true hdigit
    · exact hm hminus
  have hblank : isBlank c = false := by
    have hs := other ' ' (by decide) (by decide)
    have ht := other '\t' (by decide) (by decide)
    have hn := other '\n' (by decide) (by decide)
    have hr := other '\r' (by decide) (by decide)
    simp [isBlank, hs, ht, hn, hr]
  rw [hcs, List.cons_append] at hread ⊢
  simp only [readValue, skip_cons hblank, other 'n' (by decide) (by decide),
    other 't' (by decide) (by decide), other 'f' (by decide) (by decide),
    other '"' (by decide) (by decide), other '[' (by decide) (by decide),
    other '\x7b' (by decide) (by decide), if_false]
  exact hread

mutual

/-- The fuel that reading a value takes. -/
def weight : Json → Nat
  | .null | .bool _ | .num _ _ | .str _ | .arr [] | .obj [] => 1
  | .arr (x :: xs) => 1 + weight x + weightItems xs
  | .obj ((_, x) :: fs) => 2 + weight x + weightFields fs

def weightItems : List Json → Nat
  | [] => 1
  | x :: xs => 1 + weight x + weightItems xs

def weightFields : List (Str × Json) → Nat
  | [] => 1
  | (_, x) :: fs => 2 + weight x + weightFields fs

end

theorem stops_printItems (extra : Char → Bool) (xs : List Json) (rest : Text) :
    Stops (printItems extra xs ++ rest) := by
  cases xs with
  | nil => exact stops_cons (by decide)
  | cons x xs => exact stops_cons (by decide)

theorem stops_printFields (extra : Char → Bool) (fs : List (Str × Json)) (rest : Text) :
    Stops (printFields extra fs ++ rest) := by
  cases fs with
  | nil => exact stops_cons (by decide)
  | cons f fs => exact stops_cons (by decide)

theorem print_cons (extra : Char → Bool) (v : Json) :
    ∃ c cs, print extra v = c :: cs ∧ isBlank c = false ∧ c ≠ ']' := by
  cases v with
  | null => exact ⟨_, _, rfl, by decide, by decide⟩
  | bool b => cases b <;> exact ⟨_, _, rfl, by decide, by decide⟩
  | num m e =>
      obtain ⟨c, cs, hcs, hc⟩ := printNumber_cons m e
      refine ⟨c, cs, hcs, ?_, ?_⟩
      · by_contra hb
        simp only [isBlank, Bool.or_eq_true, decide_eq_true_eq, Bool.not_eq_false] at hb
        rcases hb with ((rfl | rfl) | rfl) | rfl <;> revert hc <;> decide
      · rintro rfl
        revert hc
        decide
  | str s => exact ⟨_, _, rfl, by decide, by decide⟩
  | arr xs => cases xs <;> exact ⟨_, _, rfl, by decide, by decide⟩
  | obj fs => cases fs <;> exact ⟨_, _, rfl, by decide, by decide⟩

theorem weight_pos (v : Json) : 0 < weight v := by
  cases v with
  | arr xs => cases xs <;> simp only [weight] <;> omega
  | obj fs => cases fs <;> simp only [weight] <;> omega
  | null | bool b | num m e | str s => simp only [weight]; omega

theorem readField_print (extra : Char → Bool) {fuel : Nat} {k : Str} (hk : k.isText = true)
    {x : Json} {rest : Text} (h : readValue fuel (print extra x ++ rest) = some (x, rest)) :
    readField (fuel + 1) (printString extra k ++ ':' :: (print extra x ++ rest)) =
      some ((k, x), rest) := by
  have hkey := readString_print extra hk (':' :: (print extra x ++ rest))
  have hquote : isBlank '"' = false := rfl
  have hcolon : isBlank ':' = false := rfl
  simp only [readField, printString, List.cons_append, skip_cons hquote, hkey,
    Option.bind_eq_bind, Option.bind_some, skip_cons hcolon, h]

/-! One lemma for each bracket: what follows it decides what is read. -/

theorem readValue_bracket {fuel : Nat} {c : Char} {cs cs' rest : Text} {x : Json}
    {xs : List Json} (hb : isBlank c = false) (hc : c ≠ ']')
    (hx : readValue fuel (c :: cs) = some (x, cs'))
    (hxs : readItems fuel cs' = some (xs, rest)) :
    readValue (fuel + 1) ('[' :: c :: cs) = some (.arr (x :: xs), rest) := by
  have hbracket : isBlank '[' = false := rfl
  simp only [readValue, skip_cons hbracket, skip_cons hb, Char.reduceEq, if_false, if_true]
  split
  · rename_i heq
    exact absurd (List.cons.inj heq).1 hc
  · simp only [hx, hxs, Option.bind_eq_bind, Option.bind_some]

theorem readItems_comma {fuel : Nat} {cs cs' rest : Text} {x : Json} {xs : List Json}
    (hx : readValue fuel cs = some (x, cs')) (hxs : readItems fuel cs' = some (xs, rest)) :
    readItems (fuel + 1) (',' :: cs) = some (x :: xs, rest) := by
  have hcomma : isBlank ',' = false := rfl
  simp only [readItems, skip_cons hcomma, hx, hxs, Option.bind_eq_bind, Option.bind_some]

theorem readValue_brace {fuel : Nat} {cs cs' rest : Text} {f : Str × Json}
    {fs : List (Str × Json)} (hf : readField fuel ('"' :: cs) = some (f, cs'))
    (hfs : readFields fuel cs' = some (fs, rest)) :
    readValue (fuel + 1) ('\x7b' :: '"' :: cs) = some (.obj (f :: fs), rest) := by
  have hbrace : isBlank '\x7b' = false := rfl
  have hquote : isBlank '"' = false := rfl
  simp only [readValue, skip_cons hbrace, skip_cons hquote, Char.reduceEq, if_false, if_true]
  split
  · rename_i heq
    exact absurd (List.cons.inj heq).1 (by decide)
  · simp only [hf, hfs, Option.bind_eq_bind, Option.bind_some]

theorem readFields_comma {fuel : Nat} {cs cs' rest : Text} {f : Str × Json}
    {fs : List (Str × Json)} (hf : readField fuel cs = some (f, cs'))
    (hfs : readFields fuel cs' = some (fs, rest)) :
    readFields (fuel + 1) (',' :: cs) = some (f :: fs, rest) := by
  have hcomma : isBlank ',' = false := rfl
  simp only [readFields, skip_cons hcomma, hf, hfs, Option.bind_eq_bind, Option.bind_some]

section
variable {finite : Int → Int → Bool}

theorem renders_item {x : Json} {xs : List Json} (h : rendersItems finite (x :: xs) = true) :
    renders finite x = true ∧ rendersItems finite xs = true := Bool.and_eq_true_iff.mp h

theorem renders_field {k : Str} {x : Json} {fs : List (Str × Json)}
    (h : rendersFields finite ((k, x) :: fs) = true) :
    k.isText = true ∧ renders finite x = true ∧ rendersFields finite fs = true := by
  obtain ⟨hfield, hfs⟩ := Bool.and_eq_true_iff.mp h
  obtain ⟨hk, hx⟩ := Bool.and_eq_true_iff.mp hfield
  exact ⟨hk, hx, hfs⟩

mutual

theorem readValue_print (extra : Char → Bool) : ∀ (v : Json) (fuel : Nat) (rest : Text),
    weight v ≤ fuel → renders finite v = true → Stops rest →
    readValue fuel (print extra v ++ rest) = some (v, rest)
  | v, 0, rest, hf, _, _ => absurd hf (Nat.not_le.mpr (weight_pos v))
  | .null, fuel + 1, rest, _, _, _ => by simp [print, readValue, skip, isBlank, readKeyword]
  | .bool true, fuel + 1, rest, _, _, _ => by
      simp [print, readValue, skip, isBlank, readKeyword]
  | .bool false, fuel + 1, rest, _, _, _ => by
      simp [print, readValue, skip, isBlank, readKeyword]
  | .num m e, fuel + 1, rest, _, _, hs => readValue_number fuel m e hs
  | .str s, fuel + 1, rest, _, hr, _ => by
      have htext : s.isText = true := hr
      have hread := readString_print extra htext rest
      have hquote : isBlank '"' = false := rfl
      simp only [print, printString, List.cons_append, readValue, skip_cons hquote,
        Char.reduceEq, if_false, if_true, hread, Option.bind_eq_bind, Option.bind_some]
  | .arr [], fuel + 1, rest, _, _, _ => by simp [print, readValue, skip, isBlank]
  | .arr (x :: xs), fuel + 1, rest, hf, hr, _ => by
      simp only [weight] at hf
      obtain ⟨hrx, hrxs⟩ := renders_item hr
      have hx := readValue_print extra x fuel (printItems extra xs ++ rest) (by omega) hrx
        (stops_printItems extra xs rest)
      have hxs := readItems_print extra xs fuel rest (by omega) hrxs
      obtain ⟨c, cs, hcs, hb, hc⟩ := print_cons extra x
      simp only [print, List.cons_append, List.append_assoc]
      rw [hcs, List.cons_append] at hx ⊢
      exact readValue_bracket hb hc hx hxs
  | .obj [], fuel + 1, rest, _, _, _ => by simp [print, readValue, skip, isBlank]
  | .obj ((k, x) :: fs), fuel + 1, rest, hf, hr, _ => by
      simp only [weight] at hf
      obtain ⟨hk, hrx, hrfs⟩ := renders_field hr
      obtain ⟨inner, rfl⟩ : ∃ inner, fuel = inner + 1 := ⟨fuel - 1, by omega⟩
      have hx := readField_print extra hk (readValue_print extra x inner
        (printFields extra fs ++ rest) (by omega) hrx (stops_printFields extra fs rest))
      have hfs := readFields_print extra fs (inner + 1) rest (by omega) hrfs
      simp only [print, List.cons_append, List.append_assoc]
      exact readValue_brace hx hfs

theorem readItems_print (extra : Char → Bool) : ∀ (xs : List Json) (fuel : Nat) (rest : Text),
    weightItems xs ≤ fuel → rendersItems finite xs = true →
    readItems fuel (printItems extra xs ++ rest) = some (xs, rest)
  | [], 0, rest, hf, _ => absurd hf (by simp only [weightItems]; omega)
  | x :: xs, 0, rest, hf, _ => absurd hf (by simp only [weightItems]; omega)
  | [], fuel + 1, rest, _, _ => by simp [printItems, readItems, skip, isBlank]
  | x :: xs, fuel + 1, rest, hf, hr => by
      simp only [weightItems] at hf
      obtain ⟨hrx, hrxs⟩ := renders_item hr
      have hx := readValue_print extra x fuel (printItems extra xs ++ rest) (by omega) hrx
        (stops_printItems extra xs rest)
      have hxs := readItems_print extra xs fuel rest (by omega) hrxs
      simp only [printItems, List.cons_append, List.append_assoc]
      exact readItems_comma hx hxs

theorem readFields_print (extra : Char → Bool) : ∀ (fs : List (Str × Json)) (fuel : Nat)
    (rest : Text), weightFields fs ≤ fuel → rendersFields finite fs = true →
    readFields fuel (printFields extra fs ++ rest) = some (fs, rest)
  | [], 0, rest, hf, _ => absurd hf (by simp only [weightFields]; omega)
  | f :: fs, 0, rest, hf, _ => absurd hf (by cases f; simp only [weightFields]; omega)
  | [], fuel + 1, rest, _, _ => by simp [printFields, readFields, skip, isBlank]
  | (k, x) :: fs, fuel + 1, rest, hf, hr => by
      simp only [weightFields] at hf
      obtain ⟨hk, hrx, hrfs⟩ := renders_field hr
      obtain ⟨inner, rfl⟩ : ∃ inner, fuel = inner + 1 := ⟨fuel - 1, by omega⟩
      have hx := readField_print extra hk (readValue_print extra x inner
        (printFields extra fs ++ rest) (by omega) hrx (stops_printFields extra fs rest))
      have hfs := readFields_print extra fs (inner + 1) rest (by omega) hrfs
      simp only [printFields, List.cons_append, List.append_assoc]
      exact readFields_comma hx hfs

end

end

/-! ## Whole texts -/

theorem print_pos (extra : Char → Bool) (v : Json) : 1 ≤ (print extra v).length := by
  obtain ⟨c, cs, hcs, -⟩ := print_cons extra v
  rw [hcs, List.length_cons]
  exact Nat.le_add_left 1 cs.length

mutual

theorem weight_le (extra : Char → Bool) : ∀ v : Json, weight v ≤ (print extra v).length
  | .null | .bool _ | .num _ _ | .str _ | .arr [] | .obj [] => by
      simp only [weight]
      exact print_pos extra _
  | .arr (x :: xs) => by
      have hx := weight_le extra x
      have hxs := weightItems_le extra xs
      simp only [weight, print, List.length_cons, List.length_append]
      omega
  | .obj ((k, x) :: fs) => by
      have hx := weight_le extra x
      have hfs := weightFields_le extra fs
      simp only [weight, print, List.length_cons, List.length_append]
      omega

theorem weightItems_le (extra : Char → Bool) : ∀ xs : List Json,
    weightItems xs ≤ (printItems extra xs).length
  | [] => Nat.le_refl 1
  | x :: xs => by
      have hx := weight_le extra x
      have hxs := weightItems_le extra xs
      simp only [weightItems, printItems, List.length_cons, List.length_append]
      omega

theorem weightFields_le (extra : Char → Bool) : ∀ fs : List (Str × Json),
    weightFields fs ≤ (printFields extra fs).length
  | [] => Nat.le_refl 1
  | (k, x) :: fs => by
      have hx := weight_le extra x
      have hfs := weightFields_le extra fs
      simp only [weightFields, printFields, List.length_cons, List.length_append]
      omega

end

/-- Parsing takes back what was printed. -/
theorem parse_print (extra : Char → Bool) {finite : Int → Int → Bool} {v : Json}
    (h : v.renders finite = true) : parse (print extra v) = some v := by
  have hread := readValue_print extra v (print extra v).length [] (weight_le extra v) h stops_nil
  rw [List.append_nil] at hread
  simp only [parse, hread, Option.bind_eq_bind, Option.bind_some, skip, List.dropWhile_nil,
    if_true]

/-! ## Values read by their first character -/

def Compound : Json → Prop
  | .arr _ | .obj _ => True
  | .null | .bool _ | .num _ _ | .str _ => False

theorem readKeyword_value {word : Text} {u v : Json} {cs rest : Text}
    (h : readKeyword word u cs = some (v, rest)) : v = u := by
  unfold readKeyword at h
  split at h
  · exact (congrArg Prod.fst (Option.some.inj h)).symm
  · cases h

theorem readUnsigned_value {negative : Bool} {v : Json} {cs rest : Text}
    (h : readUnsigned negative cs = some (v, rest)) : ¬ v.Compound := by
  simp only [readUnsigned] at h
  split at h
  · cases h
  · obtain ⟨⟨fraction, cs₁⟩, -, h⟩ := Option.bind_eq_some_iff.mp h
    obtain ⟨⟨exponent, cs₂⟩, -, h⟩ := Option.bind_eq_some_iff.mp h
    obtain rfl := congrArg Prod.fst (Option.some.inj h)
    exact id

theorem readNumber_value {v : Json} {cs rest : Text}
    (h : readNumber cs = some (v, rest)) : ¬ v.Compound := by
  unfold readNumber at h
  split at h
  · exact readUnsigned_value h
  · exact readUnsigned_value h

theorem readValue_scalar {fuel : Nat} {v : Json} {cs rest : Text}
    (hhead : ∀ c ∈ (skip cs).head?, c ≠ '[' ∧ c ≠ '{')
    (h : readValue fuel cs = some (v, rest)) : ¬ v.Compound := by
  cases fuel with
  | zero => simp [readValue] at h
  | succ fuel =>
      unfold readValue at h
      split at h
      · cases h
      · rename_i c cs' hskip
        obtain ⟨hbracket, hbrace⟩ := hhead c (by rw [hskip]; rfl)
        split_ifs at h
        · rw [readKeyword_value h]
          exact id
        · rw [readKeyword_value h]
          exact id
        · rw [readKeyword_value h]
          exact id
        · obtain ⟨⟨s, cs₁⟩, -, h⟩ := Option.bind_eq_some_iff.mp h
          obtain rfl := congrArg Prod.fst (Option.some.inj h)
          exact id
        · exact readNumber_value h

theorem parse_scalar {cs : Text} (hhead : ∀ c ∈ (skip cs).head?, c ≠ '[' ∧ c ≠ '{') {v : Json}
    (h : parse cs = some v) : ¬ v.Compound := by
  obtain ⟨⟨u, rest⟩, hread, h⟩ := Option.bind_eq_some_iff.mp h
  dsimp only at h
  split at h
  · obtain rfl := Option.some.inj h
    exact readValue_scalar hhead hread
  · cases h

/-! ## Objects -/

/-- The value of a key; of two fields with one key the later counts. -/
def lookup : List (Str × Json) → String → Option Json
  | [], _ => none
  | (k, v) :: fields, key =>
      match lookup fields key with
      | some w => some w
      | none => if k = key then some v else none

end Json
