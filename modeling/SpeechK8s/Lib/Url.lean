import Mathlib.Data.List.TakeWhile
import SpeechK8s.Lib.Utf8

/-!
# Two parsers of URLs

How far Go's `net/url` and Python's `urllib.parse` go to find the authority of a URL, and what
they make of it. Go drops the userinfo and decodes percent escapes, Python does neither. What
separates the parts of a URL is ASCII, so strings are taken character by character.
-/
namespace Url
open Utf8 (Bytes encode)

/-- `strings.Cut` -/
def cut (sep : Char) (s : List Char) : List Char × List Char :=
  (s.takeWhile (· ≠ sep), (s.dropWhile (· ≠ sep)).tail)

/-- What is before the last separator and what is after it. -/
def cutLast (sep : Char) : List Char → Option (List Char × List Char)
  | [] => none
  | c :: cs =>
      match cutLast sep cs with
      | some (before, after) => some (c :: before, after)
      | none => if c = sep then some ([], cs) else none

/-! ## Go -/

def unhex (c : Char) : Option Nat :=
  if '0' ≤ c ∧ c ≤ '9' then some (c.toNat - 48)
  else if 'a' ≤ c ∧ c ≤ 'f' then some (c.toNat - 87)
  else if 'A' ≤ c ∧ c ≤ 'F' then some (c.toNat - 55)
  else none

/-- The part of a URL that is unescaped. Of the parts that may hold any escape, the path, the
userinfo and the fragment, all that counts is whether their escapes are whole. -/
inductive Mode where
  | host
  | zone
  | other
  deriving DecidableEq, Repr

/-- `!shouldEscape(c, encodeHost)` -/
def hostChar (c : Char) : Bool :=
  c.isAlphanum || "!$&'()*+,;=:[]<>\"-_.~".toList.contains c

/-- The escapes that a host may hold: those of bytes beyond ASCII and, for the zone of an
address, `%25`; in the zone also those of characters that need no escape, and of the blank. -/
def Mode.allows (high low : Nat) : Mode → Bool
  | .host => 8 ≤ high || (high = 2 && low = 5)
  | .zone =>
      (high = 2 && low = 5) || (high = 2 && low = 0) ||
        (high < 8 && hostChar (Char.ofNat (16 * high + low)))
  | .other => true

def Mode.refuses (c : Char) : Mode → Bool
  | .host | .zone => c.toNat < 0x80 && !hostChar c
  | .other => false

def unescape (mode : Mode) : List Char → Option Bytes
  | [] => some []
  | c :: cs =>
      if c = '%' then
        match cs with
        | a :: b :: cs =>
            match unhex a, unhex b with
            | some high, some low =>
                if mode.allows high low then
                  (unescape mode cs).map (UInt8.ofNat (16 * high + low) :: ·)
                else none
            | _, _ => none
        | _ => none
      else if mode.refuses c then none
      else (unescape mode cs).map (String.utf8EncodeChar c ++ ·)

def validOptionalPort : List Char → Bool
  | [] => true
  | c :: cs => c = ':' && cs.all Char.isDigit

/-- What is before the first `%25`, and the rest from there. -/
def cutZone : List Char → Option (List Char × List Char)
  | [] => none
  | c :: cs =>
      if ['%', '2', '5'].isPrefixOf (c :: cs) then some ([], c :: cs)
      else (cutZone cs).map fun z => (c :: z.1, z.2)

section
variable (literal : List Char → Bool)

/-- `literal` stands for what patch releases ask of a host with a bracket beyond that. -/
def parseHost (host : List Char) : Option Bytes :=
  if ('[' ∈ host ∨ ']' ∈ host) ∧ !literal host then none
  else if ['['].isPrefixOf host then
    match cutLast ']' host with
    | none => none
    | some (inner, colonPort) =>
        if validOptionalPort colonPort then
          match cutZone inner with
          | some (name, zone) => do
              let host1 ← unescape .host name
              let host2 ← unescape .zone zone
              let host3 ← unescape .host (']' :: colonPort)
              some (host1 ++ (host2 ++ host3))
          | none => unescape .host host
        else none
  else
    match cutLast ':' host with
    | some (_, port) =>
        if validOptionalPort (':' :: port) then unescape .host host else none
    | none => unescape .host host

def validUserinfo (s : List Char) : Bool :=
  s.all fun c => c.isAlphanum || "-._:~!$&'()*+,;=%@".toList.contains c

/-- The host of an authority. A userinfo without a colon is a name without a password. -/
def parseAuthority (authority : List Char) : Option Bytes :=
  match cutLast '@' authority with
  | none => parseHost literal authority
  | some (userinfo, host) => do
      let host ← parseHost literal host
      let (username, password) := cut ':' userinfo
      if validUserinfo userinfo && (unescape .other username).isSome &&
          (unescape .other password).isSome then
        some host
      else none

/-- A scheme and what comes after its colon; no scheme and everything; or an error. -/
def getScheme (raw : List Char) : List Char → List Char → Option (List Char × List Char)
  | _, [] => some ([], raw)
  | seen, c :: cs =>
      if c.isAlpha then getScheme raw (seen ++ [c]) cs
      else if c.isDigit || c = '+' || c = '-' || c = '.' then
        if seen = [] then some ([], raw) else getScheme raw (seen ++ [c]) cs
      else if c = ':' then
        if seen = [] then none else some (seen, cs)
      else some ([], raw)

def isCtl (c : Char) : Bool := c.toNat < 0x20 || c.toNat = 0x7f

/-- `setPath` -/
def setPath (path : List Char) (host : Bytes) : Option Bytes :=
  (unescape .other path).map fun _ => host

/-- `parse`, for the host alone. A URL that has a scheme and no slash after it is opaque. -/
def parse (raw : List Char) : Option Bytes :=
  if raw.any isCtl then none
  else if raw = ['*'] then some []
  else do
    let (scheme, rest) ← getScheme raw [] raw
    let (rest, _) := cut '?' rest
    if !(['/'].isPrefixOf rest) then
      if scheme ≠ [] then some []
      else if ':' ∈ (cut '/' rest).1 then none
      else setPath rest []
    else if ['/', '/'].isPrefixOf rest &&
        (scheme ≠ [] || !(['/', '/', '/'].isPrefixOf rest)) then do
      let authority := (rest.drop 2).takeWhile (· ≠ '/')
      let host ← parseAuthority literal authority
      setPath ((rest.drop 2).dropWhile (· ≠ '/')) host
    else setPath rest []

/-- The `Host` of `url.Parse`, `none` where that fails. -/
def goHost (url : String) : Option Bytes :=
  let (u, frag) := cut '#' url.toList
  do
    let host ← parse literal u
    setPath frag host

end

/-! ## Python -/

/-- `_splitnetloc`, for the part before the delimiter. -/
def splitnetloc (url : List Char) : List Char :=
  url.takeWhile fun c => c ≠ '/' && c ≠ '?' && c ≠ '#'

def schemeChar (c : Char) : Bool := c.isAlphanum || c = '+' || c = '-' || c = '.'

/-- What is left of a URL after its scheme. -/
def afterScheme (url : List Char) : List Char :=
  let scheme := url.takeWhile (· ≠ ':')
  if ':' ∈ url && (scheme.head?.any Char.isAlpha) && scheme.all schemeChar then (cut ':' url).2
  else url

/-- `_UNSAFE_URL_BYTES_TO_REMOVE` -/
def isUnsafe (c : Char) : Bool := c = '\t' || c = '\r' || c = '\n'

def netlocOf (url : List Char) : List Char :=
  let url := url.dropWhile fun c => c.toNat ≤ 0x20
  let url := afterScheme (url.filter fun c => !isUnsafe c)
  if ['/', '/'].isPrefixOf url then splitnetloc (url.drop 2) else []

/-- The `netloc` of `urlsplit`, `none` where that raises. `checks` stands for the tests of an
address in brackets and of the characters that a normalisation would turn into delimiters. -/
def urlsplit (checks : List Char → Bool) (url : String) : Option String :=
  let netloc := netlocOf url.toList
  if netloc.contains '[' = netloc.contains ']' && checks netloc then some (String.ofList netloc)
  else none

/-! ## Unescaping -/

theorem unhex_size {c : Char} {n : Nat} (h : unhex c = some n) : c.utf8Size = 1 ∧ c ≠ '%' := by
  have hsize : ∀ d : Char, d.val ≤ 0x7f → c ≤ d → c.utf8Size = 1 := by
    intro d hd hc
    exact Char.utf8Size_eq_one_iff.mpr (UInt32.le_trans hc hd)
  refine ⟨?_, by rintro rfl; simp [unhex] at h⟩
  unfold unhex at h
  split at h
  · rename_i hc
    exact hsize '9' (by decide) hc.2
  · split at h
    · rename_i hc
      exact hsize 'f' (by decide) hc.2
    · split at h
      · rename_i hc
        exact hsize 'F' (by decide) hc.2
      · cases h

/-- An escape is three characters for one byte. -/
theorem unescape_length {mode : Mode} {s : List Char} {h : Bytes} (hs : unescape mode s = some h) :
    h.length + 2 * s.count '%' = (encode s).length := by
  fun_induction unescape mode s generalizing h with
  | case1 =>
      obtain rfl := Option.some.inj hs
      rfl
  | case2 a b cs high low ha hb hallows ih =>
      obtain ⟨t, ht, rfl⟩ := Option.map_eq_some_iff.mp hs
      have hcount := ih ht
      obtain ⟨hbsize, hbne⟩ := unhex_size ha
      obtain ⟨hasize, hane⟩ := unhex_size hb
      have hpercent : ('%' : Char).utf8Size = 1 := rfl
      rw [Utf8.encode_length_cons, Utf8.encode_length_cons, Utf8.encode_length_cons, hasize, hbsize,
        hpercent, List.count_cons_self, List.count_cons_of_ne hane, List.count_cons_of_ne hbne,
        List.length_cons]
      omega
  | case7 c cs hc hrefuses ih =>
      obtain ⟨t, ht, rfl⟩ := Option.map_eq_some_iff.mp hs
      have hcount := ih ht
      rw [Utf8.encode_length_cons, List.length_append, String.length_utf8EncodeChar,
        List.count_cons_of_ne hc]
      omega
  | _ => cases hs

theorem unescape_plain {mode : Mode} {s : List Char} {h : Bytes} (hs : unescape mode s = some h)
    (hplain : '%' ∉ s) : h = encode s := by
  fun_induction unescape mode s generalizing h with
  | case1 => exact (Option.some.inj hs).symm
  | case7 c cs hc hrefuses ih =>
      obtain ⟨t, ht, rfl⟩ := Option.map_eq_some_iff.mp hs
      rw [ih ht (fun hmem => hplain (List.mem_cons_of_mem c hmem)), Utf8.encode_cons]
  | case2 | case3 | case4 | case5 => exact absurd List.mem_cons_self hplain
  | case6 => cases hs

/-- A text as `unescape` leaves it: two bytes shorter for every escape, and else unchanged. -/
structure Unescaped (s : List Char) (h : Bytes) : Prop where
  length : h.length + 2 * s.count '%' = (encode s).length
  plain : '%' ∉ s → h = encode s

theorem unescape_unescaped {mode : Mode} {s : List Char} {h : Bytes}
    (hs : unescape mode s = some h) : Unescaped s h :=
  ⟨unescape_length hs, unescape_plain hs⟩

theorem Unescaped.append {s t : List Char} {g h : Bytes} (hs : Unescaped s g)
    (ht : Unescaped t h) : Unescaped (s ++ t) (g ++ h) := by
  constructor
  · rw [Utf8.encode_append, List.length_append, List.length_append, List.count_append,
      ← hs.length, ← ht.length]
    omega
  · intro hplain
    rw [List.mem_append, not_or] at hplain
    rw [hs.plain hplain.1, ht.plain hplain.2, Utf8.encode_append]

theorem Unescaped.eq_encode_iff {s : List Char} {h : Bytes} (hs : Unescaped s h) :
    h = encode s ↔ '%' ∉ s := by
  refine ⟨fun heq => ?_, hs.plain⟩
  have hlen := hs.length
  rw [heq] at hlen
  exact List.count_eq_zero.mp (by omega)

/-! ## The host of an authority -/

theorem cutLast_some {sep : Char} {s before after : List Char}
    (h : cutLast sep s = some (before, after)) : s = before ++ sep :: after := by
  induction s generalizing before with
  | nil => cases h
  | cons c cs ih =>
      rw [cutLast] at h
      cases hcs : cutLast sep cs with
      | some z =>
          rw [hcs] at h
          obtain ⟨rfl, rfl⟩ := Prod.mk.inj (Option.some.inj h)
          rw [ih hcs, List.cons_append]
      | none =>
          simp only [hcs] at h
          split at h
          · rename_i hc
            obtain ⟨rfl, rfl⟩ := Prod.mk.inj (Option.some.inj h)
            rw [hc, List.nil_append]
          · cases h

theorem cutLast_none {sep : Char} {s : List Char} (h : cutLast sep s = none) : sep ∉ s := by
  induction s with
  | nil => exact List.not_mem_nil
  | cons c cs ih =>
      rw [cutLast] at h
      cases hcs : cutLast sep cs with
      | some z => simp [hcs] at h
      | none =>
          simp only [hcs] at h
          split at h
          · cases h
          · rename_i hc
            rw [List.mem_cons, not_or]
            exact ⟨fun heq => hc heq.symm, ih hcs⟩

theorem cutZone_some {s name zone : List Char} (h : cutZone s = some (name, zone)) :
    s = name ++ zone := by
  induction s generalizing name with
  | nil => cases h
  | cons c cs ih =>
      rw [cutZone] at h
      split at h
      · obtain ⟨rfl, rfl⟩ := Prod.mk.inj (Option.some.inj h)
        rfl
      · obtain ⟨z, hz, heq⟩ := Option.map_eq_some_iff.mp h
        obtain ⟨rfl, rfl⟩ := Prod.mk.inj heq
        rw [List.cons_append, ← ih hz]

section
variable {literal : List Char → Bool}

theorem parseHost_unescaped {host : List Char} {h : Bytes}
    (hh : parseHost literal host = some h) : Unescaped host h := by
  rw [parseHost] at hh
  split at hh
  · cases hh
  split at hh
  · cases hinner : cutLast ']' host with
    | none => simp [hinner] at hh
    | some z =>
        obtain ⟨inner, colonPort⟩ := z
        simp only [hinner] at hh
        split at hh
        · cases hzone : cutZone inner with
          | none =>
              simp only [hzone] at hh
              exact unescape_unescaped hh
          | some z =>
              obtain ⟨name, zone⟩ := z
              simp only [hzone, Option.bind_eq_bind, Option.bind_eq_some_iff] at hh
              obtain ⟨host1, h1, host2, h2, host3, h3, heq⟩ := hh
              obtain rfl := Option.some.inj heq
              have hsplit : host = name ++ (zone ++ ']' :: colonPort) := by
                rw [cutLast_some hinner, cutZone_some hzone, List.append_assoc]
              rw [hsplit]
              exact (unescape_unescaped h1).append
                ((unescape_unescaped h2).append (unescape_unescaped h3))
        · cases hh
  · cases hport : cutLast ':' host with
    | none =>
        simp only [hport] at hh
        exact unescape_unescaped hh
    | some z =>
        simp only [hport] at hh
        split at hh
        · exact unescape_unescaped hh
        · cases hh

/-- The host is the authority itself exactly when that has neither userinfo nor escapes. -/
theorem parseAuthority_eq_encode_iff {authority : List Char} {h : Bytes}
    (hh : parseAuthority literal authority = some h) :
    h = encode authority ↔ '@' ∉ authority ∧ '%' ∉ authority := by
  unfold parseAuthority at hh
  cases hat : cutLast '@' authority with
  | none =>
      simp only [hat] at hh
      rw [(parseHost_unescaped hh).eq_encode_iff]
      exact (and_iff_right (cutLast_none hat)).symm
  | some z =>
      obtain ⟨userinfo, host⟩ := z
      simp only [hat, Option.bind_eq_bind, Option.bind_eq_some_iff] at hh
      obtain ⟨h', hhost, hh⟩ := hh
      have heq : h' = h := by
        split at hh
        · exact Option.some.inj hh
        · cases hh
      subst heq
      have hsplit := cutLast_some hat
      have hlen := (parseHost_unescaped hhost).length
      refine iff_of_false (fun hencode => ?_) fun hno => hno.1 ?_
      · have hpos : 0 < ('@' : Char).utf8Size := Char.utf8Size_pos _
        have hlong := congrArg List.length hencode
        rw [hsplit, Utf8.encode_append, List.length_append, Utf8.encode_length_cons] at hlong
        omega
      · rw [hsplit]
        exact List.mem_append_right _ List.mem_cons_self

/-! ## The same authority -/

theorem isAlpha_printable {c : Char} (h : c.isAlpha = true) : 0x20 < c.toNat := by
  by_contra hno
  have hsmall : ∀ n : Fin 33, (Char.ofNat n).isAlpha = false := by decide
  have hc := hsmall ⟨c.toNat, by omega⟩
  rw [Char.ofNat_toNat, h] at hc
  cases hc

theorem isAlpha_schemeChar {c : Char} (h : c.isAlpha = true) : schemeChar c = true := by
  simp [schemeChar, Char.isAlphanum, h]

theorem schemeChar_ne_colon {c : Char} (h : schemeChar c = true) : c ≠ ':' := by
  rintro rfl
  exact absurd h (by decide)

/-- No scheme and everything, or a scheme that begins with a letter and ends at a colon. -/
theorem getScheme_some {raw seen cs scheme rest : List Char}
    (h : getScheme raw seen cs = some (scheme, rest)) (hraw : raw = seen ++ cs)
    (hseen : ∀ c ∈ seen, schemeChar c = true) (hfirst : ∀ c ∈ seen.head?, c.isAlpha = true) :
    (scheme = [] ∧ rest = raw) ∨ (raw = scheme ++ ':' :: rest ∧ scheme ≠ [] ∧
      (∀ c ∈ scheme, schemeChar c = true) ∧ ∀ c ∈ scheme.head?, c.isAlpha = true) := by
  induction cs generalizing seen with
  | nil =>
      obtain ⟨rfl, rfl⟩ := Prod.mk.inj (Option.some.inj h)
      exact .inl ⟨rfl, rfl⟩
  | cons c cs ih =>
      have hraw' : raw = seen ++ [c] ++ cs := by rw [hraw, List.append_assoc, List.singleton_append]
      have hseen' : schemeChar c = true → ∀ d ∈ seen ++ [c], schemeChar d = true := by
        intro hc d hd
        rcases List.mem_append.mp hd with hd | hd
        · exact hseen d hd
        · rw [List.mem_singleton.mp hd]
          exact hc
      rw [getScheme] at h
      split at h
      · rename_i halpha
        refine ih h hraw' (hseen' (isAlpha_schemeChar halpha)) ?_
        cases seen with
        | nil => simpa using halpha
        | cons d seen => exact hfirst
      · split at h
        · rename_i hother
          split at h
          · obtain ⟨rfl, rfl⟩ := Prod.mk.inj (Option.some.inj h)
            exact .inl ⟨rfl, rfl⟩
          · rename_i hne
            refine ih h hraw' (hseen' ?_) ?_
            · simp only [schemeChar, Char.isAlphanum, Bool.or_eq_true] at hother ⊢
              tauto
            · cases seen with
              | nil => exact absurd rfl hne
              | cons d seen => exact hfirst
        · split at h
          · rename_i hcolon
            split at h
            · cases h
            · rename_i hne
              obtain ⟨rfl, rfl⟩ := Prod.mk.inj (Option.some.inj h)
              exact .inr ⟨hcolon ▸ hraw, hne, hseen, hfirst⟩
          · obtain ⟨rfl, rfl⟩ := Prod.mk.inj (Option.some.inj h)
            exact .inl ⟨rfl, rfl⟩

/-- Where Go finds a host, it is that of an authority between two slashes and the next one. -/
theorem parse_host {raw : List Char} {h : Bytes} (hparse : parse literal raw = some h)
    (hne : h ≠ []) : raw.any isCtl = false ∧ ∃ scheme rest after,
      getScheme raw [] raw = some (scheme, rest) ∧ (cut '?' rest).1 = '/' :: '/' :: after ∧
        parseAuthority literal (after.takeWhile (· ≠ '/')) = some h := by
  unfold parse at hparse
  split at hparse
  · cases hparse
  · rename_i hctl
    refine ⟨Bool.eq_false_iff.mpr hctl, ?_⟩
    split at hparse
    · exact absurd (Option.some.inj hparse).symm hne
    · have hpath : ∀ path, setPath path [] ≠ some h := by
        intro path hpath
        obtain ⟨_, -, heq⟩ := Option.map_eq_some_iff.mp hpath
        exact hne heq.symm
      simp only [Option.bind_eq_bind, Option.bind_eq_some_iff, Prod.exists] at hparse
      obtain ⟨scheme, rest, hscheme, hparse⟩ := hparse
      split at hparse
      · split at hparse
        · exact absurd (Option.some.inj hparse).symm hne
        · split at hparse
          · cases hparse
          · exact absurd hparse (hpath _)
      · split at hparse
        · rename_i hslashes
          obtain ⟨after, hafter⟩ :=
            List.isPrefixOf_iff_prefix.mp (Bool.and_eq_true_iff.mp hslashes).1
          rw [← hafter] at hparse
          obtain ⟨h', hhost, hset⟩ := Option.bind_eq_some_iff.mp hparse
          obtain ⟨_, -, rfl⟩ := Option.map_eq_some_iff.mp hset
          exact ⟨scheme, rest, after, hscheme, hafter.symm, hhost⟩
        · exact absurd hparse (hpath _)

theorem takeWhile_netloc {cs suffix : List Char} (hcs : '#' ∉ cs)
    (hsuffix : ∀ c ∈ suffix.head?, c = '#') :
    splitnetloc (cs ++ suffix) = (cs.takeWhile (· ≠ '?')).takeWhile (· ≠ '/') := by
  induction cs with
  | nil =>
      cases suffix with
      | nil => rfl
      | cons c suffix =>
          obtain rfl : c = '#' := hsuffix c rfl
          rfl
  | cons c cs ih =>
      rw [List.mem_cons, not_or] at hcs
      have htail := ih hcs.2
      rw [splitnetloc] at htail ⊢
      by_cases hquery : c = '?'
      · subst hquery
        rfl
      · by_cases hslash : c = '/'
        · subst hslash
          rfl
        · simp only [List.cons_append, List.takeWhile_cons, ne_eq, hslash, hquery,
            not_false_eq_true, decide_true, Ne.symm hcs.1, Bool.and_self, if_true, htail]

theorem afterScheme_colon {scheme rest : List Char} (hne : scheme ≠ [])
    (hchars : ∀ c ∈ scheme, schemeChar c = true) (hfirst : ∀ c ∈ scheme.head?, c.isAlpha = true) :
    afterScheme (scheme ++ ':' :: rest) = rest := by
  have hpass : ∀ c ∈ scheme, decide (c ≠ ':') = true :=
    fun c hc => decide_eq_true (schemeChar_ne_colon (hchars c hc))
  have hstop : (scheme ++ ':' :: rest).takeWhile (· ≠ ':') = scheme := by
    rw [List.takeWhile_append_of_pos hpass]
    simp
  have hdrop : (scheme ++ ':' :: rest).dropWhile (· ≠ ':') = ':' :: rest := by
    rw [List.dropWhile_append_of_pos hpass]
    simp
  have hhead : scheme.head?.any Char.isAlpha = true := by
    cases scheme with
    | nil => exact absurd rfl hne
    | cons c scheme => exact hfirst c rfl
  have hmem : ':' ∈ scheme ++ ':' :: rest := List.mem_append_right _ List.mem_cons_self
  have hall : scheme.all schemeChar = true := List.all_eq_true.mpr hchars
  simp only [afterScheme, hstop, hhead, hall, hmem, decide_true, Bool.and_self, if_true, cut,
    hdrop, List.tail_cons]

theorem afterScheme_slash (rest : List Char) : afterScheme ('/' :: rest) = '/' :: rest := by
  have hstop : ('/' :: rest).takeWhile (· ≠ ':') = '/' :: rest.takeWhile (· ≠ ':') := rfl
  have hslash : Char.isAlpha '/' = false := rfl
  simp only [afterScheme, hstop, List.head?_cons, Option.any_some, hslash, Bool.and_false,
    Bool.false_and, Bool.false_eq_true, if_false]

/-- Python finds the same rest after the scheme as Go, if that rest begins with a slash. -/
theorem afterScheme_eq {raw scheme rest : List Char} (suffix : List Char)
    (hscheme : getScheme raw [] raw = some (scheme, '/' :: rest)) :
    (∀ c ∈ raw.head?, c.isAlpha = true ∨ c = '/') ∧
      afterScheme (raw ++ suffix) = '/' :: rest ++ suffix := by
  rcases getScheme_some hscheme rfl (by simp) (by simp) with
    ⟨-, rfl⟩ | ⟨rfl, hne, hchars, hfirst⟩
  · exact ⟨by simp, afterScheme_slash _⟩
  · constructor
    · cases scheme with
      | nil => exact absurd rfl hne
      | cons c scheme => exact fun d hd => .inl (hfirst d hd)
    · rw [List.append_assoc, List.cons_append]
      exact afterScheme_colon hne hchars hfirst

/-- What `urlsplit` strips is not there in a URL that Go accepts, up to the fragment. -/
theorem strip_eq {raw frag : List Char} (hctl : raw.any isCtl = false) (hne : raw ≠ [])
    (hfirst : ∀ c ∈ raw.head?, c.isAlpha = true ∨ c = '/') :
    ((raw ++ frag).dropWhile fun c => c.toNat ≤ 0x20).filter (fun c => !isUnsafe c) =
      raw ++ frag.filter fun c => !isUnsafe c := by
  have hkeep : ∀ c ∈ raw, (!isUnsafe c) = true := by
    intro c hc
    have hprint : isCtl c = false := by
      rw [List.any_eq_false] at hctl
      exact Bool.eq_false_iff.mpr (hctl c hc)
    by_contra hno
    have hcases : c = '\t' ∨ c = '\r' ∨ c = '\n' := by
      simp [isUnsafe] at hno
      tauto
    rcases hcases with rfl | rfl | rfl <;> exact absurd hprint (by decide)
  obtain ⟨c, cs, rfl⟩ := List.exists_cons_of_ne_nil hne
  have hblank : decide (c.toNat ≤ 0x20) = false := by
    rcases hfirst c rfl with halpha | rfl
    · exact decide_eq_false (Nat.not_le.mpr (isAlpha_printable halpha))
    · rfl
  rw [List.cons_append, List.dropWhile_cons_of_neg (by simp [hblank]), ← List.cons_append,
    List.filter_append, List.filter_eq_self.mpr hkeep]

theorem filter_head {frag : List Char} (h : ∀ c ∈ frag.head?, c = '#') :
    ∀ c ∈ (frag.filter fun c => !isUnsafe c).head?, c = '#' := by
  cases frag with
  | nil => simp
  | cons c frag =>
      obtain rfl : c = '#' := h c rfl
      intro d hd
      exact (Option.some.inj hd).symm

theorem mem_raw_of_rest {raw scheme rest : List Char}
    (hscheme : getScheme raw [] raw = some (scheme, rest)) : ∀ c ∈ rest, c ∈ raw := by
  intro c hc
  rcases getScheme_some hscheme rfl (by simp) (by simp) with ⟨-, rfl⟩ | ⟨rfl, -, -, -⟩
  · exact hc
  · exact List.mem_append_right _ (List.mem_cons_of_mem _ hc)

theorem cut_slashes {rest after : List Char} (h : (cut '?' rest).1 = '/' :: '/' :: after) :
    ∃ tail, rest = '/' :: '/' :: tail ∧ after = tail.takeWhile (· ≠ '?') := by
  have hsplit : rest = '/' :: '/' :: (after ++ rest.dropWhile (· ≠ '?')) := by
    calc rest = (cut '?' rest).1 ++ rest.dropWhile (· ≠ '?') :=
          List.takeWhile_append_dropWhile.symm
      _ = _ := by rw [h]; rfl
  refine ⟨_, hsplit, ?_⟩
  rw [hsplit] at h
  exact (List.cons.inj (List.cons.inj h).2).2.symm

theorem parseAuthority_netlocOf {raw frag : List Char} {h : Bytes}
    (hparse : parse literal raw = some h) (hne : h ≠ []) (hraw : '#' ∉ raw)
    (hfrag : ∀ c ∈ frag.head?, c = '#') :
    parseAuthority literal (netlocOf (raw ++ frag)) = some h := by
  obtain ⟨hctl, scheme, rest, after, hscheme, hrest, hhost⟩ := parse_host hparse hne
  obtain ⟨tail, rfl, rfl⟩ := cut_slashes hrest
  have hraw' : raw ≠ [] := List.ne_nil_of_mem (mem_raw_of_rest hscheme '/' List.mem_cons_self)
  have hhash : '#' ∉ tail := fun hmem => hraw (mem_raw_of_rest hscheme '#' (by simp [hmem]))
  obtain ⟨hfirst, hafter⟩ := afterScheme_eq (frag.filter fun c => !isUnsafe c) hscheme
  have hslashes : ['/', '/'].isPrefixOf
      ('/' :: '/' :: tail ++ frag.filter fun c => !isUnsafe c) = true := by
    simp [List.isPrefixOf]
  have hnetloc : netlocOf (raw ++ frag) = (tail.takeWhile (· ≠ '?')).takeWhile (· ≠ '/') := by
    rw [netlocOf, strip_eq hctl hraw' hfirst, hafter]
    rw [if_pos hslashes]
    exact takeWhile_netloc hhash (filter_head hfrag)
  rw [hnetloc]
  exact hhost

/-- Python's `netloc` is the authority whose host Go finds. -/
theorem parseAuthority_urlsplit {checks : List Char → Bool} {url netloc : String} {h : Bytes}
    (hgo : goHost literal url = some h) (hne : h ≠ [])
    (hpython : urlsplit checks url = some netloc) :
    parseAuthority literal netloc.toList = some h := by
  obtain ⟨h', hparse, hset⟩ := Option.bind_eq_some_iff.mp hgo
  obtain ⟨_, -, rfl⟩ := Option.map_eq_some_iff.mp hset
  have hraw : '#' ∉ (cut '#' url.toList).1 :=
    fun hmem => absurd (List.mem_takeWhile_imp hmem) (by decide)
  have hfrag : ∀ c ∈ (url.toList.dropWhile (· ≠ '#')).head?, c = '#' := by
    intro c hc
    have hstop := List.head?_dropWhile_not (· ≠ '#') url.toList
    rw [Option.mem_def.mp hc] at hstop
    simpa using hstop
  have hhost := parseAuthority_netlocOf hparse hne hraw hfrag
  rw [List.takeWhile_append_dropWhile] at hhost
  simp only [urlsplit] at hpython
  split at hpython
  · rw [← Option.some.inj hpython, String.toList_ofList]
    exact hhost
  · cases hpython

end

end Url
