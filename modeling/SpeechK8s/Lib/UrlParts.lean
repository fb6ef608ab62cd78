import Mathlib.Data.Bool.AllAny
import Mathlib.Data.List.DropRight
import SpeechK8s.Lib.Url

/-!
# Taking a URL apart and putting it together again

`urlsplit` and `urlunsplit` of Python's `urllib.parse`, and that the one takes back what the
other made of parts that are those of a URL.
-/
namespace Url

/-- `SplitResult` -/
structure Parts where
  scheme : List Char
  netloc : List Char
  path : List Char
  query : List Char
  fragment : List Char
  deriving DecidableEq

/-- Without blanks and control characters in front, and without any tab or line break. -/
def clean (url : List Char) : List Char :=
  (url.dropWhile fun c => c.toNat ≤ 0x20).filter fun c => !isUnsafe c

def schemeOf (url : List Char) : List Char :=
  let scheme := url.takeWhile (· ≠ ':')
  if ':' ∈ url && (scheme.head?.any Char.isAlpha) && scheme.all schemeChar then
    scheme.map Char.toLower
  else []

/-- What is left of a URL after its authority. -/
def afterNetloc (url : List Char) : List Char :=
  if ['/', '/'].isPrefixOf url then (url.drop 2).drop (splitnetloc (url.drop 2)).length else url

/-- `urlsplit`, but for the checks of the authority. -/
def split (url : List Char) : Parts :=
  let rest := afterNetloc (afterScheme (clean url))
  let (rest, fragment) := cut '#' rest
  let (path, query) := cut '?' rest
  ⟨schemeOf (clean url), netlocOf url, path, query, fragment⟩

/-- The authority and the path. -/
def hierarchy (usesNetloc : List Char → Bool) (p : Parts) : List Char :=
  if p.netloc ≠ [] then
    '/' :: '/' :: (p.netloc ++
      if p.path ≠ [] ∧ p.path.head? ≠ some '/' then '/' :: p.path else p.path)
  else if ['/', '/'].isPrefixOf p.path then '/' :: '/' :: p.path
  else if p.scheme ≠ [] ∧ usesNetloc p.scheme ∧ (p.path = [] ∨ p.path.head? = some '/') then
    '/' :: '/' :: p.path
  else p.path

/-- `urlunsplit`; `usesNetloc` are the schemes of URLs with an authority. -/
def unsplit (usesNetloc : List Char → Bool) (p : Parts) : List Char :=
  (if p.scheme ≠ [] then p.scheme ++ [':'] else []) ++ hierarchy usesNetloc p ++
    (if p.query ≠ [] then '?' :: p.query else []) ++
    (if p.fragment ≠ [] then '#' :: p.fragment else [])

/-! ## The origin -/

/-- The authority of a URL, as RFC 3986 has it. -/
def authority (url : List Char) : List Char :=
  if ['/', '/'].isPrefixOf (afterScheme url) then splitnetloc ((afterScheme url).drop 2) else []

/-- The scheme and the authority, which say where a request goes. -/
def origin (url : List Char) : List Char × List Char := (schemeOf url, authority url)

theorem takeWhile_append_stop {α : Type} {p : α → Bool} (xs : List α) {ys : List α}
    (h : ∀ y ∈ ys.head?, p y = false) : (xs ++ ys).takeWhile p = xs.takeWhile p := by
  induction xs with
  | nil =>
      cases ys with
      | nil => rfl
      | cons y ys => simp [h y rfl]
  | cons x xs ih =>
      rw [List.cons_append, List.takeWhile_cons, List.takeWhile_cons, ih]

theorem takeWhile_append_mem {α : Type} {p : α → Bool} {xs : List α} {x : α} (ys : List α)
    (hx : x ∈ xs) (hp : p x = false) : (xs ++ ys).takeWhile p = xs.takeWhile p := by
  rw [List.takeWhile_append, if_neg]
  intro hlen
  have hall := (List.takeWhile_prefix p).eq_of_length hlen
  have hpx := List.takeWhile_eq_self_iff.mp hall x hx
  rw [hp] at hpx
  cases hpx

def hasScheme (url : List Char) : Bool :=
  ':' ∈ url && ((url.takeWhile (· ≠ ':')).head?.any Char.isAlpha) &&
    (url.takeWhile (· ≠ ':')).all schemeChar

theorem schemeOf_eq (url : List Char) :
    schemeOf url = if hasScheme url then (url.takeWhile (· ≠ ':')).map Char.toLower else [] := rfl

theorem afterScheme_def (url : List Char) :
    afterScheme url = if hasScheme url then (cut ':' url).2 else url := rfl

theorem colon_mem {url : List Char} (h : hasScheme url = true) : ':' ∈ url := by
  simp only [hasScheme, Bool.and_eq_true, decide_eq_true_eq] at h
  exact h.1.1

section
variable {r w : List Char}

/-- What follows a slash has no say in the scheme. -/
theorem hasScheme_append (hw : ∀ c ∈ w.head?, c = '/') : hasScheme (r ++ w) = hasScheme r := by
  by_cases hr : ':' ∈ r
  · have htake := takeWhile_append_mem (p := (· ≠ ':')) w hr (by simp)
    simp only [hasScheme, htake, List.mem_append, hr, true_or]
  · have hfalse : hasScheme r = false := Bool.eq_false_iff.mpr fun h => hr (colon_mem h)
    rw [hfalse]
    refine Bool.eq_false_iff.mpr fun h => ?_
    have hmem : ':' ∈ w := (List.mem_append.mp (colon_mem h)).resolve_left hr
    cases w with
    | nil => cases hmem
    | cons c w =>
        obtain rfl := hw c rfl
        have hall : ∀ c ∈ r, (c ≠ ':' : Bool) = true := by
          intro c hc
          simpa using fun h : c = ':' => hr (h ▸ hc)
        have hslash : schemeChar '/' = true := by
          simp only [hasScheme, Bool.and_eq_true, List.all_eq_true] at h
          apply h.2 '/'
          rw [List.takeWhile_append_of_pos hall]
          simp
        exact absurd hslash (by decide)

theorem schemeOf_append (hw : ∀ c ∈ w.head?, c = '/') : schemeOf (r ++ w) = schemeOf r := by
  rw [schemeOf_eq, schemeOf_eq, hasScheme_append hw]
  split
  · rename_i h
    rw [takeWhile_append_mem (p := (· ≠ ':')) w (colon_mem h) (by simp)]
  · rfl

theorem afterScheme_append (hw : ∀ c ∈ w.head?, c = '/') :
    afterScheme (r ++ w) = afterScheme r ++ w := by
  rw [afterScheme_def, afterScheme_def, hasScheme_append hw]
  split
  · rename_i h
    have hne : r.dropWhile (· ≠ ':') ≠ [] := by
      intro hnil
      have hall := List.dropWhile_eq_nil_iff.mp hnil ':' (colon_mem h)
      simp at hall
    simp only [cut, List.dropWhile_append, List.isEmpty_iff, hne, if_false]
    exact List.tail_append_of_ne_nil hne
  · rfl

theorem afterScheme_suffix (url : List Char) : afterScheme url <:+ url := by
  rw [afterScheme_def]
  split
  · exact (List.tail_suffix _).trans (List.dropWhile_suffix _)
  · exact List.suffix_refl url

theorem splitnetloc_append (hw : ∀ c ∈ w.head?, c = '/') :
    splitnetloc (r ++ w) = splitnetloc r := by
  apply takeWhile_append_stop
  intro c hc
  rw [hw c hc]
  rfl

/-- A path after a URL that does not end in a slash goes where the URL goes. -/
theorem origin_append (hr : ∀ c ∈ r.getLast?, c ≠ '/') (hw : ∀ c ∈ w.head?, c = '/')
    (hpath : ['/', '/'].isPrefixOf w = true → splitnetloc (w.drop 2) = []) :
    origin (r ++ w) = origin r := by
  have hlast : ∀ c ∈ (afterScheme r).getLast?, c ≠ '/' := by
    obtain ⟨y, hy⟩ := afterScheme_suffix r
    intro c hc
    apply hr
    rw [← hy, List.getLast?_append, Option.mem_def.mp hc]
    rfl
  have hauthority : authority (r ++ w) = authority r := by
    rw [authority, authority, afterScheme_append hw]
    cases hx : afterScheme r with
    | nil =>
        rw [List.nil_append]
        split
        · exact hpath ‹_›
        · rfl
    | cons a x =>
        rw [hx] at hlast
        cases x with
        | nil =>
            have ha : a ≠ '/' := hlast a rfl
            simp [List.isPrefixOf, Ne.symm ha]
        | cons b x =>
            simp only [List.cons_append, List.isPrefixOf, List.drop_succ_cons, List.drop_zero]
            rw [splitnetloc_append hw]
  rw [origin, origin, schemeOf_append hw, hauthority]

/-- `base.rstrip('/')` followed by a path goes where `base` goes, whatever the path is. -/
theorem origin_path (base : List Char) {c : Char} (hc : c ≠ '/') (path : List Char) :
    origin (base.rdropWhile (· = '/') ++ '/' :: c :: path) = origin base := by
  have hr : ∀ d ∈ (base.rdropWhile (· = '/')).getLast?, d ≠ '/' := by
    intro d hd
    obtain ⟨hne, rfl⟩ := List.mem_getLast?_eq_getLast hd
    have hnot := List.rdropWhile_last_not (p := fun c => decide (c = '/')) base hne
    simpa using hnot
  have hslashes : ∀ d ∈ base.rtakeWhile (· = '/'), d = '/' := fun d hd => by
    simpa using List.mem_rtakeWhile_imp hd
  have hpath : origin (base.rdropWhile (· = '/') ++ '/' :: c :: path) =
      origin (base.rdropWhile (· = '/')) := by
    refine origin_append hr (by simp) fun h => ?_
    simp [List.isPrefixOf, Ne.symm hc] at h
  have hbase : origin (base.rdropWhile (· = '/') ++ base.rtakeWhile (· = '/')) =
      origin (base.rdropWhile (· = '/')) := by
    refine origin_append hr (fun d hd => hslashes d (List.mem_of_mem_head? hd)) fun _ => ?_
    cases hrest : (base.rtakeWhile (· = '/')).drop 2 with
    | nil => rfl
    | cons d rest =>
        have hd : d = '/' :=
          hslashes d ((List.drop_suffix 2 _).subset (hrest ▸ List.mem_cons_self))
        simp [splitnetloc, hd]
  rw [hpath, ← hbase, List.rdropWhile_append_rtakeWhile]

end

/-! ## The round trip -/

section
variable {url scheme rest : List Char}

theorem cut_append {sep : Char} {a : List Char} (ha : sep ∉ a) (b : List Char) :
    cut sep (a ++ if b ≠ [] then sep :: b else []) = (a, b) := by
  have hpass : ∀ c ∈ a, decide (c ≠ sep) = true := by
    intro c hc
    apply decide_eq_true
    rintro rfl
    exact ha hc
  unfold cut
  by_cases hb : b = []
  · subst hb
    simp only [ne_eq, not_true_eq_false, if_false, List.append_nil]
    rw [List.takeWhile_eq_self_iff.mpr hpass, List.dropWhile_eq_nil_iff.mpr hpass]
    rfl
  · rw [if_pos hb, List.takeWhile_append_of_pos hpass, List.dropWhile_append_of_pos hpass]
    simp

/-- A scheme as `split` gives it. -/
structure IsScheme (scheme : List Char) : Prop where
  nonempty : scheme ≠ []
  first : ∀ c ∈ scheme.head?, c.isAlpha = true
  chars : ∀ c ∈ scheme, schemeChar c = true
  lower : ∀ c ∈ scheme, c.toLower = c

theorem isScheme_cons {c : Char} {cs : List Char} (hfirst : c.isAlpha = true)
    (hchars : (c :: cs).all schemeChar = true)
    (hlower : ((c :: cs).all fun d => d.toLower = d) = true) : IsScheme (c :: cs) := by
  refine ⟨List.cons_ne_nil _ _, ?_, List.all_eq_true.mp hchars, List.all_iff_forall_prop.mp hlower⟩
  intro d hd
  obtain rfl := Option.some.inj hd
  exact hfirst

theorem schemeChar_safe {c : Char} (h : schemeChar c = true) : isUnsafe c = false := by
  have hsafe : ∀ d ∈ ['\t', '\r', '\n'], schemeChar d = false :=
    List.all_iff_forall_prop.mp rfl
  simp only [isUnsafe, Bool.or_eq_false_iff, decide_eq_false_iff_not]
  refine ⟨⟨?_, ?_⟩, ?_⟩
  all_goals
    rintro rfl
    exact Bool.false_ne_true ((hsafe _ (by decide)).symm.trans h)

theorem clean_scheme (h : IsScheme scheme) (rest : List Char) :
    clean (scheme ++ ':' :: rest) = scheme ++ ':' :: rest.filter fun c => !isUnsafe c := by
  have hkeep : (scheme ++ ':' :: rest).dropWhile (fun c => c.toNat ≤ 0x20) =
      scheme ++ ':' :: rest := by
    cases hs : scheme with
    | nil => exact absurd hs h.nonempty
    | cons c cs =>
        have hc : ¬ c.toNat ≤ 0x20 :=
          Nat.not_le.mpr (isAlpha_printable (h.first c (by rw [hs]; rfl)))
        rw [List.cons_append, List.dropWhile_cons_of_neg (by simpa using hc)]
  have hsafe : scheme.filter (fun c => !isUnsafe c) = scheme := by
    refine List.filter_eq_self.mpr fun c hc => ?_
    rw [schemeChar_safe (h.chars c hc)]
    rfl
  rw [clean, hkeep, List.filter_append, hsafe]
  rfl

theorem schemeOf_colon (h : IsScheme scheme) (rest : List Char) :
    schemeOf (scheme ++ ':' :: rest) = scheme := by
  have hpass : ∀ c ∈ scheme, decide (c ≠ ':') = true :=
    fun c hc => decide_eq_true (schemeChar_ne_colon (h.chars c hc))
  have hstop : (scheme ++ ':' :: rest).takeWhile (· ≠ ':') = scheme := by
    rw [List.takeWhile_append_of_pos hpass]
    simp
  have hhead : scheme.head?.any Char.isAlpha = true := by
    cases hs : scheme with
    | nil => exact absurd hs h.nonempty
    | cons c cs => exact h.first c (by rw [hs]; rfl)
  have hall : scheme.all schemeChar = true := List.all_eq_true.mpr h.chars
  have hmem : ':' ∈ scheme ++ ':' :: rest := List.mem_append_right _ List.mem_cons_self
  have hlower : scheme.map Char.toLower = scheme := by
    calc scheme.map Char.toLower = scheme.map id := List.map_congr_left h.lower
      _ = scheme := List.map_id scheme
  simp only [schemeOf, hstop, hmem, hhead, hall, decide_true, Bool.and_self, if_true, hlower]

/-- The parts of a URL that names a host. -/
structure Hosted (p : Parts) : Prop where
  scheme : IsScheme p.scheme
  netloc : p.netloc ≠ []
  netlocChars : ∀ c ∈ p.netloc, c ≠ '/' ∧ c ≠ '?' ∧ c ≠ '#'
  pathFirst : ∀ c ∈ p.path.head?, c = '/'
  pathChars : ∀ c ∈ p.path, c ≠ '?' ∧ c ≠ '#'
  queryChars : '#' ∉ p.query
  safe : ∀ c ∈ p.netloc ++ p.path ++ p.query ++ p.fragment, isUnsafe c = false

/-- What comes after the authority. -/
def Parts.tail (p : Parts) : List Char :=
  (p.path ++ if p.query ≠ [] then '?' :: p.query else []) ++
    if p.fragment ≠ [] then '#' :: p.fragment else []

theorem unsplit_hosted {usesNetloc : List Char → Bool} {p : Parts} (h : Hosted p) :
    unsplit usesNetloc p = p.scheme ++ ':' :: '/' :: '/' :: (p.netloc ++ p.tail) := by
  have hpath : ¬ (p.path ≠ [] ∧ p.path.head? ≠ some '/') := by
    rintro ⟨hne, hfirst⟩
    cases hp : p.path with
    | nil => exact hne hp
    | cons c cs =>
        refine hfirst ?_
        rw [hp]
        exact congrArg some (h.pathFirst c (by rw [hp]; rfl))
  rw [unsplit, if_pos h.scheme.nonempty, hierarchy, if_pos h.netloc, if_neg hpath, Parts.tail]
  simp only [List.append_assoc, List.cons_append, List.nil_append]

theorem tail_head {p : Parts} (h : Hosted p) : ∀ c ∈ p.tail.head?, c = '/' ∨ c = '?' ∨ c = '#' := by
  intro c hc
  unfold Parts.tail at hc
  cases hp : p.path with
  | cons d ds =>
      rw [hp] at hc
      obtain rfl : d = c := Option.some.inj hc
      exact .inl (h.pathFirst d (by rw [hp]; rfl))
  | nil =>
      rw [hp, List.nil_append] at hc
      by_cases hq : p.query = []
      · by_cases hf : p.fragment = []
        · simp [hq, hf] at hc
        · simp only [hq, hf, ne_eq, not_true_eq_false, not_false_eq_true, if_false, if_true,
            List.nil_append, List.head?_cons, Option.mem_def, Option.some.injEq] at hc
          exact .inr (.inr hc.symm)
      · simp only [hq, ne_eq, not_false_eq_true, if_true, List.cons_append, List.head?_cons,
          Option.mem_def, Option.some.injEq] at hc
        exact .inr (.inl hc.symm)

theorem splitnetloc_hosted {p : Parts} (h : Hosted p) :
    splitnetloc (p.netloc ++ p.tail) = p.netloc := by
  unfold splitnetloc
  rw [takeWhile_append_stop]
  · refine List.takeWhile_eq_self_iff.mpr fun c hc => ?_
    obtain ⟨hslash, hquery, hhash⟩ := h.netlocChars c hc
    simp [hslash, hquery, hhash]
  · intro c hc
    rcases tail_head h c hc with rfl | rfl | rfl <;> rfl

theorem netlocOf_slashes {url s : List Char} (h : afterScheme (clean url) = '/' :: '/' :: s) :
    netlocOf url = splitnetloc s := by
  have hdef : netlocOf url = if ['/', '/'].isPrefixOf (afterScheme (clean url)) then
      splitnetloc ((afterScheme (clean url)).drop 2) else [] := rfl
  rw [hdef, h]
  rfl

theorem afterNetloc_slashes (s : List Char) :
    afterNetloc ('/' :: '/' :: s) = s.drop (splitnetloc s).length := rfl

/-- `urlsplit` takes back what `urlunsplit` has made. -/
theorem split_unsplit {usesNetloc : List Char → Bool} {p : Parts} (h : Hosted p) :
    split (unsplit usesNetloc p) = p := by
  have hsafe : (p.netloc ++ p.tail).filter (fun c => !isUnsafe c) = p.netloc ++ p.tail := by
    refine List.filter_eq_self.mpr fun c hc => ?_
    have hmem : c ∈ p.netloc ++ p.path ++ p.query ++ p.fragment ∨ c = '?' ∨ c = '#' := by
      simp only [Parts.tail, List.mem_append] at hc ⊢
      rcases hc with hc | (hc | hc) | hc
      · simp [hc]
      · simp [hc]
      · split at hc
        · rcases List.mem_cons.mp hc with rfl | hc
          · simp
          · simp [hc]
        · cases hc
      · split at hc
        · rcases List.mem_cons.mp hc with rfl | hc
          · simp
          · simp [hc]
        · cases hc
    rcases hmem with hmem | rfl | rfl
    · rw [h.safe c hmem]
      rfl
    · rfl
    · rfl
  have hclean : clean (unsplit usesNetloc p) =
      p.scheme ++ ':' :: '/' :: '/' :: (p.netloc ++ p.tail) := by
    rw [unsplit_hosted h, clean_scheme h.scheme]
    exact congrArg (fun t => p.scheme ++ ':' :: '/' :: '/' :: t) hsafe
  have hafter :
      afterScheme (clean (unsplit usesNetloc p)) = '/' :: '/' :: (p.netloc ++ p.tail) := by
    rw [hclean]
    exact afterScheme_colon h.scheme.nonempty h.scheme.chars h.scheme.first
  have hnetloc : netlocOf (unsplit usesNetloc p) = p.netloc :=
    (netlocOf_slashes hafter).trans (splitnetloc_hosted h)
  have hrest : afterNetloc (afterScheme (clean (unsplit usesNetloc p))) = p.tail := by
    rw [hafter, afterNetloc_slashes, splitnetloc_hosted h, List.drop_left]
  have hhash : '#' ∉ p.path ++ if p.query ≠ [] then '?' :: p.query else [] := by
    rw [List.mem_append, not_or]
    refine ⟨fun hc => (h.pathChars _ hc).2 rfl, fun hc => ?_⟩
    split at hc
    · rcases List.mem_cons.mp hc with hc | hc
      · exact absurd hc (by decide)
      · exact h.queryChars hc
    · cases hc
  have hmark : '?' ∉ p.path := fun hc => (h.pathChars _ hc).1 rfl
  have hscheme : schemeOf (clean (unsplit usesNetloc p)) = p.scheme := by
    rw [hclean]
    exact schemeOf_colon h.scheme _
  simp only [split, hrest, hnetloc, hscheme]
  rw [Parts.tail, cut_append hhash]
  dsimp only
  rw [cut_append hmark]

theorem cut_fst {sep : Char} {s : List Char} : ∀ c ∈ (cut sep s).1, c ≠ sep := by
  intro c hc
  simpa using List.mem_takeWhile_imp hc

theorem cut_sub (sep : Char) (s : List Char) : ∀ c ∈ (cut sep s).1 ++ (cut sep s).2, c ∈ s := by
  intro c hc
  rcases List.mem_append.mp hc with hc | hc
  · exact (List.takeWhile_prefix _).subset hc
  · exact (List.dropWhile_suffix _).subset (List.mem_of_mem_tail hc)

/-- What ends an authority. -/
def endsNetloc (c : Char) : Bool := c = '/' || c = '?' || c = '#'

theorem splitnetloc_eq (s : List Char) : splitnetloc s = s.takeWhile fun c => !endsNetloc c := by
  unfold splitnetloc
  congr 1
  funext c
  simp [endsNetloc, Bool.and_assoc]

theorem drop_splitnetloc (s : List Char) :
    s.drop (splitnetloc s).length = s.dropWhile fun c => !endsNetloc c := by
  have happend := List.takeWhile_append_dropWhile (p := fun c => !endsNetloc c) (l := s)
  rw [← splitnetloc_eq] at happend
  calc s.drop (splitnetloc s).length
      = (splitnetloc s ++ s.dropWhile fun c => !endsNetloc c).drop (splitnetloc s).length := by
        rw [happend]
    _ = s.dropWhile fun c => !endsNetloc c := List.drop_left

/-- The parts of what follows the slashes, once it is clean. -/
theorem hosted_parts {kept : List Char} (h : IsScheme scheme)
    (hsafe : ∀ c ∈ kept, isUnsafe c = false) (hne : splitnetloc kept ≠ []) :
    Hosted ⟨scheme, splitnetloc kept, (cut '?' (cut '#' (kept.drop (splitnetloc kept).length)).1).1,
      (cut '?' (cut '#' (kept.drop (splitnetloc kept).length)).1).2,
      (cut '#' (kept.drop (splitnetloc kept).length)).2⟩ := by
  have hfirst : ∀ c ∈ (kept.drop (splitnetloc kept).length).head?, endsNetloc c = true := by
    intro c hc
    rw [drop_splitnetloc] at hc
    have hstop := List.head?_dropWhile_not (fun c => !endsNetloc c) kept
    rw [Option.mem_def.mp hc] at hstop
    simpa using hstop
  have hmem : ∀ c ∈ kept.drop (splitnetloc kept).length, c ∈ kept :=
    fun c hc => (List.drop_suffix _ _).subset hc
  generalize kept.drop (splitnetloc kept).length = tail at hfirst hmem
  have hpart : ∀ c ∈ (cut '?' (cut '#' tail).1).1 ++ (cut '?' (cut '#' tail).1).2,
      c ∈ (cut '#' tail).1 := cut_sub _ _
  have hwhole : ∀ c ∈ (cut '#' tail).1 ++ (cut '#' tail).2, c ∈ tail := cut_sub _ _
  refine ⟨h, hne, fun c hc => ?_, fun c hc => ?_, fun c hc => ?_, fun hc => ?_, fun c hc => ?_⟩
  · rw [splitnetloc_eq] at hc
    have hnot := List.mem_takeWhile_imp hc
    simpa [endsNetloc, and_assoc] using hnot
  · -- the path is there only if the authority ends in a slash
    cases tail with
    | nil => cases hc
    | cons d ds =>
        have hd := hfirst d rfl
        simp only [endsNetloc, Bool.or_eq_true, decide_eq_true_eq] at hd
        rcases hd with (rfl | rfl) | rfl
        · exact (Option.some.inj hc).symm
        · cases hc
        · cases hc
  · exact ⟨cut_fst c hc, cut_fst c (hpart c (List.mem_append_left _ hc))⟩
  · exact cut_fst _ (hpart _ (List.mem_append_right _ hc)) rfl
  · refine hsafe c ?_
    simp only [List.mem_append] at hc
    rcases hc with ((hc | hc) | hc) | hc
    · rw [splitnetloc_eq] at hc
      exact (List.takeWhile_prefix _).subset hc
    · exact hmem c (hwhole c (List.mem_append_left _ (hpart c (List.mem_append_left _ hc))))
    · exact hmem c (hwhole c (List.mem_append_left _ (hpart c (List.mem_append_right _ hc))))
    · exact hmem c (hwhole c (List.mem_append_right _ hc))

/-- What `split` finds in a URL with a host is as `unsplit` needs it. -/
theorem split_hosted (h : IsScheme scheme) (rest : List Char) :
    (split (scheme ++ ':' :: '/' :: '/' :: rest)).scheme = scheme ∧
      ((split (scheme ++ ':' :: '/' :: '/' :: rest)).netloc ≠ [] →
        Hosted (split (scheme ++ ':' :: '/' :: '/' :: rest))) := by
  have hclean : clean (scheme ++ ':' :: '/' :: '/' :: rest) =
      scheme ++ ':' :: '/' :: '/' :: rest.filter fun c => !isUnsafe c := clean_scheme h _
  have hafter : afterScheme (clean (scheme ++ ':' :: '/' :: '/' :: rest)) =
      '/' :: '/' :: rest.filter fun c => !isUnsafe c := by
    rw [hclean]
    exact afterScheme_colon h.nonempty h.chars h.first
  have hscheme : schemeOf (clean (scheme ++ ':' :: '/' :: '/' :: rest)) = scheme := by
    rw [hclean]
    exact schemeOf_colon h _
  refine ⟨hscheme, fun hne => ?_⟩
  simp only [split, hscheme, netlocOf_slashes hafter, hafter] at hne ⊢
  refine hosted_parts h (fun c hc => ?_) hne
  simpa using (List.mem_filter.mp hc).2

end

end Url
