import Mathlib.Data.List.DropRight
import Mathlib.Tactic.Common

/-!
# Strings that need not be text

A string of JavaScript or Python may hold a surrogate without its partner, and such a string has
no encoding in UTF-8. A string is a text, or a list of characters and surrogates that is none.
-/

/-- A character, or one of the surrogates from U+D800 on. -/
inductive CodePoint where
  | char (c : Char)
  | surrogate (n : Fin 2048)
  deriving DecidableEq

def CodePoint.char? : CodePoint → Option Char
  | .char c => some c
  | .surrogate _ => none

inductive Str where
  | text (s : String)
  | ill (points : List CodePoint) (unpaired : points.mapM CodePoint.char? = none)
  deriving DecidableEq

namespace Str

instance : Coe String Str := ⟨Str.text⟩

def points : Str → List CodePoint
  | .text s => s.toList.map .char
  | .ill ps _ => ps

def ofPoints (ps : List CodePoint) : Str :=
  match h : ps.mapM CodePoint.char? with
  | some cs => .text (String.ofList cs)
  | none => .ill ps h

def isText : Str → Bool
  | .text _ => true
  | .ill _ _ => false

/-- Concatenation as in Python, where a pair that comes together stays two surrogates. -/
def append (s t : Str) : Str := ofPoints (s.points ++ t.points)

instance : Append Str := ⟨append⟩

/-- `"".join(ss)` -/
def join (ss : List Str) : Str := ofPoints (ss.flatMap points)

/-- Without the characters of a kind at both ends. -/
def strip (blank : Char → Bool) (s : Str) : Str :=
  let isBlank (p : CodePoint) : Bool := p.char?.any blank
  ofPoints ((s.points.dropWhile isBlank).rdropWhile isBlank)

def intercalate (sep : Str) (ss : List Str) : Str :=
  ofPoints (sep.points.intercalate (ss.map points))

theorem mapM_char (cs : List Char) : (cs.map CodePoint.char).mapM CodePoint.char? = some cs := by
  induction cs with
  | nil => rfl
  | cons c cs ih => simp [CodePoint.char?, ih]

theorem ofPoints_char (cs : List Char) :
    ofPoints (cs.map CodePoint.char) = .text (String.ofList cs) := by
  have hchars := mapM_char cs
  unfold ofPoints
  split
  · rename_i cs' h
    rw [hchars] at h
    rw [Option.some.inj h]
  · rename_i h
    rw [hchars] at h
    cases h

theorem points_eq_nil {s : Str} : s.points = [] ↔ s = text "" := by
  cases s with
  | text s =>
      rw [points, List.map_eq_nil_iff, String.toList_eq_nil_iff]
      exact ⟨congrArg text, text.inj⟩
  | ill ps unpaired =>
      refine iff_of_false ?_ nofun
      rintro (rfl : ps = [])
      cases unpaired

@[simp] theorem isText_text (s : String) : (text s).isText = true := rfl

@[simp] theorem text_append (s t : String) : text s ++ text t = text (s ++ t) := by
  have hpoints : (text s).points ++ (text t).points = (s.toList ++ t.toList).map .char :=
    (List.map_append).symm
  change ofPoints ((text s).points ++ (text t).points) = _
  rw [hpoints, ofPoints_char, String.ofList_append, String.ofList_toList, String.ofList_toList]

theorem strip_text (blank : Char → Bool) (s : String) :
    (text s).strip blank =
      text (String.ofList ((s.toList.dropWhile blank).rdropWhile blank)) := by
  have hchar : ((fun p : CodePoint => p.char?.any blank) ∘ CodePoint.char) = blank := rfl
  rw [strip, points, List.dropWhile_map, List.rdropWhile, ← List.map_reverse, List.dropWhile_map,
    ← List.map_reverse, hchar, ← List.rdropWhile, ofPoints_char]

theorem points_ofPoints (ps : List CodePoint) : (ofPoints ps).points = ps := by
  unfold ofPoints
  split
  · rename_i cs h
    induction ps generalizing cs with
    | nil =>
        obtain rfl := Option.some.inj h
        rfl
    | cons p ps ih =>
        cases p with
        | surrogate n => simp [CodePoint.char?] at h
        | char c =>
            simp only [List.mapM_cons, CodePoint.char?, Option.pure_def, Option.bind_eq_bind,
              Option.bind_some, Option.bind_eq_some_iff, Option.some.injEq] at h
            obtain ⟨cs, hcs, rfl⟩ := h
            have htail := ih cs hcs
            rw [points, String.toList_ofList] at htail ⊢
            rw [List.map_cons, htail]
  · rfl

theorem ofPoints_points (s : Str) : ofPoints s.points = s := by
  cases s with
  | text s => rw [points, ofPoints_char, String.ofList_toList]
  | ill ps unpaired =>
      rw [points, ofPoints]
      split
      · rename_i h
        rw [unpaired] at h
        cases h
      · rfl

theorem points_append (s t : Str) : (s ++ t).points = s.points ++ t.points := points_ofPoints _

theorem append_assoc (s t u : Str) : s ++ t ++ u = s ++ (t ++ u) := by
  change ofPoints ((s ++ t).points ++ u.points) = ofPoints (s.points ++ (t ++ u).points)
  rw [points_append, points_append, List.append_assoc]

theorem flatMap_points (ss : List String) :
    (ss.map text).flatMap points = (String.join ss).toList.map .char := by
  induction ss with
  | nil => rfl
  | cons s ss ih =>
      rw [List.map_cons, List.flatMap_cons, ih, String.join_cons, String.toList_append,
        List.map_append]
      rfl

theorem join_text (ss : List String) : join (ss.map text) = text (String.join ss) := by
  rw [join, flatMap_points, ofPoints_char, String.ofList_toList]

/-- Lines of text, each after the first with the separator before it. -/
theorem intercalate_text (sep s : String) (ss : List String) :
    intercalate sep ((s :: ss).map text) = text (s ++ String.join (ss.map (sep ++ ·))) := by
  have hpoints : ∀ (s : String) (ss : List String),
      List.intercalate (text sep).points (((s :: ss).map text).map points) =
        (s ++ String.join (ss.map (sep ++ ·))).toList.map .char := by
    intro s ss
    induction ss generalizing s with
    | nil =>
        rw [String.toList_append, List.map_append]
        simp [points, List.intercalate]
    | cons s' ss ih =>
        have htail := ih s'
        simp only [List.map_cons] at htail ⊢
        rw [List.intercalate_cons_cons, htail]
        simp only [points, String.join_cons, String.toList_append, List.map_append,
          List.append_assoc]
  rw [intercalate, hpoints, ofPoints_char, String.ofList_toList]

end Str
