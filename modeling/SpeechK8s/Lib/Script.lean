import Mathlib.Data.List.DropRight
import Mathlib.Data.List.Infix
import Mathlib.Tactic.Common

/-!
# Scripts that stop at the first failing command

A script under `set -e` issues external commands of a type `κ`, which act on a state `σ`.
It is a tree over the replies it may get; an environment, fixing the reply to every command,
selects one run. A run ends normally, exits with a status, or is still looping when the
bound on one of its wait loops is used up. No rule below gives a postcondition to the last
kind, so every specification proved with them says also that the run ends.
-/
namespace Script

/-- What the environment answers to one command. -/
structure Reply where
  code : Nat
  out : List String
  secs : Nat
  deriving DecidableEq, Repr

def Reply.ok (r : Reply) : Bool := r.code = 0

@[simp] theorem Reply.code_eq_zero {r : Reply} : r.code = 0 ↔ r.ok = true :=
  decide_eq_true_iff.symm

@[simp] theorem Reply.ok_mk (code : Nat) (out : List String) (secs : Nat) :
    (⟨code, out, secs⟩ : Reply).ok = decide (code = 0) := rfl

theorem Reply.code_ne {r : Reply} (h : ¬ r.ok = true) : r.code ≠ 0 := h ∘ Reply.code_eq_zero.mp

/-- A command that fails writes nothing on its standard output. -/
def Reply.stdout (r : Reply) : List String := if r.ok then r.out else []

/-- `"$(cmd)"` -/
def Reply.text (r : Reply) : String := String.intercalate "\n" r.stdout

/-- What `read` puts into its variable: the line that was typed, without the blanks at its ends. -/
def Reply.line (r : Reply) : Option String :=
  r.stdout.head?.map fun l =>
    String.ofList ((l.toList.dropWhile (· ∈ [' ', '\t'])).rdropWhile (· ∈ [' ', '\t']))

/-- The reply to every command of a run. Commands that a loop issues again carry the number
of the iteration, so an environment is any sequence of replies. -/
abbrev Env (κ : Type) := κ → Reply

/-- One command of a run: when it was issued and in which state. -/
structure Entry (κ σ : Type) where
  call : κ
  time : Nat
  before : σ

structure World (κ σ : Type) where
  state : σ
  clock : Nat
  log : List (Entry κ σ)

variable {κ σ α β ι : Type}

def World.boot (s : σ) (t : Nat) : World κ σ := ⟨s, t, []⟩

def World.record (w : World κ σ) (k : κ) (secs : Nat) (s : σ) : World κ σ :=
  ⟨s, w.clock + secs, w.log ++ [⟨k, w.clock, w.state⟩]⟩

def World.pass (w : World κ σ) (secs : Nat) : World κ σ := { w with clock := w.clock + secs }

@[simp] theorem boot_state (s : σ) (t : Nat) : (World.boot s t : World κ σ).state = s := rfl
@[simp] theorem boot_clock (s : σ) (t : Nat) : (World.boot s t : World κ σ).clock = t := rfl
@[simp] theorem boot_log (s : σ) (t : Nat) : (World.boot s t : World κ σ).log = [] := rfl

@[simp] theorem record_state (w : World κ σ) (k : κ) (n : Nat) (s : σ) :
    (w.record k n s).state = s := rfl
@[simp] theorem record_clock (w : World κ σ) (k : κ) (n : Nat) (s : σ) :
    (w.record k n s).clock = w.clock + n := rfl
@[simp] theorem record_log (w : World κ σ) (k : κ) (n : Nat) (s : σ) :
    (w.record k n s).log = w.log ++ [⟨k, w.clock, w.state⟩] := rfl

@[simp] theorem pass_state (w : World κ σ) (n : Nat) : (w.pass n).state = w.state := rfl
@[simp] theorem pass_clock (w : World κ σ) (n : Nat) : (w.pass n).clock = w.clock + n := rfl
@[simp] theorem pass_log (w : World κ σ) (n : Nat) : (w.pass n).log = w.log := rfl

end Script

open Script in
/-- A script with result type `α`. `look` reads the state a successful query would print,
`date` reads the clock; `hang` is reached only when a wait loop runs out of iterations. -/
inductive Script (κ σ α : Type) where
  | done (a : α)
  | exit (status : Nat)
  | hang
  | issue (k : κ) (effect : σ → σ) (next : Reply → Script κ σ α)
  | look (next : σ → Script κ σ α)
  | date (k : κ) (next : Nat → Script κ σ α)
  | sleep (secs : Nat) (next : Script κ σ α)

namespace Script
variable {κ σ α β ι : Type}

protected def bind : Script κ σ α → (α → Script κ σ β) → Script κ σ β
  | .done a, f => f a
  | .exit s, _ => .exit s
  | .hang, _ => .hang
  | .issue k e next, f => .issue k e fun r => (next r).bind f
  | .look next, f => .look fun s => (next s).bind f
  | .date k next, f => .date k fun t => (next t).bind f
  | .sleep n next, f => .sleep n (next.bind f)

instance : Monad (Script κ σ) where
  pure := .done
  bind := Script.bind

inductive Outcome (κ σ α : Type) where
  | done (a : α) (w : World κ σ)
  | exit (status : Nat) (w : World κ σ)
  | hang (w : World κ σ)

def Outcome.world : Outcome κ σ α → World κ σ
  | .done _ w | .exit _ w | .hang w => w

def Outcome.status : Outcome κ σ α → Option Nat
  | .done _ _ => some 0
  | .exit s _ => some s
  | .hang _ => none

/-- A command takes effect exactly when it succeeds. -/
def run (env : Env κ) : Script κ σ α → World κ σ → Outcome κ σ α
  | .done a, w => .done a w
  | .exit s, w => .exit s w
  | .hang, w => .hang w
  | .issue k e next, w =>
      run env (next (env k))
        (w.record k (env k).secs (if (env k).ok then e w.state else w.state))
  | .look next, w => run env (next w.state) w
  | .date k next, w => run env (next w.clock) (w.record k 0 w.state)
  | .sleep n next, w => run env next (w.pass n)

/-! ## Commands and loops -/

def attempt (k : κ) (effect : σ → σ) : Script κ σ Reply := .issue k effect .done

/-- A command whose failure ends the script with the status of the command. -/
def check (k : κ) (effect : σ → σ) : Script κ σ Unit :=
  .issue k effect fun r => if r.ok then .done () else .exit r.code

def query (k : κ) : Script κ σ Reply := attempt k id

/-- `x="$(cmd)"`: a failure ends the script. -/
def capture (k : κ) : Script κ σ Reply :=
  .issue k id fun r => if r.ok then .done r else .exit r.code

/-- `cmd || echo "warning: …"` -/
def tolerate (k : κ) : Script κ σ Unit := .issue k id fun _ => .done ()

def state : Script κ σ σ := .look .done

def now (k : κ) : Script κ σ Nat := .date k .done

def quit (status : Nat) : Script κ σ α := .exit status

/-- `if c; then p; fi` -/
def when (c : Bool) (p : Script κ σ Unit) : Script κ σ Unit := if c then p else pure ()

/-- `for x in "${xs[@]}"; do f "$x"; done` -/
def each : List ι → (ι → Script κ σ Unit) → Script κ σ Unit
  | [], _ => pure ()
  | x :: xs, f => do f x; each xs f

/-- One command on several things, which goes on after a failure; whether there was none. -/
def attemptEach (k : ι → κ) (effect : ι → σ → σ) : Bool → List ι → Script κ σ Bool
  | ok, [] => pure ok
  | ok, x :: xs => do
      let r ← attempt (k x) (effect x)
      attemptEach k effect (ok && r.ok) xs

/-- At most `fuel` iterations of a wait loop, the first of them numbered `i`. -/
def waitFrom (deadline pause : Nat) (tick : Nat → κ) (body : Nat → Script κ σ (Option α)) :
    Nat → Nat → Script κ σ (Option α)
  | 0, _ => .hang
  | fuel + 1, i => do
      match ← body i with
      | some a => pure (some a)
      | none =>
          let t ← now (tick i)
          if deadline < t then pure none
          else .sleep pause (waitFrom deadline pause tick body fuel (i + 1))

/-- `while true; do body; (( $(date +%s) > deadline )) && break; sleep pause; done`, where the
body breaks by returning a value and `deadline` lies at most `timeout` ahead. -/
def waitUntil (timeout deadline pause : Nat) (tick : Nat → κ)
    (body : Nat → Script κ σ (Option α)) : Script κ σ (Option α) :=
  waitFrom deadline pause tick body (timeout + 2) 0

/-! ## Weakest preconditions -/

/-- The run from `w` ends, normally in `Q` or by an exit in `E`. -/
def wp (env : Env κ) (p : Script κ σ α) (Q : α → World κ σ → Prop)
    (E : Nat → World κ σ → Prop) (w : World κ σ) : Prop :=
  match run env p w with
  | .done a w' => Q a w'
  | .exit s w' => E s w'
  | .hang _ => False

variable {env : Env κ} {p : Script κ σ α} {f : α → Script κ σ β}
  {Q Q' : α → World κ σ → Prop} {E E' : Nat → World κ σ → Prop} {w : World κ σ}

@[simp] theorem wp_done {a : α} : wp env (.done a) Q E w ↔ Q a w := Iff.rfl
@[simp] theorem wp_pure {a : α} : wp env (pure a) Q E w ↔ Q a w := Iff.rfl
@[simp] theorem wp_exit {s : Nat} : wp env (.exit s) Q E w ↔ E s w := Iff.rfl
@[simp] theorem wp_quit {s : Nat} : wp env (quit s) Q E w ↔ E s w := Iff.rfl

@[simp] theorem wp_issue {k : κ} {e : σ → σ} {next : Reply → Script κ σ α} :
    wp env (.issue k e next) Q E w ↔ wp env (next (env k)) Q E
      (w.record k (env k).secs (if (env k).ok then e w.state else w.state)) := Iff.rfl

@[simp] theorem wp_sleep {n : Nat} {next : Script κ σ α} :
    wp env (.sleep n next) Q E w ↔ wp env next Q E (w.pass n) := Iff.rfl

@[simp] theorem wp_state {Q : σ → World κ σ → Prop} :
    wp env state Q E w ↔ Q w.state w := Iff.rfl

@[simp] theorem wp_now {k : κ} {Q : Nat → World κ σ → Prop} :
    wp env (now k) Q E w ↔ Q w.clock (w.record k 0 w.state) := Iff.rfl

@[simp] theorem wp_attempt {k : κ} {e : σ → σ} {Q : Reply → World κ σ → Prop} :
    wp env (attempt k e) Q E w ↔ Q (env k)
      (w.record k (env k).secs (if (env k).ok then e w.state else w.state)) := Iff.rfl

@[simp] theorem wp_query {k : κ} {Q : Reply → World κ σ → Prop} :
    wp env (query k) Q E w ↔ Q (env k) (w.record k (env k).secs w.state) := by
  simp only [query, wp_attempt, id, ite_self]

@[simp] theorem wp_tolerate {k : κ} {Q : Unit → World κ σ → Prop} :
    wp env (tolerate k) Q E w ↔ Q () (w.record k (env k).secs w.state) := by
  simp only [tolerate, wp_issue, wp_done, id, ite_self]

@[simp] theorem wp_check {k : κ} {e : σ → σ} {Q : Unit → World κ σ → Prop} :
    wp env (check k e) Q E w ↔
      if (env k).ok then Q () (w.record k (env k).secs (e w.state))
      else E (env k).code (w.record k (env k).secs w.state) := by
  simp only [check, wp_issue]
  cases (env k).ok <;> simp

/-- A command that fails ends the script with its own status. -/
theorem wp_checked {k : κ} {e : σ → σ} {Q : Unit → World κ σ → Prop}
    (h : Q () (w.record k (env k).secs (e w.state))) :
    wp env (check k e) Q (fun status _ => status ≠ 0) w := by
  rw [wp_check]
  split
  · exact h
  · exact Reply.code_ne ‹_›

@[simp] theorem wp_capture {k : κ} {Q : Reply → World κ σ → Prop} :
    wp env (capture k) Q E w ↔
      if (env k).ok then Q (env k) (w.record k (env k).secs w.state)
      else E (env k).code (w.record k (env k).secs w.state) := by
  simp only [capture, wp_issue]
  cases (env k).ok <;> simp

@[simp] theorem wp_when {c : Bool} {p : Script κ σ Unit} {Q : Unit → World κ σ → Prop} :
    wp env (when c p) Q E w ↔ if c then wp env p Q E w else Q () w := by
  cases c <;> exact Iff.rfl

theorem run_bind (env : Env κ) (p : Script κ σ α) (f : α → Script κ σ β) (w : World κ σ) :
    run env (p >>= f) w = match run env p w with
      | .done a w' => run env (f a) w'
      | .exit s w' => .exit s w'
      | .hang w' => .hang w' := by
  induction p generalizing w with
  | done a => rfl
  | exit s => rfl
  | hang => rfl
  | issue k e next ih => exact ih (env k) _
  | look next ih => exact ih w.state w
  | date k next ih => exact ih w.clock _
  | sleep n next ih => exact ih _

@[simp] theorem wp_bind {Q : β → World κ σ → Prop} :
    wp env (p >>= f) Q E w ↔ wp env p (fun a => wp env (f a) Q E) E w := by
  unfold wp
  rw [run_bind]
  cases run env p w <;> exact Iff.rfl

theorem wp_mono (h : wp env p Q E w) (hQ : ∀ a w', Q a w' → Q' a w')
    (hE : ∀ s w', E s w' → E' s w') : wp env p Q' E' w := by
  unfold wp at *
  cases hr : run env p w with
  | done a w' => rw [hr] at h; exact hQ a w' h
  | exit s w' => rw [hr] at h; exact hE s w' h
  | hang w' => rw [hr] at h; exact h

theorem wp_world {J : World κ σ → Prop} (h : wp env p (fun _ => J) (fun _ => J) w) :
    J (run env p w).world := by
  unfold wp at h
  cases hr : run env p w with
  | done a w' => rw [hr] at h; exact h
  | exit s w' => rw [hr] at h; exact h
  | hang w' => rw [hr] at h; exact h.elim

theorem wp_and_world {J : World κ σ → Prop} (h : wp env p Q E w) (hJ : J (run env p w).world) :
    wp env p (fun a w' => Q a w' ∧ J w') (fun s w' => E s w' ∧ J w') w := by
  unfold wp at *
  cases hr : run env p w <;> rw [hr] at h hJ
  · exact ⟨h, hJ⟩
  · exact ⟨h, hJ⟩
  · exact h

theorem wp_ends (h : wp env p Q E w) : ∃ s, (run env p w).status = some s := by
  unfold wp at h
  cases hr : run env p w with
  | done a w' => exact ⟨0, rfl⟩
  | exit s w' => exact ⟨s, rfl⟩
  | hang w' => rw [hr] at h; exact h.elim

theorem wp_status {s : Nat} {J : World κ σ → Prop} (h : wp env p Q E w)
    (hs : (run env p w).status = some s) (hQ : ∀ a w', s = 0 → Q a w' → J w')
    (hE : ∀ w', E s w' → J w') : J (run env p w).world := by
  unfold wp at h
  cases hr : run env p w with
  | done a w' =>
      rw [hr] at h hs
      exact hQ a w' (Option.some.inj hs).symm h
  | exit t w' =>
      rw [hr] at h hs
      have ht : t = s := Option.some.inj hs
      subst ht
      exact hE w' h
  | hang w' => rw [hr] at h; exact h.elim

theorem wp_each {g : ι → Script κ σ Unit} (I : List ι → World κ σ → Prop) (xs : List ι)
    (step : ∀ x rest w, I (x :: rest) w → wp env (g x) (fun _ => I rest) E w)
    (h : I xs w) : wp env (each xs g) (fun _ => I []) E w := by
  induction xs generalizing w with
  | nil => exact h
  | cons x xs ih =>
      rw [each, wp_bind]
      exact wp_mono (step x xs w h) (fun _ w' hw => ih hw) (fun _ _ hw => hw)

/-- The rule for one command on several things; `I` is also told whether all has gone well. -/
theorem wp_attemptEach {k : ι → κ} {effect : ι → σ → σ} (I : List ι → Bool → World κ σ → Prop)
    (xs : List ι) {ok : Bool}
    (step : ∀ x rest ok w, I (x :: rest) ok w → I rest (ok && (env (k x)).ok)
      (w.record (k x) (env (k x)).secs (if (env (k x)).ok then effect x w.state else w.state)))
    (h : I xs ok w) : wp env (attemptEach k effect ok xs) (I []) E w := by
  induction xs generalizing w ok with
  | nil => exact h
  | cons x xs ih =>
      rw [attemptEach, wp_bind, wp_attempt]
      exact ih (step x xs ok w h)

/-- The rule for a wait loop. `I i` holds where iteration `i` starts; the pause between two
iterations is what makes the deadline pass. -/
theorem wp_waitUntil {timeout deadline pause : Nat} {tick : Nat → κ}
    {body : Nat → Script κ σ (Option α)} {Q : Option α → World κ σ → Prop}
    (I : Nat → World κ σ → Prop) (hp : 0 < pause) (hd : deadline ≤ w.clock + timeout)
    (step : ∀ i w, I i w → wp env (body i) (fun r w' => w.clock ≤ w'.clock ∧
      match r with
      | some a => Q (some a) w'
      | none => (deadline < w'.clock → Q none (w'.record (tick i) 0 w'.state)) ∧
          (w'.clock ≤ deadline → I (i + 1) ((w'.record (tick i) 0 w'.state).pass pause))) E w)
    (h : I 0 w) : wp env (waitUntil timeout deadline pause tick body) Q E w := by
  suffices ∀ fuel i (w : World κ σ), I i w → deadline + 1 - w.clock < fuel →
      wp env (waitFrom deadline pause tick body fuel i) Q E w from
    this _ _ _ h (by omega)
  intro fuel
  induction fuel with
  | zero => intro i w _ hf; omega
  | succ fuel ih =>
      intro i w hi hf
      rw [waitFrom, wp_bind]
      refine wp_mono (step i w hi) ?_ (fun _ _ hw => hw)
      rintro (_ | a) w' ⟨hle, hw⟩
      · simp only [wp_bind, wp_now]
        split
        · exact hw.1 ‹_›
        · have hin : w'.clock ≤ deadline := by omega
          refine ih (i + 1) _ (hw.2 hin) ?_
          simp only [pass_clock, record_clock]
          omega
      · exact hw

/-! ## The log -/

/-- `w'` is reached from `w`: the log has grown and time has not gone back. -/
structure World.Before (w w' : World κ σ) : Prop where
  log : w.log <+: w'.log
  clock : w.clock ≤ w'.clock

theorem World.Before.refl (w : World κ σ) : w.Before w := ⟨List.prefix_rfl, le_rfl⟩

theorem World.Before.trans {a b c : World κ σ} (h : a.Before b) (h' : b.Before c) :
    a.Before c := ⟨h.log.trans h'.log, h.clock.trans h'.clock⟩

theorem World.before_record (w : World κ σ) (k : κ) (n : Nat) (s : σ) :
    w.Before (w.record k n s) := ⟨List.prefix_append _ _, Nat.le_add_right _ _⟩

theorem World.before_pass (w : World κ σ) (n : Nat) : w.Before (w.pass n) :=
  ⟨List.prefix_rfl, Nat.le_add_right _ _⟩

/-- Every script only adds to the log, and time only passes. -/
theorem run_before (env : Env κ) (p : Script κ σ α) (w : World κ σ) :
    w.Before (run env p w).world := by
  induction p generalizing w with
  | done a => exact .refl w
  | exit s => exact .refl w
  | hang => exact .refl w
  | issue k e next ih => exact (w.before_record _ _ _).trans (ih _ _)
  | look next ih => exact ih _ _
  | date k next ih => exact (w.before_record _ _ _).trans (ih _ _)
  | sleep n next ih => exact (w.before_pass n).trans (ih _)

/-- Every command a script can issue, taken with its effect, satisfies `P`. -/
def All (P : κ → (σ → σ) → Prop) : Script κ σ α → Prop
  | .done _ | .exit _ | .hang => True
  | .issue k e next => P k e ∧ ∀ r, (next r).All P
  | .look next => ∀ s, (next s).All P
  | .date k next => P k id ∧ ∀ t, (next t).All P
  | .sleep _ next => next.All P

section All
variable {P : κ → (σ → σ) → Prop}

theorem All.bind (h : p.All P) (hf : ∀ a, (f a).All P) : (p >>= f).All P := by
  induction p with
  | done a => exact hf a
  | exit s => trivial
  | hang => trivial
  | issue k e next ih => exact ⟨h.1, fun r => ih r (h.2 r)⟩
  | look next ih => exact fun s => ih s (h s)
  | date k next ih => exact ⟨h.1, fun t => ih t (h.2 t)⟩
  | sleep n next ih => exact ih h

theorem all_pure (a : α) : (pure a : Script κ σ α).All P := trivial

theorem all_quit (s : Nat) : (quit s : Script κ σ α).All P := trivial

theorem all_attempt {k : κ} {e : σ → σ} (h : P k e) : (attempt k e).All P :=
  ⟨h, fun _ => trivial⟩

theorem all_query {k : κ} (h : P k id) : (query k).All P := all_attempt h

theorem all_tolerate {k : κ} (h : P k id) : (tolerate k : Script κ σ Unit).All P :=
  ⟨h, fun _ => trivial⟩

theorem all_check {k : κ} {e : σ → σ} (h : P k e) : (check k e).All P :=
  ⟨h, fun r => by dsimp only; split <;> trivial⟩

theorem all_state : (state : Script κ σ σ).All P := fun _ => trivial

theorem all_now {k : κ} (h : P k id) : (now k : Script κ σ Nat).All P := ⟨h, fun _ => trivial⟩

theorem all_capture {k : κ} (h : P k id) : (capture k : Script κ σ Reply).All P :=
  ⟨h, fun r => by dsimp only; split <;> trivial⟩

theorem all_when {c : Bool} {p : Script κ σ Unit} (h : p.All P) : (when c p).All P := by
  cases c
  · trivial
  · exact h

theorem all_each {g : ι → Script κ σ Unit} (xs : List ι) (h : ∀ x ∈ xs, (g x).All P) :
    (each xs g).All P := by
  induction xs with
  | nil => trivial
  | cons x xs ih =>
      exact (h x List.mem_cons_self).bind fun _ => ih fun y hy => h y (List.mem_cons_of_mem x hy)

theorem all_attemptEach {k : ι → κ} {effect : ι → σ → σ} (xs : List ι)
    (h : ∀ x ∈ xs, P (k x) (effect x)) (ok : Bool) : (attemptEach k effect ok xs).All P := by
  induction xs generalizing ok with
  | nil => trivial
  | cons x xs ih =>
      refine (all_attempt (h x List.mem_cons_self)).bind fun r => ?_
      exact ih (fun y hy => h y (List.mem_cons_of_mem x hy)) (ok && r.ok)

theorem all_waitUntil {timeout deadline pause : Nat} {tick : Nat → κ}
    {body : Nat → Script κ σ (Option α)} (ht : ∀ i, P (tick i) id) (hb : ∀ i, (body i).All P) :
    (waitUntil timeout deadline pause tick body).All P := by
  suffices ∀ fuel i, (waitFrom deadline pause tick body fuel i).All P from this _ _
  intro fuel
  induction fuel with
  | zero => intro i; trivial
  | succ fuel ih =>
      intro i
      refine (hb i).bind fun r => ?_
      cases r with
      | some a => trivial
      | none =>
          refine (all_now (ht i)).bind fun t => ?_
          split
          · trivial
          · exact ih (i + 1)

theorem all_of_forall (h : ∀ k e, P k e) (p : Script κ σ α) : p.All P := by
  induction p with
  | done a => trivial
  | exit s => trivial
  | hang => trivial
  | issue k e next ih => exact ⟨h k e, ih⟩
  | look next ih => exact ih
  | date k next ih => exact ⟨h k id, ih⟩
  | sleep n next ih => exact ih

theorem All.mono {P' : κ → (σ → σ) → Prop} (h : p.All P) (hP : ∀ k e, P k e → P' k e) :
    p.All P' := by
  induction p with
  | done a => trivial
  | exit s => trivial
  | hang => trivial
  | issue k e next ih => exact ⟨hP _ _ h.1, fun r => ih r (h.2 r)⟩
  | look next ih => exact fun s => ih s (h s)
  | date k next ih => exact ⟨hP _ _ h.1, fun t => ih t (h.2 t)⟩
  | sleep n next ih => exact ih h

end All

theorem All.log {S : κ → Prop} (h : p.All fun k _ => S k) (env : Env κ) (w : World κ σ)
    (hw : ∀ e ∈ w.log, S e.call) : ∀ e ∈ (run env p w).world.log, S e.call := by
  induction p generalizing w with
  | done a => exact hw
  | exit s => exact hw
  | hang => exact hw
  | issue k e next ih =>
      refine ih _ (h.2 _) _ ?_
      simpa [or_imp, forall_and] using ⟨hw, h.1⟩
  | look next ih => exact ih _ (h _) _ hw
  | date k next ih =>
      refine ih _ (h.2 _) _ ?_
      simpa [or_imp, forall_and] using ⟨hw, h.1⟩
  | sleep n next ih => exact ih h _ hw

theorem All.state {J : σ → Prop} (h : p.All fun _ e => ∀ s, J s → J (e s)) (env : Env κ)
    (w : World κ σ) (hw : J w.state) : J (run env p w).world.state := by
  induction p generalizing w with
  | done a => exact hw
  | exit s => exact hw
  | hang => exact hw
  | issue k e next ih =>
      refine ih _ (h.2 _) _ ?_
      simp only [record_state]
      split
      · exact h.1 _ hw
      · exact hw
  | look next ih => exact ih _ (h _) _ hw
  | date k next ih => exact ih _ (h.2 _) _ hw
  | sleep n next ih => exact ih h _ hw

/-- At every moment of a log: `P` of the commands issued so far, the time and the state. -/
def Always (P : List (Entry κ σ) → Nat → σ → Prop) (log : List (Entry κ σ)) : Prop :=
  ∀ pre e, pre ++ [e] <+: log → P pre e.time e.before

theorem always_nil (P : List (Entry κ σ) → Nat → σ → Prop) : Always P [] := by
  intro pre e h
  simp [List.prefix_nil] at h

theorem always_concat {P : List (Entry κ σ) → Nat → σ → Prop} {log : List (Entry κ σ)}
    {e : Entry κ σ} : Always P (log ++ [e]) ↔ Always P log ∧ P log e.time e.before := by
  constructor
  · intro h
    exact ⟨fun pre x hx => h pre x (hx.trans (List.prefix_append _ _)),
      h log e List.prefix_rfl⟩
  · rintro ⟨h, he⟩ pre x hx
    rcases List.prefix_concat_iff.mp hx with same | within
    · obtain ⟨rfl, hxe⟩ := List.append_inj' same rfl
      obtain rfl := List.singleton_inj.mp hxe
      exact he
    · exact h pre x within

/-- If `P` follows from an invariant of the world that every command of the script keeps,
then `P` holds at every moment of the run. -/
theorem All.always {P : List (Entry κ σ) → Nat → σ → Prop} {J : World κ σ → Prop}
    (hJ : ∀ w, J w → P w.log w.clock w.state) (hpass : ∀ w n, J w → J (w.pass n))
    (h : p.All fun k e => ∀ w n, J w → J (w.record k n w.state) ∧ J (w.record k n (e w.state)))
    (env : Env κ) (w : World κ σ) (hw : J w) (hlog : Always P w.log) :
    J (run env p w).world ∧ Always P (run env p w).world.log := by
  induction p generalizing w with
  | done a => exact ⟨hw, hlog⟩
  | exit s => exact ⟨hw, hlog⟩
  | hang => exact ⟨hw, hlog⟩
  | issue k e next ih =>
      refine ih _ (h.2 _) _ ?_ (always_concat.mpr ⟨hlog, hJ w hw⟩)
      split
      · exact (h.1 w _ hw).2
      · exact (h.1 w _ hw).1
  | look next ih => exact ih _ (h _) _ hw hlog
  | date k next ih =>
      exact ih _ (h.2 _) _ (h.1 w 0 hw).1 (always_concat.mpr ⟨hlog, hJ w hw⟩)
  | sleep n next ih => exact ih h _ (hpass w n hw) hlog

/-- `e` is the first command of the log that satisfies `P`, and `pre` is what came before it. -/
structure First (P : κ → Prop) (log pre : List (Entry κ σ)) (e : Entry κ σ) : Prop where
  here : P e.call
  earlier : ∀ x ∈ pre, ¬ P x.call
  within : pre ++ [e] <+: log

theorem First.mono {P : κ → Prop} {log log' pre : List (Entry κ σ)} {e : Entry κ σ}
    (h : First P log pre e) (hl : log <+: log') : First P log' pre e :=
  ⟨h.here, h.earlier, h.within.trans hl⟩

theorem First.unique {P : κ → Prop} {log pre pre' : List (Entry κ σ)} {e e' : Entry κ σ}
    (h : First P log pre e) (h' : First P log pre' e') : pre = pre' ∧ e = e' := by
  -- of two such entries neither lies before the other
  have later : ∀ {a b : List (Entry κ σ)} {x y : Entry κ σ}, First P log a x → First P log b y →
      b.length ≤ a.length := by
    intro a b x y ha hb
    by_contra hlt
    have hpre : a ++ [x] <+: b :=
      List.prefix_of_prefix_length_le ha.within ((List.prefix_append b [y]).trans hb.within)
        (by simp only [List.length_append, List.length_singleton]; omega)
    exact hb.earlier x (hpre.subset (by simp)) ha.here
  have hlen : (pre ++ [e]).length = (pre' ++ [e']).length := by
    have h1 := later h h'
    have h2 := later h' h
    simp only [List.length_append, List.length_singleton]
    omega
  have heq : pre ++ [e] = pre' ++ [e'] :=
    (List.prefix_of_prefix_length_le h.within h'.within hlen.le).eq_of_length hlen
  obtain ⟨hpre, he⟩ := List.append_inj' heq rfl
  exact ⟨hpre, List.singleton_inj.mp he⟩

theorem First.not_mem {P : κ → Prop} {log pre : List (Entry κ σ)} {e : Entry κ σ}
    (h : First P log pre e) : ¬ ∀ x ∈ log, ¬ P x.call :=
  fun hno => hno e (h.within.subset (by simp)) h.here

theorem run_issue_before (env : Env κ) (k : κ) (effect : σ → σ) (next : Reply → Script κ σ α)
    (w : World κ σ) :
    w.log ++ [⟨k, w.clock, w.state⟩] <+: (run env (.issue k effect next) w).world.log :=
  (run_before env (next (env k))
    (w.record k (env k).secs (if (env k).ok then effect w.state else w.state))).log

/-- The script begins with the command `k`, and ends with its status where it fails. -/
def Starts (k : κ) (p : Script κ σ α) : Prop :=
  ∃ effect next, p = .issue k effect next ∧ ∀ r : Reply, r.ok = false → next r = .exit r.code

theorem starts_check (k : κ) (effect : σ → σ) : Starts k (check k effect) := by
  refine ⟨effect, _, rfl, ?_⟩
  intro r hr
  rw [hr]
  rfl

theorem Starts.bind {k : κ} (h : Starts k p) (f : α → Script κ σ β) : Starts k (p >>= f) := by
  obtain ⟨effect, next, rfl, hnext⟩ := h
  refine ⟨effect, fun r => (next r).bind f, rfl, ?_⟩
  intro r hr
  exact congrArg (·.bind f) (hnext r hr)

theorem Starts.mem {k : κ} (h : Starts k p) (env : Env κ) (w : World κ σ) :
    ⟨k, w.clock, w.state⟩ ∈ (run env p w).world.log := by
  obtain ⟨effect, next, rfl, -⟩ := h
  apply (run_issue_before env k effect next w).subset
  exact List.mem_append_right _ (List.mem_singleton_self _)

theorem Starts.failed {k : κ} (h : Starts k p) (hk : (env k).ok = false) :
    run env p w = .exit (env k).code (w.record k (env k).secs w.state) := by
  obtain ⟨effect, next, rfl, hnext⟩ := h
  rw [run, hnext _ hk, hk]
  rfl

/-! ## What a part of a script adds -/

/-- Between `w` and `w'` the commands `ks` were issued, and the state stayed as it was. -/
structure World.Adds (w : World κ σ) (ks : List κ) (w' : World κ σ) : Prop where
  state : w'.state = w.state
  log : ∃ es, w'.log = w.log ++ es ∧ es.map Entry.call = ks ∧ ∀ e ∈ es, e.before = w.state

theorem World.Adds.refl (w : World κ σ) : w.Adds [] w := ⟨rfl, [], by simp⟩

theorem World.Adds.trans {a b c : World κ σ} {ks ls : List κ} (h : a.Adds ks b)
    (h' : b.Adds ls c) : a.Adds (ks ++ ls) c := by
  obtain ⟨es, hes, hks, hbefore⟩ := h.log
  obtain ⟨fs, hfs, hls, hbefore'⟩ := h'.log
  refine ⟨h'.state.trans h.state, es ++ fs, ?_, ?_, ?_⟩
  · rw [hfs, hes, List.append_assoc]
  · rw [List.map_append, hks, hls]
  · intro e he
    rcases List.mem_append.mp he with he | he
    · exact hbefore e he
    · exact (hbefore' e he).trans h.state

theorem World.adds_record (w : World κ σ) (k : κ) (n : Nat) :
    w.Adds [k] (w.record k n w.state) :=
  ⟨rfl, [⟨k, w.clock, w.state⟩], rfl, rfl, by simp⟩

/-- A loop over commands that must succeed: all of them do, or the script ends at one that
does not. -/
theorem wp_each_check (k : ι → κ) (xs : List ι) :
    wp env (each xs fun x => check (k x) (id : σ → σ))
      (fun _ w' => w.Adds (xs.map k) w' ∧ ∀ x ∈ xs, (env (k x)).ok = true)
      (fun _ w' => ∃ ys : List ι, w.Adds (ys.map k) w' ∧ ∃ x ∈ xs, (env (k x)).ok = false) w := by
  induction xs generalizing w with
  | nil => exact ⟨.refl w, by simp⟩
  | cons x xs ih =>
      have hfirst := w.adds_record (k x) (env (k x)).secs
      rw [each, wp_bind, wp_check]
      split
      · rename_i hx
        refine wp_mono ih (fun _ v hv => ?_) (fun _ v hv => ?_)
        · obtain ⟨hadds, hok⟩ := hv
          exact ⟨hfirst.trans hadds, List.forall_mem_cons.mpr ⟨hx, hok⟩⟩
        · obtain ⟨ys, hadds, y, hy, hno⟩ := hv
          exact ⟨x :: ys, hfirst.trans hadds, y, List.mem_cons_of_mem x hy, hno⟩
      · rename_i hx
        exact ⟨[x], hfirst, x, List.mem_cons_self, by simpa using hx⟩

/-- A loop over commands whose failure is only reported. -/
theorem wp_each_tolerate (k : ι → κ) (xs : List ι) :
    wp env (each xs fun x => (tolerate (k x) : Script κ σ Unit))
      (fun _ w' => w.Adds (xs.map k) w') E w := by
  induction xs generalizing w with
  | nil => exact .refl w
  | cons x xs ih =>
      rw [each, wp_bind, wp_tolerate]
      exact wp_mono ih (fun _ v hv => (w.adds_record (k x) (env (k x)).secs).trans hv)
        (fun _ _ h => h)

/-! ## Histories -/

/-- One run of a job, under the replies that it gets. -/
structure Visit (J κ : Type) where
  job : J
  env : Env κ

section
variable {J : Type} {script : J → Script κ σ Unit}

def Visit.outcome (v : Visit J κ) (script : J → Script κ σ Unit) (s : σ) : Outcome κ σ Unit :=
  run v.env (script v.job) (World.boot s 0)

def Visit.after (v : Visit J κ) (script : J → Script κ σ Unit) (s : σ) : σ :=
  (v.outcome script s).world.state

/-- Runs one after the other, each of which may end anywhere. -/
def replay (script : J → Script κ σ Unit) (s : σ) (vs : List (Visit J κ)) : σ :=
  vs.foldl (fun s v => v.after script s) s

theorem replay_cons (s : σ) (v : Visit J κ) (vs : List (Visit J κ)) :
    replay script s (v :: vs) = replay script (v.after script s) vs := rfl

theorem replay_append (s : σ) (us vs : List (Visit J κ)) :
    replay script s (us ++ vs) = replay script (replay script s us) vs := List.foldl_append

/-- A history goes where each of its runs goes. -/
theorem replay_relates {R : σ → σ → Prop} (hrefl : ∀ s, R s s)
    (htrans : ∀ {s t u}, R s t → R t u → R s u) {vs : List (Visit J κ)}
    (hstep : ∀ v ∈ vs, ∀ s, R s (v.after script s)) (s : σ) : R s (replay script s vs) := by
  induction vs generalizing s with
  | nil => exact hrefl s
  | cons v vs ih =>
      obtain ⟨hv, hvs⟩ := List.forall_mem_cons.mp hstep
      rw [replay_cons]
      exact htrans (hv s) (ih hvs _)

end

/-! ## Time -/

/-- The seconds that the commands of a run take. -/
def worked (env : Env κ) : Script κ σ α → World κ σ → Nat
  | .done _, _ | .exit _, _ | .hang, _ => 0
  | .issue k e next, w =>
      (env k).secs + worked env (next (env k))
        (w.record k (env k).secs (if (env k).ok then e w.state else w.state))
  | .look next, w => worked env (next w.state) w
  | .date k next, w => worked env (next w.clock) (w.record k 0 w.state)
  | .sleep n next, w => worked env next (w.pass n)

/-- The seconds that a run sleeps. -/
def slept (env : Env κ) : Script κ σ α → World κ σ → Nat
  | .done _, _ | .exit _, _ | .hang, _ => 0
  | .issue k e next, w =>
      slept env (next (env k))
        (w.record k (env k).secs (if (env k).ok then e w.state else w.state))
  | .look next, w => slept env (next w.state) w
  | .date k next, w => slept env (next w.clock) (w.record k 0 w.state)
  | .sleep n next, w => n + slept env next (w.pass n)

theorem run_clock (env : Env κ) (p : Script κ σ α) (w : World κ σ) :
    (run env p w).world.clock = w.clock + worked env p w + slept env p w := by
  induction p generalizing w with
  | done a => rfl
  | exit s => rfl
  | hang => rfl
  | issue k e next ih =>
      simp only [run, worked, slept, ih, record_clock]
      omega
  | look next ih => exact ih w.state w
  | date k next ih => exact ih w.clock _
  | sleep n next ih =>
      simp only [run, worked, slept, ih, pass_clock]
      omega

theorem slept_bind (env : Env κ) (p : Script κ σ α) (f : α → Script κ σ β) (w : World κ σ) :
    slept env (p >>= f) w = slept env p w + match run env p w with
      | .done a w' => slept env (f a) w'
      | .exit _ _ | .hang _ => 0 := by
  induction p generalizing w with
  | done a => exact (Nat.zero_add _).symm
  | exit s => rfl
  | hang => rfl
  | issue k e next ih => exact ih (env k) _
  | look next ih => exact ih w.state w
  | date k next ih => exact ih w.clock _
  | sleep n next ih =>
      rw [slept, Nat.add_assoc]
      exact congrArg (n + ·) (ih _)

/-- Nothing is slept after `limit`: from any moment on, no more than is left until then. -/
def SleepsBy (env : Env κ) (limit : Nat) (p : Script κ σ α) : Prop :=
  ∀ w, slept env p w ≤ limit - w.clock

section SleepsBy
variable {limit : Nat}

theorem SleepsBy.mono {limit' : Nat} (h : SleepsBy env limit p) (hl : limit ≤ limit') :
    SleepsBy env limit' p := fun w => (h w).trans (Nat.sub_le_sub_right hl _)

theorem SleepsBy.bind (h : SleepsBy env limit p) (hf : ∀ a, SleepsBy env limit (f a)) :
    SleepsBy env limit (p >>= f) := by
  intro w
  have hp := h w
  have hclock := run_clock env p w
  rw [slept_bind]
  cases hr : run env p w with
  | done a w' =>
      rw [hr] at hclock
      have hrest := hf a w'
      simp only [Outcome.world] at hclock ⊢
      omega
  | exit s w' => exact hp
  | hang w' => exact hp

theorem sleepsBy_pure (a : α) : SleepsBy env limit (pure a : Script κ σ α) := fun _ => Nat.zero_le _

theorem sleepsBy_quit (s : Nat) : SleepsBy env limit (quit s : Script κ σ α) :=
  fun _ => Nat.zero_le _

theorem sleepsBy_query (k : κ) : SleepsBy env limit (query k : Script κ σ Reply) :=
  fun _ => Nat.zero_le _

theorem sleepsBy_tolerate (k : κ) : SleepsBy env limit (tolerate k : Script κ σ Unit) :=
  fun _ => Nat.zero_le _

theorem sleepsBy_state : SleepsBy env limit (state : Script κ σ σ) := fun _ => Nat.zero_le _

theorem sleepsBy_check (k : κ) (e : σ → σ) : SleepsBy env limit (check k e) := by
  intro w
  simp only [check, slept]
  split <;> exact Nat.zero_le _

theorem sleepsBy_capture (k : κ) : SleepsBy env limit (capture k : Script κ σ Reply) := by
  intro w
  simp only [capture, slept]
  split <;> exact Nat.zero_le _

theorem sleepsBy_when {c : Bool} {p : Script κ σ Unit} (h : SleepsBy env limit p) :
    SleepsBy env limit (when c p) := by
  cases c
  · exact sleepsBy_pure ()
  · exact h

theorem sleepsBy_each {g : ι → Script κ σ Unit} (h : ∀ x, SleepsBy env limit (g x)) (xs : List ι) :
    SleepsBy env limit (each xs g) := by
  induction xs with
  | nil => exact sleepsBy_pure ()
  | cons x xs ih => exact (h x).bind fun _ => ih

/-- The last pause of a wait loop starts by its deadline. -/
theorem sleepsBy_waitUntil {timeout deadline pause : Nat} {tick : Nat → κ}
    {body : Nat → Script κ σ (Option α)} (hl : deadline + pause ≤ limit)
    (hb : ∀ i, SleepsBy env limit (body i)) :
    SleepsBy env limit (waitUntil timeout deadline pause tick body) := by
  suffices ∀ fuel i, SleepsBy env limit (waitFrom deadline pause tick body fuel i) from this _ _
  intro fuel
  induction fuel with
  | zero => exact fun i w => Nat.zero_le _
  | succ fuel ih =>
      intro i
      refine (hb i).bind fun r => ?_
      cases r with
      | some a => exact sleepsBy_pure _
      | none =>
          intro w
          have hrest := ih (i + 1) ((w.record (tick i) 0 w.state).pass pause)
          simp only [pass_clock, record_clock] at hrest
          have hnow : slept env (now (tick i) >>= fun t => if deadline < t then pure none
              else .sleep pause (waitFrom deadline pause tick body fuel (i + 1))) w =
              slept env (if deadline < w.clock then pure none
                else .sleep pause (waitFrom deadline pause tick body fuel (i + 1)))
                (w.record (tick i) 0 w.state) := rfl
          simp only [hnow]
          split
          · exact Nat.zero_le _
          · simp only [slept]
            omega

end SleepsBy

/-- Every run sleeps `n` seconds at most. -/
def Idles (env : Env κ) (n : Nat) (p : Script κ σ α) : Prop := ∀ w, slept env p w ≤ n

theorem SleepsBy.idles (h : SleepsBy env 0 p) : Idles env 0 p :=
  fun w => (h w).trans (Nat.zero_sub _).le

theorem Idles.bind {m n : Nat} (h : Idles env m p) (hf : ∀ a, Idles env n (f a)) :
    Idles env (m + n) (p >>= f) := by
  intro w
  rw [slept_bind]
  refine Nat.add_le_add (h w) ?_
  cases run env p w with
  | done a w' => exact hf a w'
  | exit s w' => exact Nat.zero_le n
  | hang w' => exact Nat.zero_le n

theorem SleepsBy.bind_idles {n : Nat} (h : SleepsBy env 0 p) (hf : ∀ a, Idles env n (f a)) :
    Idles env n (p >>= f) := by
  have hsum := h.idles.bind hf
  rwa [Nat.zero_add] at hsum

theorem idles_when {n : Nat} {c : Bool} {p : Script κ σ Unit} (h : Idles env n p) :
    Idles env n (when c p) := by
  cases c
  · exact fun _ => Nat.zero_le n
  · exact h

/-- A limit that is set from the time of day. -/
theorem idles_now {n : Nat} {k : κ} {f : Nat → Script κ σ α}
    (h : ∀ t, SleepsBy env (t + n) (f t)) : Idles env n (now k >>= f) := by
  intro w
  have hslept := h w.clock (w.record k 0 w.state)
  rw [record_clock, Nat.add_zero, Nat.add_sub_cancel_left] at hslept
  exact hslept

end Script
