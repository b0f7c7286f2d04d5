import Descent.Grammar.Run
import Descent.Proofs.Session

/-!
# Hooks

What the hooks of a grammar may do is said by a predicate on scripts. No
script at all changes the source or the frames.
-/
namespace Descent

variable {V C : Type}

namespace Action

/-- What a hook is for: a value, feedback, or a rejection. -/
def Modest : Action V → Prop
  | setValue _ | note .. | reject _ => True
  | _ => False

def IsNote : Action V → Prop
  | note .. => True
  | _ => False

@[simp] theorem perform_source (a : Action V) (s : Session V) :
    (a.perform s).source = s.source := by
  cases a <;> simp [perform, Session.rewind]

@[simp] theorem perform_frames (a : Action V) (s : Session V) :
    (a.perform s).frames = s.frames := by
  cases a <;> simp [perform, Session.rewind]

end Action

namespace Script

/-- Every action that the script can come to satisfies `P`. -/
def ActsBy (P : Action V → Prop) : Script V C → Prop
  | done => True
  | act action next => P action ∧ next.ActsBy P
  | setContext _ next => next.ActsBy P
  | look next => ∀ v c, (next v c).ActsBy P
  | locate _ next => ∀ l, (next l).ActsBy P
  | report next => ∀ r, (next r).ActsBy P

/-- The script sets values, adds feedback and rejects, but does nothing else to the session. -/
abbrev Modest (script : Script V C) : Prop := script.ActsBy Action.Modest

/-- The actions that the script comes to in a session, in their order. -/
def actions : Script V C → Session V → C → List (Action V)
  | done, _, _ => []
  | act action next, s, c => action :: next.actions (action.perform s) c
  | setContext c next, s, _ => next.actions s c
  | look next, s, c => (next s.view c).actions s c
  | locate offset next, s, c => (next (s.locate offset).1).actions (s.locate offset).2 c
  | report next, s, c => (next s.report).actions s c

/-- The script looks at nothing but the result, the results of the children and the context. -/
def Local : Script V C → Prop
  | done => True
  | act _ next => next.Local
  | setContext _ next => next.Local
  | look next =>
    (∀ v v' c, v.result = v'.result → v.subResults = v'.subResults → next v c = next v' c) ∧
      ∀ v c, (next v c).Local
  | locate .. | report _ => False

section Run

variable (s : Session V) (c : C)

@[simp] theorem run_done : (done : Script V C).run s c = (s, c) := rfl
@[simp] theorem run_act (action : Action V) (next : Script V C) :
    (act action next).run s c = next.run (action.perform s) c := rfl
@[simp] theorem run_setContext (c' : C) (next : Script V C) :
    (setContext c' next).run s c = next.run s c' := rfl
@[simp] theorem run_look (next : View V → C → Script V C) :
    (look next).run s c = (next s.view c).run s c := rfl
@[simp] theorem run_locate (offset : Nat) (next : Location → Script V C) :
    (locate offset next).run s c = (next (s.locate offset).1).run (s.locate offset).2 c := rfl
@[simp] theorem run_report (next : Report → Script V C) :
    (report next).run s c = (next s.report).run s c := rfl

end Run

theorem run_source_frames (script : Script V C) (s : Session V) (c : C) :
    (script.run s c).1.source = s.source ∧ (script.run s c).1.frames = s.frames := by
  induction script generalizing s c with
  | done => exact ⟨rfl, rfl⟩
  | act action next ih =>
    have h := ih (action.perform s) c
    rwa [Action.perform_source, Action.perform_frames] at h
  | setContext c next ih => exact ih s _
  | look next ih => exact ih _ _ s c
  | locate offset next ih =>
    have h := ih (s.locate offset).1 (s.locate offset).2 c
    rwa [Session.locate_source, Session.locate_frames] at h
  | report next ih => exact ih _ s c

@[simp] theorem run_source (script : Script V C) (s : Session V) (c : C) :
    (script.run s c).1.source = s.source := (script.run_source_frames s c).1

@[simp] theorem run_frames (script : Script V C) (s : Session V) (c : C) :
    (script.run s c).1.frames = s.frames := (script.run_source_frames s c).2

end Script

/-- A grammar without scripts in the place of parsers, all of whose hooks satisfy `P`. -/
inductive Grammar.HookedBy (P : Script V C → Prop) : Grammar V C → Prop
  | primitive (p : Primitive) (hook : Script V C) (hp : P hook) : HookedBy P (.primitive p hook)
  | all (subs : List (Grammar V C)) (hook : Script V C) (hs : ∀ g ∈ subs, HookedBy P g)
      (hp : P hook) : HookedBy P (.all subs hook)
  | any (subs : List (Grammar V C)) (hook : Script V C) (hs : ∀ g ∈ subs, HookedBy P g)
      (hp : P hook) : HookedBy P (.any subs hook)
  | best (subs : List (Grammar V C)) (hook : Script V C) (hs : ∀ g ∈ subs, HookedBy P g)
      (hp : P hook) : HookedBy P (.best subs hook)
  | optional (sub : Grammar V C) (hook : Script V C) (hs : HookedBy P sub) (hp : P hook) :
      HookedBy P (.optional sub hook)
  | repeated (sub : Grammar V C) (min : Nat) (max : Option Nat) (hook : Script V C)
      (hs : HookedBy P sub) (hp : P hook) : HookedBy P (.repeated sub min max hook)
  | reference (cell : Nat) (owning : Bool) : HookedBy P (.reference cell owning)

/-- Every grammar that is bound to a cell is hooked by `P`. -/
def HookedEnv (P : Script V C → Prop) (env : Env V C) : Prop :=
  ∀ cell g, env cell = .bound g → g.HookedBy P

theorem Grammar.HookedBy.mono {P Q : Script V C → Prop} (hPQ : ∀ hook, P hook → Q hook)
    {g : Grammar V C} (h : g.HookedBy P) : g.HookedBy Q := by
  induction h with
  | primitive p hook hp => exact .primitive p hook (hPQ _ hp)
  | all subs hook _ hp ih => exact .all subs hook ih (hPQ _ hp)
  | any subs hook _ hp ih => exact .any subs hook ih (hPQ _ hp)
  | best subs hook _ hp ih => exact .best subs hook ih (hPQ _ hp)
  | optional sub hook _ hp ih => exact .optional sub hook ih (hPQ _ hp)
  | repeated sub min max hook _ hp ih => exact .repeated sub min max hook ih (hPQ _ hp)
  | reference cell owning => exact .reference cell owning

end Descent
