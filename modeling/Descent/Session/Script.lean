import Descent.Session.Report

/-!
# Scripts

A script is what user code may do with a session: a sequence of the public
operations, each of which may depend on what the session shows. Frames are
only counted, and neither they nor the line cache can be changed. `C` is the
type of the user's own context.
-/
namespace Descent

/-- What a session shows to a script. -/
structure View (V : Type) where
  source : Source
  cursor : Nat
  result : Result V
  subResults : List (Result V)
  depth : Nat

namespace View

variable {V : Type}

def rest (v : View V) : List Char := v.source.restFrom v.cursor

end View

def Session.view {V : Type} (s : Session V) : View V :=
  { source := s.source, cursor := s.cursor, result := s.result, subResults := s.subResults,
    depth := s.depth }

/-- One operation on a session. -/
inductive Action (V : Type) where
  | moveTo (offset : Nat)
  | rewind (offset : Option Nat)
  | matched (n : Nat)
  | unmatched (delta : Nat) (message : String) (cause : Option String)
  | note (kind : Feedback.Kind) (offset : Nat) (message : String) (cause : Option String)
  | reject (message : String)
  | setValue (value : Value V)
  | setResult (result : Result V)
  | setSubResults (results : List (Result V))

def Action.perform {V : Type} : Action V → Session V → Session V
  | moveTo offset, s => s.moveTo offset
  | rewind offset, s => s.rewind offset
  | matched n, s => s.matched n
  | unmatched delta message cause, s => s.unmatched delta message cause
  | note kind offset message cause, s => s.note kind offset message cause
  | reject message, s => s.reject message
  | setValue value, s => { s with result.value := value }
  | setResult result, s => { s with result }
  | setSubResults results, s => { s with subResults := results }

inductive Script (V C : Type) where
  | done
  | act (action : Action V) (next : Script V C)
  | setContext (context : C) (next : Script V C)
  | look (next : View V → C → Script V C)
  | locate (offset : Nat) (next : Location → Script V C)
  | report (next : Report → Script V C)

namespace Script

variable {V C : Type}

instance : Inhabited (Script V C) := ⟨.done⟩

def run : Script V C → Session V → C → Session V × C
  | done, s, c => (s, c)
  | act action next, s, c => next.run (action.perform s) c
  | setContext c next, s, _ => next.run s c
  | look next, s, c => (next s.view c).run s c
  | locate offset next, s, c =>
    let (location, s) := s.locate offset
    (next location).run s c
  | report next, s, c => (next s.report).run s c

/-- One script after the other. -/
def append : Script V C → Script V C → Script V C
  | done, after => after
  | act action next, after => act action (next.append after)
  | setContext c next, after => setContext c (next.append after)
  | look next, after => look fun v c => (next v c).append after
  | locate offset next, after => locate offset fun l => (next l).append after
  | report next, after => report fun r => (next r).append after

instance : Append (Script V C) := ⟨append⟩

@[simp] theorem done_append (after : Script V C) : done ++ after = after := rfl

/-- Changes the context by what the session shows. -/
def update (f : View V → C → C) : Script V C := look fun v c => setContext (f v c) done

end Script

end Descent
