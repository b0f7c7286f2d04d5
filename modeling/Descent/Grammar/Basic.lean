import Descent.Primitive.Basic
import Descent.Session.Script

/-!
# Grammars

A grammar is built from primitives by five combinators, and may refer to
parsers that are bound to cells later on, itself among them. Every primitive
and combinator carries a hook, a script that runs after each match; `done` is
the hook that does nothing.
-/
namespace Descent

inductive Grammar (V C : Type) where
  | primitive (p : Primitive) (hook : Script V C)
  /-- One after the other. -/
  | all (subs : List (Grammar V C)) (hook : Script V C)
  /-- The first that matches. -/
  | any (subs : List (Grammar V C)) (hook : Script V C)
  /-- The one that matches furthest. -/
  | best (subs : List (Grammar V C)) (hook : Script V C)
  | optional (sub : Grammar V C) (hook : Script V C)
  /-- As often as it matches, from `min` to `max` times. -/
  | repeated (sub : Grammar V C) (min : Nat) (max : Option Nat) (hook : Script V C)
  /-- The parser bound to a cell; an owning reference keeps the cell alive. -/
  | reference (cell : Nat) (owning : Bool)
  /-- A script in the place of a parser. -/
  | script (body : Script V C)

namespace Grammar

variable {V C : Type}

instance : Inhabited (Grammar V C) := ⟨.all [] .done⟩

def many0 (sub : Grammar V C) (hook : Script V C) : Grammar V C := repeated sub 0 none hook

def many1 (sub : Grammar V C) (hook : Script V C) : Grammar V C := repeated sub 1 none hook

/-- The grammar with another hook; references and scripts have none. -/
def withHook (hook : Script V C) : Grammar V C → Grammar V C
  | primitive p _ => primitive p hook
  | all subs _ => all subs hook
  | any subs _ => any subs hook
  | best subs _ => best subs hook
  | optional sub _ => optional sub hook
  | repeated sub min max _ => repeated sub min max hook
  | g => g

end Grammar

end Descent
