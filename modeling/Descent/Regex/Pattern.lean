import Descent.Regex.Basic

/-!
# Patterns

The tree that the text of a pattern spells: as a regular expression, but with
counted repetitions still in one piece, so that a pattern whose expansion would
be too large is refused before it is expanded.
-/
namespace Descent

inductive Pattern where
  | empty
  | set (s : CharSet)
  | look (l : Look)
  | cat (a b : Pattern)
  | alt (a b : Pattern)
  | repeats (a : Pattern) (min : Nat) (max : Option Nat) (greedy : Bool)
  deriving DecidableEq, Repr

/-- About the size in bytes of an automaton that reads a character of the set. -/
def CharSet.cost : CharSet → Nat
  | empty => 32
  | range _ hi => if hi < 128 then 40 else 200
  | property .word | property .alphabetic | property .anything => 24000
  | property _ => 8000
  | union a b | inter a b => a.cost + b.cost
  | compl a => a.cost + 400
  | anyCase a => 2 * a.cost

namespace Pattern

/-- About the size of the expanded pattern, as the engine of this library measures it. -/
def cost : Pattern → Nat
  | empty => 32
  | set s => s.cost
  | look _ => 32
  | cat a b => a.cost + b.cost
  | alt a b => a.cost + b.cost + 72
  | repeats a min none _ => (max min 1) * a.cost + 72
  | repeats a _ (some m) _ => m * (a.cost + 40) + 32

/-- The engine of this library refuses patterns that are larger; the limit is its own. -/
def maxCost : Nat := 10 * 1024 * 1024

def toRegex : Pattern → Regex
  | empty => .empty
  | set s => .set s
  | look l => .look l
  | cat a b => .cat a.toRegex b.toRegex
  | alt a b => .alt a.toRegex b.toRegex
  | repeats a 0 none greedy => a.toRegex.star greedy
  | repeats a (n + 1) none greedy => a.toRegex.times n (.plus a.toRegex greedy)
  | repeats a min (some m) greedy => a.toRegex.times min (a.toRegex.upTo greedy (m - min))

end Pattern

end Descent
