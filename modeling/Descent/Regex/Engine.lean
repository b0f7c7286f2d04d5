import Descent.Regex.Reader
import Descent.Regex.Search

/-!
# Engines

An engine compiles the text of a pattern, or refuses it. How it searches is its
own affair: all that a parser asks of a compiled expression is what it finds in
a text. Engines differ in the properties of characters that they know and in
how large an expression may be, so everything that is made from patterns takes
the engine as an argument; the readers and the search of this library are one.
-/
namespace Descent

/-- A compiled expression. -/
structure Matcher where
  /-- Start and end, in bytes, of the match in a text. -/
  find : List Char → Option (Nat × Nat)
  stop_boundary : ∀ cs start stop, find cs = some (start, stop) → IsBoundary stop cs

/-- How patterns are compiled; `none` refuses one. -/
abbrev Engine := String → Option Matcher

def Regex.matcher (r : Regex) : Matcher := ⟨r.find, r.find_isBoundary⟩

@[simp] theorem Regex.matcher_find (r : Regex) : r.matcher.find = r.find := rfl

/-- The engine of this library. -/
def Engine.standard : Engine := fun text => (Regex.ofPattern? text).map Regex.matcher

end Descent
