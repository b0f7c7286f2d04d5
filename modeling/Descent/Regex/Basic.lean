import Descent.Regex.CharSet

/-!
# Regular expressions

A regular expression is read one character at a time. `heads` lists, in order
of preference, what it can do next: read a character and go on with the rest,
or stop. Repetitions distinguish their first round from the later ones, which
must not come back to where they began without reading.
-/
namespace Descent

/-- Conditions on the characters before and after a place. -/
inductive Look where
  | textStart | textEnd
  | lineStart | lineEnd
  /-- Line ends may also be a carriage return, alone or before a newline. -/
  | anyLineStart | anyLineEnd
  | wordBoundary (ascii : Bool) | noWordBoundary (ascii : Bool)
  | wordStart (ascii : Bool) | wordEnd (ascii : Bool)
  | noWordBefore (ascii : Bool) | noWordAfter (ascii : Bool)
  deriving DecidableEq, Repr

namespace Look

def isWord (ascii : Bool) (c : Option Char) : Bool :=
  match c with
  | none => false
  | some c => if ascii then c.isAlphanum || c == '_' else Property.word.contains c

def holds (before after : Option Char) : Look → Bool
  | textStart => before.isNone
  | textEnd => after.isNone
  | lineStart => before.isNone || before == some '\n'
  | lineEnd => after.isNone || after == some '\n'
  | anyLineStart =>
    before.isNone || before == some '\n' || (before == some '\r' && after != some '\n')
  | anyLineEnd =>
    after.isNone || after == some '\r' || (after == some '\n' && before != some '\r')
  | wordBoundary ascii => isWord ascii before != isWord ascii after
  | noWordBoundary ascii => isWord ascii before == isWord ascii after
  | wordStart ascii => !isWord ascii before && isWord ascii after
  | wordEnd ascii => isWord ascii before && !isWord ascii after
  | noWordBefore ascii => !isWord ascii before
  | noWordAfter ascii => !isWord ascii after

end Look

inductive Regex where
  | empty
  | set (s : CharSet)
  | look (l : Look)
  | cat (a b : Regex)
  | alt (a b : Regex)
  /-- One round or more. -/
  | plus (a : Regex) (greedy : Bool)
  /-- What is left of `plus` after a round. -/
  | loop (a : Regex) (greedy : Bool)
  deriving DecidableEq, Repr

/-- The next move: stop, or read a character of a set and go on with what is left. -/
inductive Head where
  | stop
  | read (s : CharSet) (rest : List Regex)
  deriving DecidableEq, Repr

namespace Head

def isRead : Head → Bool
  | stop => false
  | read .. => true

/-- Goes on with `rest` after a move. -/
def followedBy (rest : List Regex) : Head → Head
  | stop => stop
  | read s r => read s (r ++ rest)

/-- Puts other moves in the place of the first stop; later stops add nothing to it. -/
def continueWith (moves : Unit → List Head) (rest : List Regex) : List Head → List Head
  | [] => []
  | stop :: hs => moves () ++ (hs.filter isRead).map (followedBy rest)
  | read s r :: hs => read s (r ++ rest) :: continueWith moves rest hs

end Head

namespace Regex

/-- The possible moves between two characters, in order of preference. -/
def heads (before after : Option Char) : Regex → List Head
  | empty => [.stop]
  | set s => [.read s []]
  | look l => if l.holds before after then [.stop] else []
  | cat a b => Head.continueWith (fun _ => b.heads before after) [b] (a.heads before after)
  | alt a b =>
    Head.continueWith (fun _ => [.stop]) [] (a.heads before after ++ b.heads before after)
  | plus a greedy => Head.continueWith (fun _ => [.stop]) [loop a greedy] (a.heads before after)
  | loop a greedy =>
    let again := ((a.heads before after).filter Head.isRead).map (Head.followedBy [loop a greedy])
    if greedy then again ++ [.stop] else .stop :: again

def maybe (a : Regex) (greedy : Bool) : Regex := if greedy then alt a empty else alt empty a

def star (a : Regex) (greedy : Bool) : Regex := maybe (plus a greedy) greedy

/-- `n` rounds, then `rest`. -/
def times (a : Regex) : Nat → Regex → Regex
  | 0, rest => rest
  | n + 1, rest => cat a (times a n rest)

def upTo (a : Regex) (greedy : Bool) : Nat → Regex
  | 0 => empty
  | n + 1 => maybe (cat a (upTo a greedy n)) greedy

end Regex

end Descent
