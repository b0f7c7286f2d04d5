import Descent.Regex.Bracket
import Descent.Regex.Pattern

/-!
# Reading patterns

A pattern is read from left to right with the open groups on a stack. Flags
set inside a group hold to its end. Look-around, back-references and patterns
that nest or expand too far are refused.
-/
namespace Descent

namespace Pattern

/-- A part of a sequence; flags stand in it too, but cannot be repeated. -/
structure Piece where
  pattern : Pattern
  height : Nat
  repeatable : Bool := true

/-- The alternatives and pieces read so far in a group, the last one first. -/
structure Level where
  alternatives : List Piece := []
  pieces : List Piece := []

def sequence : List Piece → Piece
  | [] => ⟨.empty, 0, true⟩
  | [p] => p
  | p :: ps =>
    { pattern := ps.foldl (fun a q => .cat q.pattern a) p.pattern
      height := ps.foldl (fun h q => max h q.height) p.height + 1 }

def Level.finish (level : Level) : Piece :=
  let last := sequence level.pieces
  if level.alternatives.isEmpty then last
  else
    { pattern := level.alternatives.foldl (fun a q => .alt q.pattern a) last.pattern
      height := level.alternatives.foldl (fun h q => max h q.height) last.height + 1 }

def Level.push (piece : Piece) (level : Level) : Level :=
  { level with pieces := piece :: level.pieces }

def Level.nextAlternative (level : Level) : Level :=
  { alternatives := sequence level.pieces :: level.alternatives }

/-- What is known in the middle of a pattern. -/
structure Progress where
  level : Level := {}
  outer : List (Level × Flags) := []
  flags : Flags := {}
  names : List (List Char) := []

def Progress.push (p : Progress) (pattern : Pattern) (height : Nat) : Progress :=
  { p with level := p.level.push ⟨pattern, height, true⟩ }

/-- A flag, or the hyphen. -/
def flagItem (c : Char) : Option Char := if c = '-' then none else some c

/-- The flags in a group's head, a hyphen as `none`, with the character that ends them. -/
def readFlagItems (items : List (Option Char)) :
    List Char → Option (List (Option Char) × Char × List Char)
  | [] => none
  | c :: cs =>
    if c = ':' ∨ c = ')' then
      if items.getLast? = some none then none else some (items, c, cs)
    else if items.contains (flagItem c) then none
    else if (flagItem c).isNone || "imsUuRx".toList.contains c then
      readFlagItems (items ++ [flagItem c]) cs
    else none

def Flags.set (flags : Flags) (on : Bool) : Char → Flags
  | 'i' => { flags with ignoreCase := on }
  | 'm' => { flags with multiLine := on }
  | 's' => { flags with dotNewline := on }
  | 'U' => { flags with swapGreed := on }
  | 'u' => { flags with unicode := on }
  | 'R' => { flags with anyLineEnd := on }
  | 'x' => { flags with verbose := on }
  | _ => flags

/-- Sets the flags before the hyphen and clears those after it. -/
def Flags.apply (flags : Flags) (on : Bool) : List (Option Char) → Flags
  | [] => flags
  | none :: items => flags.apply false items
  | some c :: items => (flags.set on c).apply on items

def isNameStart (c : Char) : Bool := c == '_' || isAlphabetic c

def isNameChar (c : Char) : Bool :=
  isNameStart c || isNumeric c || c == '.' || c == '[' || c == ']'

/-- The name of a group, up to the closing angle bracket. -/
def readGroupName (cs : List Char) : Option (List Char × List Char) :=
  match splitAt? ['>'] cs with
  | some (c :: name, rest) =>
    if isNameStart c && name.all isNameChar then some (c :: name, rest) else none
  | _ => none

def Progress.openGroup (p : Progress) (flags : Flags) : Progress :=
  { p with level := {}, outer := (p.level, p.flags) :: p.outer, flags }

def Progress.openNamed (p : Progress) (cs : List Char) : Option (Progress × List Char) := do
  let (name, rest) ← readGroupName cs
  if p.names.contains name then none
  return ({ p.openGroup p.flags with names := name :: p.names }, rest)

/-- After `(?`, where flags stand. They hold in the group that they open, or from here on. -/
def Progress.readFlags (p : Progress) (cs : List Char) : Option (Progress × List Char) := do
  let (items, stop, rest) ← readFlagItems [] cs
  let flags := p.flags.apply true items
  if stop = ':' then return (p.openGroup flags, rest)
  else if items.isEmpty then none
  else return ({ p with flags, level := p.level.push ⟨.empty, 0, false⟩ }, rest)

/-- After `(?`. Look-around is refused, as `=` and `!` are no flags and begin no name. -/
def Progress.readExtension (p : Progress) : List Char → Option (Progress × List Char) :=
  branch ['<'] p.openNamed (branch ['P', '<'] p.openNamed p.readFlags)

/-- After an opening parenthesis. -/
def Progress.readOpening (p : Progress) (cs : List Char) : Option (Progress × List Char) :=
  branch ['?'] p.readExtension (fun cs => some (p.openGroup p.flags, cs)) (p.flags.skip cs)

/-- At a closing parenthesis. -/
def Progress.closeGroup (p : Progress) : Option Progress :=
  match p.outer with
  | [] => none
  | (level, flags) :: outer =>
    let inner := p.level.finish
    some { p with level := level.push ⟨inner.pattern, inner.height + 1, true⟩, outer, flags }

/-- Replaces the last piece by its repetition. -/
def Progress.repeatLast (p : Progress) (min : Nat) (max : Option Nat) (greedy : Bool) :
    Option Progress :=
  match p.level.pieces with
  | piece :: pieces =>
    if piece.repeatable then
      let pattern := .repeats piece.pattern min max (greedy != p.flags.swapGreed)
      some { p with level.pieces := ⟨pattern, piece.height + 1, true⟩ :: pieces }
    else none
  | [] => none

/-- A question mark makes a repetition take as few rounds as it can. -/
def readGreed : List Char → Bool × List Char := branch ['?'] (Prod.mk false) (Prod.mk true)

/-- The digits at the front of a text, with blanks between them; `value` is the number so far. -/
def readDigits (flags : Flags) : Nat → Option Nat → List Char → Option (Option Nat × List Char)
  | 0, _, _ => none
  | _ + 1, value, [] => some (value, [])
  | fuel + 1, value, c :: rest =>
    if c.isDigit then
      readDigits flags fuel (some (value.getD 0 * 10 + (c.toNat - '0'.toNat))) (flags.skip rest)
    else some (value, c :: rest)

/-- A number of at most thirty-two bits with blanks around it. -/
def readDecimal (flags : Flags) (cs : List Char) : Option (Nat × List Char) := do
  let cs := cs.dropWhile isBlank
  let (value, rest) ← readDigits flags (cs.length + 1) none cs
  let n ← value
  if n < UInt32.size then some (n, flags.skip (rest.dropWhile isBlank)) else none

/-- The numbers of rounds in braces: the least one, and the greatest one if there is one. -/
abbrev Counts := Nat × Option Nat

/-- The closing brace of a repetition. -/
def closeCounts (counts : Counts) : List Char → Option (Counts × List Char) :=
  branch ['\x7d'] (fun rest => some (counts, rest)) fun _ => none

/-- The greatest number of rounds, which is not less than `min`. -/
def readMax (flags : Flags) (min : Nat) (cs : List Char) : Option (Counts × List Char) := do
  let (max, rest) ← readDecimal flags cs
  if min ≤ max then closeCounts (min, some max) rest else none

/-- After the comma in the braces of a repetition of at least `min` rounds. -/
def readUpper (flags : Flags) (min : Nat) (cs : List Char) : Option (Counts × List Char) :=
  branch ['\x7d'] (fun rest => some ((min, none), rest)) (readMax flags min) (flags.skip cs)

/-- After an opening brace. -/
def readCounts (flags : Flags) (cs : List Char) : Option (Counts × List Char) := do
  let (min, rest) ← readDecimal flags (flags.skip cs)
  branch [','] (readUpper flags min) (closeCounts (min, some min)) rest

def Progress.pushAtom (p : Progress) : Atom → Option Progress
  | .char c byte => (charSet? p.flags c byte).map fun s => p.push (.set s) 0
  | .set s => some (p.push (.set s) 0)
  | .look l => some (p.push (.look l) 0)

/-- Reads one construct at the front of a text that is not empty. -/
def Progress.step (p : Progress) : List Char → Option (Progress × List Char)
  | [] => none
  | '(' :: cs => p.readOpening cs
  | ')' :: cs => p.closeGroup.map (·, cs)
  | '|' :: cs => some ({ p with level := p.level.nextAlternative }, cs)
  | '[' :: cs => do
    let (part, rest) ← readClass p.flags ('[' :: cs)
    return (p.push (.set part.set) part.height, rest)
  | '?' :: cs => let (greedy, rest) := readGreed cs; (p.repeatLast 0 (some 1) greedy).map (·, rest)
  | '*' :: cs => let (greedy, rest) := readGreed cs; (p.repeatLast 0 none greedy).map (·, rest)
  | '+' :: cs => let (greedy, rest) := readGreed cs; (p.repeatLast 1 none greedy).map (·, rest)
  | '\x7b' :: cs => do
    let ((min, max), rest) ← readCounts p.flags cs
    let (greedy, rest) := readGreed (p.flags.skip rest)
    (p.repeatLast min max greedy).map (·, rest)
  | '\\' :: cs => do
    let (atom, rest) ← readEscape p.flags cs
    (p.pushAtom atom).map (·, rest)
  | '.' :: cs => (dot? p.flags).map fun s => (p.push (.set s) 0, cs)
  | '^' :: cs => some (p.push (.look (startLook p.flags)) 0, cs)
  | '$' :: cs => some (p.push (.look (endLook p.flags)) 0, cs)
  | c :: cs => (p.pushAtom (.char c false)).map (·, cs)

/-- Every construct takes at least one character, so the length of the text is fuel enough. -/
def Progress.run (fuel : Nat) (p : Progress) (cs : List Char) : Option Piece :=
  match fuel, p.flags.skip cs with
  | _, [] => if p.outer.isEmpty then some p.level.finish else none
  | 0, _ => none
  | fuel + 1, cs => do
    let (p, rest) ← p.step cs
    p.run fuel rest

/-- How deep the text of a pattern may nest. -/
def maxHeight : Nat := 250

def parse? (text : String) : Option Pattern := do
  let cs := text.toList
  let piece ← Progress.run cs.length {} cs
  if piece.height ≤ maxHeight then some piece.pattern else none

end Pattern

/-- The expression that a pattern spells, unless it would grow too large. -/
def Regex.ofPattern? (text : String) : Option Regex := do
  let pattern ← Pattern.parse? text
  if pattern.cost ≤ Pattern.maxCost then some pattern.toRegex else none

end Descent
