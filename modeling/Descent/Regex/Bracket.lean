import Descent.Regex.Atom

/-!
# Bracketed classes

Classes such as `[a-z&&[^aeiou]]`: ranges, escapes, named ASCII classes and
nested classes, joined by intersection, difference and symmetric difference
from left to right.
-/
namespace Descent

namespace Pattern

/-- A set with the depth to which its text nests. -/
structure Part where
  set : CharSet
  height : Nat := 0

def Part.unionAll : List Part → Part
  | [] => ⟨.empty, 0⟩
  | [p] => p
  | ps => ⟨ps.foldl (fun a p => .union a p.set) .empty, ps.foldl (fun h p => max h p.height) 0 + 1⟩

inductive SetOp where
  | inter | diff | symmDiff

def SetOp.apply : SetOp → CharSet → CharSet → CharSet
  | inter => .inter
  | diff => .diff
  | symmDiff => .symmDiff

/-- What is still to be done when the current class, or the current operand, is complete. -/
inductive Pending where
  | opened (outer : List Part) (negated : Bool)
  | operand (op : SetOp) (left : Part)

/-- Joins an operand with the one to its left, if there is one. -/
def joinOperand? (flags : Flags) (right : Part) : List Pending → Option (Part × List Pending)
  | .operand op left :: stack => do
    let a ← flags.close? false left.set
    let b ← flags.close? false right.set
    return (⟨op.apply a b, max left.height right.height + 1⟩, stack)
  | stack => some (right, stack)

/-- The classes that are named in ASCII only. -/
def asciiClass? : String → Option CharSet
  | "alnum" => some (.ofRanges [('0', '9'), ('A', 'Z'), ('a', 'z')])
  | "alpha" => some (.ofRanges [('A', 'Z'), ('a', 'z')])
  | "ascii" => some (.ofRanges [('\x00', '\x7f')])
  | "blank" => some (.ofRanges [('\t', '\t'), (' ', ' ')])
  | "cntrl" => some (.ofRanges [('\x00', '\x1f'), ('\x7f', '\x7f')])
  | "digit" => some asciiDigit
  | "graph" => some (.ofRanges [('!', '~')])
  | "lower" => some (.ofRanges [('a', 'z')])
  | "print" => some (.ofRanges [(' ', '~')])
  | "punct" => some (.ofRanges [('!', '/'), (':', '@'), ('[', '\x60'), ('\x7b', '~')])
  | "space" => some asciiSpace
  | "upper" => some (.ofRanges [('A', 'Z')])
  | "word" => some asciiWord
  | "xdigit" => some (.ofRanges [('0', '9'), ('A', 'F'), ('a', 'f')])
  | _ => none

/-- After the colon of a named class, and the caret that denies it. -/
def readClassName (negated : Bool) (cs : List Char) : Option (CharSet × Bool × List Char) := do
  let (name, rest) ← splitAt? [':'] cs
  match rest with
  | ']' :: rest => (asciiClass? (String.ofList name)).map (·, negated, rest)
  | _ => none

/-- After an opening bracket: a named class such as `:alpha:]`, if it is one. -/
def readAsciiClass? : List Char → Option (CharSet × Bool × List Char)
  | ':' :: '^' :: cs => readClassName true cs
  | ':' :: cs => readClassName false cs
  | _ => none

def readItem (flags : Flags) : List Char → Option (Atom × List Char)
  | [] => none
  | '\\' :: cs => readEscape flags cs
  | c :: cs => some (.char c false, cs)

def Atom.char? (flags : Flags) : Atom → Option Char
  | .char c _ => if flags.unicode || c.toNat < 128 then some c else none
  | _ => none

/-- The set of an item of a class. -/
def Atom.item? (flags : Flags) (atom : Atom) : Option CharSet :=
  match atom with
  | .set s => some s
  | _ => (atom.char? flags).map .single

/-- A hyphen before `]` or another hyphen makes no range. -/
def StandsAlone (after : List Char) : Prop := after.head? = some ']' ∨ after.head? = some '-'

instance (after : List Char) : Decidable (StandsAlone after) :=
  inferInstanceAs (Decidable (_ ∨ _))

/-- After the hyphen of a range. -/
def readLast (flags : Flags) (first : Atom) (cs : List Char) : Option (CharSet × List Char) := do
  let (last, rest) ← readItem flags cs
  let lo ← first.char? flags
  let hi ← last.char? flags
  if hi < lo then none else return (.range lo.toNat hi.toNat, rest)

/-- After an item: the item, or the range from it if a hyphen follows. -/
def readRangeEnd (flags : Flags) (first : Atom) : List Char → Option (CharSet × List Char)
  | [] => none
  | '-' :: after =>
    if StandsAlone (flags.skip after) then (first.item? flags).map (·, '-' :: after)
    else readLast flags first (flags.skip after)
  | rest => (first.item? flags).map (·, rest)

def readRange (flags : Flags) (cs : List Char) : Option (CharSet × List Char) := do
  let (first, rest) ← readItem flags cs
  readRangeEnd flags first (flags.skip rest)

/-- After an opening bracket: whether the class is a complement, and the text of its items. -/
def readNegation (flags : Flags) (cs : List Char) : Bool × List Char :=
  branch ['^'] (Prod.mk true) (Prod.mk false) (flags.skip cs)

section Rounds

/-- Reads the rest of a class, given what is still to be done, the parts read so far and whether a
hyphen or a closing bracket would stand for itself. -/
abbrev ClassReader := List Pending → List Part → Bool → List Char → Option (Part × List Char)

variable (flags : Flags) (next : ClassReader) (stack : List Pending) (parts : List Part)

/-- After the operator between two operands. -/
def readOperator (op : SetOp) (rest : List Char) : Option (Part × List Char) := do
  let (left, stack) ← joinOperand? flags (Part.unionAll parts) stack
  next (.operand op left :: stack) [] false rest

def readMember (cs : List Char) : Option (Part × List Char) := do
  let (s, rest) ← readRange flags cs
  next stack (⟨s, 0⟩ :: parts) false rest

/-- After a closing bracket. -/
def readClosing (rest : List Char) : Option (Part × List Char) := do
  let (inner, stack) ← joinOperand? flags (Part.unionAll parts) stack
  match stack with
  | .opened outer negated :: stack =>
    let part : Part := ⟨← flags.close? negated inner.set, inner.height + 1⟩
    if stack.isEmpty then some (part, rest) else next stack (part :: outer) false rest
  | _ => none

/-- After an opening bracket. -/
def readBracket (rest : List Char) : Option (Part × List Char) :=
  match if stack.isEmpty then none else readAsciiClass? rest with
  | some (s, negated, rest) => do
    next stack (⟨← flags.close? negated s, 0⟩ :: parts) false rest
  | none =>
    let (negated, rest) := readNegation flags rest
    next (.opened parts negated :: stack) [] true rest

/-- After a hyphen that does not stand for itself. -/
def readHyphen : List Char → Option (Part × List Char) :=
  branch ['-'] (readOperator flags next stack parts .diff)
    fun rest => readMember flags next stack parts ('-' :: rest)

/-- Reads the next construct of a class. -/
def readRound (leading : Bool) : List Char → Option (Part × List Char)
  | [] => none
  | '[' :: rest => readBracket flags next stack parts rest
  | ']' :: rest =>
    if leading && parts.isEmpty then next stack [⟨.single ']', 0⟩] false rest
    else readClosing flags next stack parts rest
  | '&' :: '&' :: rest => readOperator flags next stack parts .inter rest
  | '~' :: '~' :: rest => readOperator flags next stack parts .symmDiff rest
  | '-' :: rest =>
    if leading then next stack (⟨.single '-', 0⟩ :: parts) true rest
    else readHyphen flags next stack parts rest
  | cs => readMember flags next stack parts cs

end Rounds

/-- Reads a class from its opening bracket on, with fuel for its constructs. -/
def readClassWith (flags : Flags) : Nat → ClassReader
  | 0 => fun _ _ _ _ => none
  | fuel + 1 => fun stack parts leading cs =>
    readRound flags (readClassWith flags fuel) stack parts leading (flags.skip cs)

/-- Reads a class; the text starts with its bracket. -/
def readClass (flags : Flags) (cs : List Char) : Option (Part × List Char) :=
  readClassWith flags (cs.length + 1) [] [] false cs

end Pattern

end Descent
