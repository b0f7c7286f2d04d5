import Descent.Text.Bytes

/-!
# Locations

A location names a byte offset the way a reader finds it: line, byte column
and the text of the line. Lines end at newlines, and a newline belongs to the
line it ends. Offsets past the end stand for the end.
-/
namespace Descent

/-- Line and column count from one; the column counts bytes. -/
structure Location where
  line : Nat
  column : Nat
  lineText : String
  deriving DecidableEq, Repr

/-- Offsets of the newlines of a text that starts at offset `start`. -/
def newlineOffsets (start : Nat) : List Char → List Nat
  | [] => []
  | c :: cs =>
    let rest := newlineOffsets (start + c.utf8Size) cs
    if c = '\n' then start :: rest else rest

/-- The text up to its first newline. -/
def firstLine (cs : List Char) : List Char := cs.takeWhile (· ≠ '\n')

/-- Finds an offset by listing the newlines before it. -/
def Location.ofOffset (content : List Char) (offset : Nat) : Location :=
  let offset := min offset (byteLength content)
  let ended := (newlineOffsets 0 content).filter (· < offset)
  let start := (ended.getLast?.map (· + 1)).getD 0
  { line := ended.length + 1
    column := offset - start + 1
    lineText := String.ofList (firstLine ((dropBytes? start content).getD [])) }

/-- The lines put in front of every message about a place in a source. -/
def Location.describe (l : Location) (source : String) : String :=
  s!"File '{source}', line {l.line}, column {l.column}:\n{l.lineText}\n"

end Descent
