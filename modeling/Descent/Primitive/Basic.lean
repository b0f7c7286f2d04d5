import Descent.ConfigError
import Descent.Regex.Engine

/-!
# Primitive parsers

The parsers that match directly against the text. Their configuration is
checked when they are made, so a primitive never has an empty mark or a radix
without digits.
-/
namespace Descent

/-- A text that is not empty. -/
structure Mark where
  text : String
  nonempty : text ≠ ""
  deriving DecidableEq, Repr

namespace Mark

def ofString? (s : String) : Option Mark := if h : s = "" then none else some ⟨s, h⟩

def chars (m : Mark) : List Char := m.text.toList

def size (m : Mark) : Nat := byteLength m.chars

/-- The text after the mark, if it starts with the mark. -/
def after? (m : Mark) (cs : List Char) : Option (List Char) :=
  if m.chars.isPrefixOf cs then dropBytes? m.size cs else none

theorem after?_eq_some_iff {m : Mark} {cs rest : List Char} :
    m.after? cs = some rest ↔ cs = m.chars ++ rest := by
  simp only [after?, List.isPrefixOf_iff_prefix, size]
  constructor
  · intro h
    split at h
    · next hp =>
      obtain ⟨rest', rfl⟩ := hp
      simpa using h
    · simp at h
  · rintro rfl
    simp

theorem chars_ne_nil (m : Mark) : m.chars ≠ [] := by
  simpa [chars] using m.nonempty

theorem size_pos (m : Mark) : 0 < m.size :=
  Nat.pos_of_ne_zero fun h => m.chars_ne_nil (byteLength_eq_zero.1 h)

end Mark

/-- A base of which the digits are ASCII digits and letters. -/
structure Radix where
  base : Nat
  two_le : 2 ≤ base
  le_thirtySix : base ≤ 36
  deriving DecidableEq, Repr

def Radix.ofNat? (n : Nat) : Option Radix :=
  if h : 2 ≤ n ∧ n ≤ 36 then some ⟨n, h.1, h.2⟩ else none

inductive Primitive where
  | literal (mark : Mark)
  /-- A letter or one of `first`, then letters, numbers or any of `following`. -/
  | identifier (first following : String)
  | natural (radix : Radix)
  /-- Blanks, up to the end of the line unless newlines may be among them. -/
  | blanks (newlines : Bool)
  | textEnd
  /-- A compiled regular expression with the pattern it was made from. -/
  | regexp (pattern : String) (matcher : Matcher)
  | lineComment (start : Mark)
  | blockComment (start stop : Mark)

namespace Primitive

def literal? (s : String) : Except ConfigError Primitive :=
  match Mark.ofString? s with
  | some mark => .ok (.literal mark)
  | none => .error .emptyLiteral

def natural? (base : Nat) : Except ConfigError Primitive :=
  match Radix.ofNat? base with
  | some radix => .ok (.natural radix)
  | none => .error (.invalidRadix base)

/-- A pattern without the one anchor that it may start with. -/
def unanchored (pattern : String) : String :=
  match pattern.toList with
  | '^' :: cs => String.ofList cs
  | _ => pattern

/-- A pattern in a group behind the start of the text. -/
def anchored (inner : String) : String := "^(?:" ++ inner ++ ")"

/-- Matches start at the cursor, whether the pattern says so or not. -/
def regexp? (compile : Engine) (pattern : String) : Except ConfigError Primitive :=
  let inner := unanchored pattern
  if inner = "" then .error .emptyRegexp
  else match compile (anchored inner) with
    | some matcher => .ok (.regexp inner matcher)
    | none => .error (.invalidRegexp pattern)

def lineComment? (start : String) : Except ConfigError Primitive :=
  match Mark.ofString? start with
  | some start => .ok (.lineComment start)
  | none => .error (.emptyDelimiter .lineCommentStart)

def blockComment? (start stop : String) : Except ConfigError Primitive :=
  match Mark.ofString? start, Mark.ofString? stop with
  | some start, some stop => .ok (.blockComment start stop)
  | none, _ => .error (.emptyDelimiter .blockCommentStart)
  | _, none => .error (.emptyDelimiter .blockCommentEnd)

end Primitive

end Descent
