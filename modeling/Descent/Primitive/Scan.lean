import Descent.Primitive.Basic
import Descent.Session.Basic
import Descent.Text.Numeral

/-!
# Scanning

What each primitive takes from the front of the remaining text, or why it
takes nothing.
-/
namespace Descent

/-- The length of a match in bytes and its value. -/
structure Match (V : Type) where
  length : Nat
  value : Value V := .none

/-- Why a primitive does not match. -/
inductive Miss where
  | literal (expected : String)
  | identifier
  | natural (overflow : Bool)
  | blanks
  | textEnd (left : Nat)
  | regexp (pattern : String)
  | lineComment
  | unclosedComment (start stop : Mark)
  | blockComment (start : Mark) (got : String)
  deriving DecidableEq, Repr

namespace Miss

def message : Miss → String
  | literal expected => s!"literal '{expected}' expected"
  | identifier => "identifier expected"
  | natural _ => "natural number expected"
  | blanks => "expecting white space"
  | textEnd left => s!"expecting end of input but still got {left} bytes"
  | regexp pattern => s!"expecting match for regexp `{pattern}`"
  | lineComment => "expecting line comment"
  | unclosedComment _ stop => s!"block comment isn't closed with '{stop.text}'"
  | blockComment start got =>
    s!"expecting block comment starting with '{start.text}', got '{got}'"

def cause : Miss → Option String
  | natural true => some "number too large to fit in target type"
  | _ => none

/-- How far after the cursor the fault lies. -/
def delta : Miss → Nat
  | unclosedComment start _ => start.size
  | _ => 0

end Miss

namespace Primitive

def startsIdentifier (first : String) (c : Char) : Bool :=
  isAlphabetic c || first.toList.contains c

def continuesIdentifier (following : String) (c : Char) : Bool :=
  isAlphabetic c || isNumeric c || following.toList.contains c

/-- The identifier at the front of a text, empty if there is none. -/
def identifierPrefix (first following : String) : List Char → List Char
  | [] => []
  | c :: cs =>
    if startsIdentifier first c then c :: cs.takeWhile (continuesIdentifier following) else []

def blankPrefix (newlines : Bool) (cs : List Char) : List Char :=
  cs.takeWhile fun c => isBlank c && (newlines || c != '\n')

/-- Where a scan of a block comment stands with respect to strings. -/
inductive Quoting where
  | outside
  | inside (quote : Char)
  /-- After a backslash in a string. -/
  | escaped (quote : Char)
  deriving DecidableEq, Repr

def isQuote (c : Char) : Bool := c == '\'' || c == '"' || c == '\x60'

/-- The state after a character that does not end the comment. Strings in backquotes have no
escapes. -/
def Quoting.step : Quoting → Char → Quoting
  | outside, c => if isQuote c then inside c else outside
  | inside quote, c =>
    if c = '\\' ∧ quote ≠ '\x60' then escaped quote
    else if c = quote then outside
    else inside quote
  | escaped quote, _ => inside quote

/-- Length of the body of a block comment with the mark that ends it, outside of strings. -/
def bodyLength? (stop : List Char) : Quoting → List Char → Option Nat
  | _, [] => none
  | state, c :: cs =>
    if state = .outside ∧ isQuote c = false ∧ stop.isPrefixOf (c :: cs) then
      some (byteLength stop)
    else (bodyLength? stop (state.step c) cs).map (c.utf8Size + ·)

variable {V : Type}

/-- Matches a text of a given length when it is not empty. -/
def nonemptyMatch (found : List Char) (miss : Miss) : Except Miss (Match V) :=
  if found.isEmpty then .error miss else .ok { length := byteLength found }

def scan (rest : List Char) : Primitive → Except Miss (Match V)
  | literal mark =>
    if (mark.after? rest).isSome then .ok { length := mark.size } else .error (.literal mark.text)
  | identifier first following => nonemptyMatch (identifierPrefix first following rest) .identifier
  | natural radix =>
    let token := rest.takeWhile (isDigit radix.base)
    if token.isEmpty then .error (.natural false)
    else match readNumeral? radix.base token with
      | some n => .ok { length := byteLength token, value := .natural n }
      | none => .error (.natural true)
  | blanks newlines => nonemptyMatch (blankPrefix newlines rest) .blanks
  | textEnd => if rest.isEmpty then .ok { length := 0 } else .error (.textEnd (byteLength rest))
  | regexp pattern matcher =>
    match matcher.find rest with
    | some (_, stop) =>
      .ok { length := stop, value := .text (String.ofList ((takeBytes? stop rest).getD [])) }
    | none => .error (.regexp pattern)
  | lineComment start =>
    match start.after? rest with
    | some body => .ok { length := start.size + byteLength (firstLine body), value := .text "" }
    | none => .error .lineComment
  | blockComment start stop =>
    match start.after? rest with
    | some body =>
      match bodyLength? stop.chars .outside body with
      | some n => .ok { length := start.size + n, value := .text "" }
      | none => .error (.unclosedComment start stop)
    | none => .error (.blockComment start (String.ofList (rest.take start.chars.length)))

end Primitive

/-- Runs a primitive at the cursor. -/
def Session.scan {V : Type} (p : Primitive) (s : Session V) : Session V :=
  match p.scan s.rest with
  | .ok found =>
    let s := s.matched found.length
    { s with result.value := found.value }
  | .error miss => s.unmatched miss.delta miss.message miss.cause

end Descent
