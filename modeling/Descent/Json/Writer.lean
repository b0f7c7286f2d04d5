import Descent.Json.Basic

/-!
# Writing JSON

The compact form has no blanks at all. The pretty form puts every item and
every field on a line of its own, indented by two spaces for each level.
-/
namespace Descent

namespace Json

/-- The lower-case hexadecimal digit of a number below sixteen. -/
def hexDigit (n : Nat) : Char := (Nat.digitChar n)

/-- Control characters are escaped, by a letter where there is one. -/
def escape (c : Char) : List Char :=
  if c = '"' then ['\\', '"']
  else if c = '\\' then ['\\', '\\']
  else if c = '\n' then ['\\', 'n']
  else if c = '\t' then ['\\', 't']
  else if c = '\r' then ['\\', 'r']
  else if c = '\x08' then ['\\', 'b']
  else if c = '\x0c' then ['\\', 'f']
  else if c.toNat < 0x20 then
    ['\\', 'u', '0', '0', hexDigit (c.toNat / 16), hexDigit (c.toNat % 16)]
  else [c]

def quote (cs : List Char) : List Char := '"' :: (cs.flatMap escape ++ ['"'])

/-- A text in quotes, or the least string that is no text. -/
def writeString : Option String → List Char
  | some s => quote s.toList
  | none => "\"\\ud800\"".toList

/-- A number in decimal digits, or the least number that is no natural number. -/
def writeNumber : Option UInt64 → List Char
  | some n => Nat.toDigits 10 n.toNat
  | none => ['-', '1']

/-- In the pretty form, at a level of indentation, the start of a new line. -/
def newline : Option Nat → List Char
  | none => []
  | some level => '\n' :: List.replicate (2 * level) ' '

def deeper (level : Option Nat) : Option Nat := level.map (· + 1)

mutual

/-- The text of a value; without a level it is compact. -/
def write (level : Option Nat) : Json → List Char
  | null => "null".toList
  | bool b => (if b then "true" else "false").toList
  | number n => writeNumber n
  | string s => writeString s
  | array [] => ['[', ']']
  | array (item :: items) =>
    '[' :: newline (deeper level) ++ write (deeper level) item ++
      writeItems (deeper level) items ++ newline level ++ [']']
  | object [] => ['\x7b', '\x7d']
  | object (field :: fields) =>
    '\x7b' :: newline (deeper level) ++ writeField (deeper level) field ++
      writeFields (deeper level) fields ++ newline level ++ ['\x7d']

/-- The items after the first, each after a comma. -/
def writeItems (level : Option Nat) : List Json → List Char
  | [] => []
  | item :: items => ',' :: newline level ++ write level item ++ writeItems level items

def writeField (level : Option Nat) : Option String × Json → List Char
  | (key, value) =>
    writeString key ++ (if level.isSome then [':', ' '] else [':']) ++ write level value

def writeFields (level : Option Nat) : List (Option String × Json) → List Char
  | [] => []
  | field :: fields => ',' :: newline level ++ writeField level field ++ writeFields level fields

end

def compact (j : Json) : String := String.ofList (j.write none)

def pretty (j : Json) : String := String.ofList (j.write (some 0))

end Json

end Descent
