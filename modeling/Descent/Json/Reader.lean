import Descent.Json.Basic

/-!
# Reading JSON

Reads the texts that the standard allows and no others: no leading zeros, no
trailing commas, no control characters in strings, and nothing but blanks
around the value.
-/
namespace Descent

namespace Json

def isBlank (c : Char) : Bool := c == ' ' || c == '\n' || c == '\t' || c == '\r'

def skip (cs : List Char) : List Char := cs.dropWhile isBlank

/-- The text after a word that it starts with. -/
def after? (word cs : List Char) : Option (List Char) :=
  if word.isPrefixOf cs then some (cs.drop word.length) else none

def hexValue? (c : Char) : Option Nat :=
  if c.isDigit then some (c.toNat - '0'.toNat)
  else if 'a' ≤ c ∧ c ≤ 'f' then some (c.toNat - 'a'.toNat + 10)
  else if 'A' ≤ c ∧ c ≤ 'F' then some (c.toNat - 'A'.toNat + 10)
  else none

/-- The value of four hexadecimal digits. -/
def unit? (a b c d : Char) : Option Nat := do
  let a ← hexValue? a
  let b ← hexValue? b
  let c ← hexValue? c
  let d ← hexValue? d
  return ((a * 16 + b) * 16 + c) * 16 + d

/-- What a letter after a backslash stands for. -/
def unescape? : Char → Option Char
  | '"' => some '"'
  | '\\' => some '\\'
  | '/' => some '/'
  | 'b' => some '\x08'
  | 'f' => some '\x0c'
  | 'n' => some '\n'
  | 'r' => some '\r'
  | 't' => some '\t'
  | _ => none

/-- After the opening quote: the code points of a string, surrogates among them, up to the
closing quote. -/
def readPoints : List Char → Option (List Nat × List Char)
  | [] => none
  | '"' :: cs => some ([], cs)
  | '\\' :: 'u' :: a :: b :: c :: d :: cs => do
    let n ← unit? a b c d
    let (ns, rest) ← readPoints cs
    return (n :: ns, rest)
  | '\\' :: e :: cs => do
    let c ← unescape? e
    let (ns, rest) ← readPoints cs
    return (c.toNat :: ns, rest)
  | c :: cs =>
    if c.toNat < 0x20 ∨ c = '\\' then none
    else (readPoints cs).map fun (ns, rest) => (c.toNat :: ns, rest)

def isHigh (n : Nat) : Bool := 0xD800 ≤ n && n < 0xDC00

def isLow (n : Nat) : Bool := 0xDC00 ≤ n && n < 0xE000

/-- Joins surrogates to characters; one without its other half makes no text. -/
def join? : List Nat → Option (List Char)
  | [] => some []
  | [n] => if isHigh n || isLow n then none else some [Char.ofNat n]
  | n :: m :: ns =>
    if isHigh n && isLow m then
      (join? ns).map (Char.ofNat (0x10000 + (n - 0xD800) * 0x400 + (m - 0xDC00)) :: ·)
    else if isHigh n || isLow n then none
    else (join? (m :: ns)).map (Char.ofNat n :: ·)

/-- After the opening quote: a string. -/
def readString (cs : List Char) : Option (Option String × List Char) :=
  (readPoints cs).map fun (ns, rest) => ((join? ns).map String.ofList, rest)

/-- At least one digit. -/
def readDigits (cs : List Char) : Option (List Char × List Char) :=
  let digits := cs.takeWhile Char.isDigit
  if digits.isEmpty then none else some (digits, cs.dropWhile Char.isDigit)

/-- The text after an optional fraction. -/
def skipFraction? : List Char → Option (List Char)
  | '.' :: cs => (readDigits cs).map (·.2)
  | cs => some cs

/-- The text after an optional exponent. -/
def skipExponent? : List Char → Option (List Char)
  | c :: cs =>
    if c = 'e' ∨ c = 'E' then
      match cs with
      | sign :: digits =>
        if sign = '+' ∨ sign = '-' then (readDigits digits).map (·.2) else (readDigits cs).map (·.2)
      | [] => none
    else some (c :: cs)
  | [] => some []

def wordOfDecimal? (digits : List Char) : Option UInt64 :=
  let n := digits.foldl (fun n c => n * 10 + (c.toNat - '0'.toNat)) 0
  if n < UInt64.size then some (UInt64.ofNat n) else none

def readNumber (cs : List Char) : Option (Option UInt64 × List Char) := do
  let (negative, unsigned) := match cs with
    | '-' :: cs => (true, cs)
    | cs => (false, cs)
  let (digits, rest) ← readDigits unsigned
  if digits.head? = some '0' ∧ digits.length ≠ 1 then none
  let whole ← skipExponent? (← skipFraction? rest)
  if negative ∨ whole.length ≠ rest.length then return (none, whole)
  return (wordOfDecimal? digits, rest)

mutual

/-- A value, perhaps after blanks. -/
def readValue : Nat → List Char → Option (Json × List Char)
  | 0, _ => none
  | fuel + 1, cs =>
    match skip cs with
    | 'n' :: cs => (after? "ull".toList cs).map (null, ·)
    | 't' :: cs => (after? "rue".toList cs).map (bool true, ·)
    | 'f' :: cs => (after? "alse".toList cs).map (bool false, ·)
    | '"' :: cs => (readString cs).map fun (s, rest) => (string s, rest)
    | '[' :: cs =>
      match skip cs with
      | ']' :: rest => some (array [], rest)
      | cs => (readItems fuel cs).map fun (items, rest) => (array items, rest)
    | '\x7b' :: cs =>
      match skip cs with
      | '\x7d' :: rest => some (object [], rest)
      | cs => (readFields fuel cs).map fun (fields, rest) => (object fields, rest)
    | cs => (readNumber cs).map fun (n, rest) => (number n, rest)

/-- One item or more, up to the closing bracket. -/
def readItems : Nat → List Char → Option (List Json × List Char)
  | 0, _ => none
  | fuel + 1, cs => do
    let (item, rest) ← readValue fuel cs
    match skip rest with
    | ']' :: rest => return ([item], rest)
    | ',' :: rest =>
      let (items, rest) ← readItems fuel rest
      return (item :: items, rest)
    | _ => none

/-- One field or more, up to the closing brace. -/
def readFields : Nat → List Char → Option (List (Option String × Json) × List Char)
  | 0, _ => none
  | fuel + 1, cs =>
    match skip cs with
    | '"' :: cs => do
      let (key, rest) ← readString cs
      match skip rest with
      | ':' :: rest =>
        let (value, rest) ← readValue fuel rest
        match skip rest with
        | '\x7d' :: rest => return ([(key, value)], rest)
        | ',' :: rest =>
          let (fields, rest) ← readFields fuel rest
          return ((key, value) :: fields, rest)
        | _ => none
      | _ => none
    | _ => none

end

/-- Reads a whole text. Each item and each field takes a character, so the fuel suffices. -/
def parse? (text : String) : Option Json :=
  let cs := text.toList
  match readValue (2 * cs.length + 2) cs with
  | some (j, rest) => if (skip rest).isEmpty then some j else none
  | none => none

end Json

end Descent
