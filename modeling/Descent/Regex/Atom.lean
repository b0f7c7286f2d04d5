import Descent.Regex.CharSet
import Descent.Regex.Basic

/-!
# Atoms of patterns

The flags under which a pattern is read, and its smallest pieces: characters,
escapes and named classes. A reader takes the text from its place on and
returns what it read with the text after it; `none` means that the pattern is
not well formed.
-/
namespace Descent

namespace Pattern

structure Flags where
  ignoreCase : Bool := false
  multiLine : Bool := false
  dotNewline : Bool := false
  swapGreed : Bool := false
  unicode : Bool := true
  anyLineEnd : Bool := false
  verbose : Bool := false
  deriving DecidableEq, Repr

/-- Skips blanks and comments. -/
def skipBlanks (inComment : Bool) : List Char → List Char
  | [] => []
  | c :: cs =>
    if inComment then skipBlanks (c != '\n') cs
    else if isBlank c then skipBlanks false cs
    else if c = '#' then skipBlanks true cs
    else c :: cs

/-- In a verbose pattern, skips blanks and comments. -/
def Flags.skip (flags : Flags) (cs : List Char) : List Char :=
  if flags.verbose then skipBlanks false cs else cs

/-- One reader after some characters, and another where these do not stand. -/
def branch {α : Type} (taken : List Char) (next other : List Char → α) (cs : List Char) : α :=
  if taken.isPrefixOf cs then next (cs.drop taken.length) else other cs

section Branches

variable {α β : Type} (taken cs : List Char) (next other : List Char → α)

@[simp] theorem branch_append : branch taken next other (taken ++ cs) = next cs := by
  rw [branch, if_pos (List.isPrefixOf_iff_prefix.2 (List.prefix_append taken cs)), List.drop_left]

variable {taken cs}

theorem branch_of_ne (h : ∀ rest, cs ≠ taken ++ rest) : branch taken next other cs = other cs := by
  refine if_neg fun hprefix => ?_
  obtain ⟨rest, hrest⟩ := List.isPrefixOf_iff_prefix.1 hprefix
  exact h rest hrest.symm

variable {next other}

/-- What is done with the outcome of a branch may be done in both. -/
theorem apply_branch (f : α → β) : f (branch taken next other cs) =
    branch taken (fun s => f (next s)) (fun s => f (other s)) cs :=
  apply_ite f _ _ _

end Branches

/-- What a primitive piece of a pattern stands for. -/
inductive Atom where
  /-- A character; `byte` tells that it was written as two hexadecimal digits. -/
  | char (c : Char) (byte : Bool)
  | set (s : CharSet)
  | look (l : Look)

def isMeta (c : Char) : Bool := "\\.+*?()|[]\x7b\x7d^$#&-~".toList.contains c

/-- Characters that an escape leaves as they are. -/
def isEscapable (c : Char) : Bool :=
  isMeta c || (c.toNat < 128 && !c.isAlphanum && c != '<' && c != '>')

def hexWeight? (c : Char) : Option Nat :=
  if c.isDigit then some (c.toNat - '0'.toNat)
  else if 'a' ≤ c ∧ c ≤ 'f' then some (c.toNat - 'a'.toNat + 10)
  else if 'A' ≤ c ∧ c ≤ 'F' then some (c.toNat - 'A'.toNat + 10)
  else none

def charOfScalar? (n : Nat) : Option Char := if n.isValidChar then some (Char.ofNat n) else none

/-- Exactly `n` hexadecimal digits. -/
def readHexDigits (flags : Flags) : Nat → Nat → List Char → Option (Nat × List Char)
  | 0, value, cs => some (value, cs)
  | _ + 1, _, [] => none
  | n + 1, value, c :: cs => do
    let d ← hexWeight? c
    readHexDigits flags n (value * 16 + d) (flags.skip cs)

/-- A closing brace, or a character and what `more` reads after it. -/
def readPiece (more : List Char → Option (List Char × List Char)) :
    List Char → Option (List Char × List Char)
  | [] => none
  | c :: cs => if c = '\x7d' then some ([], cs) else (more cs).map fun r => (c :: r.1, r.2)

/-- The pieces of a text up to a closing brace. -/
def readBraced (flags : Flags) : Nat → List Char → Option (List Char × List Char)
  | 0, _ => none
  | fuel + 1, cs => readPiece (readBraced flags fuel) (flags.skip cs)

/-- A code point of exactly `digits` hexadecimal digits. -/
def readHexPlain (flags : Flags) (digits : Nat) (cs : List Char) : Option (Atom × List Char) := do
  let (value, rest) ← readHexDigits flags digits 0 cs
  let c ← charOfScalar? value
  return (.char c (digits == 2), rest)

/-- After an opening brace: a code point of any number of hexadecimal digits. -/
def readHexBraced (flags : Flags) (cs : List Char) : Option (Atom × List Char) := do
  let (inner, rest) ← readBraced flags (cs.length + 1) cs
  let weights ← inner.mapM hexWeight?
  if weights.isEmpty then none
  let c ← charOfScalar? (weights.foldl (fun n d => n * 16 + d) 0)
  return (.char c false, flags.skip rest)

/-- A code point in hexadecimal, after the letter that tells how many digits it has. -/
def readHex (flags : Flags) (digits : Nat) (cs : List Char) : Option (Atom × List Char) :=
  branch ['\x7b'] (readHexBraced flags) (readHexPlain flags digits) (flags.skip cs)

/-- Where `p` first occurs in a text: the text before it and the text after it. -/
def splitAt? (p : List Char) : List Char → Option (List Char × List Char)
  | [] => none
  | c :: cs =>
    if p.isPrefixOf (c :: cs) then some ([], (c :: cs).drop p.length)
    else (splitAt? p cs).map fun (front, rest) => (c :: front, rest)

/-- The property of a query such as `Greek`, `gc=Lu` or `sc!=Han`, and whether it is denied. -/
def propertyQuery? (query : List Char) : Option (Property × Bool) :=
  match splitAt? ['!', '='] query with
  | some (name, value) => (Property.ofPair? name value).map (·, true)
  | none =>
    match splitAt? [':'] query <|> splitAt? ['='] query with
    | some (name, value) => (Property.ofPair? name value).map (·, false)
    | none => (Property.ofName? query).map (·, false)

/-- The query of a class that is named by one letter. -/
def readLetterQuery (flags : Flags) : List Char → Option (List Char × List Char)
  | [] => none
  | c :: cs => if c = '\\' then none else some ([c], flags.skip cs)

def readBracedQuery (flags : Flags) (cs : List Char) : Option (List Char × List Char) :=
  readBraced flags (cs.length + 1) cs

def readQuery (flags : Flags) (cs : List Char) : Option (List Char × List Char) :=
  branch ['\x7b'] (readBracedQuery flags) (readLetterQuery flags) (flags.skip cs)

/-- A named class, after the letter that opens it. -/
def readProperty (flags : Flags) (negated : Bool) (cs : List Char) : Option (Atom × List Char) := do
  if !flags.unicode then none
  let (query, rest) ← readQuery flags cs
  let (p, denied) ← propertyQuery? query
  return (.set (CharSet.build flags.ignoreCase (negated != denied) (.property p)), rest)

def asciiDigit : CharSet := .ofRanges [('0', '9')]
def asciiSpace : CharSet := .ofRanges [('\t', '\r'), (' ', ' ')]
def asciiWord : CharSet := .ofRanges [('0', '9'), ('A', 'Z'), ('a', 'z'), ('_', '_')]

/-- Digits, blanks and word characters; without Unicode a complement is no set of characters. -/
def letterClass? (flags : Flags) (letter : Char) : Option CharSet :=
  let choose (unicode ascii : CharSet) := if flags.unicode then unicode else ascii
  let refuse (unicode : CharSet) := if flags.unicode then some (.compl unicode) else none
  match letter with
  | 'd' => some (choose (.property (.category .nd)) asciiDigit)
  | 's' => some (choose (.property .whiteSpace) asciiSpace)
  | 'w' => some (choose (.property .word) asciiWord)
  | 'D' => refuse (.property (.category .nd))
  | 'S' => refuse (.property .whiteSpace)
  | 'W' => refuse (.property .word)
  | _ => none

/-- The special boundaries, which have names. -/
def boundary? (ascii : Bool) (name : List Char) : Option Look :=
  match String.ofList name with
  | "start" => some (.wordStart ascii)
  | "end" => some (.wordEnd ascii)
  | "start-half" => some (.noWordBefore ascii)
  | "end-half" => some (.noWordAfter ascii)
  | _ => none

/-- After `\b`: the name in braces of a special boundary, unless a repetition is meant. -/
def readBoundary (flags : Flags) (cs : List Char) : Option (Look × List Char) :=
  let ascii := !flags.unicode
  let isName (c : Char) := c.isAlpha || c == '-'
  match cs with
  | '\x7b' :: inner =>
    match flags.skip inner with
    | [] => none
    | c :: _ =>
      if isName c then do
        let (name, rest) ← readBraced flags (inner.length + 1) inner
        (boundary? ascii name).map (·, rest)
      else some (.wordBoundary ascii, cs)
  | _ => some (.wordBoundary ascii, cs)

/-- What follows a backslash. -/
def readEscape (flags : Flags) : List Char → Option (Atom × List Char)
  | [] => none
  | c :: cs =>
    let ascii := !flags.unicode
    let plain (c : Char) : Option (Atom × List Char) := some (.char c false, cs)
    if c.isDigit then none
    else if isEscapable c then plain c
    else match c with
      | 'x' => readHex flags 2 cs
      | 'u' => readHex flags 4 cs
      | 'U' => readHex flags 8 cs
      | 'p' => readProperty flags false cs
      | 'P' => readProperty flags true cs
      | 'a' => plain '\x07'
      | 'f' => plain '\x0c'
      | 't' => plain '\t'
      | 'n' => plain '\n'
      | 'r' => plain '\r'
      | 'v' => plain '\x0b'
      | 'A' => some (.look .textStart, cs)
      | 'z' => some (.look .textEnd, cs)
      | 'b' => (readBoundary flags cs).map fun (l, rest) => (.look l, rest)
      | 'B' => some (.look (.noWordBoundary ascii), cs)
      | '<' => some (.look (.wordStart ascii), cs)
      | '>' => some (.look (.wordEnd ascii), cs)
      | c => (letterClass? flags c).map fun s => (.set s, cs)

/-- A set closed under case, complemented if asked for; without Unicode it stays in ASCII. -/
def Flags.close? (flags : Flags) (negated : Bool) (s : CharSet) : Option CharSet :=
  if flags.unicode then some (s.build flags.ignoreCase negated)
  else if negated then none
  else some (if flags.ignoreCase then .inter (.anyCase s) (.property .ascii) else s)

/-- The set that a character stands for outside a class. -/
def charSet? (flags : Flags) (c : Char) (byte : Bool) : Option CharSet :=
  if flags.unicode || c.toNat < 128 then flags.close? false (.single c)
  else if byte then none
  else some (.single c)

/-- The set of any character. -/
def dot? (flags : Flags) : Option CharSet :=
  if !flags.unicode then none
  else if flags.dotNewline then some .full
  else if flags.anyLineEnd then some (.compl (.ofRanges [('\n', '\n'), ('\r', '\r')]))
  else some (.compl (.single '\n'))

def startLook (flags : Flags) : Look :=
  if !flags.multiLine then .textStart else if flags.anyLineEnd then .anyLineStart else .lineStart

def endLook (flags : Flags) : Look :=
  if !flags.multiLine then .textEnd else if flags.anyLineEnd then .anyLineEnd else .lineEnd

end Pattern

end Descent
