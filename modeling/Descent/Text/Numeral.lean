/-!
# Numerals

Digits of a base from two to thirty-six are the ASCII digits followed by the
ASCII letters in either case. A numeral is read into a 64-bit word; a value
that does not fit is refused, never wrapped.
-/
namespace Descent

/-- What a character counts for as a digit, before the base is considered. -/
def digitWeight? (c : Char) : Option Nat :=
  let n := c.toNat
  if 0x30 ≤ n ∧ n ≤ 0x39 then some (n - 0x30)
  else if 0x61 ≤ n ∧ n ≤ 0x7A then some (n - 0x61 + 10)
  else if 0x41 ≤ n ∧ n ≤ 0x5A then some (n - 0x41 + 10)
  else none

def digit? (base : Nat) (c : Char) : Option Nat := (digitWeight? c).filter (· < base)

def isDigit (base : Nat) (c : Char) : Bool := (digit? base c).isSome

/-- Positional value of a digit string, most significant digit first. -/
def positional (base : Nat) (digits : List Nat) : Nat := digits.foldl (fun n d => n * base + d) 0

/-- One digit more, as long as the word does not overflow. -/
def appendDigit? (base : Nat) (word : UInt64) (d : Nat) : Option UInt64 :=
  let n := word.toNat * base
  if n < UInt64.size then
    if n + d < UInt64.size then some (UInt64.ofNat (n + d)) else none
  else none

/-- The value of a digit string as a word. -/
def wordOfDigits? (base : Nat) (digits : List Nat) : Option UInt64 :=
  digits.foldlM (appendDigit? base) 0

/-- The value of a numeral, as long as it has digits only and fits. -/
def readNumeral? (base : Nat) (cs : List Char) : Option UInt64 :=
  (cs.mapM (digit? base)).bind (wordOfDigits? base)

end Descent
