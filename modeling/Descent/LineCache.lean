import Descent.Location

/-!
# Line cache

The line found last is remembered, and the next search starts there: forward
for later offsets, backward for earlier ones, and from the start of the text
when that is nearer. Every cut and every subtraction is checked, so an answer
of `none` would mean that the cache does not fit the text.
-/
namespace Descent

/-- Start offset and number of a line. -/
structure LineCache where
  start : Nat := 0
  number : Nat := 1
  deriving DecidableEq, Repr

/-- Subtraction that refuses to go below zero. -/
def sub? (a b : Nat) : Option Nat := if b ≤ a then some (a - b) else none

theorem sub?_eq_some_iff {a b c : Nat} : sub? a b = some c ↔ a = b + c := by
  unfold sub?; split <;> simp <;> omega

namespace LineCache

/-- The answer for an offset in the line from `start` to `stop`, which is then cached. -/
def hit? (content : List Char) (start stop number offset : Nat) :
    Option (Location × LineCache) := do
  let text ← slice? start stop content
  let column ← sub? offset start
  return (⟨number, column + 1, String.ofList text⟩, ⟨start, number⟩)

/-- Goes on line by line; `rest` is the text from `start`. -/
def forward? (content : List Char) (offset : Nat) (rest : List Char) (start number : Nat) :
    Option (Location × LineCache) :=
  let stop := start + byteLength (firstLine rest)
  if offset ≤ stop then hit? content start stop number offset
  else match dropBytes? (stop + 1 - start) rest with
    | some rest => forward? content offset rest (stop + 1) (number + 1)
    | none => none
termination_by offset - start

/-- Goes back line by line; `back` is the text before `stop`, last character first. -/
def backward? (content : List Char) (offset : Nat) (back : List Char) (stop number : Nat) :
    Option (Location × LineCache) :=
  match _hs : sub? stop (byteLength (firstLine back)), sub? number 1 with
  | some start, some number =>
    if start ≤ offset then hit? content start stop number offset
    else match _hp : sub? start 1, dropBytes? (byteLength (firstLine back) + 1) back with
      | some stop, some back => backward? content offset back stop number
      | _, _ => none
  | _, _ => none
termination_by stop
decreasing_by rw [sub?_eq_some_iff] at _hs _hp; omega

/-- Resolves an offset, starting from the cached line. -/
def resolve? (cache : LineCache) (content : List Char) (offset : Nat) :
    Option (Location × LineCache) :=
  if content.isEmpty then some (⟨1, 1, ""⟩, cache)
  else
    let offset := min offset (byteLength content)
    if cache.start ≤ offset then do
      let rest ← dropBytes? cache.start content
      forward? content offset rest cache.start cache.number
    else do
      let boundary ← sub? cache.start 1
      let gap ← sub? boundary offset
      if offset ≤ gap then forward? content offset content 0 1
      else
        let before ← takeBytes? boundary content
        backward? content offset before.reverse boundary cache.number

end LineCache

end Descent
