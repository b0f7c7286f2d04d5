import Descent.LineCache
import Descent.Result
import Descent.Source

/-!
# Parse sessions

A session is the state that every parser call reads and changes: the cursor,
the current result, the results of the children while a hook runs, and one
frame for each combinator that is active.
-/
namespace Descent

/-- Where an active combinator began, and what its children gave so far. -/
structure Frame (V : Type) where
  start : Nat
  results : List (Result V) := []

/-- The innermost frame comes first. Without a line cache every location is found by a plain
scan. -/
structure Session (V : Type) where
  source : Source
  cursor : Nat := 0
  cache : Option LineCache := some {}
  result : Result V := {}
  subResults : List (Result V) := []
  frames : List (Frame V) := []

namespace Session

variable {V : Type}

def rest (s : Session V) : List Char := s.source.restFrom s.cursor

def depth (s : Session V) : Nat := s.frames.length

/-- Moves the cursor, at most to the end of the text. -/
def moveTo (offset : Nat) (s : Session V) : Session V :=
  { s with cursor := min offset s.source.size }

/-- Goes back to an offset, or to the start of the current result. -/
def rewind (offset : Option Nat) (s : Session V) : Session V :=
  s.moveTo (offset.getD s.result.position)

/-- Finds the location of an offset. A cache that does not fit the text is not used. -/
def locate (offset : Nat) (s : Session V) : Location × Session V :=
  match s.cache.bind fun cache => cache.resolve? s.source.chars offset with
  | some (location, cache) => (location, { s with cache := some cache })
  | none => (Location.ofOffset s.source.chars offset, s)

/-- Adds feedback about an offset; `cause` is a lower-level error behind it. -/
def note (kind : Feedback.Kind) (offset : Nat) (message : String) (cause : Option String)
    (s : Session V) : Session V :=
  let (location, s) := s.locate offset
  let why := match cause with
    | some cause => ": " ++ cause
    | none => ""
  let message := location.describe s.source.name ++ message ++ why ++ "."
  { s with result.feedback := s.result.feedback ++ [⟨kind, offset, message⟩] }

/-- A match of `n` bytes at the cursor, which moves past it, at most to the end of the text. The
sum is one of natural numbers: it never overflows, as that of two machine words can. -/
def matched (n : Nat) (s : Session V) : Session V :=
  let stop := min (s.cursor + n) s.source.size
  { s with
    result := { position := s.cursor, text := s.source.textBetween s.cursor stop }
    cursor := stop }

/-- A failure `delta` bytes after the cursor, which stays. Here too the sum has no bound: the
failure may be placed past the end of the text, and past any machine word. -/
def unmatched (delta : Nat) (message : String) (cause : Option String) (s : Session V) :
    Session V :=
  { s with result := { position := s.cursor, errorAt := some (s.cursor + delta) } }.note
    .error (s.cursor + delta) message cause

/-- Turns the current result into a failure at its start. -/
def reject (message : String) (s : Session V) : Session V :=
  let start := s.result.position
  ({ s with result := { s.result with errorAt := some start, text := "", value := .none } }.note
    .error start message none).moveTo start

def pushFrame (s : Session V) : Session V :=
  { s with frames := { start := s.cursor } :: s.frames }

/-- Moves the current result into the innermost frame. -/
def collect (s : Session V) : Session V :=
  { s with
    result := {}
    frames := match s.frames with
      | [] => []
      | frame :: outer => { frame with results := frame.results ++ [s.result] } :: outer }

/-- The results collected in the innermost frame. -/
def collected (s : Session V) : List (Result V) := (s.frames.head?.map (·.results)).getD []

def popFrame (s : Session V) : Session V := { s with frames := s.frames.tail }

end Session

end Descent
