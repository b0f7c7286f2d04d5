import Descent.Grammar.Basic
import Descent.Grammar.Event
import Descent.Primitive.Scan

/-!
# Running a grammar

A parse reads and changes one session, one context and one trace. Each
combinator opens a frame at the cursor, runs its children, closes the frame,
and then either makes a result of its own or puts the cursor back and fails.
Its hook comes last, and only after a match.

A grammar may refer to itself without ever reading, so a parse takes fuel;
`none` means that it was not enough. One unit is spent on each level of
nesting and on each round of a repetition.
-/
namespace Descent

structure Run (V C : Type) where
  session : Session V
  context : C
  trace : Array Event := #[]

/-- What a cell holds. -/
inductive Target (V C : Type) where
  | unbound
  | bound (g : Grammar V C)
  /-- Nothing owns the cell any more. -/
  | dropped

abbrev Env (V C : Type) := Nat → Target V C

variable {V C : Type}

namespace Session

/-- The current result takes the values and the feedback of a list of results. -/
def gather (results : List (Result V)) (s : Session V) : Session V :=
  { s with result :=
      { s.result with
        value := .list (results.map (·.value))
        feedback := s.result.feedback ++ results.flatMap (·.feedback) } }

/-- As `gather` for at most one result, whose value is taken as it is. -/
def gatherOne (results : List (Result V)) (s : Session V) : Session V :=
  match results with
  | [] => s
  | first :: _ =>
    { s with result :=
        { s.result with
          value := first.value
          feedback := s.result.feedback ++ first.feedback } }

def addFeedback (items : List Feedback.Item) (s : Session V) : Session V :=
  { s with result.feedback := s.result.feedback ++ items }

end Session

namespace Run

def onSession (f : Session V → Session V) (r : Run V C) : Run V C :=
  { r with session := f r.session }

def emit (e : Event) (r : Run V C) : Run V C := { r with trace := r.trace.push e }

def perform (script : Script V C) (r : Run V C) : Run V C :=
  let (session, context) := script.run r.session r.context
  { r with session, context }

def failed (r : Run V C) : Bool := r.session.result.failed

/-- Runs a hook after a match; the children's results do not outlive it. -/
def finish (hook : Script V C) (r : Run V C) : Run V C :=
  (if r.failed then r else r.perform hook).onSession fun s => { s with subResults := [] }

/-- How a parser that is run as a child changes the state. -/
abbrev Runner (V C : Type) := Grammar V C → Run V C → Option (Run V C)

/-- Runs the children in a row; `i` of them have matched. -/
def all (child : Runner V C) (start : Nat) (i : Nat) :
    List (Grammar V C) → Run V C → Option (Run V C)
  | [], r =>
    let length := r.session.cursor - start
    let results := r.session.collected
    let r := (r.onSession fun s => (s.moveTo start).popFrame).emit (.allMatched start length)
    some <| r.onSession fun s => { (s.matched length).gather results with subResults := results }
  | g :: gs, r => do
    let r ← child g r
    if r.failed then
      some <| (r.emit (.allFailed start i)).onSession fun s =>
        let s := s.popFrame.moveTo start
        { s with result.position := start }
    else all child start (i + 1) gs (r.onSession Session.collect)

/-- Runs the children from the same start until one matches; `i` of `n` have failed. -/
def any (child : Runner V C) (start n : Nat) (i : Nat) :
    List (Grammar V C) → Run V C → Option (Run V C)
  | [], r =>
    let failures := r.session.collected
    some <| (r.emit (.anyFailed start n)).onSession fun s =>
      ((s.moveTo start).popFrame.unmatched 0
        s!"any subparser should match; all {n} failed" none).addFeedback
        (failures.flatMap (·.feedback))
  | g :: gs, r => do
    let r ← child g (r.onSession (Session.moveTo start))
    if r.failed then any child start n (i + 1) gs (r.onSession Session.collect)
    else some <| (r.emit (.anyMatched start i)).onSession Session.popFrame

/-- The match with its end, if it goes further than the best one so far. -/
def further (best : Option (Nat × Result V)) (stop : Nat) (result : Result V) :
    Option (Nat × Result V) :=
  match best with
  | none => some (stop, result)
  | some (stop', result') => if stop' < stop then some (stop, result) else some (stop', result')

/-- Runs all children from the same start and keeps the match that ends furthest. -/
def best (child : Runner V C) (start n : Nat) (found : Option (Nat × Result V)) :
    List (Grammar V C) → Run V C → Option (Run V C)
  | [], r =>
    match found with
    | some (stop, result) =>
      some <| ((r.onSession Session.popFrame).emit (.bestMatched start stop)).onSession fun s =>
        { s.moveTo stop with result }
    | none =>
      let failures := r.session.collected
      some <| ((r.onSession Session.popFrame).emit (.bestFailed start n)).onSession fun s =>
        ((s.moveTo start).unmatched 0
          s!"best subparser should match; all {n} failed" none).addFeedback
          (failures.flatMap (·.feedback))
  | g :: gs, r => do
    let r ← child g (r.onSession (Session.moveTo start))
    if r.failed then best child start n found gs (r.onSession Session.collect)
    else
      let found := further found r.session.cursor r.session.result
      best child start n found gs (r.onSession fun s => { s with result := {} })

/-- Runs the child once; after a failure nothing is left of it. -/
def optional (child : Runner V C) (start : Nat) (g : Grammar V C) (r : Run V C) :
    Option (Run V C) := do
  let r ← child g r
  let r := r.onSession Session.popFrame
  if r.failed then
    return (r.emit (.optionalIgnored start)).onSession fun s =>
      { s with result := { position := start } }.moveTo start
  else return r

/-- Whether `count` rounds are fewer than the greatest number allowed. -/
def mayGoOn (max : Option Nat) (count : Nat) : Bool :=
  match max with
  | none => true
  | some m => count < m

/-- The rounds of a repetition: their number, and the failure that ended them. -/
def rounds (child : Runner V C) (g : Grammar V C) (min : Nat) (max : Option Nat) :
    Nat → Nat → Run V C → Option (Run V C × Nat × Option (Result V))
  | 0, _, _ => none
  | fuel + 1, count, r =>
    if mayGoOn max count then do
      let before := r.session.cursor
      let r ← child g r
      if r.failed then
        return (r.onSession fun s => { s with result := {} }, count, some r.session.result)
      let r := r.onSession Session.collect
      if r.session.cursor = before ∧ min ≤ count + 1 then return (r, count + 1, none)
      rounds child g min max fuel (count + 1) r
    else some (r, count, none)

/-- What a repetition makes of its rounds. -/
def conclude (start min : Nat) (max : Option Nat) (count : Nat) (failure : Option (Result V))
    (r : Run V C) : Run V C :=
  let length := r.session.cursor - start
  let results := r.session.collected
  let r := r.onSession fun s => (s.moveTo start).popFrame
  let r :=
    if min ≤ count then
      (r.emit (.repeatMatched start count length)).onSession fun s =>
        let s := s.matched length
        if mayGoOn max 1 then s.gather results else s.gatherOne results
    else
      (r.emit (.repeatFailed start count min)).onSession fun s =>
        (s.unmatched length
          s!"at least {min} matches expected but got only {count}" none).addFeedback
          ((failure.map (·.feedback)).getD [])
  r.onSession fun s => { s with subResults := results }

/-- Runs the child round after round, as long as it matches and may go on. -/
def repeated (child : Runner V C) (start : Nat) (g : Grammar V C) (min : Nat) (max : Option Nat)
    (fuel : Nat) (r : Run V C) : Option (Run V C) := do
  let (r, count, failure) ← rounds child g min max fuel 0 r
  return r.conclude start min max count failure

end Run

/-- Runs a grammar at the cursor. -/
def Grammar.parse (env : Env V C) : Nat → Grammar V C → Run V C → Option (Run V C)
  | 0, _, _ => none
  | fuel + 1, g, r =>
    let child := Grammar.parse env fuel
    let start := r.session.cursor
    let opened := r.onSession Session.pushFrame
    match g with
    | .primitive p hook => some ((r.onSession (Session.scan p)).finish hook)
    | .all subs hook => (Run.all child start 0 subs opened).map (Run.finish hook)
    | .any subs hook => (Run.any child start subs.length 0 subs opened).map (Run.finish hook)
    | .best subs hook => (Run.best child start subs.length none subs opened).map (Run.finish hook)
    | .optional sub hook => (Run.optional child start sub opened).map (Run.finish hook)
    | .repeated sub min max hook =>
      (Run.repeated child start sub min max fuel opened).map (Run.finish hook)
    | .reference cell _ =>
      match env cell with
      | .bound target => child target r
      | .unbound =>
        some (r.onSession (Session.unmatched 0 "forward parser used before being bound" none))
      | .dropped => some (r.onSession (Session.unmatched 0 "forward parser was dropped" none))
    | .script body => some (r.perform body)

end Descent
