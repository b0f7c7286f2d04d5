import Descent.Regex.Basic
import Descent.Text.Bytes

/-!
# Searching

All alternatives are followed at the same time as a list of threads, the most
preferred first. A thread that stops cuts off those after it, which makes the
match found the one that trying the alternatives in order would find.
-/
namespace Descent

namespace Regex

/-- What a thread still has to match, one expression after the other. -/
abbrev Thread := List Regex

def Thread.heads (before after : Option Char) : Thread → List Head
  | [] => [.stop]
  | r :: rest =>
    Head.continueWith (fun _ => Thread.heads before after rest) rest (r.heads before after)

/-- The moves preferred to the first stop, and whether there is one. -/
def untilStop : List Head → List Head × Bool
  | [] => ([], false)
  | .stop :: _ => ([], true)
  | h :: hs => let (front, stops) := untilStop hs; (h :: front, stops)

/-- The threads that a move over `c` leads to. -/
def advance (c : Char) (moves : List Head) : List Thread :=
  (moves.filterMap fun
    | .read s rest => if s.contains c then some rest else none
    | .stop => none).eraseDups

/-- Runs the threads over a text; `taken` bytes are behind them and `best` is the match so far. -/
def follow (before : Option Char) (threads : List Thread) (taken : Nat) (best : Option Nat) :
    List Char → Option Nat
  | [] =>
    if (untilStop (threads.flatMap (Thread.heads before none))).2 then some taken else best
  | c :: cs =>
    let (moves, stops) := untilStop (threads.flatMap (Thread.heads before (some c)))
    let best := if stops then some taken else best
    match advance c moves with
    | [] => best
    | threads => follow (some c) threads (taken + c.utf8Size) best cs

/-- Length in bytes of the preferred match at the front of a text. -/
def matchFront (r : Regex) (before : Option Char) (cs : List Char) : Option Nat :=
  follow before [[r]] 0 none cs

/-- Looks for the first place with a match, given the character before the text. -/
def findFrom (r : Regex) (before : Option Char) (offset : Nat) (cs : List Char) :
    Option (Nat × Nat) :=
  match r.matchFront before cs, cs with
  | some n, _ => some (offset, offset + n)
  | none, [] => none
  | none, c :: cs => r.findFrom (some c) (offset + c.utf8Size) cs
termination_by cs

/-- Start and end of the leftmost match in a text. -/
def find (r : Regex) (cs : List Char) : Option (Nat × Nat) := r.findFrom none 0 cs

theorem follow_isBoundary (before : Option Char) (threads : List Thread) (taken : Nat)
    (best : Option Nat) (cs : List Char) (n : Nat)
    (h : follow before threads taken best cs = some n) :
    best = some n ∨ ∃ k, n = taken + k ∧ IsBoundary k cs := by
  induction cs generalizing before threads taken best with
  | nil =>
    simp only [follow] at h
    split at h
    · exact Or.inr ⟨0, by simpa using h.symm, isBoundary_zero _⟩
    · exact Or.inl h
  | cons c cs ih =>
    have hhere : (if (untilStop (threads.flatMap (Thread.heads before (some c)))).2 then some taken
        else best) = some n → best = some n ∨ ∃ k, n = taken + k ∧ IsBoundary k (c :: cs) := by
      intro h
      split at h
      · exact Or.inr ⟨0, by simpa using h.symm, isBoundary_zero _⟩
      · exact Or.inl h
    simp only [follow] at h
    split at h
    · exact hhere h
    · rcases ih _ _ _ _ h with h | ⟨k, rfl, hk⟩
      · exact hhere h
      · exact Or.inr ⟨c.utf8Size + k, by omega, hk.cons c⟩

theorem matchFront_isBoundary (r : Regex) (before : Option Char) (cs : List Char) (n : Nat)
    (h : r.matchFront before cs = some n) : IsBoundary n cs := by
  rcases follow_isBoundary _ _ _ _ _ _ h with h | ⟨k, rfl, hk⟩
  · simp at h
  · simpa using hk

theorem findFrom_isBoundary (r : Regex) (before : Option Char) (offset : Nat) (cs : List Char)
    (start stop : Nat) (h : r.findFrom before offset cs = some (start, stop)) :
    ∃ k, stop = offset + k ∧ IsBoundary k cs := by
  induction cs generalizing before offset with
  | nil =>
    cases hfront : r.matchFront before [] with
    | none => simp [findFrom, hfront] at h
    | some n =>
      simp only [findFrom, hfront, Option.some.injEq, Prod.mk.injEq] at h
      exact ⟨n, h.2.symm, matchFront_isBoundary r before [] n hfront⟩
  | cons c cs ih =>
    cases hfront : r.matchFront before (c :: cs) with
    | none =>
      simp only [findFrom, hfront] at h
      obtain ⟨k, rfl, hk⟩ := ih _ _ h
      exact ⟨c.utf8Size + k, by omega, hk.cons c⟩
    | some n =>
      simp only [findFrom, hfront, Option.some.injEq, Prod.mk.injEq] at h
      exact ⟨n, h.2.symm, matchFront_isBoundary r before (c :: cs) n hfront⟩

theorem find_isBoundary (r : Regex) (cs : List Char) (start stop : Nat)
    (h : r.find cs = some (start, stop)) : IsBoundary stop cs := by
  obtain ⟨k, rfl, hk⟩ := findFrom_isBoundary r none 0 cs start stop h
  simpa using hk

end Regex

end Descent
