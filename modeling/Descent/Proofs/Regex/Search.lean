import Descent.Regex.Search
import Mathlib.Tactic.Common

/-!
# What a search finds

All threads are followed at the same time, and still the match is the one that
backtracking finds: the first in the order of preference. An expression behind
the start of the text matches there or nowhere.
-/
namespace Descent

namespace Regex

section Backtracking

/-- Where the first of the moves leads that comes to a match. -/
def firstMove (c : Char) (next : Thread → Option Nat) : Head → Option Nat
  | .stop => some 0
  | .read s rest => if s.contains c then (next rest).map (c.utf8Size + ·) else none

/-- Length in bytes of the first match of a thread at the front of a text, by trying its moves one
after the other in the order of preference. -/
def backtrack (before : Option Char) : List Char → Thread → Option Nat
  | [], t => if .stop ∈ t.heads before none then some 0 else none
  | c :: cs, t => (t.heads before (some c)).findSome? (firstMove c (backtrack (some c) cs))

theorem untilStop_snd (moves : List Head) : (untilStop moves).2 = true ↔ .stop ∈ moves := by
  induction moves with
  | nil => simp [untilStop]
  | cons h hs ih => cases h <;> simp [untilStop, ih]

/-- A move that stops decides, and the moves after it do not matter. -/
theorem findSome?_untilStop (c : Char) (next : Thread → Option Nat) (moves : List Head) :
    moves.findSome? (firstMove c next) =
      ((untilStop moves).1.findSome? (firstMove c next)).or
        (if (untilStop moves).2 then some 0 else none) := by
  induction moves with
  | nil => rfl
  | cons h hs ih =>
    cases h with
    | stop => rfl
    | read s rest =>
      rw [List.findSome?_cons, ih]
      simp only [untilStop, List.findSome?_cons]
      cases firstMove c next (.read s rest) <;> rfl

theorem not_stop_mem_untilStop (moves : List Head) : .stop ∉ (untilStop moves).1 := by
  induction moves with
  | nil => simp [untilStop]
  | cons h hs ih => cases h <;> simp [untilStop, ih]

/-- A thread that has come to nothing may be left out. -/
theorem findSome?_filter_ne (next : Thread → Option Nat) {t : Thread} (ht : next t = none)
    (threads : List Thread) :
    (threads.filter fun t' => !t' == t).findSome? next = threads.findSome? next := by
  induction threads with
  | nil => rfl
  | cons t' threads ih =>
    by_cases hsame : t' = t
    · subst hsame
      rw [List.filter_cons_of_neg (by simp), List.findSome?_cons, ht, ih]
    · rw [List.filter_cons_of_pos (by simpa using hsame), List.findSome?_cons,
        List.findSome?_cons, ih]

/-- A thread that comes twice need not be tried again. -/
theorem findSome?_eraseDups (next : Thread → Option Nat) (threads : List Thread) :
    threads.eraseDups.findSome? next = threads.findSome? next := by
  induction hn : threads.length using Nat.strongRecOn generalizing threads with
  | ind n ih =>
    cases threads with
    | nil => rfl
    | cons t threads =>
      have hshorter := List.length_filter_le (fun t' => !t' == t) threads
      rw [List.length_cons] at hn
      rw [List.eraseDups_cons, List.findSome?_cons, List.findSome?_cons,
        ih _ (by omega) _ rfl]
      cases ht : next t with
      | some n => rfl
      | none => exact findSome?_filter_ne next ht threads

/-- The threads after a character come to what the moves over it come to. -/
theorem findSome?_advance (c : Char) (next : Thread → Option Nat) (moves : List Head)
    (h : .stop ∉ moves) :
    ((advance c moves).findSome? next).map (c.utf8Size + ·) =
      moves.findSome? (firstMove c next) := by
  rw [advance, findSome?_eraseDups]
  induction moves with
  | nil => rfl
  | cons m ms ih =>
    have ih := ih fun hm => h (List.mem_cons_of_mem m hm)
    cases m with
    | stop => exact absurd List.mem_cons_self h
    | read s rest =>
      rw [List.findSome?_cons, ← ih, List.filterMap_cons]
      by_cases hs : s.contains c = true
      · simp only [hs, if_true, firstMove, List.findSome?_cons]
        cases next rest <;> rfl
      · simp only [hs, firstMove]
        rfl

theorem findSome?_flatMap_heads (before : Option Char) (c : Char) (cs : List Char)
    (threads : List Thread) :
    (threads.flatMap (Thread.heads before (some c))).findSome?
        (firstMove c (backtrack (some c) cs)) =
      threads.findSome? (backtrack before (c :: cs)) := by
  induction threads with
  | nil => rfl
  | cons t threads ih =>
    rw [List.flatMap_cons, List.findSome?_append, ih, List.findSome?_cons]
    rw [backtrack]
    cases (t.heads before (some c)).findSome? (firstMove c (backtrack (some c) cs)) <;> rfl

/-- At the end of the text a thread matches if it can stop. -/
theorem findSome?_backtrack_nil (before : Option Char) (threads : List Thread) :
    threads.findSome? (backtrack before []) =
      if (untilStop (threads.flatMap (Thread.heads before none))).2 then some 0 else none := by
  simp only [untilStop_snd]
  induction threads with
  | nil => rfl
  | cons t threads ih =>
    rw [List.findSome?_cons, ih, backtrack]
    by_cases ht : .stop ∈ t.heads before none
    · simp [ht]
    · simp [ht]

/-- Following all threads at the same time finds what trying one after the other finds. -/
theorem follow_eq (before : Option Char) (threads : List Thread) (taken : Nat) (best : Option Nat)
    (cs : List Char) :
    follow before threads taken best cs =
      ((threads.findSome? (backtrack before cs)).map (taken + ·)).or best := by
  induction cs generalizing before threads taken best with
  | nil =>
    rw [follow, findSome?_backtrack_nil]
    cases (untilStop (threads.flatMap (Thread.heads before none))).2 <;> simp
  | cons c cs ih =>
    have hmoves := findSome?_untilStop c (backtrack (some c) cs)
      (threads.flatMap (Thread.heads before (some c)))
    have hstop := not_stop_mem_untilStop (threads.flatMap (Thread.heads before (some c)))
    rw [findSome?_flatMap_heads] at hmoves
    rw [follow, hmoves]
    generalize untilStop (threads.flatMap (Thread.heads before (some c))) = found at hstop
    obtain ⟨moves, stops⟩ := found
    rw [← findSome?_advance c _ _ hstop]
    dsimp only
    cases hadvance : advance c moves with
    | nil => cases stops <;> simp
    | cons t threads =>
      dsimp only
      rw [ih]
      cases (t :: threads).findSome? (backtrack (some c) cs) with
      | none => cases stops <;> simp
      | some n => cases stops <;> simp [Nat.add_assoc]

/-- The match at the front of a text is the first one in the order of preference. -/
theorem matchFront_eq_backtrack (r : Regex) (before : Option Char) (cs : List Char) :
    r.matchFront before cs = backtrack before cs [r] := by
  rw [matchFront, follow_eq]
  simp

end Backtracking

section Anchored

/-- Behind the start of the text. -/
def anchored (r : Regex) : Regex := .cat (.look .textStart) r

variable (r : Regex)

theorem heads_anchored_none (after : Option Char) :
    Thread.heads none after [r.anchored] = Thread.heads none after [r] := by
  have hheads : r.anchored.heads none after = r.heads none after := List.append_nil _
  rw [Thread.heads, hheads]
  rfl

/-- At the start of the text the anchor changes nothing. -/
theorem matchFront_anchored_none (cs : List Char) :
    r.anchored.matchFront none cs = r.matchFront none cs := by
  cases cs with
  | nil => simp only [matchFront, follow, List.flatMap_singleton, heads_anchored_none]
  | cons c cs => simp only [matchFront, follow, List.flatMap_singleton, heads_anchored_none]

/-- Past the start of the text there is no match. -/
theorem matchFront_anchored_some (c : Char) (cs : List Char) :
    r.anchored.matchFront (some c) cs = none := by
  cases cs <;> rfl

theorem findFrom_anchored_some (c : Char) (offset : Nat) (cs : List Char) :
    r.anchored.findFrom (some c) offset cs = none := by
  induction cs generalizing c offset with
  | nil =>
    unfold findFrom
    rw [matchFront_anchored_some]
  | cons c' cs ih =>
    unfold findFrom
    rw [matchFront_anchored_some]
    exact ih c' _

/-- Behind the start of the text, an expression matches at the front or not at all. -/
theorem find_anchored (cs : List Char) :
    r.anchored.find cs = (r.matchFront none cs).map fun n => (0, n) := by
  unfold find findFrom
  rw [matchFront_anchored_none]
  cases r.matchFront none cs with
  | some n => simp
  | none =>
    cases cs with
    | nil => rfl
    | cons c cs => exact findFrom_anchored_some r c _ cs

end Anchored

end Regex

end Descent
