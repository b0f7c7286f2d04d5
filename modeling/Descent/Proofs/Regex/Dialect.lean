import Descent.Primitive.Basic
import Mathlib.Tactic.Common

/-!
# Dialects

What an engine reads as an expression, and what it means by it. All that is
asked of a dialect is how groups and the start of the text work in it: what
stands in a group is an expression by itself and matches as it does by itself,
and behind the start of the text it matches there or nowhere. So an engine that
follows a dialect finds behind the anchor what the expression itself prefers at
the front of a text.
-/
namespace Descent

/-- The expressions of an engine. -/
structure Dialect where
  /-- The text is an expression. -/
  WellFormed : String → Prop
  /-- The expression is within the engine's limits of nesting and size. -/
  Fits : String → Prop
  /-- Length in bytes of the match of an expression between two parts of a text that is the first
  one in the order of preference. -/
  matchAt : String → List Char → List Char → Option Nat

namespace Dialect

def group (inner : String) : String := "(?:" ++ inner ++ ")"

/-- How a dialect treats groups and the start of the text. -/
structure Lawful (d : Dialect) : Prop where
  /-- An expression may stand in a group, unless it ends in a comment, where the closing parenthesis
  is a part of the comment. Otherwise a parenthesis after it closes nothing. -/
  group_iff : ∀ inner, d.WellFormed inner →
    (d.WellFormed (group inner) ↔ ¬ d.WellFormed (inner ++ ")"))
  /-- A group is closed, and what it holds is an expression. -/
  exists_of_group : ∀ text, d.WellFormed ("(?:" ++ text) →
    ∃ front rest, text = front ++ ")" ++ rest ∧ d.WellFormed front
  /-- A group matches what it holds. -/
  matchAt_group : ∀ inner, d.WellFormed inner → d.WellFormed (group inner) →
    d.matchAt (group inner) = d.matchAt inner
  /-- The start of the text may stand before a group, and only there an anchored group matches. -/
  anchor_iff : ∀ text, d.WellFormed ("^(?:" ++ text) ↔ d.WellFormed ("(?:" ++ text)
  matchAt_anchor : ∀ inner, d.WellFormed inner → d.WellFormed (group inner) → ∀ before rest,
    d.matchAt ("^" ++ group inner) before rest =
      if before = [] then d.matchAt (group inner) before rest else none

end Dialect

/-- The first place in a text, which comes after `front`, with a match, and the match there;
`matchAt` gives the length of a match between two parts of the whole text. -/
def FirstMatch (matchAt : List Char → List Char → Option Nat) (front rest : List Char)
    (start stop : Nat) : Prop :=
  ∃ before after n, rest = before ++ after ∧ start = byteLength (front ++ before) ∧
    stop = start + n ∧ matchAt (front ++ before) after = some n ∧
    ∀ earlier later, rest = earlier ++ later → byteLength (front ++ earlier) < start →
      matchAt (front ++ earlier) later = none

section FirstMatch

variable {matchAt : List Char → List Char → Option Nat} {front rest : List Char} {start stop : Nat}

theorem firstMatch_here {n : Nat} (h : matchAt front rest = some n) :
    FirstMatch matchAt front rest start stop ↔
      start = byteLength front ∧ stop = byteLength front + n := by
  constructor
  · rintro ⟨before, after, n', hcut, rfl, rfl, hmatch, hearlier⟩
    cases before with
    | nil =>
      rw [hcut, List.nil_append] at h
      rw [List.append_nil] at hmatch ⊢
      obtain rfl := Option.some.inj (h.symm.trans hmatch)
      exact ⟨rfl, rfl⟩
    | cons c before =>
      have hpos := c.utf8Size_pos
      have hnone := hearlier [] rest rfl (by simp; omega)
      rw [List.append_nil, h] at hnone
      cases hnone
  · rintro ⟨rfl, rfl⟩
    refine ⟨[], rest, n, rfl, by simp, rfl, by simpa using h, fun earlier later _ hlt => ?_⟩
    rw [byteLength_append] at hlt
    omega

theorem not_firstMatch_nil (h : matchAt front [] = none) :
    ¬ FirstMatch matchAt front [] start stop := by
  rintro ⟨before, after, n, hcut, -, -, hmatch, -⟩
  obtain ⟨rfl, rfl⟩ := List.append_eq_nil_iff.1 hcut.symm
  rw [List.append_nil, h] at hmatch
  cases hmatch

theorem firstMatch_cons {c : Char} (h : matchAt front (c :: rest) = none) :
    FirstMatch matchAt front (c :: rest) start stop ↔
      FirstMatch matchAt (front ++ [c]) rest start stop := by
  have hfront (text : List Char) : front ++ [c] ++ text = front ++ c :: text := by simp
  constructor
  · rintro ⟨before, after, n, hcut, hstart, hstop, hmatch, hearlier⟩
    cases before with
    | nil =>
      obtain rfl : c :: rest = after := hcut
      rw [List.append_nil, h] at hmatch
      cases hmatch
    | cons c' before =>
      obtain ⟨rfl, rfl⟩ := List.cons.inj hcut
      refine ⟨before, after, n, rfl, by rwa [hfront], hstop, by rwa [hfront], ?_⟩
      intro earlier later hlater hlt
      rw [hfront] at hlt ⊢
      exact hearlier (c :: earlier) later (congrArg (c :: ·) hlater) hlt
  · rintro ⟨before, after, n, rfl, hstart, hstop, hmatch, hearlier⟩
    rw [hfront] at hstart hmatch
    refine ⟨c :: before, after, n, rfl, hstart, hstop, hmatch, ?_⟩
    intro earlier later hlater hlt
    cases earlier with
    | nil =>
      obtain rfl : c :: (before ++ after) = later := hlater
      rw [List.append_nil]
      exact h
    | cons c' earlier =>
      obtain ⟨rfl, hcut⟩ := List.cons.inj hlater
      rw [← hfront] at hlt ⊢
      exact hearlier earlier later hcut hlt

end FirstMatch

/-- An engine compiles the expressions of a dialect that are within its limits, and finds the first
place in a text where there is a match, with the match that is preferred there. -/
structure Engine.Follows (compile : Engine) (d : Dialect) : Prop where
  compiles_iff : ∀ text, (compile text).isSome ↔ d.WellFormed text ∧ d.Fits text
  finds_iff : ∀ text matcher, compile text = some matcher → ∀ cs start stop,
    matcher.find cs = some (start, stop) ↔ FirstMatch (d.matchAt text) [] cs start stop

section Anchored

variable {d : Dialect} {compile : Engine} {inner : String}

open Dialect Primitive

theorem anchored_eq (inner : String) : anchored inner = "^" ++ group inner := by
  rw [anchored, group, String.append_assoc, String.append_assoc, ← String.append_assoc]
  rfl

/-- An expression may be anchored in a group unless it ends in a comment. -/
theorem Dialect.Lawful.anchored_iff (hd : d.Lawful) (h : d.WellFormed inner) :
    d.WellFormed (anchored inner) ↔ ¬ d.WellFormed (inner ++ ")") := by
  rw [← hd.group_iff inner h, anchored, String.append_assoc, hd.anchor_iff, group,
    String.append_assoc]

/-- What can be anchored in a group is an expression, or has one before a parenthesis in it that
closes the group. -/
theorem Dialect.Lawful.exists_of_anchored (hd : d.Lawful) (h : d.WellFormed (anchored inner)) :
    d.WellFormed inner ∨ ∃ front back, inner = front ++ ")" ++ back ∧ d.WellFormed front := by
  rw [anchored, String.append_assoc, hd.anchor_iff] at h
  obtain ⟨front, rest, hcut, hfront⟩ := hd.exists_of_group _ h
  have hcut : inner.toList ++ [')'] = (front.toList ++ [')']) ++ rest.toList := by
    simpa [String.toList_append] using congrArg String.toList hcut
  rcases List.eq_nil_or_concat rest.toList with hnil | ⟨back, c, hback⟩
  · rw [hnil, List.append_nil] at hcut
    rw [← String.toList_inj.1 (List.append_cancel_right hcut)] at hfront
    exact .inl hfront
  · rw [hback, List.concat_eq_append, ← List.append_assoc] at hcut
    have hinner := (List.append_inj' hcut rfl).1
    exact .inr ⟨front, String.ofList back, String.toList_inj.1 (by simp [hinner]), hfront⟩

theorem Dialect.Lawful.matchAt_anchored (hd : d.Lawful) (h : d.WellFormed inner)
    (hgroup : d.WellFormed (anchored inner)) (before rest : List Char) :
    d.matchAt (anchored inner) before rest =
      if before = [] then d.matchAt inner before rest else none := by
  have hgroup : d.WellFormed (group inner) := by
    rwa [hd.group_iff inner h, ← hd.anchored_iff h]
  rw [anchored_eq, hd.matchAt_anchor inner h hgroup, hd.matchAt_group inner h hgroup]

/-- Behind the anchor an engine finds the match that the expression prefers at the front of the
text, or none. -/
theorem Engine.Follows.find_anchored (hc : compile.Follows d) (hd : d.Lawful)
    (h : d.WellFormed inner) {matcher : Matcher} (hm : compile (anchored inner) = some matcher)
    (cs : List Char) : matcher.find cs = (d.matchAt inner [] cs).map fun n => (0, n) := by
  have hgroup := ((hc.compiles_iff _).1 (Option.isSome_iff_exists.2 ⟨matcher, hm⟩)).1
  have hanchored := hd.matchAt_anchored h hgroup
  ext ⟨start, stop⟩
  rw [hc.finds_iff _ _ hm]
  cases hmatch : d.matchAt inner [] cs with
  | some n =>
    rw [firstMatch_here ((hanchored [] cs).trans hmatch)]
    simp [eq_comm]
  | none =>
    refine ⟨?_, nofun⟩
    rintro ⟨before, after, n, rfl, -, -, hsome, -⟩
    rw [List.nil_append, hanchored] at hsome
    split at hsome
    · next hbefore =>
      subst hbefore
      cases hmatch.symm.trans hsome
    · cases hsome

end Anchored

end Descent
