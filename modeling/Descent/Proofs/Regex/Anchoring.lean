import Descent.Grammar.Run
import Descent.Proofs.Regex.Standard
import Descent.Proofs.Scanning

/-!
# Patterns behind an anchor

A pattern is compiled between the parentheses of a group behind the start of the
text. If it is an expression by itself, it is the same one there, and matches at
the front of a text or not at all. But a comment at its end takes the closing
parenthesis in, and a parenthesis in it that closes the group is read as well,
and leaves the rest of the pattern without the anchor.
-/
namespace Descent

variable {V C : Type}

/-- At a run, a primitive takes a text of a given length in bytes from the front of what is left, or
fails on the spot if there is no such length. -/
structure Run.TakesMatch (p : Primitive) (length : Option Nat) (miss : Miss) (r : Run V C) :
    Prop where
  fails_iff : (r.onSession (Session.scan p)).failed = true ↔ length = none
  takes : ∀ n, length = some n → ∃ text, text <+: r.session.rest ∧ byteLength text = n ∧
    (r.session.scan p).cursor = r.session.cursor + n ∧
    (r.session.scan p).result =
      { position := r.session.cursor
        text := String.ofList text
        value := .text (String.ofList text) }
  stays : length = none → (r.session.scan p).cursor = r.session.cursor ∧
    (r.session.scan p).result =
      { position := r.session.cursor
        errorAt := some (r.session.cursor + miss.delta)
        feedback := [r.session.item .error (r.session.cursor + miss.delta) miss.message
          miss.cause] }

/-- What a matcher finds at the front of a text is taken, and nothing else. -/
theorem Run.takesMatch_regexp {matcher : Matcher} {length : Option Nat} (pattern : String)
    (r : Run V C) (hr : IsBoundary r.session.cursor r.session.source.chars)
    (hfind : matcher.find r.session.rest = length.map fun n => (0, n)) :
    r.TakesMatch (.regexp pattern matcher) length (.regexp pattern) := by
  cases length with
  | none =>
    have hscan : (Primitive.scan r.session.rest (.regexp pattern matcher) : Except Miss (Match V)) =
        .error (.regexp pattern) := by
      rw [Primitive.scan, hfind]
      rfl
    have hmissed := Session.scan_missed hscan
    refine ⟨⟨fun _ => rfl, fun _ => ?_⟩, fun n hn => absurd hn (by simp), fun _ => hmissed⟩
    simp [Run.failed, Run.onSession, Result.failed, hmissed.2]
  | some n =>
    obtain ⟨front, after, hcut, rfl⟩ := matcher.stop_boundary _ _ _ hfind
    have hscan : (Primitive.scan r.session.rest (.regexp pattern matcher) : Except Miss (Match V)) =
        .ok ⟨byteLength front, .text (String.ofList front)⟩ := by
      rw [Primitive.scan, hfind, hcut]
      simp
    have htaken := Session.scan_taken hr hcut hscan
    refine ⟨⟨fun hfailed => ?_, fun hnone => absurd hnone (by simp)⟩, ?_,
      fun hnone => absurd hnone (by simp)⟩
    · simp [Run.failed, Run.onSession, Result.failed, htaken.2] at hfailed
    · rintro _ ⟨⟩
      exact ⟨front, ⟨after, hcut.symm⟩, rfl, htaken⟩

open Dialect Primitive

/-- An empty pattern is refused as such, whether or not it has the anchor. An expression, with room
for the anchor in the limits of the engine, is accepted unless it ends in a comment, so that a
parenthesis may be added to it; then it takes at the cursor the match that it prefers at the front
of what is left, or fails if it has none there. What is no expression is refused, unless a
parenthesis in it closes the group. -/
theorem regexp?_anchored {d : Dialect} (hd : d.Lawful) {compile : Engine} (hc : compile.Follows d)
    (pattern : String) (env : Env V C) (fuel : Nat) (hook : Script V C) :
    (unanchored pattern = "" → regexp? compile pattern = .error .emptyRegexp) ∧
    (unanchored pattern ≠ "" → d.WellFormed (unanchored pattern) →
      (d.WellFormed (unanchored pattern ++ ")") ∨ ¬ d.Fits (anchored (unanchored pattern)) →
        regexp? compile pattern = .error (.invalidRegexp pattern)) ∧
      (¬ d.WellFormed (unanchored pattern ++ ")") → d.Fits (anchored (unanchored pattern)) →
        ∃ matcher, regexp? compile pattern = .ok (.regexp (unanchored pattern) matcher) ∧
          ∀ r : Run V C, IsBoundary r.session.cursor r.session.source.chars →
            (Grammar.primitive (.regexp (unanchored pattern) matcher) hook).parse env (fuel + 1) r =
              some ((r.onSession
                (Session.scan (.regexp (unanchored pattern) matcher))).finish hook) ∧
            r.TakesMatch (.regexp (unanchored pattern) matcher)
              (d.matchAt (unanchored pattern) [] r.session.rest)
              (.regexp (unanchored pattern)))) ∧
    (unanchored pattern ≠ "" → ¬ d.WellFormed (unanchored pattern) →
      regexp? compile pattern = .error (.invalidRegexp pattern) ∨
        ∃ front back, unanchored pattern = front ++ ")" ++ back ∧ d.WellFormed front) := by
  have hrefused (hne : unanchored pattern ≠ "")
      (h : ¬ (d.WellFormed (anchored (unanchored pattern)) ∧
        d.Fits (anchored (unanchored pattern)))) :
      regexp? compile pattern = .error (.invalidRegexp pattern) := by
    rw [← hc.compiles_iff, Option.not_isSome_iff_eq_none] at h
    rw [regexp?, if_neg hne, h]
  refine ⟨fun hempty => if_pos hempty, fun hne hwell => ⟨fun h => ?_, fun halone hfits => ?_⟩,
    fun hne hill => ?_⟩
  · refine hrefused hne fun hanchored => ?_
    rcases h with halone | hfits
    · exact (hd.anchored_iff hwell).1 hanchored.1 halone
    · exact hfits hanchored.2
  · have hcompiles := (hc.compiles_iff _).2 ⟨(hd.anchored_iff hwell).2 halone, hfits⟩
    obtain ⟨matcher, hm⟩ := Option.isSome_iff_exists.1 hcompiles
    refine ⟨matcher, ?_, fun r hr => ⟨rfl, ?_⟩⟩
    · rw [regexp?, if_neg hne, hm]
    · exact Run.takesMatch_regexp _ r hr (hc.find_anchored hd hwell hm r.session.rest)
  · by_cases hanchored : d.WellFormed (anchored (unanchored pattern))
    · exact .inr ((hd.exists_of_anchored hanchored).resolve_left hill)
    · exact .inl (hrefused hne fun h => hanchored h.1)

section Letters

/-- At an offset of a text of three letters. -/
def lettersFrom (offset : Nat) : Run Unit Unit :=
  ⟨{ source := ⟨"letters", "cba"⟩, cursor := offset }, (), #[]⟩

theorem regexp?_anchored_alternatives :
    ∃ matcher, regexp? .standard "^a|b" = .ok (.regexp "a|b" matcher) ∧
      ((lettersFrom 1).session.scan (.regexp "a|b" matcher)).cursor = 2 ∧
      ((lettersFrom 0).onSession (Session.scan (.regexp "a|b" matcher))).failed = true := by
  have hinner : unanchored "^a|b" = "a|b" := by decide +kernel
  have hwell : standard.WellFormed (unanchored "^a|b") := by
    show (Pattern.read? (unanchored "^a|b")).isSome = true
    decide +kernel
  have halone : ¬ standard.WellFormed (unanchored "^a|b" ++ ")") := by
    show ¬ (Pattern.read? (unanchored "^a|b" ++ ")")).isSome = true
    decide +kernel
  have hfits : standard.Fits (anchored (unanchored "^a|b")) := by
    show ∀ piece ∈ Pattern.read? _, _ ∧ _
    decide +kernel
  have hmatch : standard.matchAt (unanchored "^a|b") [] (lettersFrom 1).session.rest = some 1 := by
    decide +kernel
  have hmiss : standard.matchAt (unanchored "^a|b") [] (lettersFrom 0).session.rest = none := by
    decide +kernel
  obtain ⟨matcher, hregexp, hparse⟩ := (regexp?_anchored standard_lawful standard_follows "^a|b"
    (fun _ => .unbound : Env Unit Unit) 0 .done).2.1 (by decide +kernel) hwell |>.2 halone hfits
  obtain ⟨-, htakes⟩ := hparse (lettersFrom 1) (by decide +kernel)
  obtain ⟨-, hfails⟩ := hparse (lettersFrom 0) (by decide +kernel)
  rw [hinner] at hregexp htakes hfails hmatch hmiss
  obtain ⟨text, -, -, hcursor, -⟩ := htakes.takes 1 hmatch
  exact ⟨matcher, hregexp, hcursor, hfails.fails_iff.2 hmiss⟩

/-- The pattern is no expression, as its parentheses do not fit together. Between the parentheses of
a group they do, and the match that is found is not at the front. -/
theorem regexp?_unbalanced :
    ¬ standard.WellFormed "a)|(b" ∧
      ∃ matcher, regexp? .standard "a)|(b" = .ok (.regexp "a)|(b" matcher) ∧
        matcher.find "xb".toList = some (1, 2) ∧
        (Primitive.scan "xb".toList (.regexp "a)|(b" matcher) : Except Miss (Match Unit)) =
          .ok ⟨2, .text "xb"⟩ := by
  have hregex : (Regex.ofPattern? (anchored "a)|(b")).map (fun r =>
      (r.matchFront none "xb".toList, r.matchFront (some 'x') "b".toList)) =
        some (none, some 1) := by
    decide +kernel
  obtain ⟨regex, hregex, hmatch⟩ := Option.map_eq_some_iff.1 hregex
  obtain ⟨hfront, hlater⟩ := Prod.mk.inj hmatch
  have hfind : regex.find "xb".toList = some (1, 2) := by
    unfold Regex.find Regex.findFrom
    rw [hfront]
    show Regex.findFrom regex (some 'x') 1 "b".toList = _
    unfold Regex.findFrom
    rw [hlater]
  refine ⟨?_, regex.matcher, ?_, hfind, ?_⟩
  · show ¬ (Pattern.read? "a)|(b").isSome = true
    decide +kernel
  · have hinner : unanchored "a)|(b" = "a)|(b" := by decide +kernel
    rw [regexp?, hinner, Engine.standard, hregex]
    rfl
  · rw [Primitive.scan, Regex.matcher_find, hfind]
    rfl

end Letters

end Descent
