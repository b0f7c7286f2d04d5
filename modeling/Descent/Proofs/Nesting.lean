import Descent.Proofs.Meaning
import Mathlib.Data.List.Basic

/-!
# Nested combinators

A combinator without a hook may stand inside another one of its own kind, in
place of its children: an ordered choice finds the same match, and so does the
choice of the longest match; a sequence goes the same way, and its value has
the list of the inner one where the outer one would have the values.
-/
namespace Descent

variable {V C : Type}

section Append

/-! What a list of children comes to is what its first part comes to, and then the rest. -/

/-- The choice with more failures in front. -/
def Choice.after (before : List (Result V)) : Choice V C → Choice V C
  | .won winner => .won winner
  | .lost failures context => .lost (before ++ failures) context

/-- Goes on with a choice if there is no winner yet. -/
def Choice.resume (next : C → Option (Choice V C)) : Choice V C → Option (Choice V C)
  | .won winner => some (.won winner)
  | .lost failures context => (next context).map (Choice.after failures)

/-- The row with more matches in front. -/
def Row.after (before : List (Result V)) : Row V C → Row V C
  | .matched results stop context => .matched (before ++ results) stop context
  | .failed failure context => .failed failure context

/-- Goes on with a row if none of its parts has failed yet. -/
def Row.resume (next : Nat → C → Option (Row V C)) : Row V C → Option (Row V C)
  | .matched results stop context => (next stop context).map (Row.after results)
  | .failed failure context => some (.failed failure context)

theorem Choice.after_nil : (Choice.after [] : Choice V C → Choice V C) = id := by
  funext choice
  cases choice <;> rfl

theorem Row.after_nil : (Row.after [] : Row V C → Row V C) = id := by
  funext row
  cases row <;> rfl

theorem Choice.resume_cons (next : C → Option (Choice V C)) (failure : Result V)
    (choice : Choice V C) :
    (choice.cons failure).resume next = (choice.resume next).map (Choice.cons failure) := by
  cases choice with
  | won winner => rfl
  | lost failures context =>
    have hafter : Choice.after (C := C) (failure :: failures) =
        Choice.cons failure ∘ Choice.after failures := by
      funext choice
      cases choice <;> rfl
    simp only [Choice.cons, Choice.resume, Option.map_map, hafter]

theorem Row.resume_cons (next : Nat → C → Option (Row V C)) (result : Result V)
    (row : Row V C) :
    (row.cons result).resume next = (row.resume next).map (Row.cons result) := by
  cases row with
  | failed failure context => rfl
  | matched results stop context =>
    have hafter : Row.after (C := C) (result :: results) = Row.cons result ∘ Row.after results := by
      funext row
      cases row <;> rfl
    simp only [Row.cons, Row.resume, Option.map_map, hafter]

namespace Evaluator

variable (ev : Evaluator V C)

theorem choice_step (start : Nat) (g : Grammar V C) (gs : List (Grammar V C)) (context : C) :
    ev.choice start (g :: gs) context = (ev g start context).bind fun o =>
      if o.result.failed then (ev.choice start gs o.context).map (Choice.cons o.result)
      else some (.won o) := by
  rw [choice]
  refine congrArg _ (funext fun o => ?_)
  split
  · cases ev.choice start gs o.context <;> rfl
  · rfl

theorem row_step (g : Grammar V C) (gs : List (Grammar V C)) (start : Nat) (context : C) :
    ev.row (g :: gs) start context = (ev g start context).bind fun o =>
      if o.result.failed then some (.failed o.result o.context)
      else (ev.row gs o.cursor o.context).map (Row.cons o.result) := by
  rw [row]
  refine congrArg _ (funext fun o => ?_)
  split
  · rfl
  · cases ev.row gs o.cursor o.context <;> rfl

theorem each_step (start : Nat) (g : Grammar V C) (gs : List (Grammar V C)) (context : C) :
    ev.each start (g :: gs) context = (ev g start context).bind fun o =>
      (ev.each start gs o.context).map fun x => (o :: x.1, x.2) := by
  rw [each]
  refine congrArg _ (funext fun o => ?_)
  cases ev.each start gs o.context <;> rfl

theorem choice_append (start : Nat) (as bs : List (Grammar V C)) (context : C) :
    ev.choice start (as ++ bs) context =
      (ev.choice start as context).bind (Choice.resume (ev.choice start bs)) := by
  induction as generalizing context with
  | nil =>
    rw [List.nil_append, choice, Option.bind_some, Choice.resume, Choice.after_nil]
    exact Option.map_id'.symm
  | cons g gs ih =>
    rw [List.cons_append, choice_step, choice_step, Option.bind_assoc]
    refine congrArg _ (funext fun o => ?_)
    split
    · rw [ih, Option.map_bind, Option.bind_map]
      exact congrArg _ (funext fun choice => (choice.resume_cons _ _).symm)
    · rfl

theorem row_append (as bs : List (Grammar V C)) (start : Nat) (context : C) :
    ev.row (as ++ bs) start context =
      (ev.row as start context).bind (Row.resume (ev.row bs)) := by
  induction as generalizing start context with
  | nil =>
    rw [List.nil_append, row, Option.bind_some, Row.resume, Row.after_nil]
    exact Option.map_id'.symm
  | cons g gs ih =>
    rw [List.cons_append, row_step, row_step, Option.bind_assoc]
    refine congrArg _ (funext fun o => ?_)
    split
    · rfl
    · rw [ih, Option.map_bind, Option.bind_map]
      exact congrArg _ (funext fun row => (row.resume_cons _ _).symm)

theorem each_append (start : Nat) (as bs : List (Grammar V C)) (context : C) :
    ev.each start (as ++ bs) context = (ev.each start as context).bind fun x =>
      (ev.each start bs x.2).map fun y => (x.1 ++ y.1, y.2) := by
  induction as generalizing context with
  | nil => exact Option.map_id'.symm
  | cons g gs ih =>
    rw [List.cons_append, each_step, each_step, Option.bind_assoc]
    refine congrArg _ (funext fun o => ?_)
    rw [ih, Option.map_bind, Option.bind_map]
    exact congrArg _ (funext fun x => Option.map_map _ _ _)

end Evaluator

end Append

namespace Evaluator

section Facts

variable {ev : Evaluator V C} {gs : List (Grammar V C)} {start : Nat} {context : C}

/-- What wins is a match. -/
theorem choice_won {winner : Outcome V C} (h : ev.choice start gs context = some (.won winner)) :
    ¬ winner.result.failed = true := by
  induction gs generalizing context with
  | nil => cases h
  | cons g gs ih =>
    rw [choice_step] at h
    obtain ⟨o, -, h⟩ := Option.bind_eq_some_iff.1 h
    split at h
    · obtain ⟨choice, hchoice, h⟩ := Option.map_eq_some_iff.1 h
      cases choice with
      | won winner' =>
        obtain rfl : winner' = winner := Choice.won.inj h
        exact ih hchoice
      | lost failures context => cases h
    · next hmatch =>
      obtain rfl : o = winner := Choice.won.inj (Option.some.inj h)
      exact hmatch

/-- What ends a row is a failure. -/
theorem row_failure {failure : Result V} {context' : C}
    (h : ev.row gs start context = some (.failed failure context')) : failure.failed = true := by
  induction gs generalizing start context with
  | nil => cases h
  | cons g gs ih =>
    rw [row_step] at h
    obtain ⟨o, -, h⟩ := Option.bind_eq_some_iff.1 h
    split at h
    · next hfailed =>
      obtain ⟨rfl, -⟩ := Row.failed.inj (Option.some.inj h)
      exact hfailed
    · obtain ⟨row, hrow, h⟩ := Option.map_eq_some_iff.1 h
      cases row with
      | matched results stop context => cases h
      | failed failure' context'' =>
        obtain ⟨rfl, rfl⟩ := Row.failed.inj h
        exact ih hrow

/-- In a row that matches, the first part matches and the others do after it. -/
theorem row_cons_matched {g : Grammar V C} {results : List (Result V)} {stop : Nat} {context' : C}
    (h : ev.row (g :: gs) start context = some (.matched results stop context')) :
    ∃ o rest, ev g start context = some o ∧ results = o.result :: rest ∧
      ev.row gs o.cursor o.context = some (.matched rest stop context') := by
  rw [row_step] at h
  obtain ⟨o, ho, h⟩ := Option.bind_eq_some_iff.1 h
  split at h
  · cases h
  · obtain ⟨row, hrow, h⟩ := Option.map_eq_some_iff.1 h
    cases row with
    | matched rest stop' context'' =>
      obtain ⟨rfl, rfl, rfl⟩ := Row.matched.inj h
      exact ⟨o, rest, ho, rfl, hrow⟩
    | failed failure context => cases h

/-- A row has one result for each of its parts. -/
theorem row_length {results : List (Result V)} {stop : Nat} {context' : C}
    (h : ev.row gs start context = some (.matched results stop context')) :
    results.length = gs.length := by
  induction gs generalizing start context results with
  | nil =>
    obtain ⟨rfl, -⟩ := Row.matched.inj (Option.some.inj h)
    rfl
  | cons g gs ih =>
    obtain ⟨o, rest, -, rfl, hrest⟩ := row_cons_matched h
    exact congrArg (· + 1) (ih hrest)

/-- Where a row stops, if every match stops at an offset of a kind. -/
theorem row_stop {P : Nat → Prop}
    (hgs : ∀ g ∈ gs, ∀ start context o, P start → ev g start context = some o → P o.cursor)
    (hstart : P start) {results : List (Result V)} {stop : Nat} {context' : C}
    (h : ev.row gs start context = some (.matched results stop context')) : P stop := by
  induction gs generalizing start context results with
  | nil =>
    obtain ⟨-, rfl, -⟩ := Row.matched.inj (Option.some.inj h)
    exact hstart
  | cons g gs ih =>
    obtain ⟨o, rest, ho, -, hrest⟩ := row_cons_matched h
    exact ih (fun g' hg' => hgs g' (List.mem_cons_of_mem g hg'))
      (hgs g List.mem_cons_self start context o hstart ho) hrest

end Facts

end Evaluator

/-- Two choices with the same winner, or two in which all has failed. -/
inductive Choice.SameWinner : Choice V C → Choice V C → Prop
  | won (winner : Outcome V C) : SameWinner (.won winner) (.won winner)
  | lost (failures failures' : List (Result V)) (context : C) :
      SameWinner (.lost failures context) (.lost failures' context)

theorem Choice.SameWinner.after {choice choice' : Choice V C} (h : choice.SameWinner choice')
    (before before' : List (Result V)) :
    (choice.after before).SameWinner (choice'.after before') := by
  cases h with
  | won winner => exact .won winner
  | lost failures failures' context => exact .lost _ _ context

theorem Choice.sameWinner_cons (choice : Choice V C) (failure : Result V)
    (before : List (Result V)) : (choice.cons failure).SameWinner (choice.after before) := by
  cases choice with
  | won winner => exact .won winner
  | lost failures context => exact .lost _ _ context

/-- Two rows that go the same way. One of the results in the first row stands for `n` results in
the second, after the first `k`. -/
inductive Row.Splices (k n : Nat) : Row V C → Row V C → Prop
  | matched (before inner after : List (Result V)) (whole : Result V) (stop : Nat) (context : C)
      (hk : before.length = k) (hn : inner.length = n)
      (hvalue : whole.value = .list (inner.map (·.value)))
      (hfeedback : whole.feedback = inner.flatMap (·.feedback)) :
      Splices k n (.matched (before ++ whole :: after) stop context)
        (.matched (before ++ (inner ++ after)) stop context)
  | failed (failure failure' : Result V) (context : C) (hf : failure.failed = true)
      (hsame : failure = { failure' with position := failure.position }) :
      Splices k n (.failed failure context) (.failed failure' context)

theorem Row.Splices.after {n : Nat} {row row' : Row V C} (h : row.Splices 0 n row')
    (before : List (Result V)) :
    (row.after before).Splices before.length n (row'.after before) := by
  cases h with
  | failed failure failure' context hf hsame => exact .failed failure failure' context hf hsame
  | matched first inner after whole stop context hk hn hvalue hfeedback =>
    obtain rfl := List.length_eq_zero_iff.1 hk
    exact .matched before inner after whole stop context rfl hn hvalue hfeedback

/-- Two series of alternatives among which the same match is kept. -/
def SameKept (x y : List (Outcome V C) × C) : Prop :=
  x.2 = y.2 ∧ ∀ found, Run.keptOf found x.1 = Run.keptOf found y.1

section Kept

open Run

theorem keptOf_append (found : Option (Nat × Result V)) (as bs : List (Outcome V C)) :
    keptOf found (as ++ bs) = keptOf (keptOf found as) bs := by
  simp only [keptOf, List.filter_append, List.foldl_append]

/-- The match that is kept, or else the one that was found before. -/
def keptAfter (found : Option (Nat × Result V)) : Option (Nat × Result V) → Option (Nat × Result V)
  | none => found
  | some (stop, result) => further found stop result

/-- The furthest of some matches is the furthest of one of them and of what is the furthest of the
others. -/
theorem further_keptAfter (found kept : Option (Nat × Result V)) (stop : Nat)
    (result : Result V) :
    keptAfter (further found stop result) kept =
      keptAfter found (keptAfter (some (stop, result)) kept) := by
  cases kept with
  | none => rfl
  | some last =>
    obtain ⟨stop₂, result₂⟩ := last
    rcases found with _ | ⟨stop₁, result₁⟩
    · simp only [keptAfter, further]
      split_ifs <;> rfl
    · simp only [keptAfter, further]
      split_ifs <;> grind

theorem keptOf_eq_keptAfter (found : Option (Nat × Result V)) (outcomes : List (Outcome V C)) :
    keptOf found outcomes = keptAfter found (keptOf none outcomes) := by
  induction outcomes generalizing found with
  | nil => rfl
  | cons o outcomes ih =>
    by_cases ho : o.result.failed = true
    · rw [keptOf_failed ho, keptOf_failed ho]
      exact ih found
    · rw [keptOf_matched ho, keptOf_matched ho, ih, ih (further none _ _)]
      exact further_keptAfter found _ _ _

/-- What is kept is a match. -/
theorem keptOf_not_failed {outcomes : List (Outcome V C)} {stop : Nat} {result : Result V}
    (h : keptOf none outcomes = some (stop, result)) : ¬ result.failed = true := by
  have hlongest : keptOf none outcomes =
      (Outcome.longest outcomes).map fun o => (o.cursor, o.result) :=
    Outcome.longest_eq_foldl outcomes
  rw [h] at hlongest
  obtain ⟨o, ho, heq⟩ := Option.map_eq_some_iff.1 hlongest.symm
  obtain ⟨-, rfl⟩ := Prod.mk.inj heq
  exact Outcome.longest_matched ho

/-- The outcome that is picked stands for all that it was picked from. -/
theorem keptOf_pick (source : Source) (start n : Nat) (outcomes : List (Outcome V C)) (context : C)
    (found : Option (Nat × Result V)) (others : List (Outcome V C)) :
    keptOf found (.pick source start n outcomes context :: others) =
      keptOf (keptOf found outcomes) others := by
  rw [keptOf_eq_keptAfter found outcomes, Outcome.pick]
  cases hkept : keptOf none outcomes with
  | none => exact keptOf_failed (Source.failureOf_failed _ _ _ _ _) found others
  | some kept => exact keptOf_matched (keptOf_not_failed hkept) found others

theorem pick_context (source : Source) (start n : Nat) (outcomes : List (Outcome V C))
    (context : C) : (Outcome.pick source start n outcomes context).context = context := by
  unfold Outcome.pick
  split <;> rfl

end Kept

section Nested

variable {ev : Evaluator V C} {g : Grammar V C} (xs ys zs : List (Grammar V C)) {source : Source}

theorem choice_nested {start n : Nat}
    (hg : ∀ context, ev g start context =
      (ev.choice start ys context).map (Choice.outcome source start n)) (context : C) :
    Option.Rel Choice.SameWinner (ev.choice start (xs ++ [g] ++ zs) context)
      (ev.choice start (xs ++ ys ++ zs) context) := by
  -- the alternatives after the inner ones are tried in the same context
  have hinner : ∀ context, Option.Rel Choice.SameWinner (ev.choice start (g :: zs) context)
      (ev.choice start (ys ++ zs) context) := by
    intro context
    rw [Evaluator.choice_step, Evaluator.choice_append, hg, Option.bind_map]
    refine rel_bind_self fun choice hchoice => ?_
    rw [Function.comp_apply]
    cases choice with
    | won winner =>
      rw [Choice.outcome, if_neg (Evaluator.choice_won hchoice)]
      exact .some (.won winner)
    | lost failures context' =>
      rw [Choice.outcome, if_pos (Source.failureOf_failed _ _ _ _ _)]
      exact rel_map_self fun choice _ => choice.sameWinner_cons _ failures
  rw [List.append_assoc, List.append_assoc, List.singleton_append, Evaluator.choice_append,
    Evaluator.choice_append]
  refine rel_bind_self fun choice _ => ?_
  cases choice with
  | won winner => exact .some (.won winner)
  | lost failures context' => exact rel_map (hinner context') fun _ _ h => h.after _ _

theorem each_nested {start n : Nat}
    (hg : ∀ context, ev g start context =
      (ev.each start ys context).map fun x => .pick source start n x.1 x.2) (context : C) :
    Option.Rel SameKept (ev.each start (xs ++ [g] ++ zs) context)
      (ev.each start (xs ++ ys ++ zs) context) := by
  have hinner : ∀ context, Option.Rel SameKept (ev.each start (g :: zs) context)
      (ev.each start (ys ++ zs) context) := by
    intro context
    rw [Evaluator.each_step, Evaluator.each_append, hg, Option.bind_map]
    refine rel_bind_self fun x _ => ?_
    rw [Function.comp_apply, pick_context]
    refine rel_map_self fun y _ => ⟨rfl, fun found => ?_⟩
    rw [keptOf_pick, keptOf_append]
  rw [List.append_assoc, List.append_assoc, List.singleton_append, Evaluator.each_append,
    Evaluator.each_append]
  refine rel_bind_self fun x _ => rel_map (hinner x.2) ?_
  intro y y' h
  refine ⟨h.1, fun found => ?_⟩
  rw [keptOf_append, keptOf_append, h.2]

theorem row_nested {P : Nat → Prop}
    (hxs : ∀ g' ∈ xs, ∀ start context o, P start → ev g' start context = some o → P o.cursor)
    (hg : ∀ start context, P start → ev g start context =
      (ev.row ys start context).map (Row.outcome source start)) {start : Nat} (hstart : P start)
    (context : C) :
    Option.Rel (Row.Splices xs.length ys.length) (ev.row (xs ++ [g] ++ zs) start context)
      (ev.row (xs ++ ys ++ zs) start context) := by
  have hinner : ∀ start context, P start → Option.Rel (Row.Splices 0 ys.length)
      (ev.row (g :: zs) start context) (ev.row (ys ++ zs) start context) := by
    intro start context hstart
    rw [Evaluator.row_step, Evaluator.row_append, hg start context hstart, Option.bind_map]
    refine rel_bind_self fun row hrow => ?_
    rw [Function.comp_apply]
    cases row with
    | matched results stop context' =>
      rw [Row.outcome, if_neg (Source.span_failed _ _ _ _ _)]
      refine rel_map_self fun row hrow' => ?_
      cases row with
      | matched after stop' context'' =>
        exact .matched [] results after _ stop' context'' rfl (Evaluator.row_length hrow) rfl rfl
      | failed failure context'' =>
        exact .failed failure failure context'' (Evaluator.row_failure hrow') rfl
    | failed failure context' =>
      have hfailed : failure.failed = true := Evaluator.row_failure hrow
      have hmoved : ({ failure with position := start } : Result V).failed = true := hfailed
      rw [Row.outcome, if_pos hmoved]
      exact .some (.failed _ failure context' hfailed rfl)
  rw [List.append_assoc, List.append_assoc, List.singleton_append, Evaluator.row_append,
    Evaluator.row_append]
  refine rel_bind_self fun row hrow => ?_
  cases row with
  | matched results stop context' =>
    have hstop := Evaluator.row_stop hxs hstart hrow
    rw [← Evaluator.row_length hrow]
    exact rel_map (hinner stop context' hstop) fun _ _ h => h.after results
  | failed failure context' =>
    exact .some (.failed failure failure context' (Evaluator.row_failure hrow) rfl)

end Nested

namespace Outcome

/-- Two failures, or one match. -/
def SameMatch (o o' : Outcome V C) : Prop :=
  o.result.failed = o'.result.failed ∧ (¬ o.result.failed = true → o = o')

theorem sameMatch_of_failed {o o' : Outcome V C} (h : o.result.failed = true)
    (h' : o'.result.failed = true) : o.SameMatch o' :=
  ⟨h.trans h'.symm, fun hmatch => absurd h hmatch⟩

theorem SameMatch.refl (o : Outcome V C) : o.SameMatch o := ⟨rfl, fun _ => rfl⟩

/-- The same outcome, but that the value of a match has a list of `n` values, after the first `k`
values, where the other one has these values themselves. -/
structure Splices (k n : Nat) (o o' : Outcome V C) : Prop where
  cursor_eq : o.cursor = o'.cursor
  context_eq : o.context = o'.context
  failed_eq : o.result.failed = o'.result.failed
  failure_eq : o.result.failed = true → o.result = o'.result
  value_splices : ¬ o.result.failed = true →
    ∃ before inner after : List (Value V), before.length = k ∧ inner.length = n ∧
      o.result = { o'.result with value := .list (before ++ .list inner :: after) } ∧
      o'.result.value = .list (before ++ inner ++ after)

end Outcome

theorem Choice.SameWinner.outcome {choice choice' : Choice V C} (h : choice.SameWinner choice')
    (source : Source) (start n n' : Nat) :
    (choice.outcome source start n).SameMatch (choice'.outcome source start n') := by
  cases h with
  | won winner => exact .refl winner
  | lost failures failures' context =>
    exact Outcome.sameMatch_of_failed (Source.failureOf_failed _ _ _ _ _)
      (Source.failureOf_failed _ _ _ _ _)

theorem SameKept.outcome {x y : List (Outcome V C) × C} (h : SameKept x y) (source : Source)
    (start n n' : Nat) :
    (Outcome.pick source start n x.1 x.2).SameMatch (.pick source start n' y.1 y.2) := by
  unfold Outcome.pick
  rw [h.1, h.2]
  cases Run.keptOf none y.1 with
  | some kept => exact .refl _
  | none =>
    exact Outcome.sameMatch_of_failed (Source.failureOf_failed _ _ _ _ _)
      (Source.failureOf_failed _ _ _ _ _)

theorem Row.Splices.outcome {k n : Nat} {row row' : Row V C} (h : row.Splices k n row')
    (source : Source) (start : Nat) :
    (row.outcome source start).Splices k n (row'.outcome source start) := by
  cases h with
  | failed failure failure' context hf hsame =>
    have hresult : ({ failure with position := start } : Result V) =
        { failure' with position := start } := by rw [hsame]
    exact ⟨rfl, rfl, congrArg Result.failed hresult, fun _ => hresult, fun hmatch =>
      absurd hf hmatch⟩
  | matched before inner after whole stop context hk hn hvalue hfeedback =>
    refine ⟨rfl, rfl, rfl, fun hfailed => absurd hfailed (Source.span_failed _ _ _ _ _),
      fun _ => ⟨before.map (·.value), inner.map (·.value), after.map (·.value), ?_, ?_, ?_, ?_⟩⟩
    · simpa using hk
    · simpa using hn
    · simp [Row.outcome, Source.span, hvalue, hfeedback]
    · simp [Row.outcome, Source.span]

section Grammars

open Grammar

variable {env : Env V C} (henv : HookedEnv Script.Depthless env) {xs ys zs : List (Grammar V C)}
  (hxs : ∀ g ∈ xs, g.HookedBy Script.Depthless) (hys : ∀ g ∈ ys, g.HookedBy Script.Depthless)
  (hzs : ∀ g ∈ zs, g.HookedBy Script.Depthless) {r : Run V C} (hr : r.session.Ready)

include hxs hzs in
/-- Around something hooked, the parts are still hooked. -/
theorem hookedBy_around {gs : List (Grammar V C)}
    (hgs : ∀ g ∈ gs, g.HookedBy Script.Depthless) :
    ∀ g ∈ xs ++ gs ++ zs, g.HookedBy Script.Depthless := by
  intro g hg
  rcases List.mem_append.1 hg with hg | hg
  · rcases List.mem_append.1 hg with hg | hg
    · exact hxs g hg
    · exact hgs g hg
  · exact hzs g hg

include henv hxs hys hzs hr

/-- What is known of the meanings is known of the parses, with all that they are made of hooked. -/
theorem compares_nested (make : List (Grammar V C) → Grammar V C)
    (hmake : ∀ gs, (∀ g ∈ gs, g.HookedBy Script.Depthless) →
      (make gs).HookedBy Script.Depthless)
    {R : Outcome V C → Outcome V C → Prop}
    (hrel : (∀ g ∈ xs ++ [make ys] ++ zs, g.HookedBy Script.Depthless) →
      (∀ g ∈ xs ++ ys ++ zs, g.HookedBy Script.Depthless) →
      Option.Rel R
        (meaning env r.session.source (make (xs ++ [make ys] ++ zs)) r.session.cursor r.context)
        (meaning env r.session.source (make (xs ++ ys ++ zs)) r.session.cursor r.context)) :
    Compares env R (make (xs ++ [make ys] ++ zs)) (make (xs ++ ys ++ zs)) r := by
  have hnested := hookedBy_around hxs hzs (List.forall_mem_singleton.2 (hmake ys hys))
  have hflat := hookedBy_around hxs hzs hys
  exact compares_of_meaning henv (hmake _ hnested) (hmake _ hflat) ⟨rfl, rfl, rfl, hr⟩
    (hrel hnested hflat)

theorem any_nesting : Compares env Outcome.SameMatch (.any (xs ++ [.any ys .done] ++ zs) .done)
    (.any (xs ++ ys ++ zs) .done) r := by
  refine compares_nested henv hxs hys hzs hr (fun gs => .any gs .done)
    (fun gs hgs => .any gs .done hgs Script.depthless_done) fun hnested hflat => ?_
  rw [meaning_any henv hnested hr.boundary, meaning_any henv hflat hr.boundary]
  refine rel_map (choice_nested xs ys zs (meaning_any henv hys hr.boundary) r.context) ?_
  intro choice choice' h
  exact h.outcome _ _ _ _

theorem best_nesting :
    Compares env Outcome.SameMatch (.best (xs ++ [.best ys .done] ++ zs) .done)
      (.best (xs ++ ys ++ zs) .done) r := by
  refine compares_nested henv hxs hys hzs hr (fun gs => .best gs .done)
    (fun gs hgs => .best gs .done hgs Script.depthless_done) fun hnested hflat => ?_
  rw [meaning_best henv hnested hr.boundary, meaning_best henv hflat hr.boundary]
  refine rel_map (each_nested xs ys zs (meaning_best henv hys hr.boundary) r.context) ?_
  intro x y h
  exact h.outcome _ _ _ _

theorem all_nesting :
    Compares env (Outcome.Splices xs.length ys.length)
      (.all (xs ++ [.all ys .done] ++ zs) .done) (.all (xs ++ ys ++ zs) .done) r := by
  refine compares_nested henv hxs hys hzs hr (fun gs => .all gs .done)
    (fun gs hgs => .all gs .done hgs Script.depthless_done) fun hnested hflat => ?_
  rw [meaning_all henv hnested hr.boundary, meaning_all henv hflat hr.boundary]
  -- the inner sequence begins wherever the parts before it end, at a boundary
  have hends : ∀ g ∈ xs, ∀ start context o, IsBoundary start r.session.source.chars →
      meaning env r.session.source g start context = some o →
      IsBoundary o.cursor r.session.source.chars :=
    fun g hg start context o hstart h => meaning_boundary henv (hxs g hg) hstart h
  refine rel_map (row_nested xs ys zs hends
    (fun start context hstart => meaning_all henv hys hstart context) hr.boundary r.context) ?_
  intro row row' h
  exact h.outcome _ _

end Grammars

/-- A combinator without a hook that stands in another one of its kind can be replaced by its
children: a choice matches on the same inputs with the same outcome, and a sequence comes to the
same up to the list that the inner one has made. -/
theorem nesting_transparent (env : Env V C) (henv : HookedEnv Script.Depthless env)
    (xs ys zs : List (Grammar V C)) (hsubs : ∀ g ∈ xs ++ ys ++ zs, g.HookedBy Script.Depthless)
    (r : Run V C) (hr : r.session.Ready) :
    Grammar.Compares env Outcome.SameMatch (.any (xs ++ [.any ys .done] ++ zs) .done)
        (.any (xs ++ ys ++ zs) .done) r ∧
      Grammar.Compares env Outcome.SameMatch (.best (xs ++ [.best ys .done] ++ zs) .done)
        (.best (xs ++ ys ++ zs) .done) r ∧
      Grammar.Compares env (Outcome.Splices xs.length ys.length)
        (.all (xs ++ [.all ys .done] ++ zs) .done) (.all (xs ++ ys ++ zs) .done) r := by
  have hxs : ∀ g ∈ xs, g.HookedBy Script.Depthless := fun g hg => hsubs g (by simp [hg])
  have hys : ∀ g ∈ ys, g.HookedBy Script.Depthless := fun g hg => hsubs g (by simp [hg])
  have hzs : ∀ g ∈ zs, g.HookedBy Script.Depthless := fun g hg => hsubs g (by simp [hg])
  exact ⟨any_nesting henv hxs hys hzs hr, best_nesting henv hxs hys hzs hr,
    all_nesting henv hxs hys hzs hr⟩

section Words

/-- Takes the text as the value and writes it down, with the place where it begins. -/
def writeDown : Script Unit (List (Nat × String)) :=
  .look fun v c => .setContext (c ++ [(v.result.position, v.result.text)])
    (.act (.setValue (.text v.result.text)) .done)

def spelled (s : Mark) : Grammar Unit (List (Nat × String)) := .primitive (.literal s) writeDown

def wordsEnv : Env Unit (List (Nat × String))
  | 0 => .bound (spelled ⟨"one", by decide⟩)
  | _ => .unbound

theorem spelled_depthless (s : Mark) : (spelled s).HookedBy Script.Depthless :=
  .primitive _ _ ⟨fun _ _ => ⟨trivial, trivial⟩, fun _ _ _ => rfl, fun _ _ => trivial⟩

def beforeWords : Run Unit (List (Nat × String)) :=
  ⟨{ source := ⟨"words", "ononeondone"⟩ }, [], #[]⟩

def wordOn : Grammar Unit (List (Nat × String)) := spelled ⟨"on", by decide⟩

def wordDone : Grammar Unit (List (Nat × String)) := spelled ⟨"done", by decide⟩

/-- The longest match is the first of two that end at the same place, whether or not the second one
stands in a choice of its own; a sequence of the same words has three values or four. -/
theorem nesting_transparent_words :
    (∃ s t, Grammar.EndsIn wordsEnv
        (.best ([wordOn] ++ [.best [.reference 0 false, wordOn] .done] ++ [wordDone]) .done)
        beforeWords s ∧
      Grammar.EndsIn wordsEnv
        (.best ([wordOn] ++ [.reference 0 false, wordOn] ++ [wordDone]) .done) beforeWords t ∧
      s.outcome = t.outcome ∧ t.session.result.errorAt = none ∧ t.session.cursor = 2 ∧
      t.context = [(0, "on"), (0, "on")]) ∧
    ∃ s t, Grammar.EndsIn wordsEnv
        (.all ([wordOn] ++ [.all [.reference 0 false, wordOn] .done] ++ [wordDone]) .done)
        beforeWords s ∧
      Grammar.EndsIn wordsEnv
        (.all ([wordOn] ++ [.reference 0 false, wordOn] ++ [wordDone]) .done) beforeWords t ∧
      s.session.cursor = 11 ∧ s.context = t.context ∧
      s.session.result.value =
        .list [.text "on", .list [.text "one", .text "on"], .text "done"] ∧
      t.session.result.value = .list [.text "on", .text "one", .text "on", .text "done"] := by
  have henv : HookedEnv Script.Depthless wordsEnv := by
    intro cell g hg
    match cell with
    | 0 =>
      obtain rfl := Target.bound.inj hg
      exact spelled_depthless _
  have hsubs : ∀ g ∈ [wordOn] ++ [Grammar.reference 0 false, wordOn] ++ [wordDone],
      g.HookedBy Script.Depthless := by
    intro g hg
    simp only [List.cons_append, List.nil_append, List.mem_cons, List.not_mem_nil, or_false] at hg
    rcases hg with rfl | rfl | rfl | rfl
    · exact spelled_depthless _
    · exact .reference 0 false
    · exact spelled_depthless _
    · exact spelled_depthless _
  have hready : beforeWords.session.Ready := Session.ready_fresh _ 0 (by decide)
  obtain ⟨-, ⟨hends, hbest⟩, ⟨hends', hall⟩⟩ :=
    nesting_transparent wordsEnv henv _ _ _ hsubs beforeWords hready
  constructor
  · have hrun : (Grammar.parse wordsEnv 4
        (.best ([wordOn] ++ [.reference 0 false, wordOn] ++ [wordDone]) .done) beforeWords).map
          (fun t => (t.session.result.errorAt, t.session.cursor, t.context)) =
        some (none, 2, [(0, "on"), (0, "on")]) := by decide +kernel
    obtain ⟨t, ht, htold⟩ := Option.map_eq_some_iff.1 hrun
    obtain ⟨herror, hcursor, hcontext⟩ :
        t.session.result.errorAt = none ∧ t.session.cursor = 2 ∧
          t.context = [(0, "on"), (0, "on")] := by simpa using htold
    obtain ⟨s, hs⟩ := hends.2 ⟨t, 4, ht⟩
    obtain ⟨hfailed, houtcome⟩ := hbest s t hs ⟨4, ht⟩
    have hfound : t.outcome.result.failed = false := Result.failed_eq_false.2 herror
    have hmatch : ¬ s.outcome.result.failed = true := by
      rw [hfailed, hfound]
      exact Bool.false_ne_true
    exact ⟨s, t, hs, ⟨4, ht⟩, houtcome hmatch, herror, hcursor, hcontext⟩
  · have hrun : (Grammar.parse wordsEnv 4
        (.all ([wordOn] ++ [.reference 0 false, wordOn] ++ [wordDone]) .done) beforeWords).map
          (fun t => (t.session.result.errorAt, t.session.cursor, t.session.result.value)) =
        some (none, 11, .list [.text "on", .text "one", .text "on", .text "done"]) := rfl
    obtain ⟨t, ht, htold⟩ := Option.map_eq_some_iff.1 hrun
    obtain ⟨herror, hcursor, hvalue⟩ :
        t.session.result.errorAt = none ∧ t.session.cursor = 11 ∧
          t.session.result.value = .list [.text "on", .text "one", .text "on", .text "done"] := by
      simpa using htold
    obtain ⟨s, hs⟩ := hends'.2 ⟨t, 4, ht⟩
    have hsplices := hall s t hs ⟨4, ht⟩
    have hfound : t.outcome.result.failed = false := Result.failed_eq_false.2 herror
    have hmatch : ¬ s.outcome.result.failed = true := by
      rw [hsplices.failed_eq, hfound]
      exact Bool.false_ne_true
    obtain ⟨before, inner, after, hk, hn, hresult, hflat⟩ := hsplices.value_splices hmatch
    obtain ⟨first, rfl⟩ := List.length_eq_one_iff.1 hk
    obtain ⟨second, third, rfl⟩ := List.length_eq_two.1 hn
    have hvalues := hvalue.symm.trans hflat
    simp only [List.cons_append, List.nil_append, Value.list.injEq, List.cons.injEq] at hvalues
    obtain ⟨rfl, rfl, rfl, rfl⟩ := hvalues
    exact ⟨s, t, hs, ⟨4, ht⟩, hsplices.cursor_eq.trans hcursor, hsplices.context_eq,
      congrArg (·.value) hresult, hvalue⟩

end Words

end Descent
