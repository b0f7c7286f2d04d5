import Descent.Grammar.Run
import Descent.Proofs.Session
import Mathlib.Data.List.Induction

/-!
# Evaluation of grammars

What a grammar makes of a place in a text, without a session: no shared
cursor, no slot for the current result, no frames and no line cache. An
evaluation that does not end has no outcome.
-/
namespace Descent

variable {V C : Type}

/-- What a parse comes to. -/
structure Outcome (V C : Type) where
  result : Result V
  cursor : Nat
  context : C

/-- The children of a sequence: all match, or one of them is the first to fail. -/
inductive Row (V C : Type) where
  | matched (results : List (Result V)) (stop : Nat) (context : C)
  | failed (failure : Result V) (context : C)

/-- The row with one more match in front. -/
def Row.cons (result : Result V) : Row V C → Row V C
  | .matched results stop context => .matched (result :: results) stop context
  | .failed failure context => .failed failure context

/-- The alternatives of an ordered choice: one is the first to match, or all fail. -/
inductive Choice (V C : Type) where
  | won (winner : Outcome V C)
  | lost (failures : List (Result V)) (context : C)

/-- The choice with one more failure in front. -/
def Choice.cons (failure : Result V) : Choice V C → Choice V C
  | .won winner => .won winner
  | .lost failures context => .lost (failure :: failures) context

/-- The rounds of a repetition that count, and the attempt that failed after them. -/
structure Rounds (V C : Type) where
  results : List (Result V)
  failure : Option (Result V)
  stop : Nat
  context : C

namespace Outcome

/-- The match becomes a failure at its start. -/
def reject (source : Source) (message : String) (o : Outcome V C) : Outcome V C :=
  { o with
    cursor := o.result.position
    result := { o.result with
      errorAt := some o.result.position, text := "", value := .none
      feedback := o.result.feedback ++
        [source.item .error o.result.position message none] } }

/-- The first match that no other match goes beyond. -/
def longest (outcomes : List (Outcome V C)) : Option (Outcome V C) :=
  let found := outcomes.filter fun o => !o.result.failed
  found.find? fun o => found.all fun o' => o'.cursor ≤ o.cursor

/-- A match that is longer than those before it and not shorter than those after it. -/
theorem longest_of_split (outcomes before after : List (Outcome V C)) (o : Outcome V C)
    (h : (outcomes.filter fun o => !o.result.failed) = before ++ o :: after)
    (hbefore : ∀ o' ∈ before, o'.cursor < o.cursor) (hafter : ∀ o' ∈ after, o'.cursor ≤ o.cursor) :
    longest outcomes = some o := by
  unfold longest
  rw [h]
  refine List.find?_eq_some_iff_append.2 ⟨?_, before, after, rfl, ?_⟩
  · simp only [List.all_append, List.all_cons, Bool.and_eq_true, List.all_eq_true,
      decide_eq_true_eq]
    exact ⟨fun o' ho' => Nat.le_of_lt (hbefore o' ho'), Nat.le_refl _, hafter⟩
  · intro o' ho'
    have := hbefore o' ho'
    simp
    omega

/-- Keeping a match until one goes further ends with a match that splits the others so. -/
theorem foldl_further_split (l : List (Outcome V C)) :
    l = [] ∨ ∃ before o after, l = before ++ o :: after ∧
      (∀ o' ∈ before, o'.cursor < o.cursor) ∧ (∀ o' ∈ after, o'.cursor ≤ o.cursor) ∧
      l.foldl (fun best o => Run.further best o.cursor o.result) none =
        some (o.cursor, o.result) := by
  -- the induction adds matches at the end, as the fold takes them
  induction l using List.reverseRecOn with
  | nil => exact Or.inl rfl
  | append_singleton l o ih =>
    refine Or.inr ?_
    rcases ih with rfl | ⟨before, best, after, rfl, hbefore, hafter, hfold⟩
    · exact ⟨[], o, [], rfl, by simp, by simp, rfl⟩
    · by_cases hlt : best.cursor < o.cursor
      · refine ⟨before ++ best :: after, o, [], rfl, ?_, by simp, ?_⟩
        · intro o' ho'
          rcases List.mem_append.1 ho' with h | h
          · exact Nat.lt_trans (hbefore o' h) hlt
          · rcases List.mem_cons.1 h with rfl | h
            · exact hlt
            · exact Nat.lt_of_le_of_lt (hafter o' h) hlt
        · rw [List.foldl_append, hfold]
          simp [Run.further, hlt]
      · refine ⟨before, best, after ++ [o], by simp, hbefore, ?_, ?_⟩
        · intro o' ho'
          rcases List.mem_append.1 ho' with h | h
          · exact hafter o' h
          · obtain rfl := List.mem_singleton.1 h
            exact Nat.le_of_not_lt hlt
        · rw [List.foldl_append, hfold]
          simp [Run.further, hlt]

/-- The longest match is found on the way, by keeping a match until one goes further. -/
theorem longest_eq_foldl (outcomes : List (Outcome V C)) :
    (outcomes.filter fun o => !o.result.failed).foldl
        (fun best o => Run.further best o.cursor o.result) none =
      (longest outcomes).map fun o => (o.cursor, o.result) := by
  rcases foldl_further_split (outcomes.filter fun o => !o.result.failed) with
    h | ⟨before, o, after, h, hbefore, hafter, hfold⟩
  · simp [longest, h]
  · rw [hfold, longest_of_split outcomes before after o h hbefore hafter]
    rfl

/-- Without a longest match, there is no match at all. -/
theorem failed_of_longest {outcomes : List (Outcome V C)} (h : longest outcomes = none) :
    ∀ o ∈ outcomes, o.result.failed = true := by
  rcases foldl_further_split (outcomes.filter fun o => !o.result.failed) with
    hnil | ⟨before, o, after, hsplit, hbefore, hafter, -⟩
  · intro o ho
    simpa only [Bool.not_eq_true', Bool.not_eq_false] using List.filter_eq_nil_iff.1 hnil o ho
  · rw [longest_of_split outcomes before after o hsplit hbefore hafter] at h
    cases h

theorem longest_matched {outcomes : List (Outcome V C)} {o : Outcome V C}
    (h : longest outcomes = some o) : ¬ o.result.failed = true := by
  have hmatch := (List.mem_filter.1 (List.mem_of_find?_eq_some h)).2
  simpa using hmatch

end Outcome

/-- What a hook makes of a match, when it looks at nothing but the result, the results of the
children and the context. -/
def Script.effect (source : Source) (subs : List (Result V)) :
    Script V C → Outcome V C → Outcome V C
  | act (.setValue value) next, o => next.effect source subs { o with result.value := value }
  | act (.note kind offset message cause) next, o =>
    next.effect source subs
      { o with result.feedback := o.result.feedback ++ [source.item kind offset message cause] }
  | act (.reject message) next, o => next.effect source subs (o.reject source message)
  | setContext context next, o => next.effect source subs { o with context }
  | look next, o =>
    (next ⟨source, o.cursor, o.result, subs, 0⟩ o.context).effect source subs o
  | _, o => o

namespace Source

/-- The match of the text between two offsets. -/
def span (source : Source) (start stop : Nat) (value : Value V) (feedback : List Feedback.Item) :
    Result V :=
  { position := start, text := source.textBetween start stop, value, feedback }

theorem span_failed (source : Source) (start stop : Nat) (value : Value V)
    (feedback : List Feedback.Item) : ¬ (source.span start stop value feedback).failed = true := by
  simp [span, Result.failed]

/-- A failure, followed by the feedback of what had failed before it. -/
def failureOf (source : Source) (start delta : Nat) (message : String)
    (failures : List (Result V)) : Result V :=
  { position := start, errorAt := some (start + delta)
    feedback := source.item .error (start + delta) message none ::
      failures.flatMap (·.feedback) }

theorem failureOf_failed (source : Source) (start delta : Nat) (message : String)
    (failures : List (Result V)) :
    (source.failureOf start delta message failures).failed = true := rfl

end Source

/-- The value of a repetition: a list, unless there can be no more than one round. -/
def Result.valueOf (max : Option Nat) (results : List (Result V)) : Value V :=
  if max = some 0 ∨ max = some 1 then (results.head?.map (·.value)).getD .none
  else .list (results.map (·.value))

/-- How the parts of a grammar are evaluated, at an offset in some context. -/
abbrev Evaluator (V C : Type) := Grammar V C → Nat → C → Option (Outcome V C)

namespace Evaluator

variable (child : Evaluator V C)

/-- One child after the other, each where the one before has stopped. -/
def row : List (Grammar V C) → Nat → C → Option (Row V C)
  | [], start, context => some (.matched [] start context)
  | g :: gs, start, context => do
    let o ← child g start context
    if o.result.failed then return .failed o.result o.context
    else return (← row gs o.cursor o.context).cons o.result

/-- One alternative after the other, all from the same start, up to the first that matches. -/
def choice (start : Nat) : List (Grammar V C) → C → Option (Choice V C)
  | [], context => some (.lost [] context)
  | g :: gs, context => do
    let o ← child g start context
    if o.result.failed then return (← choice start gs o.context).cons o.result
    else return .won o

/-- Every alternative from the same start. -/
def each (start : Nat) : List (Grammar V C) → C → Option (List (Outcome V C) × C)
  | [], context => some ([], context)
  | g :: gs, context => do
    let o ← child g start context
    let (outcomes, context) ← each start gs o.context
    return (o :: outcomes, context)

/-- Round after round, until the child fails, the greatest number is reached, or a round takes
nothing although there are enough of them. -/
def rounds (sub : Grammar V C) (min : Nat) (max : Option Nat) :
    Nat → Nat → Nat → C → Option (Rounds V C)
  | 0, _, _, _ => none
  | fuel + 1, count, start, context =>
    if max = some count then some ⟨[], none, start, context⟩
    else do
      let o ← child sub start context
      if o.result.failed then return ⟨[], some o.result, start, o.context⟩
      else if o.cursor = start ∧ min ≤ count + 1 then
        return ⟨[o.result], none, o.cursor, o.context⟩
      else
        let t ← rounds sub min max fuel (count + 1) o.cursor o.context
        return { t with results := o.result :: t.results }

end Evaluator

/-- The outcome of a grammar at an offset of a source in some context. Fuel is spent as in a
parse, and makes no other difference. -/
def Grammar.eval (env : Env V C) : Nat → Source → Evaluator V C
  | 0, _, _, _, _ => none
  | fuel + 1, source, g, start, context =>
    let child := eval env fuel source
    match g with
    | .primitive p hook =>
      match p.scan (source.restFrom start) with
      | .ok found =>
        let stop := start + found.length
        some (hook.effect source [] ⟨source.span start stop found.value [], stop, context⟩)
      | .error miss =>
        some ⟨source.failure start miss.delta miss.message miss.cause, start, context⟩
    | .all subs hook => do
      match ← child.row subs start context with
      | .matched results stop context =>
        let result := source.span start stop (.list (results.map (·.value)))
          (results.flatMap (·.feedback))
        return hook.effect source results ⟨result, stop, context⟩
      | .failed failure context => return ⟨{ failure with position := start }, start, context⟩
    | .any subs hook => do
      match ← child.choice start subs context with
      | .won winner => return hook.effect source [] winner
      | .lost failures context =>
        let message := s!"any subparser should match; all {subs.length} failed"
        return ⟨source.failureOf start 0 message failures, start, context⟩
    | .best subs hook => do
      let (outcomes, context) ← child.each start subs context
      match Outcome.longest outcomes with
      | some winner => return hook.effect source [] { winner with context }
      | none =>
        let message := s!"best subparser should match; all {subs.length} failed"
        return ⟨source.failureOf start 0 message (outcomes.map (·.result)), start, context⟩
    | .optional sub hook => do
      let o ← child sub start context
      if o.result.failed then
        return hook.effect source [] ⟨source.span start start .none [], start, o.context⟩
      else return hook.effect source [] o
    | .repeated sub min max hook => do
      let t ← child.rounds sub min max fuel 0 start context
      if min ≤ t.results.length then
        let result := source.span start t.stop (Result.valueOf max t.results)
          (t.results.flatMap (·.feedback))
        return hook.effect source t.results ⟨result, t.stop, t.context⟩
      else
        let message := s!"at least {min} matches expected but got only {t.results.length}"
        return ⟨source.failureOf start (t.stop - start) message t.failure.toList, start,
          t.context⟩
    | .reference cell _ =>
      match env cell with
      | .bound target => child target start context
      | .unbound =>
        some ⟨source.failure start 0 "forward parser used before being bound" none, start,
          context⟩
      | .dropped =>
        some ⟨source.failure start 0 "forward parser was dropped" none, start, context⟩
    | .script _ => none

namespace Evaluator

section Steps

variable {child : Evaluator V C} {g : Grammar V C} {gs : List (Grammar V C)} {start : Nat}
  {context : C} {o : Outcome V C}

theorem row_failed (h : child g start context = some o) (ho : o.result.failed = true) :
    child.row (g :: gs) start context = some (.failed o.result o.context) := by
  rw [row, h, Option.bind_eq_bind, Option.bind_some, if_pos ho]
  rfl

theorem row_matched (h : child g start context = some o) (ho : ¬ o.result.failed = true)
    (row : Row V C) (hrow : child.row gs o.cursor o.context = some row) :
    child.row (g :: gs) start context = some (row.cons o.result) := by
  rw [Evaluator.row, h, Option.bind_eq_bind, Option.bind_some, if_neg ho, hrow]
  rfl

theorem choice_failed (h : child g start context = some o) (ho : o.result.failed = true)
    (choice : Choice V C) (hchoice : child.choice start gs o.context = some choice) :
    child.choice start (g :: gs) context = some (choice.cons o.result) := by
  rw [Evaluator.choice, h, Option.bind_eq_bind, Option.bind_some, if_pos ho, hchoice]
  rfl

theorem choice_matched (h : child g start context = some o) (ho : ¬ o.result.failed = true) :
    child.choice start (g :: gs) context = some (.won o) := by
  rw [choice, h, Option.bind_eq_bind, Option.bind_some, if_neg ho]
  rfl

theorem each_cons (h : child g start context = some o) (outcomes : List (Outcome V C))
    (context' : C) (houtcomes : child.each start gs o.context = some (outcomes, context')) :
    child.each start (g :: gs) context = some (o :: outcomes, context') := by
  rw [each, h, Option.bind_eq_bind, Option.bind_some, houtcomes]
  rfl

variable {min : Nat} {max : Option Nat} {fuel count : Nat}

theorem rounds_full (hmax : max = some count) :
    child.rounds g min max (fuel + 1) count start context =
      some ⟨[], none, start, context⟩ := by
  rw [rounds, if_pos hmax]

theorem rounds_failed (hmax : max ≠ some count) (h : child g start context = some o)
    (ho : o.result.failed = true) :
    child.rounds g min max (fuel + 1) count start context =
      some ⟨[], some o.result, start, o.context⟩ := by
  rw [rounds, if_neg hmax, h, Option.bind_eq_bind, Option.bind_some, if_pos ho]
  rfl

theorem rounds_idle (hmax : max ≠ some count) (h : child g start context = some o)
    (ho : ¬ o.result.failed = true) (hidle : o.cursor = start ∧ min ≤ count + 1) :
    child.rounds g min max (fuel + 1) count start context =
      some ⟨[o.result], none, o.cursor, o.context⟩ := by
  rw [rounds, if_neg hmax, h, Option.bind_eq_bind, Option.bind_some, if_neg ho, if_pos hidle]
  rfl

theorem rounds_round (hmax : max ≠ some count) (h : child g start context = some o)
    (ho : ¬ o.result.failed = true) (hidle : ¬ (o.cursor = start ∧ min ≤ count + 1))
    (t : Rounds V C)
    (ht : child.rounds g min max fuel (count + 1) o.cursor o.context = some t) :
    child.rounds g min max (fuel + 1) count start context =
      some { t with results := o.result :: t.results } := by
  rw [rounds, if_neg hmax, h, Option.bind_eq_bind, Option.bind_some, if_neg ho, if_neg hidle, ht]
  rfl

end Steps

end Evaluator

namespace Grammar

section Combinators

variable {env : Env V C} {source : Source} {g : Grammar V C} {subs : List (Grammar V C)}
  {hook : Script V C} {fuel start : Nat} {context context' : C}

theorem eval_primitive_matched {p : Primitive} {found : Match V}
    (h : p.scan (source.restFrom start) = .ok found) :
    eval env (fuel + 1) source (.primitive p hook) start context =
      some (hook.effect source []
        ⟨source.span start (start + found.length) found.value [], start + found.length,
          context⟩) := by
  rw [eval, h]

theorem eval_primitive_failed {p : Primitive} {miss : Miss}
    (h : (p.scan (source.restFrom start) : Except Miss (Match V)) = .error miss) :
    eval env (fuel + 1) source (.primitive p hook) start context =
      some ⟨source.failure start miss.delta miss.message miss.cause, start, context⟩ := by
  rw [eval, h]

theorem eval_all_matched {results : List (Result V)} {stop : Nat}
    (h : (eval env fuel source).row subs start context = some (.matched results stop context')) :
    eval env (fuel + 1) source (.all subs hook) start context =
      some (hook.effect source results
        ⟨source.span start stop (.list (results.map (·.value))) (results.flatMap (·.feedback)),
          stop, context'⟩) :=
  Option.bind_eq_some_iff.2 ⟨_, h, rfl⟩

theorem eval_all_failed {failure : Result V}
    (h : (eval env fuel source).row subs start context = some (.failed failure context')) :
    eval env (fuel + 1) source (.all subs hook) start context =
      some ⟨{ failure with position := start }, start, context'⟩ :=
  Option.bind_eq_some_iff.2 ⟨_, h, rfl⟩

theorem eval_any_won {winner : Outcome V C}
    (h : (eval env fuel source).choice start subs context = some (.won winner)) :
    eval env (fuel + 1) source (.any subs hook) start context =
      some (hook.effect source [] winner) :=
  Option.bind_eq_some_iff.2 ⟨_, h, rfl⟩

theorem eval_any_lost {failures : List (Result V)}
    (h : (eval env fuel source).choice start subs context = some (.lost failures context')) :
    eval env (fuel + 1) source (.any subs hook) start context =
      some ⟨source.failureOf start 0
        s!"any subparser should match; all {subs.length} failed" failures, start, context'⟩ :=
  Option.bind_eq_some_iff.2 ⟨_, h, rfl⟩

theorem eval_best_matched {outcomes : List (Outcome V C)} {winner : Outcome V C}
    (h : (eval env fuel source).each start subs context = some (outcomes, context'))
    (hlongest : Outcome.longest outcomes = some winner) :
    eval env (fuel + 1) source (.best subs hook) start context =
      some (hook.effect source [] { winner with context := context' }) := by
  refine Option.bind_eq_some_iff.2 ⟨_, h, ?_⟩
  dsimp only
  rw [hlongest]
  rfl

theorem eval_best_failed {outcomes : List (Outcome V C)}
    (h : (eval env fuel source).each start subs context = some (outcomes, context'))
    (hlongest : Outcome.longest outcomes = none) :
    eval env (fuel + 1) source (.best subs hook) start context =
      some ⟨source.failureOf start 0
        s!"best subparser should match; all {subs.length} failed" (outcomes.map (·.result)),
        start, context'⟩ := by
  refine Option.bind_eq_some_iff.2 ⟨_, h, ?_⟩
  dsimp only
  rw [hlongest]
  rfl

theorem eval_optional_matched {o : Outcome V C} (h : eval env fuel source g start context = some o)
    (ho : ¬ o.result.failed = true) :
    eval env (fuel + 1) source (.optional g hook) start context =
      some (hook.effect source [] o) :=
  Option.bind_eq_some_iff.2 ⟨o, h, if_neg ho⟩

theorem eval_optional_failed {o : Outcome V C} (h : eval env fuel source g start context = some o)
    (ho : o.result.failed = true) :
    eval env (fuel + 1) source (.optional g hook) start context =
      some (hook.effect source [] ⟨source.span start start .none [], start, o.context⟩) :=
  Option.bind_eq_some_iff.2 ⟨o, h, if_pos ho⟩

variable {min : Nat} {max : Option Nat} {t : Rounds V C}

theorem eval_repeated_matched
    (h : (eval env fuel source).rounds g min max fuel 0 start context = some t)
    (hmin : min ≤ t.results.length) :
    eval env (fuel + 1) source (.repeated g min max hook) start context =
      some (hook.effect source t.results
        ⟨source.span start t.stop (Result.valueOf max t.results)
          (t.results.flatMap (·.feedback)), t.stop, t.context⟩) :=
  Option.bind_eq_some_iff.2 ⟨t, h, if_pos hmin⟩

theorem eval_repeated_failed
    (h : (eval env fuel source).rounds g min max fuel 0 start context = some t)
    (hmin : ¬ min ≤ t.results.length) :
    eval env (fuel + 1) source (.repeated g min max hook) start context =
      some ⟨source.failureOf start (t.stop - start)
        s!"at least {min} matches expected but got only {t.results.length}" t.failure.toList,
        start, t.context⟩ :=
  Option.bind_eq_some_iff.2 ⟨t, h, if_neg hmin⟩

end Combinators

end Grammar

section Fuel

namespace Evaluator

/-- Whatever one evaluator comes to, the other comes to as well. -/
def Below (child child' : Evaluator V C) : Prop :=
  ∀ g start context o, child g start context = some o → child' g start context = some o

variable {child child' : Evaluator V C} (hbelow : Below child child')

include hbelow

theorem row_mono (gs : List (Grammar V C)) (start : Nat) (context : C) (row : Row V C)
    (h : child.row gs start context = some row) : child'.row gs start context = some row := by
  induction gs generalizing start context row with
  | nil => exact h
  | cons g gs ih =>
    obtain ⟨o, ho, h⟩ := Option.bind_eq_some_iff.1 h
    split at h
    · next hfailed =>
      rw [row_failed (hbelow _ _ _ _ ho) hfailed]
      exact h
    · next hmatch =>
      obtain ⟨row', hrow, h⟩ := Option.bind_eq_some_iff.1 h
      rw [row_matched (hbelow _ _ _ _ ho) hmatch row' (ih _ _ _ hrow)]
      exact h

theorem choice_mono (start : Nat) (gs : List (Grammar V C)) (context : C) (choice : Choice V C)
    (h : child.choice start gs context = some choice) :
    child'.choice start gs context = some choice := by
  induction gs generalizing context choice with
  | nil => exact h
  | cons g gs ih =>
    obtain ⟨o, ho, h⟩ := Option.bind_eq_some_iff.1 h
    split at h
    · next hfailed =>
      obtain ⟨choice', hchoice, h⟩ := Option.bind_eq_some_iff.1 h
      rw [choice_failed (hbelow _ _ _ _ ho) hfailed choice' (ih _ _ hchoice)]
      exact h
    · next hmatch =>
      rw [choice_matched (hbelow _ _ _ _ ho) hmatch]
      exact h

theorem each_mono (start : Nat) (gs : List (Grammar V C)) (context : C)
    (outcomes : List (Outcome V C) × C) (h : child.each start gs context = some outcomes) :
    child'.each start gs context = some outcomes := by
  induction gs generalizing context outcomes with
  | nil => exact h
  | cons g gs ih =>
    obtain ⟨o, ho, h⟩ := Option.bind_eq_some_iff.1 h
    obtain ⟨⟨outcomes', context'⟩, heach, h⟩ := Option.bind_eq_some_iff.1 h
    rw [each_cons (hbelow _ _ _ _ ho) outcomes' context' (ih _ _ heach)]
    exact h

theorem rounds_mono (g : Grammar V C) (min : Nat) (max : Option Nat) (fuel count start : Nat)
    (context : C) (t : Rounds V C)
    (h : child.rounds g min max fuel count start context = some t) :
    child'.rounds g min max (fuel + 1) count start context = some t := by
  induction fuel generalizing count start context t with
  | zero => cases h
  | succ fuel ih =>
    rw [rounds] at h
    by_cases hmax : max = some count
    · rw [if_pos hmax] at h
      rw [rounds_full hmax]
      exact h
    · rw [if_neg hmax] at h
      obtain ⟨o, ho, h⟩ := Option.bind_eq_some_iff.1 h
      have ho' := hbelow _ _ _ _ ho
      by_cases hfailed : o.result.failed = true
      · rw [if_pos hfailed] at h
        rw [rounds_failed hmax ho' hfailed]
        exact h
      · rw [if_neg hfailed] at h
        by_cases hidle : o.cursor = start ∧ min ≤ count + 1
        · rw [if_pos hidle] at h
          rw [rounds_idle hmax ho' hfailed hidle]
          exact h
        · rw [if_neg hidle] at h
          obtain ⟨t', ht, h⟩ := Option.bind_eq_some_iff.1 h
          rw [rounds_round hmax ho' hfailed hidle t' (ih _ _ _ _ ht)]
          exact h

end Evaluator

namespace Grammar

theorem eval_succ (env : Env V C) (source : Source) (fuel : Nat) :
    Evaluator.Below (eval env fuel source) (eval env (fuel + 1) source) := by
  induction fuel with
  | zero =>
    intro g start context o h
    cases h
  | succ fuel ih =>
    intro g start context o h
    cases g with
    | primitive p hook => exact h
    | all subs hook =>
      obtain ⟨row, hrow, h⟩ := Option.bind_eq_some_iff.1 h
      exact Option.bind_eq_some_iff.2 ⟨row, Evaluator.row_mono ih _ _ _ _ hrow, h⟩
    | any subs hook =>
      obtain ⟨choice, hchoice, h⟩ := Option.bind_eq_some_iff.1 h
      exact Option.bind_eq_some_iff.2 ⟨choice, Evaluator.choice_mono ih _ _ _ _ hchoice, h⟩
    | best subs hook =>
      obtain ⟨outcomes, heach, h⟩ := Option.bind_eq_some_iff.1 h
      exact Option.bind_eq_some_iff.2 ⟨outcomes, Evaluator.each_mono ih _ _ _ _ heach, h⟩
    | optional sub hook =>
      obtain ⟨o', ho, h⟩ := Option.bind_eq_some_iff.1 h
      exact Option.bind_eq_some_iff.2 ⟨o', ih _ _ _ _ ho, h⟩
    | repeated sub min max hook =>
      obtain ⟨t, ht, h⟩ := Option.bind_eq_some_iff.1 h
      exact Option.bind_eq_some_iff.2 ⟨t, Evaluator.rounds_mono ih _ _ _ _ _ _ _ _ ht, h⟩
    | reference cell owning =>
      simp only [eval] at h ⊢
      cases hcell : env cell with
      | bound target =>
        rw [hcell] at h
        exact ih _ _ _ _ h
      | unbound =>
        rw [hcell] at h
        exact h
      | dropped =>
        rw [hcell] at h
        exact h
    | script body => cases h

/-- More fuel does not change what an evaluation comes to. -/
theorem eval_mono (env : Env V C) (source : Source) {fuel fuel' : Nat} (hle : fuel ≤ fuel') :
    Evaluator.Below (eval env fuel source) (eval env fuel' source) := by
  induction hle with
  | refl =>
    intro g start context o h
    exact h
  | step _ ih =>
    intro g start context o h
    exact eval_succ env source _ g start context o (ih g start context o h)

end Grammar

end Fuel

end Descent
