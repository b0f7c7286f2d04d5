import Descent.Proofs.Refinement
import Descent.Proofs.Uncached
import Descent.Proofs.Call

/-!
# Parsing at any depth

As long as no hook looks at the number of active combinators, what a parse
comes to depends on the source, the cursor and the context only: not on the
frames that are open around it, and not on what earlier parses have left. So
the outcome from a fresh session at the same place is the outcome everywhere,
and a grammar can be put anywhere in another one.
-/
namespace Descent

variable {V C : Type}

/-- The script does not look at the number of active combinators. -/
def Script.IgnoresDepth : Script V C → Prop
  | done => True
  | act _ next => next.IgnoresDepth
  | setContext _ next => next.IgnoresDepth
  | look next =>
    (∀ v depth c, next { v with depth } c = next v c) ∧ ∀ v c, (next v c).IgnoresDepth
  | locate _ next => ∀ l, (next l).IgnoresDepth
  | report next => ∀ r, (next r).IgnoresDepth

/-- A hook that sets values, adds feedback, rejects or changes the context, depending on anything
that a session shows but its depth. -/
def Script.Depthless (hook : Script V C) : Prop := hook.Modest ∧ hook.IgnoresDepth

theorem Script.depthless_done : (.done : Script V C).Depthless := ⟨trivial, trivial⟩

namespace Session

/-- The session with no frame around it. -/
def unframed (s : Session V) : Session V := { s with frames := [] }

variable (s : Session V)

theorem unframed_locate (offset : Nat) :
    s.unframed.locate offset = ((s.locate offset).1, (s.locate offset).2.unframed) := by
  have hcache : s.unframed.cache = s.cache := rfl
  have hsource : s.unframed.source = s.source := rfl
  unfold locate
  rw [hcache, hsource]
  split <;> rfl

theorem unframed_note (kind : Feedback.Kind) (offset : Nat) (message : String)
    (cause : Option String) :
    s.unframed.note kind offset message cause = (s.note kind offset message cause).unframed := by
  have hitem : s.unframed.item kind offset message cause = s.item kind offset message cause :=
    item_congr kind offset message cause rfl rfl
  rw [note_eq, note_eq, hitem, unframed_locate]
  rfl

theorem unframed_unmatched (delta : Nat) (message : String) (cause : Option String) :
    s.unframed.unmatched delta message cause = (s.unmatched delta message cause).unframed :=
  unframed_note { s with result := { position := s.cursor, errorAt := some (s.cursor + delta) } }
    .error (s.cursor + delta) message cause

theorem unframed_reject (message : String) :
    s.unframed.reject message = (s.reject message).unframed :=
  congrArg (moveTo s.result.position) (unframed_note
    { s with result :=
        { s.result with errorAt := some s.result.position, text := "", value := .none } }
    .error s.result.position message none)

theorem unframed_report : s.unframed.report = s.report := by
  have hlocate := fun offset => congrArg Prod.fst (s.unframed_locate offset)
  unfold report
  simp only [hlocate]
  rfl

theorem unframed_perform (action : Action V) :
    action.perform s.unframed = (action.perform s).unframed := by
  cases action with
  | unmatched delta message cause => exact s.unframed_unmatched delta message cause
  | note kind offset message cause => exact s.unframed_note kind offset message cause
  | reject message => exact s.unframed_reject message
  | _ => rfl

/-- A script that ignores the depth does the same without the frames. -/
theorem unframed_run (script : Script V C) (h : script.IgnoresDepth) (c : C) :
    script.run s.unframed c = ((script.run s c).1.unframed, (script.run s c).2) := by
  induction script generalizing s c with
  | done => rfl
  | act action next ih =>
    rw [Script.run_act, unframed_perform]
    exact ih (action.perform s) h c
  | setContext c' next ih => exact ih s h c'
  | look next ih =>
    have hview : next s.unframed.view c = next s.view c := h.1 s.view s.unframed.depth c
    rw [Script.run_look, hview]
    exact ih s.view c s (h.2 _ _) c
  | locate offset next ih =>
    rw [Script.run_locate, unframed_locate]
    exact ih _ _ (h _) c
  | report next ih =>
    rw [Script.run_report, unframed_report]
    exact ih _ s (h _) c

end Session

/-- What a sequence comes to before its hook. -/
def Row.outcome (source : Source) (start : Nat) : Row V C → Outcome V C
  | .matched results stop context =>
    ⟨source.span start stop (.list (results.map (·.value))) (results.flatMap (·.feedback)), stop,
      context⟩
  | .failed failure context => ⟨{ failure with position := start }, start, context⟩

/-- The results that the hook of a sequence is shown. -/
def Row.results : Row V C → List (Result V)
  | .matched results .. => results
  | .failed .. => []

/-- What an ordered choice between `n` alternatives comes to before its hook. -/
def Choice.outcome (source : Source) (start n : Nat) : Choice V C → Outcome V C
  | .won winner => winner
  | .lost failures context =>
    ⟨source.failureOf start 0 s!"any subparser should match; all {n} failed" failures, start,
      context⟩

namespace Outcome

/-- What a primitive comes to before its hook. -/
def ofScan (source : Source) (start : Nat) (context : C) :
    Except Miss (Match V) → Outcome V C
  | .ok found =>
    ⟨source.span start (start + found.length) found.value [], start + found.length, context⟩
  | .error miss => ⟨source.failure start miss.delta miss.message miss.cause, start, context⟩

/-- What the choice of the longest of `n` alternatives comes to before its hook. -/
def pick (source : Source) (start n : Nat) (outcomes : List (Outcome V C)) (context : C) :
    Outcome V C :=
  match Run.keptOf none outcomes with
  | some (stop, result) => ⟨result, stop, context⟩
  | none =>
    ⟨source.failureOf start 0 s!"best subparser should match; all {n} failed"
      (Run.failuresOf outcomes), start, context⟩

/-- What is optional comes to a match of nothing at least. -/
def orNothing (source : Source) (start : Nat) (o : Outcome V C) : Outcome V C :=
  if o.result.failed then ⟨source.span start start .none [], start, o.context⟩ else o

end Outcome

/-- What a repetition comes to before its hook. -/
def Rounds.outcome (source : Source) (start min : Nat) (max : Option Nat) (t : Rounds V C) :
    Outcome V C :=
  if min ≤ t.results.length then
    ⟨source.span start t.stop (Result.valueOf max t.results) (t.results.flatMap (·.feedback)),
      t.stop, t.context⟩
  else
    ⟨source.failureOf start (t.stop - start)
      s!"at least {min} matches expected but got only {t.results.length}" t.failure.toList, start,
      t.context⟩

section Options

variable {α β γ δ : Type} {o : Option α} {o' : Option β} {R : α → β → Prop} {S : γ → δ → Prop}

/-- Computations of which neither ends without the other. -/
abbrev EndTogether (o : Option α) (o' : Option β) : Prop := Option.Rel (fun _ _ => True) o o'

theorem EndTogether.rel (h : EndTogether o o')
    (hR : ∀ y, o' = some y → ∃ x, o = some x ∧ R x y) : Option.Rel R o o' := by
  cases h with
  | none => exact .none
  | some _ =>
    obtain ⟨x, hx, hxy⟩ := hR _ rfl
    obtain rfl := Option.some.inj hx
    exact .some hxy

theorem EndTogether.bind_some (h : EndTogether o o') (f : α → γ) :
    EndTogether (o.bind fun x => some (f x)) o' := by
  cases h with
  | none => exact .none
  | some _ => exact .some trivial

theorem EndTogether.bind_right (h : EndTogether o o') {k : β → Option γ}
    (hk : ∀ y, ∃ z, k y = some z) : EndTogether o (o'.bind k) := by
  cases h with
  | none => exact .none
  | @some x y _ =>
    obtain ⟨z, hz⟩ := hk y
    rw [Option.bind_some, hz]
    exact .some trivial

/-- Two computations that go as a third one does go as each other. -/
theorem rel_of_common {P : γ → α → Prop} {Q : γ → β → Prop} {x : Option γ}
    (h : Option.Rel P x o) (h' : Option.Rel Q x o') (hR : ∀ d y z, P d y → Q d z → R y z) :
    Option.Rel R o o' := by
  cases h with
  | none =>
    cases h'
    exact .none
  | some hy =>
    cases h' with
    | some hz => exact .some (hR _ _ _ hy hz)

theorem rel_isSome (h : Option.Rel R o o') : o.isSome = o'.isSome := by
  cases h <;> rfl

theorem map_eq_of_rel {f : α → γ} {f' : β → γ} (h : Option.Rel R o o')
    (hf : ∀ x y, R x y → f x = f' y) : o.map f = o'.map f' := by
  cases h with
  | none => rfl
  | some hxy => exact congrArg some (hf _ _ hxy)

theorem rel_map {f : α → γ} {f' : β → δ} (h : Option.Rel R o o')
    (hf : ∀ x y, R x y → S (f x) (f' y)) : Option.Rel S (o.map f) (o'.map f') := by
  cases h with
  | none => exact .none
  | some hxy => exact .some (hf _ _ hxy)

theorem rel_map_self {f : α → γ} {f' : α → δ} (h : ∀ x, o = some x → S (f x) (f' x)) :
    Option.Rel S (o.map f) (o.map f') := by
  cases o with
  | none => exact .none
  | some x => exact .some (h x rfl)

theorem rel_bind_self {k : α → Option γ} {k' : α → Option δ}
    (h : ∀ x, o = some x → Option.Rel S (k x) (k' x)) : Option.Rel S (o.bind k) (o.bind k') := by
  cases o with
  | none => exact .none
  | some x => exact h x rfl

end Options

namespace Run

/-- Two runs with which a hook that ignores the depth does the same. -/
structure Congruent (s t : Run V C) : Prop where
  source_eq : s.session.source = t.session.source
  outcome_eq : s.outcome = t.outcome
  /-- After a failure no hook runs. -/
  subResults_eq : ¬ s.failed = true → s.session.subResults = t.session.subResults
  cacheFits : s.session.CacheFits
  cacheFits' : t.session.CacheFits

theorem Congruent.failed_eq {s t : Run V C} (h : Congruent s t) : s.failed = t.failed :=
  congrArg (fun o => o.result.failed) h.outcome_eq

/-- After a match the sessions are the same up to their caches and frames. -/
theorem Congruent.session_eq {s t : Run V C} (h : Congruent s t) (hmatch : ¬ s.failed = true) :
    s.session.uncached.unframed = t.session.uncached.unframed := by
  have hresult : s.session.result = t.session.result := congrArg (·.result) h.outcome_eq
  have hcursor : s.session.cursor = t.session.cursor := congrArg (·.cursor) h.outcome_eq
  simp only [Session.uncached, Session.unframed, h.source_eq, hresult, hcursor,
    h.subResults_eq hmatch]

/-- What a hook makes of a match can be read off its run without cache and frames. -/
theorem perform_outcome (hook : Script V C) (hh : hook.IgnoresDepth) (s : Run V C)
    (hfits : s.session.CacheFits) :
    (s.perform hook).outcome =
      ⟨(hook.run s.session.uncached.unframed s.context).1.result,
        (hook.run s.session.uncached.unframed s.context).1.cursor,
        (hook.run s.session.uncached.unframed s.context).2⟩ := by
  rw [Session.unframed_run _ hook hh, Session.uncached_run hfits]
  rfl

theorem Congruent.finish {s t : Run V C} (h : Congruent s t) {hook : Script V C}
    (hh : hook.IgnoresDepth) : (s.finish hook).outcome = (t.finish hook).outcome := by
  unfold Run.finish
  rw [← h.failed_eq]
  split
  · exact h.outcome_eq
  · next hmatch =>
    have hcontext : s.context = t.context := congrArg (·.context) h.outcome_eq
    have hperform : (s.perform hook).outcome = (t.perform hook).outcome := by
      rw [perform_outcome hook hh s h.cacheFits, perform_outcome hook hh t h.cacheFits',
        h.session_eq hmatch, hcontext]
    exact hperform

/-- A run that leaves this outcome, and these results to look at after a match. -/
structure Leaves (source : Source) (o : Outcome V C) (subs : List (Result V)) (s : Run V C) :
    Prop where
  source_eq : s.session.source = source
  outcome_eq : s.outcome = o
  subResults_eq : ¬ s.failed = true → s.session.subResults = subs
  cacheFits : s.session.CacheFits

theorem Leaves.congruent {source : Source} {o : Outcome V C} {subs : List (Result V)}
    {s t : Run V C} (hs : Leaves source o subs s) (ht : Leaves source o subs t) :
    Congruent s t := by
  have houtcome : s.outcome = t.outcome := hs.outcome_eq.trans ht.outcome_eq.symm
  have hfailed : s.failed = t.failed := congrArg (fun o => o.result.failed) houtcome
  refine ⟨hs.source_eq.trans ht.source_eq.symm, houtcome, ?_, hs.cacheFits, ht.cacheFits⟩
  intro hmatch
  exact (hs.subResults_eq hmatch).trans (ht.subResults_eq (hfailed ▸ hmatch)).symm

theorem Leaves.finish_done {source : Source} {o : Outcome V C} {subs : List (Result V)}
    {s : Run V C} (h : Leaves source o subs s) : (s.finish .done).outcome = o := by
  rw [Run.finish_done]
  exact h.outcome_eq

/-- A child whose runs come to what the evaluation gives, if either of them ends. -/
structure Reproduces (ev : Source → Evaluator V C) (child : Runner V C) (g : Grammar V C) :
    Prop extends Refines ev child g where
  ends : ∀ r, r.session.Ready →
    EndTogether (ev r.session.source g r.session.cursor r.context) (child g r)

/-- A parse may begin at this place, in this context. -/
structure Begins (source : Source) (start : Nat) (context : C) (r : Run V C) : Prop where
  source_eq : r.session.source = source
  cursor_eq : r.session.cursor = start
  context_eq : r.context = context
  ready : r.session.Ready

/-- A run that has made nothing but a session for the source. -/
def fresh (source : Source) (start : Nat) (context : C) : Run V C :=
  ⟨{ source, cursor := start }, context, #[]⟩

theorem begins_fresh (source : Source) {start : Nat} (h : IsBoundary start source.chars)
    (context : C) : (fresh source start context : Run V C).Begins source start context :=
  ⟨rfl, rfl, rfl, Session.ready_fresh source start h⟩

section Loops

variable {ev : Source → Evaluator V C} {child : Runner V C} (hbalance : KeepsBalance child)

include hbalance

theorem Reproduces.rel {g : Grammar V C} (h : Reproduces ev child g) {r : Run V C}
    (hr : r.session.Ready) :
    Option.Rel (fun o s => s.outcome = o ∧ s.session.Ready ∧ s.session.source = r.session.source)
      (ev r.session.source g r.session.cursor r.context) (child g r) := by
  refine (h.ends r hr).rel fun s hrun => ?_
  obtain ⟨heval, hready, hbal, -⟩ := h.run hbalance hr hrun
  exact ⟨s.outcome, heval, rfl, hready, hbal.1⟩

theorem Reproduces.rel_moveTo {g : Grammar V C} (h : Reproduces ev child g) {r : Run V C}
    (hr : r.session.Ready) {start : Nat} (hs : IsBoundary start r.session.source.chars) :
    Option.Rel (fun o s => s.outcome = o ∧ s.session.Ready ∧ s.session.source = r.session.source)
      (ev r.session.source g start r.context) (child g (r.onSession (Session.moveTo start))) := by
  obtain ⟨hready, hstart⟩ := hr.moveTo hs
  have hrel := h.rel hbalance (r := r.onSession (Session.moveTo start)) hready
  rwa [onSession_session, hstart] at hrel

omit hbalance in
theorem ready_opened {r : Run V C} (hr : r.session.Ready) :
    (r.onSession Session.pushFrame).session.Ready := hr.pushFrame

/-! An evaluation of children ends where the loop over them does. -/

theorem row_ends (start : Nat) (gs : List (Grammar V C))
    (hchild : ∀ g ∈ gs, Reproduces ev child g) (i : Nat) (r : Run V C) (hr : r.session.Ready) :
    EndTogether ((ev r.session.source).row gs r.session.cursor r.context)
      (Run.all child start i gs r) := by
  induction gs generalizing i r with
  | nil => exact .some trivial
  | cons g gs ih =>
    refine bind_rel ((hchild g List.mem_cons_self).rel hbalance hr) ?_
    rintro _ s - - ⟨rfl, hready, hsource⟩
    by_cases hfailed : s.failed = true
    · rw [if_pos hfailed, if_pos (show s.outcome.result.failed = true from hfailed)]
      exact .some trivial
    · rw [if_neg hfailed, if_neg (show ¬ s.outcome.result.failed = true from hfailed)]
      have hrest := ih (fun g' hg' => hchild g' (List.mem_cons_of_mem g hg')) (i + 1)
        (s.onSession Session.collect) hready.collect
      rw [onSession_session, Session.collect_source, hsource] at hrest
      exact hrest.bind_some _

theorem choice_ends (start n : Nat) (gs : List (Grammar V C))
    (hchild : ∀ g ∈ gs, Reproduces ev child g) (i : Nat) (r : Run V C) (hr : r.session.Ready)
    (hs : IsBoundary start r.session.source.chars) :
    EndTogether ((ev r.session.source).choice start gs r.context)
      (Run.any child start n i gs r) := by
  induction gs generalizing i r with
  | nil => exact .some trivial
  | cons g gs ih =>
    refine bind_rel ((hchild g List.mem_cons_self).rel_moveTo hbalance hr hs) ?_
    rintro _ s - - ⟨rfl, hready, hsource⟩
    by_cases hfailed : s.failed = true
    · rw [if_pos hfailed, if_pos (show s.outcome.result.failed = true from hfailed)]
      have hrest := ih (fun g' hg' => hchild g' (List.mem_cons_of_mem g hg')) (i + 1)
        (s.onSession Session.collect) hready.collect (hsource ▸ hs)
      rw [onSession_session, Session.collect_source, hsource] at hrest
      exact hrest.bind_some _
    · rw [if_neg hfailed, if_neg (show ¬ s.outcome.result.failed = true from hfailed)]
      exact .some trivial

theorem each_ends (start n : Nat) (gs : List (Grammar V C))
    (hchild : ∀ g ∈ gs, Reproduces ev child g) (found : Option (Nat × Result V)) (r : Run V C)
    (hr : r.session.Ready) (hs : IsBoundary start r.session.source.chars) :
    EndTogether ((ev r.session.source).each start gs r.context)
      (Run.best child start n found gs r) := by
  induction gs generalizing found r with
  | nil =>
    cases found with
    | none => exact .some trivial
    | some found => exact .some trivial
  | cons g gs ih =>
    have hgs := fun g' hg' => hchild g' (List.mem_cons_of_mem g hg')
    refine bind_rel ((hchild g List.mem_cons_self).rel_moveTo hbalance hr hs) ?_
    rintro _ s - - ⟨rfl, hready, hsource⟩
    by_cases hfailed : s.failed = true
    · rw [if_pos hfailed]
      have hrest := ih hgs found (s.onSession Session.collect) hready.collect (hsource ▸ hs)
      rw [onSession_session, Session.collect_source, hsource] at hrest
      exact hrest.bind_some _
    · rw [if_neg hfailed]
      have hrest := ih hgs (further found s.session.cursor s.session.result)
        (s.onSession fun s => { s with result := {} })
        ⟨hready.boundary, Session.cacheFits_of_eq rfl rfl hready.cacheFits, hready.clean⟩
        (hsource ▸ hs)
      rw [onSession_session, hsource] at hrest
      exact hrest.bind_some _

theorem rounds_end (g : Grammar V C) (hchild : Reproduces ev child g) (min : Nat)
    (max : Option Nat) (fuel count : Nat) (r : Run V C) (hr : r.session.Ready)
    (hle : ∀ m, max = some m → count ≤ m) :
    EndTogether ((ev r.session.source).rounds g min max fuel count r.session.cursor r.context)
      (rounds child g min max fuel count r) := by
  induction fuel generalizing count r with
  | zero => exact .none
  | succ fuel ih =>
    rw [rounds, Evaluator.rounds]
    by_cases hgo : mayGoOn max count = true
    · have hmax := (mayGoOn_iff hle).1 hgo
      rw [if_pos hgo, if_neg hmax]
      refine bind_rel (hchild.rel hbalance hr) ?_
      rintro _ s - - ⟨rfl, hready, hsource⟩
      by_cases hfailed : s.failed = true
      · rw [if_pos hfailed, if_pos (show s.outcome.result.failed = true from hfailed)]
        exact .some trivial
      · rw [if_neg hfailed, if_neg (show ¬ s.outcome.result.failed = true from hfailed)]
        by_cases hidle : s.session.cursor = r.session.cursor ∧ min ≤ count + 1
        · rw [if_pos (by exact hidle)]
          dsimp only
          rw [if_pos (by exact hidle)]
          exact .some trivial
        · rw [if_neg (by exact hidle)]
          dsimp only
          rw [if_neg (by exact hidle)]
          have hnext : ∀ m, max = some m → count + 1 ≤ m := by
            intro m hm
            have := hle m hm
            have : m ≠ count := fun heq => hmax (heq ▸ hm)
            omega
          have hrest := ih (count + 1) (s.onSession Session.collect) hready.collect hnext
          rw [onSession_session, Session.collect_source, hsource] at hrest
          exact hrest.bind_some _
    · have hmax : max = some count := by
        by_contra hne
        exact hgo ((mayGoOn_iff hle).2 hne)
      rw [if_neg hgo, if_pos hmax]
      exact .some trivial

/-! What each combinator leaves for its hook is told by the evaluation of its children. -/

variable {source : Source} {start : Nat} {context : C}

theorem Reproduces.leaves {g : Grammar V C} (hg : Reproduces ev child g) {r : Run V C}
    (h : r.Begins source start context) :
    Option.Rel (fun o => Leaves source o []) (ev source g start context) (child g r) := by
  obtain ⟨rfl, rfl, rfl, hr⟩ := h
  refine (hg.ends r hr).rel fun s hrun => ?_
  obtain ⟨heval, hready, hbal, -⟩ := hg.run hbalance hr hrun
  exact ⟨s.outcome, heval, hbal.1, rfl, fun _ => hready.clean, hready.cacheFits⟩

theorem Reproduces.map_outcome {g : Grammar V C} (hg : Reproduces ev child g) {r : Run V C}
    (h : r.Begins source start context) :
    ev source g start context = (child g r).map outcome := by
  rw [← Option.map_id' (x := ev source g start context)]
  exact map_eq_of_rel (hg.leaves hbalance h) fun o s hs => hs.outcome_eq.symm

theorem all_leaves (subs : List (Grammar V C)) (hchild : ∀ g ∈ subs, Reproduces ev child g)
    {r : Run V C} (h : r.Begins source start context) :
    Option.Rel
      (fun row => Leaves source (row.outcome source start)
        row.results)
      ((ev source).row subs start context)
      (Run.all child start 0 subs (r.onSession Session.pushFrame)) := by
  obtain ⟨rfl, rfl, rfl, hr⟩ := h
  refine (row_ends hbalance r.session.cursor subs hchild 0 _ (ready_opened hr)).rel fun s hrun => ?_
  obtain ⟨hcache, hsource, row, hrow, hends⟩ := all_evaluates hbalance r.session.cursor subs
    (fun g hg => (hchild g hg).toRefines) 0 _ s { start := r.session.cursor } r.session.frames rfl
    (ready_opened hr) hr.boundary (Nat.le_refl _) hrun
  refine ⟨row, hrow, hsource, ?_, ?_, hcache⟩
  · cases row with
    | matched results stop context => exact hends.1
    | failed failure context => exact hends.1
  · intro hmatch
    cases row with
    | matched results stop context => exact hends.2
    | failed failure context => exact absurd hends.2 hmatch

theorem any_leaves (subs : List (Grammar V C)) (hchild : ∀ g ∈ subs, Reproduces ev child g)
    {r : Run V C} (h : r.Begins source start context) :
    Option.Rel
      (fun choice => Leaves source
        (choice.outcome source start subs.length) [])
      ((ev source).choice start subs context)
      (Run.any child start subs.length 0 subs (r.onSession Session.pushFrame)) := by
  obtain ⟨rfl, rfl, rfl, hr⟩ := h
  refine (choice_ends hbalance r.session.cursor subs.length subs hchild 0 _ (ready_opened hr)
    hr.boundary).rel fun s hrun => ?_
  obtain ⟨hcache, hsource, hclean, choice, hchoice, hends⟩ := any_evaluates hbalance
    r.session.cursor subs.length subs (fun g hg => (hchild g hg).toRefines) 0 _ s
    { start := r.session.cursor } r.session.frames rfl (ready_opened hr) hr.boundary hrun
  refine ⟨choice, hchoice, hsource, ?_, fun _ => hclean, hcache⟩
  cases choice with
  | won winner => exact hends.1
  | lost failures context => exact hends

theorem best_leaves (subs : List (Grammar V C)) (hchild : ∀ g ∈ subs, Reproduces ev child g)
    {r : Run V C} (h : r.Begins source start context) :
    Option.Rel
      (fun x => Leaves source
        (.pick source start subs.length x.1 x.2) [])
      ((ev source).each start subs context)
      (Run.best child start subs.length none subs (r.onSession Session.pushFrame)) := by
  obtain ⟨rfl, rfl, rfl, hr⟩ := h
  refine (each_ends hbalance r.session.cursor subs.length subs hchild none _ (ready_opened hr)
    hr.boundary).rel fun s hrun => ?_
  obtain ⟨hcache, hsource, hclean, outcomes, context, heach, hends⟩ := best_evaluates hbalance
    r.session.cursor subs.length subs (fun g hg => (hchild g hg).toRefines) none _ s
    { start := r.session.cursor } r.session.frames rfl (ready_opened hr) hr.boundary (by simp) hrun
  refine ⟨(outcomes, context), heach, hsource, ?_, fun _ => hclean, hcache⟩
  unfold Outcome.pick
  cases hkept : keptOf none outcomes with
  | some kept =>
    rw [hkept] at hends
    exact hends
  | none =>
    rw [hkept] at hends
    exact hends

theorem optional_leaves (sub : Grammar V C) (hchild : Reproduces ev child sub) {r : Run V C}
    (h : r.Begins source start context) :
    Option.Rel
      (fun o => Leaves source (o.orNothing source start) [])
      (ev source sub start context)
      (Run.optional child start sub (r.onSession Session.pushFrame)) := by
  obtain ⟨rfl, rfl, rfl, hr⟩ := h
  have hends : EndTogether (ev r.session.source sub r.session.cursor r.context)
      (Run.optional child r.session.cursor sub (r.onSession Session.pushFrame)) := by
    refine (hchild.ends _ (ready_opened hr)).bind_right fun s => ?_
    dsimp only
    split
    · exact ⟨_, rfl⟩
    · exact ⟨_, rfl⟩
  refine hends.rel fun s hrun => ?_
  obtain ⟨hcache, hsource, hclean, o, heval, houtcome⟩ := optional_evaluates hbalance sub
    hchild.toRefines r.session.cursor _ s (ready_opened hr) rfl hrun
  exact ⟨o, heval, hsource, houtcome, fun _ => hclean, hcache⟩

theorem repeated_leaves (sub : Grammar V C) (hchild : Reproduces ev child sub) (min : Nat)
    (max : Option Nat) (fuel : Nat) {r : Run V C} (h : r.Begins source start context) :
    Option.Rel
      (fun t => Leaves source
        (t.outcome source start min max) t.results)
      ((ev source).rounds sub min max fuel 0 start context)
      (Run.repeated child start sub min max fuel (r.onSession Session.pushFrame)) := by
  obtain ⟨rfl, rfl, rfl, hr⟩ := h
  refine ((rounds_end hbalance sub hchild min max fuel 0 _ (ready_opened hr) (by simp)).bind_right
    fun x => ⟨_, rfl⟩).rel fun s hrun => ?_
  obtain ⟨hcache, hsource, -, t, heval, hsubs, houtcome⟩ :=
    repeated_evaluates hbalance sub hchild.toRefines min max fuel r s hr hrun
  exact ⟨t, heval, hsource, houtcome, fun _ => hsubs, hcache⟩

end Loops

section Work

variable {env : Env V C} {ev : Source → Evaluator V C} {child : Runner V C} {source : Source}
  {start : Nat} {context : C} {r r' : Run V C}

theorem scan_leaves (p : Primitive) (h : r.Begins source start context) :
    Leaves source (.ofScan source start context (p.scan (source.restFrom start))) []
      (r.onSession (Session.scan p)) := by
  obtain ⟨rfl, rfl, rfl, hr⟩ := h
  obtain ⟨hcache, hclean, hscan⟩ := r.session.scan_evaluates p hr
  refine ⟨(r.session.scan_obeys p hr.boundary).1, ?_, fun _ => hclean, hcache⟩
  cases hfound : (p.scan (r.session.source.restFrom r.session.cursor) : Except Miss (Match V)) with
  | ok found =>
    rw [hfound] at hscan
    exact congrArg₂ (Outcome.mk · · r.context) hscan.1 hscan.2
  | error miss =>
    rw [hfound] at hscan
    exact congrArg₂ (Outcome.mk · · r.context) hscan.1 hscan.2

theorem unmatched_leaves (message : String) (h : r.Begins source start context) :
    Leaves source ⟨source.failure start 0 message none, start, context⟩ []
      (r.onSession (Session.unmatched 0 message none)) := by
  obtain ⟨rfl, rfl, rfl, hr⟩ := h
  obtain ⟨heval, hcache, hclean⟩ := r.unmatched_evaluates message hr
  exact ⟨by simp, (Option.some.inj heval).symm, fun _ => hclean, hcache⟩

/-- Before its hook, a parser does the same at the same place. -/
theorem Begins.work (hbalance : KeepsBalance child) {P : Script V C → Prop} (fuel : Nat)
    {g : Grammar V C} (hg : g.HookedBy P)
    (hchild : ∀ g' ∈ g.parts env, Reproduces ev child g') (h : r.Begins source start context)
    (h' : r'.Begins source start context) :
    Option.Rel Congruent (g.work env child fuel r) (g.work env child fuel r') := by
  cases hg with
  | primitive p hook hp => exact .some ((scan_leaves p h).congruent (scan_leaves p h'))
  | all subs hook hs hp =>
    simp only [Grammar.work, h.cursor_eq, h'.cursor_eq]
    exact rel_of_common (all_leaves hbalance subs hchild h) (all_leaves hbalance subs hchild h')
      fun row s t hs ht => hs.congruent ht
  | any subs hook hs hp =>
    simp only [Grammar.work, h.cursor_eq, h'.cursor_eq]
    exact rel_of_common (any_leaves hbalance subs hchild h) (any_leaves hbalance subs hchild h')
      fun choice s t hs ht => hs.congruent ht
  | best subs hook hs hp =>
    simp only [Grammar.work, h.cursor_eq, h'.cursor_eq]
    exact rel_of_common (best_leaves hbalance subs hchild h) (best_leaves hbalance subs hchild h')
      fun x s t hs ht => hs.congruent ht
  | optional sub hook hs hp =>
    simp only [Grammar.work, h.cursor_eq, h'.cursor_eq]
    have hsub := hchild sub List.mem_cons_self
    exact rel_of_common (optional_leaves hbalance sub hsub h) (optional_leaves hbalance sub hsub h')
      fun o s t hs ht => hs.congruent ht
  | repeated sub min max hook hs hp =>
    simp only [Grammar.work, h.cursor_eq, h'.cursor_eq]
    have hsub := hchild sub List.mem_cons_self
    exact rel_of_common (repeated_leaves hbalance sub hsub min max fuel h)
      (repeated_leaves hbalance sub hsub min max fuel h') fun t s s' hs hs' => hs.congruent hs'
  | reference cell owning =>
    simp only [Grammar.work]
    cases hcell : env cell with
    | bound target =>
      have htarget := hchild target (by simp [Grammar.parts, hcell])
      exact rel_of_common (htarget.leaves hbalance h) (htarget.leaves hbalance h')
        fun o s t hs ht => hs.congruent ht
    | unbound => exact .some ((unmatched_leaves _ h).congruent (unmatched_leaves _ h'))
    | dropped => exact .some ((unmatched_leaves _ h).congruent (unmatched_leaves _ h'))

end Work

/-- The hook of a parser does not tell two congruent runs apart. -/
theorem Congruent.close {s t : Run V C} (h : Congruent s t) {g : Grammar V C}
    (hg : g.HookedBy Script.Depthless) : (g.close s).outcome = (g.close t).outcome := by
  cases hg with
  | reference cell owning => exact h.outcome_eq
  | primitive p hook hp => exact h.finish hp.2
  | all subs hook hs hp => exact h.finish hp.2
  | any subs hook hs hp => exact h.finish hp.2
  | best subs hook hs hp => exact h.finish hp.2
  | optional sub hook hs hp => exact h.finish hp.2
  | repeated sub min max hook hs hp => exact h.finish hp.2

end Run

namespace Grammar

/-- What a parse comes to from a fresh session at a place. -/
def yield (env : Env V C) (fuel : Nat) (source : Source) : Evaluator V C :=
  fun g start context => (g.parse env fuel (Run.fresh source start context)).map Run.outcome

variable {env : Env V C}

/-- No results are left to look at when a parse is over. -/
theorem parse_clean {P : Script V C → Prop} (henv : HookedEnv P env) (fuel : Nat)
    (g : Grammar V C) (hg : g.HookedBy P) (r r' : Run V C) (hr : r.session.subResults = [])
    (h : g.parse env fuel r = some r') : r'.session.subResults = [] := by
  induction fuel generalizing g r' with
  | zero => cases h
  | succ fuel ih =>
    rw [parse_eq_work] at h
    obtain ⟨s, hs, rfl⟩ := Option.map_eq_some_iff.1 h
    cases hg with
    | reference cell owning =>
      simp only [work] at hs
      split at hs
      · next target hcell => exact ih target (henv cell target hcell) s hs
      · obtain rfl := Option.some.inj hs
        simpa [close, hook?] using hr
      · obtain rfl := Option.some.inj hs
        simpa [close, hook?] using hr
    | _ => rfl

/-- From two runs at the same place a parse comes to the same. -/
theorem parse_outcome_congr (henv : HookedEnv Script.Depthless env) {fuel : Nat}
    {ev : Source → Evaluator V C}
    (hchild : ∀ g : Grammar V C, g.HookedBy Script.Depthless →
      Run.Reproduces ev (parse env fuel) g)
    {g : Grammar V C} (hg : g.HookedBy Script.Depthless) {source : Source} {start : Nat}
    {context : C} {r r' : Run V C} (h : r.Begins source start context)
    (h' : r'.Begins source start context) :
    (g.parse env (fuel + 1) r).map Run.outcome = (g.parse env (fuel + 1) r').map Run.outcome := by
  have hwork := h.work (parse_balanced env fuel) fuel hg
    (fun g' hg' => hchild g' (hg.parts henv g' hg')) h'
  rw [parse_eq_work, parse_eq_work, Option.map_map, Option.map_map]
  exact map_eq_of_rel hwork fun s t hst => hst.close hg

/-- A parse comes to the same wherever it is made: at any depth, with any cache and after
anything else. -/
theorem parse_reproduces (henv : HookedEnv Script.Depthless env) (fuel : Nat) (g : Grammar V C)
    (hg : g.HookedBy Script.Depthless) :
    Run.Reproduces (yield env fuel) (parse env fuel) g := by
  have hkeeps : ∀ g' : Grammar V C, g'.HookedBy Script.Depthless →
      g'.HookedBy Script.Modest := fun g' h => h.mono fun hook hp => hp.1
  have hobeys := fun fuel g hg =>
    parse_obeys env (fun cell g' h => hkeeps g' (henv cell g' h)) fuel g (hkeeps g hg)
  induction fuel generalizing g with
  | zero => exact ⟨⟨hobeys 0 g hg, fun r r' _ h => by cases h⟩, fun r _ => .none⟩
  | succ fuel ih =>
    have hyield : ∀ r : Run V C, r.session.Ready →
        yield env (fuel + 1) r.session.source g r.session.cursor r.context =
          (g.parse env (fuel + 1) r).map Run.outcome := by
      intro r hr
      exact parse_outcome_congr henv ih hg (Run.begins_fresh _ hr.boundary _) ⟨rfl, rfl, rfl, hr⟩
    refine ⟨⟨hobeys (fuel + 1) g hg, ?_⟩, ?_⟩
    · intro r r' hr h
      refine ⟨?_, parse_keeps Session.kept_cacheFits env (fuel + 1) g r r' hr.cacheFits h,
        parse_clean henv (fuel + 1) g hg r r' hr.clean h⟩
      rw [hyield r hr, h]
      rfl
    · intro r hr
      rw [hyield r hr]
      cases g.parse env (fuel + 1) r with
      | none => exact .none
      | some r' => exact .some trivial

end Grammar

end Descent
