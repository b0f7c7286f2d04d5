import Descent.Proofs.Fuel
import Descent.Proofs.Reached

/-!
# Supervised parses

A supervised parse is broken off as soon as a session fails a check. Sessions
are checked whenever a parser begins or ends, before every step of a hook or a
script, and after the last. The check is told how many combinators are around
the parser that is at work.

No check of the depth of the frames and of the cursor ever breaks off a parse,
whatever the hooks and scripts do: frames are balanced all the way.
-/
namespace Descent

variable {V C : Type}

section Checks

variable (ok : Session V → Prop) [DecidablePred ok]

/-- Runs a script as long as every session on its way passes the check. -/
def Script.runIf : Script V C → Session V → C → Option (Session V × C)
  | done, s, c => if ok s then some (s, c) else none
  | act action next, s, c => if ok s then next.runIf (action.perform s) c else none
  | setContext c next, s, _ => if ok s then next.runIf s c else none
  | look next, s, c => if ok s then (next s.view c).runIf s c else none
  | locate offset next, s, c =>
    if ok s then (next (s.locate offset).1).runIf (s.locate offset).2 c else none
  | report next, s, c => if ok s then (next s.report).runIf s c else none

namespace Run

def check (r : Run V C) : Option (Run V C) := if ok r.session then some r else none

def performIf (script : Script V C) (r : Run V C) : Option (Run V C) :=
  (script.runIf ok r.session r.context).map fun (session, context) => { r with session, context }

def finishIf (hook : Script V C) (r : Run V C) : Option (Run V C) :=
  (if r.failed then some r else r.performIf ok hook).map
    (onSession fun s => { s with subResults := [] })

end Run

end Checks

/-- A parse below so many combinators, under the supervision of a check. -/
def Grammar.supervised (ok : Nat → Session V → Prop) [∀ level, DecidablePred (ok level)]
    (env : Env V C) : Nat → Nat → Grammar V C → Run V C → Option (Run V C)
  | 0, _, _, _ => none
  | fuel + 1, level, g, r =>
    let child := Grammar.supervised ok env fuel (level + 1)
    let start := r.session.cursor
    let opened := r.onSession Session.pushFrame
    let finish := Run.finishIf (ok level)
    (r.check (ok level)).bind fun r =>
      (match g with
      | .primitive p hook => finish hook (r.onSession (Session.scan p))
      | .all subs hook => (Run.all child start 0 subs opened).bind (finish hook)
      | .any subs hook => (Run.any child start subs.length 0 subs opened).bind (finish hook)
      | .best subs hook => (Run.best child start subs.length none subs opened).bind (finish hook)
      | .optional sub hook => (Run.optional child start sub opened).bind (finish hook)
      | .repeated sub min max hook =>
        (Run.repeated child start sub min max fuel opened).bind (finish hook)
      | .reference cell _ =>
        match env cell with
        | .bound target => Grammar.supervised ok env fuel level target r
        | .unbound =>
          some (r.onSession (Session.unmatched 0 "forward parser used before being bound" none))
        | .dropped => some (r.onSession (Session.unmatched 0 "forward parser was dropped" none))
      | .script body => r.performIf (ok level) body).bind (Run.check (ok level))

section Unbroken

/-! What is not broken off is the run without supervision. -/

variable {ok : Session V → Prop} [DecidablePred ok]

theorem Script.run_of_runIf (script : Script V C) (s : Session V) (c : C) (t : Session V × C)
    (h : script.runIf ok s c = some t) : script.run s c = t := by
  induction script generalizing s c with
  | done =>
    simp only [runIf] at h
    split at h
    · exact Option.some.inj h
    · cases h
  | act action next ih =>
    simp only [runIf] at h
    split at h
    · exact ih _ c h
    · cases h
  | setContext c' next ih =>
    simp only [runIf] at h
    split at h
    · exact ih s c' h
    · cases h
  | look next ih =>
    simp only [runIf] at h
    split at h
    · exact ih _ _ s c h
    · cases h
  | locate offset next ih =>
    simp only [runIf] at h
    split at h
    · exact ih _ _ c h
    · cases h
  | report next ih =>
    simp only [runIf] at h
    split at h
    · exact ih _ s c h
    · cases h

/-- A script that keeps to the check is not broken off. -/
theorem Script.runIf_eq_run (hact : ∀ (action : Action V) s, ok s → ok (action.perform s))
    (hlocate : ∀ s offset, ok s → ok (s.locate offset).2) (script : Script V C) (s : Session V)
    (c : C) (h : ok s) : script.runIf ok s c = some (script.run s c) := by
  induction script generalizing s c with
  | done => exact if_pos h
  | act action next ih =>
    rw [runIf, if_pos h]
    exact ih _ c (hact action s h)
  | setContext c' next ih =>
    rw [runIf, if_pos h]
    exact ih s c' h
  | look next ih =>
    rw [runIf, if_pos h]
    exact ih _ _ s c h
  | locate offset next ih =>
    rw [runIf, if_pos h]
    exact ih _ _ c (hlocate s offset h)
  | report next ih =>
    rw [runIf, if_pos h]
    exact ih _ s c h

namespace Run

theorem check_eq_some {r r' : Run V C} (h : r.check ok = some r') : r = r' := by
  unfold check at h
  split at h
  · exact Option.some.inj h
  · cases h

theorem perform_of_performIf {script : Script V C} {r r' : Run V C}
    (h : r.performIf ok script = some r') : r.perform script = r' := by
  obtain ⟨t, ht, rfl⟩ := Option.map_eq_some_iff.1 h
  unfold perform
  rw [script.run_of_runIf r.session r.context t ht]

theorem finish_of_finishIf {hook : Script V C} {r r' : Run V C}
    (h : r.finishIf ok hook = some r') : r.finish hook = r' := by
  obtain ⟨t, ht, rfl⟩ := Option.map_eq_some_iff.1 h
  unfold finish
  split at ht
  · next hfailed => rw [if_pos hfailed, Option.some.inj ht]
  · next hfailed => rw [if_neg hfailed, perform_of_performIf ht]

end Run

theorem Grammar.parse_of_supervised (ok : Nat → Session V → Prop)
    [∀ level, DecidablePred (ok level)] (env : Env V C) (fuel level : Nat) (g : Grammar V C)
    (r r' : Run V C) (h : g.supervised ok env fuel level r = some r') :
    g.parse env fuel r = some r' := by
  have hI : Run.Steady fun _ : Run V C => True :=
    ⟨fun _ _ _ => trivial, fun _ _ => trivial, fun _ _ => trivial⟩
  induction fuel generalizing level g r r' with
  | zero => cases h
  | succ fuel ih =>
    have hbelow : Run.Below (fun _ => True) (Grammar.supervised ok env fuel (level + 1))
        (Grammar.parse env fuel) := fun g r r' _ h => ⟨ih (level + 1) g r r' h, trivial⟩
    obtain ⟨_, hr, h⟩ := Option.bind_eq_some_iff.1 h
    obtain rfl := Run.check_eq_some hr
    obtain ⟨t, ht, h⟩ := Option.bind_eq_some_iff.1 h
    obtain rfl := Run.check_eq_some h
    cases g with
    | primitive p hook => exact congrArg some (Run.finish_of_finishIf ht)
    | all subs hook =>
      obtain ⟨s, hs, ht⟩ := Option.bind_eq_some_iff.1 ht
      exact Option.map_eq_some_iff.2 ⟨s, Run.all_below hI hbelow _ _ _ _ _ trivial hs,
        Run.finish_of_finishIf ht⟩
    | any subs hook =>
      obtain ⟨s, hs, ht⟩ := Option.bind_eq_some_iff.1 ht
      exact Option.map_eq_some_iff.2 ⟨s, Run.any_below hI hbelow _ _ _ _ _ _ trivial hs,
        Run.finish_of_finishIf ht⟩
    | best subs hook =>
      obtain ⟨s, hs, ht⟩ := Option.bind_eq_some_iff.1 ht
      exact Option.map_eq_some_iff.2 ⟨s, Run.best_below hI hbelow _ _ _ _ _ _ trivial hs,
        Run.finish_of_finishIf ht⟩
    | optional sub hook =>
      obtain ⟨s, hs, ht⟩ := Option.bind_eq_some_iff.1 ht
      exact Option.map_eq_some_iff.2 ⟨s, Run.optional_below hbelow _ _ _ _ trivial hs,
        Run.finish_of_finishIf ht⟩
    | repeated sub min max hook =>
      obtain ⟨s, hs, ht⟩ := Option.bind_eq_some_iff.1 ht
      exact Option.map_eq_some_iff.2
        ⟨s, Run.repeated_below hI hbelow _ _ _ _ (Nat.le_refl fuel) _ _ trivial hs,
          Run.finish_of_finishIf ht⟩
    | reference cell owning =>
      simp only [Grammar.parse]
      cases hcell : env cell with
      | bound target =>
        simp only [hcell] at ht
        exact ih level target r t ht
      | unbound =>
        simp only [hcell] at ht
        exact ht
      | dropped =>
        simp only [hcell] at ht
        exact ht
    | script body => exact congrArg some (Run.perform_of_performIf ht)

end Unbroken

section Depth

/-- The session is at the depth that so many combinators above `base` lead to, and satisfies
`P`. -/
def AtDepth (P : Session V → Prop) (base level : Nat) (s : Session V) : Prop :=
  s.depth = base + level ∧ P s

instance (P : Session V → Prop) [DecidablePred P] (base level : Nat) :
    DecidablePred (AtDepth P base level) := fun _ => inferInstanceAs (Decidable (_ ∧ _))

variable {P : Session V → Prop} (hP : Session.Kept P) {base level : Nat}

include hP

omit hP in
@[simp] theorem Session.scan_frames (s : Session V) (p : Primitive) :
    (s.scan p).frames = s.frames := by
  unfold scan
  split <;> simp

theorem AtDepth.perform (action : Action V) (s : Session V) (h : AtDepth P base level s) :
    AtDepth P base level (action.perform s) :=
  ⟨by simpa [Session.depth] using h.1, hP.perform h.2 action⟩

theorem AtDepth.locate (s : Session V) (offset : Nat) (h : AtDepth P base level s) :
    AtDepth P base level (s.locate offset).2 :=
  ⟨by simpa [Session.depth] using h.1, hP.locate s offset h.2⟩

theorem AtDepth.steady : Run.Steady fun r : Run V C => AtDepth P base level r.session where
  moveTo r start h := ⟨h.1, hP.moveTo r.session start h.2⟩
  collect r h := by
    refine ⟨?_, hP.collect h.2⟩
    have hdepth := h.1
    unfold Session.depth Session.collect at *
    cases hframes : r.session.frames <;> simpa [hframes] using hdepth
  clear r h := ⟨h.1, hP.result h.2 _⟩

variable [DecidablePred P]

namespace Run

theorem performIf_eq (script : Script V C) (r : Run V C) (h : AtDepth P base level r.session) :
    r.performIf (AtDepth P base level) script = some (r.perform script) := by
  unfold performIf
  rw [script.runIf_eq_run (AtDepth.perform hP) (AtDepth.locate hP) r.session r.context h]
  rfl

theorem finishIf_eq (hook : Script V C) (r : Run V C) (h : AtDepth P base level r.session) :
    r.finishIf (AtDepth P base level) hook = some (r.finish hook) := by
  unfold finishIf finish
  split
  · rfl
  · rw [performIf_eq hP hook r h]
    rfl

omit hP [DecidablePred P] in
/-- A combinator that has closed its frame is at its own depth again. -/
theorem Closed.atDepth {r s : Run V C} (h : AtDepth P base level r.session)
    (hclosed : Closed (r.onSession Session.pushFrame) s) (hs : P s.session) :
    AtDepth P base level s.session :=
  ⟨(congrArg List.length hclosed.2).trans h.1, hs⟩

end Run

/-- A check of the depth and of what a session keeps never breaks off a parse. -/
theorem Grammar.supervised_of_parse (env : Env V C) (fuel : Nat) (g : Grammar V C)
    (r r' : Run V C) (h : AtDepth P base level r.session) (hrun : g.parse env fuel r = some r') :
    g.supervised (AtDepth P base) env fuel level r = some r' := by
  induction fuel generalizing level g r r' with
  | zero => cases hrun
  | succ fuel ih =>
    have hbalance := Grammar.parse_balanced env fuel
    have hkeeps := Grammar.parse_keeps hP env fuel
    have hbelow : Run.Below (fun r => AtDepth P base (level + 1) r.session)
        (Grammar.parse env fuel) (Grammar.supervised (AtDepth P base) env fuel (level + 1)) := by
      intro g r r' h hrun
      exact ⟨ih g r r' h hrun,
        (congrArg List.length (hbalance g r r' hrun).2).trans h.1, hkeeps g r r' h.2 hrun⟩
    have hopen : AtDepth P base (level + 1) (r.onSession Session.pushFrame).session :=
      ⟨congrArg (· + 1) h.1, hP.frames h.2 _⟩
    have hend : AtDepth P base level r'.session :=
      ⟨(congrArg List.length (Grammar.parse_balanced env (fuel + 1) g r r' hrun).2).trans h.1,
        Grammar.parse_keeps hP env (fuel + 1) g r r' h.2 hrun⟩
    have hsteady : Run.Steady fun r : Run V C => AtDepth P base (level + 1) r.session :=
      AtDepth.steady hP
    refine Option.bind_eq_some_iff.2 ⟨r, if_pos h, Option.bind_eq_some_iff.2 ⟨r', ?_, if_pos hend⟩⟩
    cases g with
    | primitive p hook =>
      obtain rfl := Option.some.inj hrun
      refine Run.finishIf_eq hP hook _ ⟨?_, hP.scan h.2 p⟩
      simpa [Session.depth] using h.1
    | all subs hook =>
      obtain ⟨s, hs, rfl⟩ := Option.map_eq_some_iff.1 hrun
      refine Option.bind_eq_some_iff.2 ⟨s, Run.all_below hsteady hbelow _ _ _ _ _ hopen hs, ?_⟩
      exact Run.finishIf_eq hP hook s (Run.Closed.atDepth h
        (Run.all_closed _ hbalance 0 subs _ s hs)
        (Run.all_keeps hP hkeeps _ 0 subs (r.onSession Session.pushFrame) s hopen.2 hs))
    | any subs hook =>
      obtain ⟨s, hs, rfl⟩ := Option.map_eq_some_iff.1 hrun
      refine Option.bind_eq_some_iff.2 ⟨s, Run.any_below hsteady hbelow _ _ _ _ _ _ hopen hs, ?_⟩
      exact Run.finishIf_eq hP hook s (Run.Closed.atDepth h
        (Run.any_closed _ _ hbalance 0 subs _ s hs)
        (Run.any_keeps hP hkeeps _ _ 0 subs (r.onSession Session.pushFrame) s hopen.2 hs))
    | best subs hook =>
      obtain ⟨s, hs, rfl⟩ := Option.map_eq_some_iff.1 hrun
      refine Option.bind_eq_some_iff.2 ⟨s, Run.best_below hsteady hbelow _ _ _ _ _ _ hopen hs, ?_⟩
      exact Run.finishIf_eq hP hook s (Run.Closed.atDepth h
        (Run.best_closed _ _ hbalance none subs _ s hs)
        (Run.best_keeps hP hkeeps _ _ none subs (r.onSession Session.pushFrame) s hopen.2 hs))
    | optional sub hook =>
      obtain ⟨s, hs, rfl⟩ := Option.map_eq_some_iff.1 hrun
      refine Option.bind_eq_some_iff.2 ⟨s, Run.optional_below hbelow _ _ _ _ hopen hs, ?_⟩
      exact Run.finishIf_eq hP hook s (Run.Closed.atDepth h
        (Run.optional_closed _ hbalance sub _ s hs)
        (Run.optional_keeps hP hkeeps _ sub (r.onSession Session.pushFrame) s hopen.2 hs))
    | repeated sub min max hook =>
      obtain ⟨s, hs, rfl⟩ := Option.map_eq_some_iff.1 hrun
      refine Option.bind_eq_some_iff.2
        ⟨s, Run.repeated_below hsteady hbelow _ _ _ _ (Nat.le_refl fuel) _ _ hopen hs, ?_⟩
      exact Run.finishIf_eq hP hook s (Run.Closed.atDepth h
        (Run.repeated_closed _ hbalance sub min max fuel _ s hs)
        (Run.repeated_keeps hP hkeeps _ sub min max fuel (r.onSession Session.pushFrame) s
          hopen.2 hs))
    | reference cell owning =>
      simp only [Grammar.parse] at hrun
      cases hcell : env cell with
      | bound target =>
        simp only [hcell] at hrun ⊢
        exact ih target r r' h hrun
      | unbound =>
        simp only [hcell] at hrun ⊢
        exact hrun
      | dropped =>
        simp only [hcell] at hrun ⊢
        exact hrun
    | script body =>
      obtain rfl := Option.some.inj hrun
      exact Run.performIf_eq hP body r h

end Depth

/-- Whatever hooks and scripts do, a finished parse leaves the frames as they were, and the cursor
within the text. On the way every parser, every hook and every script works at the depth of the
start and one more for each combinator around it, with the cursor within the text: a supervision
of the two never breaks off a parse. -/
theorem parse_balances_frames (env : Env V C) (fuel : Nat) (g : Grammar V C) (r : Run V C)
    (hc : r.session.cursor ≤ r.session.source.size) :
    (∀ r', g.parse env fuel r = some r' →
      r'.session.source = r.session.source ∧ r'.session.frames = r.session.frames ∧
        r'.session.cursor ≤ r'.session.source.size) ∧
    g.supervised (AtDepth (fun s => s.cursor ≤ s.source.size) r.session.depth) env fuel 0 r =
      g.parse env fuel r := by
  constructor
  · intro r' h
    obtain ⟨hsource, hframes⟩ := Grammar.parse_balanced env fuel g r r' h
    exact ⟨hsource, hframes, Grammar.parse_keeps Session.kept_cursor_le env fuel g r r' hc h⟩
  · refine Option.ext fun r' => ⟨Grammar.parse_of_supervised _ env fuel 0 g r r', fun h => ?_⟩
    exact Grammar.supervised_of_parse Session.kept_cursor_le env fuel g r r' ⟨rfl, hc⟩ h

section Nesting

/-- Notes the depth, and moves the cursor to the end of the text and back. -/
def noteDepth : Script Unit (List Nat) :=
  .look fun v depths =>
    .setContext (v.depth :: depths) (.act (.moveTo 99) (.act (.moveTo v.cursor) .done))

/-- A pair of brackets around the parser of cell 0, or around a script. -/
def brackets : Grammar Unit (List Nat) :=
  .all [.primitive (.literal ⟨"[", by decide⟩) .done,
    .any [.reference 0 false, .script noteDepth] .done,
    .primitive (.literal ⟨"]", by decide⟩) .done] noteDepth

def bracketsEnv : Env Unit (List Nat)
  | 0 => .bound brackets
  | _ => .unbound

/-- A session with a frame that somebody else has opened. -/
def beforeBrackets : Run Unit (List Nat) :=
  ⟨{ source := ⟨"brackets", "[[]]"⟩, frames := [{ start := 0, results := [{}] }] }, [], #[]⟩

/-- The script between the inner brackets is five deep, the hooks are three and one deep. -/
theorem parse_balances_frames_brackets :
    ∃ r', brackets.parse bracketsEnv 8 beforeBrackets = some r' ∧ r'.context = [1, 3, 5] ∧
      r'.session.frames = [{ start := 0, results := [{}] }] ∧
      brackets.supervised (AtDepth (fun s => s.cursor ≤ s.source.size) 1) bracketsEnv 8 0
        beforeBrackets = some r' := by
  have hends : (brackets.parse bracketsEnv 8 beforeBrackets).map (·.context) =
      some [1, 3, 5] := by decide +kernel
  obtain ⟨r', h, hcontext⟩ := Option.map_eq_some_iff.1 hends
  obtain ⟨hkept, hsupervised⟩ :=
    parse_balances_frames bracketsEnv 8 brackets beforeBrackets (by decide)
  exact ⟨r', h, hcontext, (hkept r' h).2.1, hsupervised.trans h⟩

end Nesting

end Descent
