import Mathlib.Data.List.Basic
import Descent.Proofs.Matches

/-!
# Feedback of a match

The feedback of a match is what the hooks of its surviving calls have added:
the calls that the match is made of, and those that these are made of, in the
order in which the hooks have run. Nothing is left of attempts that have failed
and of matches that were not chosen.
-/
namespace Descent

variable {V C : Type}

/-- The items that an action adds to the feedback. -/
def Action.notes : Action V → Session V → List Feedback.Item
  | note kind offset message cause, s => [s.item kind offset message cause]
  | reject message, s => [s.item .error s.result.position message none]
  | _, _ => []

/-- The items that the run of a script adds to the feedback, in order. -/
def Script.notes : Script V C → Session V → C → List Feedback.Item
  | done, _, _ => []
  | act action next, s, c => action.notes s ++ next.notes (action.perform s) c
  | setContext c next, s, _ => next.notes s c
  | look next, s, c => (next s.view c).notes s c
  | locate offset next, s, c => (next (s.locate offset).1).notes (s.locate offset).2 c
  | report next, s, c => (next s.report).notes s c

theorem Action.perform_feedback {a : Action V} (h : a.Modest) (s : Session V) :
    (a.perform s).result.feedback = s.result.feedback ++ a.notes s := by
  cases a with
  | setValue value => simp [perform, notes]
  | note kind offset message cause => simp [perform, notes]
  | reject message => simp [perform, notes]
  | _ => exact absurd h id

theorem Script.run_feedback (script : Script V C) (h : script.Modest) (s : Session V) (c : C) :
    (script.run s c).1.result.feedback = s.result.feedback ++ script.notes s c := by
  induction script generalizing s c with
  | done => simp [notes]
  | act action next ih =>
    calc (next.run (action.perform s) c).1.result.feedback
        = (action.perform s).result.feedback ++ next.notes (action.perform s) c := ih h.2 _ c
      _ = s.result.feedback ++ (act action next).notes s c := by
        rw [action.perform_feedback h.1, notes, List.append_assoc]
  | setContext c' next ih => exact ih h s c'
  | look next ih => exact ih _ _ (h _ _) s c
  | locate offset next ih =>
    have hnext := ih (s.locate offset).1 (h _) (s.locate offset).2 c
    rwa [Session.locate_result] at hnext
  | report next ih => exact ih _ (h _) s c

namespace Call

/-- The calls of children that a match is made of: the longest one of alternatives that compete,
and otherwise all that have matched. -/
def survivors (c : Call V C) : List (Call V C) :=
  match c.parser with
  | .best .. => (longest c.children).toList
  | _ => matched c.children

/-- The items that the hook of the call itself has added. -/
def noted (c : Call V C) : List Feedback.Item :=
  match c.parser.hook? with
  | some hook => hook.notes c.settled.session c.settled.context
  | none => []

theorem mem_matched_of_survivors {c child : Call V C} (h : child ∈ c.survivors) :
    child ∈ matched c.children := by
  unfold survivors at h
  split at h
  · exact matched_of_longest (Option.mem_toList.1 h)
  · exact h

theorem mem_children_of_survivors {c child : Call V C} (h : child ∈ c.survivors) :
    child ∈ c.children := (List.mem_filter.1 (mem_matched_of_survivors h)).1

theorem matched_of_survivors {c child : Call V C} (h : child ∈ c.survivors) :
    ¬ child.failed = true := by
  simpa using (List.mem_filter.1 (mem_matched_of_survivors h)).2

theorem sizeOf_survivor {c child : Call V C} (h : child ∈ c.survivors) :
    sizeOf child < sizeOf c := by
  have hchild := List.sizeOf_lt_of_mem (mem_children_of_survivors h)
  have hchildren : sizeOf c.children < sizeOf c := by
    cases c
    simp only [mk.sizeOf_spec]
    omega
  exact Nat.lt_trans hchild hchildren

/-- The items that the hooks of the surviving calls have added, each call after its children. -/
def added (c : Call V C) : List Feedback.Item :=
  c.survivors.attach.flatMap (fun child => child.1.added) ++ c.noted
termination_by sizeOf c
decreasing_by exact sizeOf_survivor child.2

theorem added_eq (c : Call V C) : c.added = c.survivors.flatMap added ++ c.noted := by
  rw [added]
  simp

end Call

namespace Run

/-- A hook that leaves a match has been run on a match, and has added its items. -/
theorem finish_feedback {hook : Script V C} (hm : hook.Modest) {r : Run V C}
    (h : ¬ (r.finish hook).failed = true) :
    ¬ r.failed = true ∧ (r.finish hook).session.result.feedback =
      r.session.result.feedback ++ hook.notes r.session r.context := by
  by_cases hfailed : r.failed = true
  · rw [finish, if_pos hfailed] at h
    exact absurd hfailed h
  · refine ⟨hfailed, ?_⟩
    rw [finish, if_neg hfailed]
    exact hook.run_feedback hm r.session r.context

end Run

theorem Session.unmatched_failed (s : Session V) (delta : Nat) (message : String)
    (cause : Option String) : (s.unmatched delta message cause).result.failed = true := by
  rw [unmatched_result]
  rfl

theorem Run.unmatched_failed (r : Run V C) (message : String) :
    (r.onSession (Session.unmatched 0 message none)).failed = true :=
  r.session.unmatched_failed 0 message none

theorem Session.scan_feedback (p : Primitive) (s : Session V)
    (h : ¬ (s.scan p).result.failed = true) : (s.scan p).result.feedback = [] := by
  unfold scan at *
  cases hscan : p.scan s.rest with
  | ok found => rfl
  | error miss =>
    rw [hscan] at h
    exact absurd (s.unmatched_failed _ _ _) h

namespace Grammar

variable {env : Env V C} {fuel : Nat}

/-- The feedback that a parser has settled on is that of the calls its match is made of. -/
theorem settled_feedback (g : Grammar V C) (hg : ∀ body, g ≠ .script body) (r : Run V C)
    (c : Call V C) (h : g.record env fuel r = some c) (hmatch : ¬ c.settled.failed = true) :
    c.settled.session.result.feedback = c.survivors.flatMap fun child => child.result.feedback := by
  cases fuel with
  | zero => cases h
  | succ fuel =>
    obtain ⟨children, settled, hcalls, hwork, rfl⟩ := record_cases h
    have hbalance := record_balanced env fuel
    cases g with
    | primitive p hook =>
      obtain rfl := Option.some.inj hwork
      obtain rfl := Option.some.inj hcalls
      exact Session.scan_feedback p r.session hmatch
    | all subs hook =>
      obtain ⟨-, hmatched, -, hfeedback⟩ :=
        Recorder.all_matched hbalance subs hcalls hwork hmatch
      rw [Call.survivors, Call.matched_eq_self hmatched]
      exact hfeedback
    | any subs hook =>
      obtain ⟨before, winner, rfl, hbefore, hwinner, -, hresult⟩ :=
        Recorder.any_matched subs hcalls hwork hmatch
      have hmatched : Call.matched (before ++ [winner]) = [winner] := by
        rw [Call.matched, List.filter_append]
        exact congrArg₂ (· ++ ·) (Call.matched_eq_nil hbefore)
          (Call.matched_cons_matched hwinner [])
      rw [Call.survivors, hmatched]
      simpa using congrArg Result.feedback hresult
    | best subs hook =>
      obtain ⟨winner, hlongest, -, hresult⟩ := Recorder.best_matched subs hcalls hwork hmatch
      rw [Call.survivors, hlongest]
      simpa using congrArg Result.feedback hresult
    | optional sub hook =>
      obtain ⟨child, rfl, -, hresult⟩ := Recorder.optional_matched sub hcalls hwork
      rw [Call.survivors, hresult]
      by_cases hfailed : child.failed = true
      · simp [Call.matched_cons_failed hfailed, hfailed]
      · simp [Call.matched_cons_matched hfailed, hfailed]
    | repeated sub min max hook =>
      exact (Recorder.repeated_matched hbalance sub min max fuel hcalls hwork hmatch).2
    | reference cell owning =>
      simp only [calls] at hcalls
      simp only [work] at hwork
      cases hcell : env cell with
      | bound target =>
        rw [hcell] at hcalls hwork
        obtain ⟨child, hchild, rfl⟩ := Option.map_eq_some_iff.1 hcalls
        obtain ⟨child', hchild', rfl⟩ := Option.map_eq_some_iff.1 hwork
        obtain rfl : child' = child := Option.some.inj (hchild'.symm.trans hchild)
        rw [Call.survivors, Call.matched_cons_matched hmatch]
        simp [Call.result]
      | unbound =>
        rw [hcell] at hwork
        obtain rfl := Option.some.inj hwork
        exact absurd (r.unmatched_failed "forward parser used before being bound") hmatch
      | dropped =>
        rw [hcell] at hwork
        obtain rfl := Option.some.inj hwork
        exact absurd (r.unmatched_failed "forward parser was dropped") hmatch
    | script body => exact absurd rfl (hg body)

/-- A call that has matched adds what its hook notes to what the parser has settled on. -/
theorem record_noted (g : Grammar V C) (hg : g.HookedBy Script.Modest) (r : Run V C)
    (c : Call V C) (h : g.record env fuel r = some c) (hmatch : ¬ c.failed = true) :
    ¬ c.settled.failed = true ∧
      c.result.feedback = c.settled.session.result.feedback ++ c.noted := by
  cases fuel with
  | zero => cases h
  | succ fuel =>
    obtain ⟨children, settled, -, -, rfl⟩ := record_cases h
    cases hg with
    | reference cell owning => exact ⟨hmatch, (List.append_nil _).symm⟩
    | _ =>
      next hp => exact Run.finish_feedback hp hmatch

/-- The feedback of a match is what the calls it is made of have added. -/
theorem record_feedback (henv : HookedEnv Script.Modest env) (g : Grammar V C)
    (hg : g.HookedBy Script.Modest) (r : Run V C) (c : Call V C)
    (h : g.record env fuel r = some c) (hmatch : ¬ c.failed = true) :
    c.result.feedback = c.added := by
  induction fuel generalizing g r c with
  | zero => cases h
  | succ fuel ih =>
    obtain ⟨hsettled, hnoted⟩ := record_noted g hg r c h hmatch
    have hscript : ∀ body, g ≠ .script body := by
      rintro body rfl
      cases hg
    have hadded : ∀ child ∈ c.survivors, child.result.feedback = child.added := by
      intro child hc
      obtain ⟨children, settled, hcalls, -, rfl⟩ := record_cases h
      obtain ⟨g', hg', r', -, hrun⟩ := calls_start Run.steady_true g
        (fun _ _ _ _ _ _ => trivial) r trivial trivial children hcalls child
        (Call.mem_children_of_survivors hc)
      exact ih g' (hg.parts henv g' hg') r' child hrun (Call.matched_of_survivors hc)
    calc c.result.feedback
        = c.settled.session.result.feedback ++ c.noted := hnoted
      _ = (c.survivors.flatMap fun child => child.result.feedback) ++ c.noted := by
        rw [settled_feedback g hscript r c h hsettled]
      _ = c.survivors.flatMap Call.added ++ c.noted := by
        rw [List.flatMap_congr hadded]
      _ = c.added := c.added_eq.symm

end Grammar

/-- A call that is a run of its parser. -/
def Call.Genuine (env : Env V C) (c : Call V C) : Prop :=
  ∃ fuel, c.parser.parse env fuel c.start = some c.stop

/-- The feedback of a match is what the hooks of the surviving calls have added, each call after
those that it is made of, and nothing else. -/
theorem feedback_of_survivors (env : Env V C) (fuel : Nat) (g : Grammar V C) (r r' : Run V C)
    (henv : HookedEnv Script.Modest env) (hg : g.HookedBy Script.Modest)
    (h : g.parse env fuel r = some r') (hmatch : r'.session.result.errorAt = none) :
    ∃ c, g.record env fuel r = some c ∧ c.parser = g ∧ c.start = r ∧ c.stop = r' ∧
      c.Every (Call.Genuine env) ∧ r'.session.result.feedback = c.added := by
  rw [← Grammar.record_stop] at h
  obtain ⟨c, hc, rfl⟩ := Option.map_eq_some_iff.1 h
  obtain ⟨hparser, hstart⟩ := Grammar.record_origin hc
  have hmatched : ¬ c.failed = true := by simp [Call.failed, Run.failed, Result.failed, hmatch]
  have hgenuine : c.Every (Call.Genuine env) := by
    apply Grammar.record_every Run.steady_true (fun _ _ => trivial) (K := fun _ => True)
      (fun _ _ _ _ => trivial) ?_ g trivial r trivial c hc
    intro fuel' g' r₁ c' _ _ h'
    obtain ⟨rfl, rfl⟩ := Grammar.record_origin h'
    exact ⟨trivial, fuel', Grammar.record_parse h'⟩
  exact ⟨c, hc, hparser, hstart, rfl, hgenuine, Grammar.record_feedback henv g hg r c hc hmatched⟩

section Remarks

/-- Remarks that the parser has matched, at the start of the match. -/
def remark (name : String) : Script Unit Unit :=
  .look fun v _ => .act (.note .info v.result.position name none) .done

def remarked (mark : Mark) : Grammar Unit Unit := .primitive (.literal mark) (remark mark.text)

/-- Words, of which the longest counts; two marks, or else the first of them alone; and perhaps the
parser of cell 0. -/
def remarks : Grammar Unit Unit :=
  .all [
    .many0 (.best [remarked ⟨"h", by decide⟩, remarked ⟨"ho", by decide⟩] (remark "best")) .done,
    .any [.all [remarked ⟨",", by decide⟩, remarked ⟨"!", by decide⟩] (remark "both"),
      remarked ⟨",", by decide⟩] (remark "any"),
    .optional (.reference 0 false) (remark "optional")] (remark "all")

def remarksEnv : Env Unit Unit
  | 0 => .bound (.all [remarked ⟨"h", by decide⟩, remarked ⟨",", by decide⟩] .done)
  | _ => .unbound

def beforeRemarks : Run Unit Unit := ⟨{ source := ⟨"remarks", "hoh,ho"⟩ }, (), #[]⟩

theorem remarked_hookedBy (mark : Mark) : (remarked mark).HookedBy Script.Modest :=
  .primitive _ _ fun _ _ => ⟨trivial, trivial⟩

theorem remarks_hookedBy : remarks.HookedBy Script.Modest := by
  have hremark : ∀ name, (remark name).Modest := fun _ _ _ => ⟨trivial, trivial⟩
  refine .all _ _ ?_ (hremark "all")
  simp only [List.forall_mem_cons, List.not_mem_nil, false_implies, implies_true, and_true]
  refine ⟨.repeated _ _ _ _ (.best _ _ ?_ (hremark "best")) trivial,
    .any _ _ ?_ (hremark "any"), .optional _ _ (.reference 0 false) (hremark "optional")⟩
  · simp [remarked_hookedBy]
  · simp only [List.forall_mem_cons, List.not_mem_nil, false_implies, implies_true, and_true]
    refine ⟨.all _ _ ?_ (hremark "both"), remarked_hookedBy _⟩
    simp [remarked_hookedBy]

theorem remarksEnv_hookedBy : HookedEnv Script.Modest remarksEnv := by
  intro cell g hg
  match cell with
  | 0 =>
    obtain rfl := Target.bound.inj hg
    exact .all _ _ (by simp [remarked_hookedBy]) trivial

/-- The remarks that are left, and where. -/
def remarksLeft : List Feedback.Item :=
  [(0, "ho"), (0, "best"), (2, "h"), (2, "best"), (3, ","), (3, "any"), (4, "optional"),
    (0, "all")].map fun (offset, name) => beforeRemarks.session.item .info offset name none

/-- Nothing is left of the shorter word, of the attempt at two marks, and of the word in the last
attempt, all of which have been remarked on. -/
theorem feedback_of_survivors_remarks :
    ∃ c, remarks.record remarksEnv 9 beforeRemarks = some c ∧ c.added = remarksLeft := by
  have hends : (remarks.parse remarksEnv 9 beforeRemarks).map
      (fun r' => (r'.session.result.errorAt, r'.session.result.feedback)) =
        some (none, remarksLeft) := by
    decide +kernel
  obtain ⟨r', h, hends⟩ := Option.map_eq_some_iff.1 hends
  obtain ⟨hmatch, hleft⟩ := Prod.mk.inj hends
  obtain ⟨c, hc, -, -, -, -, hfeedback⟩ := feedback_of_survivors remarksEnv 9 remarks
    beforeRemarks r' remarksEnv_hookedBy remarks_hookedBy h hmatch
  exact ⟨c, hc, hfeedback.symm.trans hleft⟩

end Remarks

end Descent
