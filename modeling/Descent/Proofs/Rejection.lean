import Descent.Proofs.Contract
import Descent.Proofs.Matches

/-!
# What a rejection leaves

A failure has no value: the parsers give it none, and a rejection takes away the
one there was. But a hook goes on after it has rejected, and a value that it
sets then stays in the failure. The actions that a hook comes to in its run
tell which of the two it is.
-/
namespace Descent

variable {V C : Type}

namespace Action

/-- Whether there is a failure, and with which value, after an action of a hook. -/
def leave : Bool × Value V → Action V → Bool × Value V
  | _, reject _ => (true, .none)
  | (failed, _), setValue value => (failed, value)
  | before, _ => before

theorem foldl_leave_failed (actions : List (Action V)) (value : Value V) :
    (actions.foldl leave (true, value)).1 = true := by
  induction actions generalizing value with
  | nil => rfl
  | cons action actions ih => cases action <;> exact ih _

theorem foldl_leave_of_reject {message : String} {actions : List (Action V)}
    (h : .reject message ∈ actions) (before : Bool × Value V) :
    (actions.foldl leave before).1 = true := by
  obtain ⟨front, later, rfl⟩ := List.append_of_mem h
  rw [List.foldl_append, List.foldl_cons]
  exact foldl_leave_failed later .none

theorem foldl_leave_of_notes {actions : List (Action V)} (h : ∀ a ∈ actions, a.IsNote)
    (before : Bool × Value V) : actions.foldl leave before = before := by
  induction actions with
  | nil => rfl
  | cons action actions ih =>
    have hnext := ih fun a ha => h a (List.mem_cons_of_mem action ha)
    cases action with
    | note kind offset message cause => exact hnext
    | _ => exact absurd (h _ List.mem_cons_self) id

/-- What is set last after a rejection stays. -/
theorem foldl_leave_of_set {message : String} {front later : List (Action V)} {value : Value V}
    (hfront : .reject message ∈ front) (hlater : ∀ a ∈ later, a.IsNote)
    (before : Bool × Value V) :
    (front ++ .setValue value :: later).foldl leave before = (true, value) := by
  rw [List.foldl_append, List.foldl_cons, foldl_leave_of_notes hlater]
  have hfailed := foldl_leave_of_reject hfront before
  generalize front.foldl leave before = state at hfailed ⊢
  obtain ⟨failed, old⟩ := state
  exact congrArg (·, value) hfailed

theorem foldl_leave_none {actions : List (Action V)}
    (h : ∀ value, .setValue value ∉ actions) :
    (actions.foldl leave (true, .none)).2 = .none := by
  induction actions with
  | nil => rfl
  | cons action actions ih =>
    have hnext := ih fun value hmem => h value (List.mem_cons_of_mem action hmem)
    cases action with
    | setValue value => exact absurd List.mem_cons_self (h value)
    | _ => exact hnext

/-- Without a value that is set after a rejection, a rejected match has none. -/
theorem foldl_leave_rejected {actions : List (Action V)}
    (h : ∀ message value, ¬ [.reject message, .setValue value].Sublist actions) (old : Value V)
    (hfailed : (actions.foldl leave (false, old)).1 = true) :
    (actions.foldl leave (false, old)).2 = .none := by
  induction actions generalizing old with
  | nil => cases hfailed
  | cons action actions ih =>
    have hnext := ih fun message value hsub => h message value (hsub.cons action)
    cases action with
    | reject message =>
      refine foldl_leave_none fun value hmem => h message value ?_
      exact (List.singleton_sublist.2 hmem).cons_cons _
    | setValue value => exact hnext value hfailed
    | _ => exact hnext old hfailed

end Action

/-- A hook's action leaves of the result in a session what it is told to. -/
theorem Action.perform_leaves (a : Action V) (h : a.Modest) (s : Session V) :
    ((a.perform s).result.failed, (a.perform s).result.value) =
      leave (s.result.failed, s.result.value) a := by
  cases a with
  | setValue value => rfl
  | note kind offset message cause => simp [perform, leave, Result.failed]
  | reject message => simp [perform, leave, Result.failed]
  | _ => exact absurd h id

/-- What a hook leaves of a result is what its actions leave of it. -/
theorem Script.run_leaves (script : Script V C) (hm : script.Modest) (s : Session V) (c : C) :
    ((script.run s c).1.result.failed, (script.run s c).1.result.value) =
      (script.actions s c).foldl Action.leave (s.result.failed, s.result.value) := by
  induction script generalizing s c with
  | done => rfl
  | act action next ih =>
    have hnext := ih hm.2 (action.perform s) c
    rwa [action.perform_leaves hm.1] at hnext
  | setContext c' next ih => exact ih hm s c'
  | look next ih => exact ih _ _ (hm _ _) s c
  | locate offset next ih =>
    have hnext := ih (s.locate offset).1 (hm _) (s.locate offset).2 c
    rwa [Session.locate_result] at hnext
  | report next ih => exact ih _ (hm _) s c

namespace Call

/-- What the hook does in a call; after a failure it is not run. -/
def actions (c : Call V C) : List (Action V) :=
  match c.parser.hook? with
  | some hook =>
    if c.settled.failed then [] else hook.actions c.settled.session c.settled.context
  | none => []

/-- In this call the hook sets a value after it has rejected. -/
def SetsAfterReject (c : Call V C) : Prop :=
  ∃ message value, [.reject message, .setValue value].Sublist c.actions

/-- A value that the hook sets last after a rejection is that of the failure. -/
def KeepsLastValue (c : Call V C) : Prop :=
  ∀ front message value later, c.actions = front ++ .setValue value :: later →
    .reject message ∈ front → (∀ a ∈ later, a.IsNote) → c.failed = true ∧ c.result.value = value

/-- The hook's actions make of what the parser has settled on what the call ends with. -/
theorem leaves {c : Call V C} (hstop : c.stop = c.parser.close c.settled)
    (hm : ∀ hook, c.parser.hook? = some hook → hook.Modest) :
    (c.failed, c.result.value) =
      c.actions.foldl Action.leave (c.settled.failed, c.settled.session.result.value) := by
  have hresult : c.failed = c.result.failed := rfl
  rw [hresult, result, hstop, Grammar.close, actions]
  cases hhook : c.parser.hook? with
  | none => rfl
  | some hook =>
    dsimp only
    by_cases hfailed : c.settled.failed = true
    · rw [Run.finish, if_pos hfailed, if_pos hfailed]
      rfl
    · rw [Run.finish, if_neg hfailed, if_neg hfailed]
      exact hook.run_leaves (hm hook hhook) c.settled.session c.settled.context

theorem keepsLastValue_of_leaves {c : Call V C} (h : (c.failed, c.result.value) =
    c.actions.foldl Action.leave (c.settled.failed, c.settled.session.result.value)) :
    c.KeepsLastValue := by
  intro front message value later hactions hfront hlater
  rw [hactions, Action.foldl_leave_of_set hfront hlater] at h
  exact Prod.mk.inj h

theorem actions_of_failed {c : Call V C} (h : c.settled.failed = true) : c.actions = [] := by
  rw [actions]
  split
  · exact if_pos h
  · rfl

end Call

theorem Session.scan_value (p : Primitive) (s : Session V)
    (hfailed : (s.scan p).result.failed = true) : (s.scan p).result.value = .none := by
  unfold scan at *
  cases hscan : p.scan s.rest with
  | ok found =>
    rw [hscan] at hfailed
    cases hfailed
  | error miss => simp

/-- A repetition that has gone through its rounds matches, or fails without a value. -/
theorem Run.conclude_value (start min : Nat) (max : Option Nat) (count : Nat)
    (failure : Option (Result V)) (r : Run V C)
    (hfailed : (r.conclude start min max count failure).failed = true) :
    (r.conclude start min max count failure).session.result.value = .none := by
  unfold conclude at hfailed ⊢
  by_cases hmin : min ≤ count
  · refine absurd hfailed ?_
    by_cases hone : mayGoOn max 1 = true
    · simp [hmin, hone, Run.failed, Result.failed, Session.gather]
    · simp only [hmin, hone, Run.failed, Result.failed, Session.gatherOne]
      cases r.session.collected <;> simp
  · simp [hmin, Session.addFeedback]

namespace Grammar

variable {env : Env V C} {fuel : Nat}

theorem HookedBy.not_script {P : Script V C → Prop} {g : Grammar V C} (h : g.HookedBy P)
    (body : Script V C) : g ≠ .script body := by
  rintro rfl
  cases h

theorem HookedBy.of_hook? {P : Script V C → Prop} {g : Grammar V C} (h : g.HookedBy P)
    {hook : Script V C} (hhook : g.hook? = some hook) : P hook := by
  cases h with
  | reference cell owning => cases hhook
  | _ =>
    next hp => exact Option.some.inj hhook ▸ hp

theorem record_leaves (g : Grammar V C) (hg : g.HookedBy Script.Modest) (r : Run V C)
    (c : Call V C) (h : g.record env fuel r = some c) :
    (c.failed, c.result.value) =
      c.actions.foldl Action.leave (c.settled.failed, c.settled.session.result.value) := by
  cases fuel with
  | zero => cases h
  | succ fuel =>
    obtain ⟨children, settled, -, -, rfl⟩ := record_cases h
    exact Call.leaves rfl fun hook hhook => hg.of_hook? hhook

/-- A failure that a parser settles on is without a value, or is that of a child. -/
theorem settled_value (g : Grammar V C) (hg : ∀ body, g ≠ .script body) (r : Run V C)
    (c : Call V C) (h : g.record env fuel r = some c) (hfailed : c.settled.failed = true) :
    c.settled.session.result.value = .none ∨ ∃ child ∈ c.children, child.failed = true ∧
      c.settled.session.result.value = child.result.value := by
  cases fuel with
  | zero => cases h
  | succ fuel =>
    obtain ⟨children, settled, hcalls, hwork, rfl⟩ := record_cases h
    cases g with
    | primitive p hook =>
      obtain rfl := Option.some.inj hwork
      exact .inl (Session.scan_value p r.session hfailed)
    | all subs hook =>
      obtain ⟨calls, hcalls', hends⟩ := Recorder.all_calls _ _ _ _ _ hwork
      obtain rfl : calls = children := Option.some.inj (hcalls'.symm.trans hcalls)
      rcases hends with ⟨-, -, hs⟩ | ⟨before, last, rfl, -, hlast, rfl⟩
      · obtain rfl := Option.some.inj hs
        exact absurd hfailed (by simp [Run.failed, Result.failed, Session.gather])
      · exact .inr ⟨last, by simp, hlast, rfl⟩
    | any subs hook =>
      obtain ⟨calls, -, hends⟩ := Recorder.any_calls _ _ _ _ _ _ hwork
      rcases hends with ⟨-, -, hs⟩ | ⟨before, winner, -, -, hwinner, rfl⟩
      · obtain rfl := Option.some.inj hs
        exact .inl (by simp [Session.addFeedback])
      · exact absurd hfailed hwinner
    | best subs hook =>
      obtain ⟨calls, -, -, hs⟩ := Recorder.best_calls _ _ _ _ _ _ hwork
      rw [Call.longest_eq_foldl] at hs
      cases hlongest : Call.longest calls with
      | none =>
        rw [hlongest] at hs
        obtain rfl := Option.some.inj hs
        exact .inl (by simp [Session.addFeedback])
      | some winner =>
        rw [hlongest] at hs
        obtain rfl := Option.some.inj hs
        have hwinner : ¬ winner.failed = true := by
          simpa using (List.mem_filter.1 (Call.matched_of_longest hlongest)).2
        exact absurd hfailed hwinner
    | optional sub hook =>
      obtain ⟨child, -, -, hresult⟩ := Recorder.optional_matched sub hcalls hwork
      refine absurd hfailed ?_
      by_cases hchild : child.failed = true
      · simp [Run.failed, Result.failed, hresult, hchild]
      · rw [Run.failed, hresult, if_neg hchild]
        exact hchild
    | repeated sub min max hook =>
      obtain ⟨⟨t, count, failure⟩, -, hs⟩ := Option.bind_eq_some_iff.1 hwork
      obtain rfl := Option.some.inj hs
      exact .inl (Run.conclude_value _ _ _ _ _ _ hfailed)
    | reference cell owning =>
      simp only [calls] at hcalls
      simp only [work] at hwork
      cases hcell : env cell with
      | bound target =>
        rw [hcell] at hcalls hwork
        obtain ⟨child, hchild, rfl⟩ := Option.map_eq_some_iff.1 hcalls
        obtain ⟨child', hchild', rfl⟩ := Option.map_eq_some_iff.1 hwork
        obtain rfl : child' = child := Option.some.inj (hchild'.symm.trans hchild)
        exact .inr ⟨child', List.mem_singleton_self _, hfailed, rfl⟩
      | unbound =>
        rw [hcell] at hwork
        obtain rfl := Option.some.inj hwork
        exact .inl (by simp)
      | dropped =>
        rw [hcell] at hwork
        obtain rfl := Option.some.inj hwork
        exact .inl (by simp)
    | script body => exact absurd rfl (hg body)

/-- Without a value that is set after a rejection, a failure has none. -/
theorem record_value (henv : HookedEnv Script.Modest env) (g : Grammar V C)
    (hg : g.HookedBy Script.Modest) (r : Run V C) (c : Call V C)
    (h : g.record env fuel r = some c) (hnone : c.Every fun call => ¬ call.SetsAfterReject)
    (hfailed : c.failed = true) : c.result.value = .none := by
  induction fuel generalizing g r c with
  | zero => cases h
  | succ fuel ih =>
    have hleaves := record_leaves g hg r c h
    by_cases hsettled : c.settled.failed = true
    · -- No hook is run, so the value is that of what the parser has settled on.
      rw [c.actions_of_failed hsettled] at hleaves
      rw [(Prod.mk.inj hleaves).2]
      rcases settled_value g hg.not_script r c h hsettled with hvalue | ⟨child, hc, hchild, hvalue⟩
      · exact hvalue
      · rw [hvalue]
        obtain ⟨children, settled, hcalls, -, rfl⟩ := record_cases h
        obtain ⟨g', hg', r', -, hrun⟩ := calls_start Run.steady_true g
          (fun _ _ _ _ _ _ => trivial) r trivial trivial children hcalls child hc
        cases hnone with
        | node _ _ hs => exact ih g' (hg.parts henv g' hg') r' child hrun (hs child hc) hchild
    · rw [Bool.eq_false_iff.2 hsettled] at hleaves
      obtain ⟨hfails, hvalue⟩ := Prod.mk.inj hleaves
      cases hnone with
      | node _ hnone _ =>
        rw [hvalue]
        exact Action.foldl_leave_rejected (fun message value hsub => hnone ⟨message, value, hsub⟩) _
          (hfails.symm.trans hfailed)

end Grammar

/-- In no session does the script set a value after it has rejected. -/
def Script.NeverSetsAfterReject (script : Script V C) : Prop :=
  ∀ s c message value, ¬ [.reject message, .setValue value].Sublist (script.actions s c)

/-- A hook that does so in no session does not do so in a call. -/
theorem Grammar.record_neverSetsAfterReject (env : Env V C) (fuel : Nat) (g : Grammar V C)
    (r : Run V C) (c : Call V C) (hg : g.HookedBy Script.NeverSetsAfterReject)
    (henv : HookedEnv Script.NeverSetsAfterReject env) (h : g.record env fuel r = some c) :
    c.Every fun call => ¬ call.SetsAfterReject := by
  apply Grammar.record_every Run.steady_true (fun _ _ => trivial) (fun g hg => hg.parts henv) ?_ g
    hg r trivial c h
  rintro fuel g r c hg - h
  refine ⟨trivial, ?_⟩
  rintro ⟨message, value, hsub⟩
  obtain ⟨rfl, -⟩ := record_origin h
  unfold Call.actions at hsub
  split at hsub
  · next hook hhook =>
    split at hsub
    · cases hsub
    · exact hg.of_hook? hhook _ _ message value hsub
  · cases hsub

/-- The contract, for hooks that set values, add feedback and reject under whatever conditions. A
match is the text from the start to the cursor. A failure is back at the start, with an item where
it failed, and without a value unless a hook has set one after its rejection; that value stays. -/
theorem parse_contract (env : Env V C) (fuel : Nat) (g : Grammar V C) (r r' : Run V C)
    (hg : g.HookedBy Script.Modest) (henv : HookedEnv Script.Modest env)
    (hc : IsBoundary r.session.cursor r.session.source.chars)
    (h : g.parse env fuel r = some r') :
    ∃ c, g.record env fuel r = some c ∧ c.stop = r' ∧
      (r'.session.result.errorAt = none →
        r'.session.result.position = r.session.cursor ∧
        r.session.cursor ≤ r'.session.cursor ∧ r'.session.cursor ≤ r.session.source.size ∧
        IsBoundary r'.session.cursor r.session.source.chars ∧
        r'.session.result.text =
          r.session.source.textBetween r.session.cursor r'.session.cursor) ∧
      (∀ e, r'.session.result.errorAt = some e →
        r'.session.cursor = r.session.cursor ∧ r'.session.result.position = r.session.cursor ∧
        r'.session.result.text = "" ∧
        (c.Every (fun call => ¬ call.SetsAfterReject) → r'.session.result.value = .none) ∧
        r.session.cursor ≤ e ∧ e ≤ r.session.source.size ∧
        ∃ item ∈ r'.session.result.feedback, item.kind = .error ∧ item.offset = e) ∧
      c.Every Call.KeepsLastValue := by
  obtain ⟨hsource, hobeys⟩ := Grammar.parse_obeys env henv fuel g hg r r' hc h
  rw [← Grammar.record_stop] at h
  obtain ⟨c, hrecord, rfl⟩ := Option.map_eq_some_iff.1 h
  have hkeeps : c.Every Call.KeepsLastValue := by
    apply Grammar.record_every Run.steady_true (fun _ _ => trivial)
      (K := fun g => g.HookedBy Script.Modest) (fun g hg => hg.parts henv) ?_ g hg r trivial c
      hrecord
    intro fuel g r c hg _ h
    exact ⟨trivial, c.keepsLastValue_of_leaves (Grammar.record_leaves g hg r c h)⟩
  refine ⟨c, hrecord, rfl, ?_, ?_, hkeeps⟩
  · intro hmatch
    have hspans := hobeys.spans (by simp [Result.failed, hmatch])
    rw [hsource] at hspans
    exact ⟨hspans.position, hspans.start_le, r.session.source.le_size hspans.boundary,
      hspans.boundary, hspans.text⟩
  · intro e he
    have hfailed : c.failed = true := by simp [Call.failed, Run.failed, Result.failed, he]
    obtain ⟨hcursor, hmiss⟩ := hobeys.misses hfailed
    obtain ⟨e', he', hstart, hsize, hitem⟩ := hmiss.fault
    obtain rfl : e' = e := Option.some.inj (he'.symm.trans he)
    rw [hsource] at hsize
    exact ⟨hcursor, hmiss.position, hmiss.text,
      fun hnone => Grammar.record_value henv g hg r c hrecord hnone hfailed, hstart, hsize, hitem⟩

section Refusal

/-- The letters `a` and `b` in a row, with a hook on the second. -/
def letters (hook : Script Unit Unit) : Grammar Unit Unit :=
  .all [.primitive (.literal ⟨"a", by decide⟩) .done,
    .primitive (.literal ⟨"b", by decide⟩) hook] .done

theorem letters_hookedBy {P : Script Unit Unit → Prop} {hook : Script Unit Unit} (hd : P .done)
    (hp : P hook) : (letters hook).HookedBy P := by
  refine .all _ _ (fun g hg => ?_) hd
  simp only [List.mem_cons, List.not_mem_nil, or_false] at hg
  rcases hg with rfl | rfl
  · exact .primitive _ _ hd
  · exact .primitive _ _ hp

/-- A session on the text `xab` with the cursor after the first character. -/
def beforeLetters : Run Unit Unit := ⟨{ source := ⟨"letters", "xab"⟩, cursor := 1 }, (), #[]⟩

/-- Sets the text as the value, unless there is a failure. -/
def valuation : Script Unit Unit :=
  .look fun v _ => if v.result.failed then .done else .act (.setValue (.text v.result.text)) .done

/-- A refusal of the letter `b`, with a value for everything else. -/
def refusal : Script Unit Unit :=
  .look fun v _ => if v.result.text = "b" then .act (.reject "no") valuation else valuation

/-- A refusal that sets a value all the same. -/
def valuedRefusal : Script Unit Unit := .act (.reject "no") (.act (.setValue (.text "b")) .done)

theorem refusal_modest : refusal.Modest := by
  intro v c
  show Script.Modest (if _ then _ else _)
  have hvaluation : valuation.Modest := by
    intro v c
    show Script.Modest (if _ then _ else _)
    split
    · trivial
    · exact ⟨trivial, trivial⟩
  split
  · exact ⟨trivial, hvaluation⟩
  · exact hvaluation

theorem valuation_actions (s : Session Unit) :
    valuation.actions s () =
      if s.result.failed then [] else [.setValue (.text s.result.text)] := by
  show Script.actions (if s.result.failed = true then _ else _) s () = _
  split <;> rfl

theorem refusal_neverSetsAfterReject : refusal.NeverSetsAfterReject := by
  intro s _ message value hsub
  suffices h : (refusal.actions s ()).length ≤ 1 by
    have hle := hsub.length_le.trans h
    simp at hle
  show (Script.actions (if s.result.text = "b" then _ else _) s ()).length ≤ 1
  split
  · have hfailed : (s.reject "no").result.failed = true := by simp [Result.failed]
    show (valuation.actions (s.reject "no") ()).length + 1 ≤ 1
    rw [valuation_actions, if_pos hfailed]
    exact Nat.le_refl 1
  · rw [valuation_actions]
    split <;> simp

/-- Both letters match, but the hook of the second rejects it, and then sees that there is nothing
to set a value for. -/
theorem parse_contract_refusal :
    ∃ r', (letters refusal).parse (fun _ => .dropped) 2 beforeLetters = some r' ∧
      r'.session.result.errorAt = some 2 ∧ r'.session.cursor = 1 ∧
      r'.session.result.value = .none ∧
      ∃ item ∈ r'.session.result.feedback, item.kind = .error ∧ item.offset = 2 := by
  have hparse : ((letters refusal).parse (fun _ => .dropped) 2 beforeLetters).map
      (fun r' => r'.session.result.errorAt) = some (some 2) := by decide +kernel
  obtain ⟨r', h, he⟩ := Option.map_eq_some_iff.1 hparse
  have henv : ∀ P, HookedEnv (V := Unit) (C := Unit) P fun _ => .dropped := by
    intro P cell g hg
    cases hg
  obtain ⟨c, hc, -, -, hfailure, -⟩ := parse_contract (fun _ => .dropped) 2 (letters refusal)
    beforeLetters r' (letters_hookedBy trivial refusal_modest) (henv _) (by decide +kernel) h
  obtain ⟨hcursor, -, -, hvalue, -, -, hitem⟩ := hfailure 2 he
  have hnone := Grammar.record_neverSetsAfterReject (fun _ => .dropped) 2 (letters refusal)
    beforeLetters c (letters_hookedBy (fun _ _ _ _ h => by cases h) refusal_neverSetsAfterReject)
    (henv _) hc
  exact ⟨r', h, he, hcursor, hvalue hnone, hitem⟩

/-- A hook that sets a value after it has rejected leaves a failure with a value. -/
theorem parse_value_after_rejection :
    (letters valuedRefusal).HookedBy Script.Modest ∧
    ∃ r', (letters valuedRefusal).parse (fun _ => .dropped) 2 beforeLetters = some r' ∧
      r'.session.result.errorAt = some 2 ∧ r'.session.result.value ≠ .none := by
  refine ⟨letters_hookedBy trivial ⟨trivial, trivial, trivial⟩, ?_⟩
  have hparse : ((letters valuedRefusal).parse (fun _ => .dropped) 2 beforeLetters).map
      (fun r' => (r'.session.result.errorAt, r'.session.result.value.isNone)) =
        some (some 2, false) := by
    decide +kernel
  obtain ⟨r', h, hends⟩ := Option.map_eq_some_iff.1 hparse
  obtain ⟨he, hvalue⟩ := Prod.mk.inj hends
  exact ⟨r', h, he, fun hnone => by rw [hnone] at hvalue; cases hvalue⟩

end Refusal

end Descent
