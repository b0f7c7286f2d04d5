import Descent.Proofs.Matches
import Descent.Proofs.Repetition

/-!
# What the trace tells

A combinator that is over puts an event on the trace, after all events of its
children and before those of the parsers that come after it. So the trace of a
parse is its tree of calls, children first, and what an event says is what the
calls of the children have come to.
-/
namespace Descent

variable {V C : Type}

namespace Event

/-- Whether the combinator has failed before its hook. -/
def isFailure : Event → Bool
  | allFailed .. | anyFailed .. | bestFailed .. | repeatFailed .. => true
  | allMatched .. | anyMatched .. | bestMatched .. | optionalIgnored _ | repeatMatched .. => false

/-- Where the combinator has left the cursor before its hook; after the match of one of many, this
is not told. -/
def stop? : Event → Option Nat
  | allMatched start length | repeatMatched start _ length => some (start + length)
  | bestMatched _ stop => some stop
  | anyMatched .. => none
  | allFailed start _ | anyFailed start _ | bestFailed start _ | optionalIgnored start
  | repeatFailed start _ _ => some start

end Event

namespace Call

/-- What a call puts on the trace when it is over, told by the calls of its children. -/
def event? (c : Call V C) : Option Event :=
  let start := c.start.session.cursor
  let length := left start c.children - start
  let count := (matched c.children).length
  match c.parser with
  | .all .. =>
    match c.children.findIdx? Call.failed with
    | some child => some (.allFailed start child)
    | none => some (.allMatched start length)
  | .any subs _ =>
    match c.children.findIdx? fun child => !child.failed with
    | some child => some (.anyMatched start child)
    | none => some (.anyFailed start subs.length)
  | .best subs _ =>
    match longest c.children with
    | some winner => some (.bestMatched start winner.stop.session.cursor)
    | none => some (.bestFailed start subs.length)
  | .optional .. => if c.children.any Call.failed then some (.optionalIgnored start) else none
  | .repeated _ min _ _ =>
    if count < min then some (.repeatFailed start count min)
    else some (.repeatMatched start count length)
  | .primitive .. | .reference .. | .script _ => none

section Kinds

variable {c last : Call V C} {before : List (Call V C)} {subs : List (Grammar V C)}
  {hook : Script V C}

theorem findIdx?_concat {p : Call V C → Bool} (hbefore : ∀ c ∈ before, p c = false)
    (hlast : p last = true) : (before ++ [last]).findIdx? p = some before.length := by
  rw [List.findIdx?_append, List.findIdx?_eq_none_iff.2 hbefore]
  simp [hlast]

theorem event?_all_matched (hparser : c.parser = .all subs hook)
    (h : ∀ child ∈ c.children, ¬ child.failed = true) :
    c.event? = some (.allMatched c.start.session.cursor
      (left c.start.session.cursor c.children - c.start.session.cursor)) := by
  have hnone : c.children.findIdx? Call.failed = none :=
    List.findIdx?_eq_none_iff.2 fun child hc => Bool.eq_false_iff.2 (h child hc)
  simp [event?, hparser, hnone]

theorem event?_all_failed (hparser : c.parser = .all subs hook)
    (hchildren : c.children = before ++ [last]) (hbefore : ∀ child ∈ before, ¬ child.failed = true)
    (hlast : last.failed = true) :
    c.event? = some (.allFailed c.start.session.cursor before.length) := by
  have hfirst := findIdx?_concat (p := Call.failed)
    (fun child hc => Bool.eq_false_iff.2 (hbefore child hc)) hlast
  simp [event?, hparser, hchildren, hfirst]

theorem event?_any_matched (hparser : c.parser = .any subs hook)
    (hchildren : c.children = before ++ [last]) (hbefore : ∀ child ∈ before, child.failed = true)
    (hlast : ¬ last.failed = true) :
    c.event? = some (.anyMatched c.start.session.cursor before.length) := by
  have hfirst : (before ++ [last]).findIdx? (fun child => !child.failed) = some before.length :=
    findIdx?_concat (fun child hc => by simp [hbefore child hc]) (by simpa using hlast)
  simp [event?, hparser, hchildren, hfirst]

theorem event?_any_failed (hparser : c.parser = .any subs hook)
    (h : ∀ child ∈ c.children, child.failed = true) :
    c.event? = some (.anyFailed c.start.session.cursor subs.length) := by
  have hnone : (c.children.findIdx? fun child => !child.failed) = none :=
    List.findIdx?_eq_none_iff.2 fun child hc => by simp [h child hc]
  simp [event?, hparser, hnone]

theorem event?_best_matched {winner : Call V C} (hparser : c.parser = .best subs hook)
    (h : longest c.children = some winner) :
    c.event? = some (.bestMatched c.start.session.cursor winner.stop.session.cursor) := by
  simp [event?, hparser, h]

theorem event?_best_failed (hparser : c.parser = .best subs hook)
    (h : longest c.children = none) :
    c.event? = some (.bestFailed c.start.session.cursor subs.length) := by
  simp [event?, hparser, h]

end Kinds

mutual

/-- What a call and the calls below it put on the trace: those of the children come first. -/
def events : Call V C → List Event
  | ⟨parser, start, children, settled, stop⟩ =>
    eventsOfEach children ++ (event? ⟨parser, start, children, settled, stop⟩).toList

def eventsOfEach : List (Call V C) → List Event
  | [] => []
  | c :: calls => c.events ++ eventsOfEach calls

end

theorem eventsOfEach_eq (calls : List (Call V C)) : eventsOfEach calls = calls.flatMap events := by
  induction calls with
  | nil => rfl
  | cons c calls ih => rw [eventsOfEach, ih, List.flatMap_cons]

theorem events_eq (c : Call V C) : c.events = c.children.flatMap events ++ c.event?.toList := by
  rw [← eventsOfEach_eq]
  cases c
  rfl

/-- The calls of the children are those that the parser had to make: each kind of combinator goes
through its parsers in their order, and only a failure among all or a match among any ends it
early. -/
def Complete (c : Call V C) : Prop :=
  let parsers := c.children.map Call.parser
  match c.parser with
  | .all subs _ =>
    parsers <+: subs ∧ ((∀ child ∈ c.children, ¬ child.failed = true) → parsers = subs)
  | .any subs _ =>
    parsers <+: subs ∧ ((∀ child ∈ c.children, child.failed = true) → parsers = subs)
  | .best subs _ => parsers = subs
  | .optional sub _ => parsers = [sub]
  | .repeated sub .. => ∀ parser ∈ parsers, parser = sub
  | .primitive .. | .reference .. | .script _ => True

/-- No event tells of a place beyond all those that the children have come to. -/
theorem event?_stop_le {c : Call V C} {size : Nat} (hstart : c.start.session.cursor ≤ size)
    (hchildren : ∀ child ∈ c.children, child.stop.session.cursor ≤ size) {e : Event}
    (he : e ∈ c.event?) {stop : Nat} (hstop : stop ∈ e.stop?) : stop ≤ size := by
  have hleft : left c.start.session.cursor c.children ≤ size := by
    unfold left
    cases hlast : c.children.getLast? with
    | none => exact hstart
    | some last => exact hchildren last (List.mem_of_getLast? hlast)
  have hwinner : ∀ winner, longest c.children = some winner →
      winner.stop.session.cursor ≤ size := fun winner hlongest =>
    hchildren winner (List.mem_filter.1 (matched_of_longest hlongest)).1
  cases hparser : c.parser <;> simp only [event?, hparser] at he <;> grind [Event.stop?]

/-- From what its children have left, a call puts its event on the trace and comes to what the event
says, all before its hook. -/
structure Concludes (c : Call V C) (before : Run V C) : Prop where
  trace : c.settled.trace.toList = before.trace.toList ++ c.event?.toList
  verdict : ∀ e ∈ c.event?, c.settled.failed = e.isFailure
  stop : ∀ e ∈ c.event?, ∀ stop ∈ e.stop?,
    c.settled.session.cursor = min stop c.settled.session.source.size

theorem concludes_of_event {c : Call V C} {before : Run V C} {e : Event} (he : c.event? = some e)
    (htrace : c.settled.trace.toList = before.trace.toList ++ [e])
    (hverdict : c.settled.failed = e.isFailure)
    (hstop : ∀ stop ∈ e.stop?, c.settled.session.cursor = min stop c.settled.session.source.size) :
    c.Concludes before where
  trace := by rw [he]; exact htrace
  verdict e' he' := by
    obtain rfl := Option.some.inj (he.symm.trans he')
    exact hverdict
  stop e' he' := by
    obtain rfl := Option.some.inj (he.symm.trans he')
    exact hstop

/-- A parser that tells nothing has nothing to add. -/
theorem concludes_of_none {c : Call V C} {before : Run V C} (he : c.event? = none)
    (htrace : c.settled.trace.toList = before.trace.toList) : c.Concludes before where
  trace := by rw [he]; simpa using htrace
  verdict e he' := by simp [he] at he'
  stop e he' := by simp [he] at he'

end Call

namespace Run

@[simp] theorem onSession_trace (f : Session V → Session V) (r : Run V C) :
    (r.onSession f).trace = r.trace := rfl

@[simp] theorem emit_trace (e : Event) (r : Run V C) :
    (r.emit e).trace.toList = r.trace.toList ++ [e] := Array.toList_push

@[simp] theorem leave_trace (keep : Bool) (r : Run V C) : (r.leave keep).trace = r.trace := rfl

theorem close_trace (g : Grammar V C) (r : Run V C) : (g.close r).trace = r.trace := by
  unfold Grammar.close finish
  split
  · split <;> rfl
  · rfl

/-- A start that is moved back to the end does not go beyond it. -/
theorem min_min_add (start n size : Nat) :
    min (min start size + n) size = min (start + n) size := by
  omega

theorem conclude_enough (start least : Nat) (most : Option Nat) (count : Nat)
    (failure : Option (Result V)) (r : Run V C) (hcount : least ≤ count) :
    let r' := r.conclude start least most count failure
    r'.failed = false ∧
      r'.session.cursor = min (start + (r.session.cursor - start)) r'.session.source.size := by
  unfold conclude
  by_cases hmost : mayGoOn most 1 = true
  · simp [hcount, hmost, Session.gather, failed, min_min_add]
  · cases r.session.collected <;> simp [hcount, hmost, Session.gatherOne, failed, min_min_add]

/-- After some calls stands what the last of them has left. -/
theorem after_concat (keep : Bool → Bool) (calls : List (Call V C)) (c : Call V C) (r : Run V C) :
    after keep (calls ++ [c]) r = c.stop.leave (keep c.failed) := by
  induction calls generalizing r with
  | nil => rfl
  | cons first calls ih => exact ih _

end Run

namespace Recorder

variable {child : Recorder V C}

section Traces

/-- Each call adds its events to the trace that it finds. -/
def Logs (child : Recorder V C) : Prop :=
  ∀ g r c, child g r = some c → c.stop.trace.toList = r.trace.toList ++ c.events

variable (hchild : child.Logs)

include hchild

theorem series_trace (enter : Run V C → Run V C) (henter : ∀ r, (enter r).trace = r.trace)
    (keep goesOn : Bool → Bool) (gs : List (Grammar V C)) (r : Run V C) (calls : List (Call V C))
    (h : child.series enter keep goesOn gs r = some calls) :
    (Run.after keep calls r).trace.toList = r.trace.toList ++ calls.flatMap Call.events := by
  induction gs generalizing r calls with
  | nil =>
    obtain rfl := Option.some.inj h
    exact (List.append_nil _).symm
  | cons g gs ih =>
    obtain ⟨c, hc, h⟩ := series_cases enter keep goesOn h
    have hstop := hchild _ _ _ hc
    rw [henter] at hstop
    rcases h with ⟨later, -, rfl, hlater⟩ | ⟨-, rfl⟩
    · rw [Run.after, ih _ later hlater, Run.leave_trace, hstop, List.flatMap_cons,
        List.append_assoc]
    · rw [Run.after, Run.after, Run.leave_trace, hstop, List.flatMap_singleton]

theorem rounds_trace (g : Grammar V C) (min : Nat) (max : Option Nat) (fuel count : Nat)
    (r : Run V C) (calls : List (Call V C))
    (h : child.rounds g min max fuel count r = some calls) :
    (Run.after not calls r).trace.toList = r.trace.toList ++ calls.flatMap Call.events := by
  induction fuel generalizing count r calls with
  | zero => cases h
  | succ fuel ih =>
    rcases rounds_cases h with rfl | ⟨c, hc, ⟨later, hmatch, rfl, hlater⟩ | rfl⟩
    · exact (List.append_nil _).symm
    · have hkeep : (!c.failed) = true := by simpa using hmatch
      rw [Run.after, hkeep, ih (count + 1) _ later hlater, Run.leave_trace, hchild _ _ _ hc,
        List.flatMap_cons, List.append_assoc]
    · rw [Run.after, Run.after, Run.leave_trace, hchild _ _ _ hc, List.flatMap_singleton]

end Traces

section Conclusions

variable {r s stop : Run V C} {calls : List (Call V C)} {subs : List (Grammar V C)}
  {hook : Script V C}

theorem all_concludes
    (hcalls : child.series id not not subs (r.onSession Session.pushFrame) = some calls)
    (h : Run.all child.runner r.session.cursor 0 subs (r.onSession Session.pushFrame) = some s) :
    Call.Concludes ⟨.all subs hook, r, calls, s, stop⟩
      (Run.after not calls (r.onSession Session.pushFrame)) := by
  obtain ⟨calls', hcalls', hends⟩ := all_calls _ _ _ _ _ h
  obtain rfl : calls' = calls := Option.some.inj (hcalls'.symm.trans hcalls)
  rcases hends with ⟨-, hmatched, hs⟩ | ⟨before, last, rfl, hbefore, hlast, rfl⟩
  · obtain rfl := Option.some.inj hs
    have hcursor := Run.after_cursor not calls' (r.onSession Session.pushFrame)
    refine Call.concludes_of_event (Call.event?_all_matched rfl hmatched) ?_ ?_ ?_
    · simp [hcursor]
    · rfl
    · simp [hcursor, Event.stop?, Session.gather, Run.min_min_add]
  · refine Call.concludes_of_event (Call.event?_all_failed rfl rfl hbefore hlast) ?_ ?_ ?_
    · simp [Run.after_concat]
    · exact hlast
    · simp [Event.stop?]

theorem any_concludes
    (hcalls : child.series (Run.onSession (Session.moveTo r.session.cursor)) id id subs
      (r.onSession Session.pushFrame) = some calls)
    (h : Run.any child.runner r.session.cursor subs.length 0 subs
      (r.onSession Session.pushFrame) = some s) :
    Call.Concludes ⟨.any subs hook, r, calls, s, stop⟩
      (Run.after id calls (r.onSession Session.pushFrame)) := by
  obtain ⟨calls', hcalls', hends⟩ := any_calls _ _ _ _ _ _ h
  obtain rfl : calls' = calls := Option.some.inj (hcalls'.symm.trans hcalls)
  rcases hends with ⟨-, hfailed, hs⟩ | ⟨before, winner, rfl, hbefore, hwinner, rfl⟩
  · obtain rfl := Option.some.inj hs
    refine Call.concludes_of_event (Call.event?_any_failed rfl hfailed) ?_ ?_ ?_
    · simp
    · simp [Run.failed, Result.failed, Session.addFeedback, Event.isFailure]
    · simp [Session.addFeedback, Event.stop?]
  · refine Call.concludes_of_event (Call.event?_any_matched rfl rfl hbefore hwinner) ?_ ?_ ?_
    · simp [Run.after_concat]
    · exact Bool.eq_false_iff.2 hwinner
    · simp [Event.stop?]

theorem best_concludes
    (hcalls : child.series (Run.onSession (Session.moveTo r.session.cursor)) id (fun _ => true)
      subs (r.onSession Session.pushFrame) = some calls)
    (h : Run.best child.runner r.session.cursor subs.length none subs
      (r.onSession Session.pushFrame) = some s) :
    Call.Concludes ⟨.best subs hook, r, calls, s, stop⟩
      (Run.after id calls (r.onSession Session.pushFrame)) := by
  obtain ⟨calls', hcalls', -, hs⟩ := best_calls _ _ _ _ _ _ h
  obtain rfl : calls' = calls := Option.some.inj (hcalls'.symm.trans hcalls)
  rw [Call.longest_eq_foldl] at hs
  cases hlongest : Call.longest calls' with
  | none =>
    rw [hlongest] at hs
    obtain rfl := Option.some.inj hs
    refine Call.concludes_of_event (Call.event?_best_failed rfl hlongest) ?_ ?_ ?_
    · simp
    · simp [Run.failed, Result.failed, Session.addFeedback, Event.isFailure]
    · simp [Session.addFeedback, Event.stop?]
  | some winner =>
    rw [hlongest] at hs
    obtain rfl := Option.some.inj hs
    have hwinner : winner.failed = false := by
      simpa using (List.mem_filter.1 (Call.matched_of_longest hlongest)).2
    refine Call.concludes_of_event (Call.event?_best_matched rfl hlongest) ?_ ?_ ?_
    · simp
    · exact hwinner
    · simp [Event.stop?]

theorem optional_concludes {sub : Grammar V C} {c : Call V C}
    (hc : child sub (r.onSession Session.pushFrame) = some c)
    (h : Run.optional child.runner r.session.cursor sub (r.onSession Session.pushFrame) = some s) :
    Call.Concludes ⟨.optional sub hook, r, [c], s, stop⟩ c.stop := by
  have hrun : child.runner sub (r.onSession Session.pushFrame) = some c.stop := by
    rw [runner, hc]
    rfl
  rw [Run.optional, hrun, Option.bind_eq_bind, Option.bind_some] at h
  by_cases hfailed : c.failed = true
  · rw [if_pos (show (c.stop.onSession Session.popFrame).failed = true from hfailed)] at h
    obtain rfl := Option.some.inj h
    refine Call.concludes_of_event (if_pos (by simpa using hfailed)) ?_ ?_ ?_
    · simp
    · rfl
    · simp [Event.stop?]
  · rw [if_neg (show ¬ (c.stop.onSession Session.popFrame).failed = true from hfailed)] at h
    obtain rfl := Option.some.inj h
    exact Call.concludes_of_none (if_neg (by simpa using hfailed)) rfl

theorem repeated_concludes {sub : Grammar V C} {min : Nat} {max : Option Nat} {fuel : Nat}
    (hcalls : child.rounds sub min max fuel 0 (r.onSession Session.pushFrame) = some calls)
    (h : Run.repeated child.runner r.session.cursor sub min max fuel
      (r.onSession Session.pushFrame) = some s) :
    Call.Concludes ⟨.repeated sub min max hook, r, calls, s, stop⟩
      (Run.after not calls (r.onSession Session.pushFrame)) := by
  obtain ⟨⟨t, count, failure⟩, ht, hs⟩ := Option.bind_eq_some_iff.1 h
  obtain rfl := Option.some.inj hs
  obtain ⟨calls', hcalls', rfl, hcount, -, -⟩ := rounds_calls _ _ _ _ _ _ _ _ _ ht
  obtain rfl : calls' = calls := Option.some.inj (hcalls'.symm.trans hcalls)
  rw [Nat.zero_add] at hcount
  subst hcount
  have hcursor := Run.after_cursor not calls' (r.onSession Session.pushFrame)
  by_cases hmin : min ≤ (Call.matched calls').length
  · obtain ⟨hmatch, hreached⟩ := Run.conclude_enough r.session.cursor min max _ failure
      (Run.after not calls' (r.onSession Session.pushFrame)) hmin
    rw [hcursor] at hreached
    refine Call.concludes_of_event (if_neg (Nat.not_lt.2 hmin)) ?_ hmatch ?_
    · simp [Run.conclude, hmin, hcursor]
    · intro back hback
      obtain rfl := Option.some.inj hback
      exact hreached
  · refine Call.concludes_of_event (if_pos (Nat.lt_of_not_le hmin)) ?_ ?_ ?_
    · simp [Run.conclude, hmin]
    · simp [Run.conclude, hmin, Run.failed, Result.failed, Session.addFeedback, Event.isFailure]
    · simp [Run.conclude, hmin, Session.addFeedback, Event.stop?]

end Conclusions

end Recorder

namespace Recorder

variable {child : Recorder V C}

theorem series_whole (enter : Run V C → Run V C) (keep goesOn : Bool → Bool)
    (gs : List (Grammar V C)) (r : Run V C) (calls : List (Call V C))
    (h : child.series enter keep goesOn gs r = some calls)
    (hgo : ∀ c ∈ calls, goesOn c.failed = true) : calls.length = gs.length := by
  induction gs generalizing r calls with
  | nil =>
    obtain rfl := Option.some.inj h
    rfl
  | cons g gs ih =>
    obtain ⟨c, -, ⟨later, -, rfl, hlater⟩ | ⟨hstop, rfl⟩⟩ := series_cases enter keep goesOn h
    · obtain ⟨-, hgo⟩ := List.forall_mem_cons.1 hgo
      exact congrArg (· + 1) (ih _ later hlater hgo)
    · exact absurd (hgo c List.mem_cons_self) hstop

/-- A series is made of the first of its parsers, and of all of them if it always goes on. -/
theorem series_complete (hparser : ∀ {g r c}, child g r = some c → c.parser = g)
    (enter : Run V C → Run V C) (keep goesOn : Bool → Bool) (gs : List (Grammar V C))
    (r : Run V C) (calls : List (Call V C))
    (h : child.series enter keep goesOn gs r = some calls) :
    calls.map Call.parser <+: gs ∧
      ((∀ c ∈ calls, goesOn c.failed = true) → calls.map Call.parser = gs) := by
  have hparsers := series_parsers enter keep goesOn hparser gs r calls h
  refine ⟨hparsers, fun hgo => hparsers.eq_of_length ?_⟩
  rw [List.length_map]
  exact series_whole enter keep goesOn gs r calls h hgo

end Recorder

namespace Grammar

variable {env : Env V C} {fuel : Nat}

theorem calls_complete {child : Recorder V C}
    (hparser : ∀ {g r c}, child g r = some c → c.parser = g) {g : Grammar V C}
    {r settled stop : Run V C} {calls : List (Call V C)}
    (h : g.calls env child fuel r = some calls) : Call.Complete ⟨g, r, calls, settled, stop⟩ := by
  cases g with
  | all subs hook =>
    obtain ⟨hparsers, hwhole⟩ := Recorder.series_complete hparser _ _ _ subs _ calls h
    exact ⟨hparsers, fun hmatched => hwhole fun c hc => by simpa using hmatched c hc⟩
  | any subs hook => exact Recorder.series_complete hparser _ _ _ subs _ calls h
  | best subs hook =>
    exact (Recorder.series_complete hparser _ _ _ subs _ calls h).2 fun _ _ => rfl
  | optional sub hook =>
    obtain ⟨c, hc, rfl⟩ := Option.map_eq_some_iff.1 h
    exact congrArg ([·]) (hparser hc)
  | repeated sub min max hook =>
    intro parser hmem
    obtain ⟨c, hc, rfl⟩ := List.mem_map.1 hmem
    obtain ⟨r', -, hr'⟩ := Recorder.rounds_starts Run.steady_true sub (fun _ _ _ _ => trivial) min
      max fuel 0 _ calls trivial h c hc
    exact hparser hr'
  | primitive p hook => trivial
  | reference cell owning => trivial
  | script body => trivial

/-- A parser concludes from the state after its children, in which the trace has grown by their
events. -/
theorem work_concludes {child : Recorder V C} (hchild : child.Logs)
    {g : Grammar V C} {r settled : Run V C} (stop : Run V C) {calls : List (Call V C)}
    (hcalls : g.calls env child fuel r = some calls)
    (hwork : g.work env child.runner fuel r = some settled) :
    ∃ before : Run V C, before.trace.toList = r.trace.toList ++ calls.flatMap Call.events ∧
      Call.Concludes ⟨g, r, calls, settled, stop⟩ before := by
  let opened := r.onSession Session.pushFrame
  let back := Run.onSession (C := C) (Session.moveTo (V := V) r.session.cursor)
  cases g with
  | primitive p hook =>
    obtain rfl := Option.some.inj hcalls
    obtain rfl := Option.some.inj hwork
    exact ⟨r, by simp, Call.concludes_of_none rfl rfl⟩
  | all subs hook =>
    exact ⟨_, Recorder.series_trace hchild id (fun _ => rfl) not not subs opened calls hcalls,
      Recorder.all_concludes hcalls hwork⟩
  | any subs hook =>
    exact ⟨_, Recorder.series_trace hchild back (fun _ => rfl) id id subs opened calls hcalls,
      Recorder.any_concludes hcalls hwork⟩
  | best subs hook =>
    exact ⟨_, Recorder.series_trace hchild back (fun _ => rfl) id _ subs opened calls hcalls,
      Recorder.best_concludes hcalls hwork⟩
  | optional sub hook =>
    obtain ⟨c, hc, rfl⟩ := Option.map_eq_some_iff.1 hcalls
    exact ⟨c.stop, by simpa using hchild _ _ _ hc, Recorder.optional_concludes hc hwork⟩
  | repeated sub min max hook =>
    exact ⟨_, Recorder.rounds_trace hchild sub min max fuel 0 opened calls hcalls,
      Recorder.repeated_concludes hcalls hwork⟩
  | reference cell owning =>
    simp only [Grammar.calls] at hcalls
    simp only [work] at hwork
    cases hcell : env cell with
    | bound target =>
      rw [hcell] at hcalls hwork
      obtain ⟨c, hc, rfl⟩ := Option.map_eq_some_iff.1 hcalls
      obtain ⟨c', hc', rfl⟩ := Option.map_eq_some_iff.1 hwork
      obtain rfl := Option.some.inj (hc.symm.trans hc')
      exact ⟨c.stop, by simpa using hchild _ _ _ hc, Call.concludes_of_none rfl rfl⟩
    | unbound =>
      rw [hcell] at hcalls hwork
      obtain rfl := Option.some.inj hcalls
      obtain rfl := Option.some.inj hwork
      exact ⟨r, by simp, Call.concludes_of_none rfl rfl⟩
    | dropped =>
      rw [hcell] at hcalls hwork
      obtain rfl := Option.some.inj hcalls
      obtain rfl := Option.some.inj hwork
      exact ⟨r, by simp, Call.concludes_of_none rfl rfl⟩
  | script body =>
    obtain rfl := Option.some.inj hcalls
    obtain rfl := Option.some.inj hwork
    exact ⟨r, by simp, Call.concludes_of_none rfl rfl⟩

/-- A call leaves on the trace that it finds its own events and those of the calls below it. -/
theorem record_logs (env : Env V C) (fuel : Nat) : (record env fuel).Logs := by
  induction fuel with
  | zero =>
    intro g r c h
    cases h
  | succ fuel ih =>
    intro g r c h
    obtain ⟨children, settled, hcalls, hwork, rfl⟩ := record_cases h
    obtain ⟨before, hbefore, hconcludes⟩ := work_concludes ih (g.close settled) hcalls hwork
    rw [Call.events_eq, ← List.append_assoc, ← hbefore, ← hconcludes.trace, Run.close_trace]

/-- What every step keeps, a parser keeps up to its hook. -/
theorem work_keeps {P : Session V → Prop} (hP : Session.Kept P) {g : Grammar V C} {r s : Run V C}
    (hr : P r.session) (h : g.work env (parse env fuel) fuel r = some s) : P s.session := by
  -- with a hook that does nothing, the parser stops where its work ends
  have hparse : (g.withHook .done).parse env (fuel + 1) r = some ((g.withHook .done).close s) := by
    rw [parse_eq_work, work_withHook, h, Option.map_some]
  have hclose := parse_keeps hP env (fuel + 1) (g.withHook .done) r _ hr hparse
  cases hhook : g.hook? with
  | none =>
    have hsame : (g.withHook .done).close s = s := by
      cases g with
      | reference cell owning => rfl
      | script body => rfl
      | _ => cases hhook
    rwa [hsame] at hclose
  | some hook =>
    rw [close_withHook hhook, Run.finish_done] at hclose
    exact hP.subResults hclose s.session.subResults

end Grammar

/-- Between the beginning and the end of a source. -/
def Session.Within (source : Source) (s : Session V) : Prop :=
  s.source = source ∧ s.cursor ≤ source.size

theorem Session.kept_within (source : Source) : Session.Kept (Session.Within (V := V) source) where
  locate s offset h := by simpa [Within] using h
  moveTo s offset h := ⟨h.1, by simp [← h.1]⟩
  update _ _ _ _ h := h

/-- A call has put its events on the trace, children first, and before its hook it has come to what
its own event says. -/
structure Call.Faithful (c : Call V C) : Prop where
  trace : c.stop.trace.toList = c.start.trace.toList ++ c.events
  verdict : ∀ e ∈ c.event?, c.settled.failed = e.isFailure
  stop : ∀ e ∈ c.event?, ∀ stop ∈ e.stop?, c.settled.session.cursor = stop
  complete : c.Complete

namespace Grammar

variable {env : Env V C} {fuel : Nat}

theorem calls_within {source : Source} {g : Grammar V C} {r : Run V C} {calls : List (Call V C)}
    (hr : r.session.Within source) (h : g.calls env (record env fuel) fuel r = some calls) :
    ∀ c ∈ calls, c.stop.session.Within source := by
  have hkept := Session.kept_within (V := V) source
  have hchild : ∀ (g : Grammar V C) (r : Run V C) (c : Call V C), r.session.Within source →
      record env fuel g r = some c → c.stop.session.Within source :=
    fun g r c hr hc => parse_keeps hkept env fuel g r _ hr (record_parse hc)
  intro c hc
  obtain ⟨g', -, r', hr', hc'⟩ := calls_start hkept.steady g (fun g' _ => hchild g') r hr
    (hkept.frames hr _) calls h c hc
  exact hchild g' r' c hr' hc'

theorem record_faithful {source : Source} {g : Grammar V C} {r : Run V C} {c : Call V C}
    (hr : r.session.Within source) (h : record env fuel g r = some c) : c.Faithful := by
  cases fuel with
  | zero => cases h
  | succ fuel =>
    have htrace := record_logs env (fuel + 1) g r c h
    obtain ⟨children, settled, hcalls, hwork, rfl⟩ := record_cases h
    obtain ⟨before, -, hconcludes⟩ :=
      work_concludes (record_logs env fuel) (g.close settled) hcalls hwork
    have hchildren := calls_within hr hcalls
    have hrunner : (record env fuel).runner = parse env fuel := funext₂ (record_stop env fuel)
    rw [hrunner] at hwork
    have hsettled := work_keeps (Session.kept_within source) hr hwork
    refine ⟨htrace, hconcludes.verdict, fun e he stop hstop => ?_,
      calls_complete (fun hc => (record_origin hc).1) hcalls⟩
    -- no place beyond the source is told, so the cursor has not been clamped on its way there
    have hle : stop ≤ source.size := Call.event?_stop_le (hr.1 ▸ hr.2)
      (fun child hc => (hchildren child hc).2) he hstop
    rw [hconcludes.stop e he stop hstop, hsettled.1, Nat.min_eq_left hle]

end Grammar

/-- The trace of a parse is its tree of calls, children first: each call of a combinator adds its
one event after those of its children; a reference, a primitive, a script and an optional parser
that has matched add none. The event tells where the call began, which child was the first to fail
or to match, how many there are or how many have matched, and where the call has come to, as it all
was before the hook. -/
theorem trace_faithful (env : Env V C) (fuel : Nat) (g : Grammar V C) (r : Run V C)
    (hr : r.session.cursor ≤ r.session.source.size) :
    (g.record env fuel r).map Call.stop = g.parse env fuel r ∧
      ∀ c, g.record env fuel r = some c →
        c.parser = g ∧ c.start = r ∧ c.Every Call.Faithful := by
  refine ⟨Grammar.record_stop env fuel g r, fun c hc => ?_⟩
  obtain ⟨hparser, hstart⟩ := Grammar.record_origin hc
  have hkept := Session.kept_within (V := V) r.session.source
  refine ⟨hparser, hstart, Grammar.record_every (K := fun _ => True) hkept.steady
    (fun r h => hkept.frames h _) (fun _ _ _ _ => trivial) ?_ g trivial r ⟨rfl, hr⟩ c hc⟩
  intro fuel g r c _ hr hc
  exact ⟨Grammar.parse_keeps hkept env fuel g r _ hr (Grammar.record_parse hc),
    Grammar.record_faithful hr hc⟩

section Conditionals

/-- A conditional with another one in it, or none. -/
def conditional : Grammar Unit Unit :=
  .all [.primitive (.literal ⟨"if", by decide⟩) .done, .optional (.reference 0 true) .done,
    .primitive (.literal ⟨"fi", by decide⟩) .done] .done

/-- A conditional or an alternative, both of which the hook refuses, or else a conditional, again
and again. -/
def refusedConditionals : Grammar Unit Unit :=
  .many1 (.best [.any [conditional, .primitive (.literal ⟨"or", by decide⟩) .done]
    (.act (.reject "no") .done), conditional] .done) .done

def conditionalCells : Env Unit Unit := fun _ => .bound conditional

def beforeConditionals : Run Unit Unit := ⟨{ source := ⟨"conditionals", "iffior"⟩ }, (), #[]⟩

/-- The second round begins with the alternative, and fails. -/
def conditionalEvents : List Event :=
  [.allFailed 2 0, .optionalIgnored 2, .allMatched 0 4, .anyMatched 0 0, .allFailed 2 0,
    .optionalIgnored 2, .allMatched 0 4, .bestMatched 0 4, .allFailed 4 0, .anyMatched 4 1,
    .allFailed 4 0, .bestFailed 4 2, .repeatMatched 0 1 4]

/-- What the hook refuses has its event all the same, before that of the best of the two. -/
theorem trace_faithful_conditionals :
    ∃ c, refusedConditionals.record conditionalCells 12 beforeConditionals = some c ∧
      c.events = conditionalEvents := by
  obtain ⟨-, hfaithful⟩ :=
    trace_faithful conditionalCells 12 refusedConditionals beforeConditionals (by decide)
  have hcall : (refusedConditionals.record conditionalCells 12 beforeConditionals).map
      (fun c => c.stop.trace.toList) = some conditionalEvents := by decide +kernel
  obtain ⟨c, hc, hevents⟩ := Option.map_eq_some_iff.1 hcall
  obtain ⟨-, hstart, hevery⟩ := hfaithful c hc
  cases hevery with
  | node _ hroot _ =>
    have htrace : c.stop.trace.toList = c.start.trace.toList ++ c.events := hroot.trace
    rw [hstart] at htrace
    exact ⟨c, hc, htrace.symm.trans hevents⟩

end Conditionals

end Descent
