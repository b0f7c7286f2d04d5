import Descent.Proofs.Call
import Descent.Proofs.Refinement

/-!
# What a match is made of

Where a combinator settles on a match, the calls of its children tell what its
hook is shown and which feedback it starts with.
-/
namespace Descent

variable {V C : Type}

namespace Call

/-- The first of the matches that no other one goes beyond. -/
def longest (calls : List (Call V C)) : Option (Call V C) :=
  (matched calls).find? fun c =>
    (matched calls).all fun c' => c'.stop.session.cursor ≤ c.stop.session.cursor

theorem outcome_longest (calls : List (Call V C)) :
    Outcome.longest (calls.map fun c => c.stop.outcome) =
      (longest calls).map fun c => c.stop.outcome := by
  have hfilter : (calls.map fun c => c.stop.outcome).filter (fun o => !o.result.failed) =
      (matched calls).map fun c => c.stop.outcome := List.filter_map
  unfold Outcome.longest longest
  simp only [hfilter, List.find?_map, List.all_map]
  rfl

/-- The longest match is found on the way, by keeping a match until one goes further. -/
theorem longest_eq_foldl (calls : List (Call V C)) :
    (matched calls).foldl
        (fun found c => Run.further found c.stop.session.cursor c.result) none =
      (longest calls).map fun c => (c.stop.session.cursor, c.result) := by
  have hfold := Outcome.longest_eq_foldl (calls.map fun c => c.stop.outcome)
  rw [outcome_longest, Option.map_map, List.filter_map, List.foldl_map] at hfold
  exact hfold

theorem matched_of_longest {calls : List (Call V C)} {c : Call V C} (h : longest calls = some c) :
    c ∈ matched calls := List.mem_of_find?_eq_some h

end Call

namespace Recorder

variable {child : Recorder V C} {r s : Run V C} {calls : List (Call V C)}

theorem collected_of_frames {t : Run V C} {start : Nat} {results : List (Result V)}
    {outer : List (Frame V)} (h : t.session.frames = { start, results := results } :: outer) :
    t.session.collected = results := by
  rw [Session.collected, h]
  rfl

/-- All the children have matched, and their results are what the match is made of. -/
theorem all_matched (hbalance : Run.KeepsBalance child.runner) (subs : List (Grammar V C))
    (hcalls : child.series id not not subs (r.onSession Session.pushFrame) = some calls)
    (h : Run.all child.runner r.session.cursor 0 subs (r.onSession Session.pushFrame) = some s)
    (hmatch : ¬ s.failed = true) :
    calls.length = subs.length ∧ (∀ c ∈ calls, ¬ c.failed = true) ∧
      s.session.subResults = calls.map Call.result ∧
      s.session.result.feedback = calls.flatMap fun c => c.result.feedback := by
  obtain ⟨calls', hcalls', hends⟩ := all_calls _ _ _ _ _ h
  obtain rfl : calls' = calls := Option.some.inj (hcalls'.symm.trans hcalls)
  rcases hends with ⟨hlength, hmatched, hs⟩ | ⟨before, last, -, -, hlast, rfl⟩
  · have hframes := series_collected hbalance id not not (fun _ => rfl) subs
      (r.onSession Session.pushFrame) calls' { start := r.session.cursor } r.session.frames rfl
      hcalls
    have hall : (calls'.filter fun c => !c.failed) = calls' := Call.matched_eq_self hmatched
    rw [hall] at hframes
    have hcollected := collected_of_frames hframes
    obtain rfl := Option.some.inj hs
    refine ⟨hlength, hmatched, hcollected, ?_⟩
    simp [Session.gather, hcollected, List.flatMap_map]
  · exact absurd hlast hmatch

/-- One child is the first to match, and its result is passed on. -/
theorem any_matched (subs : List (Grammar V C))
    (hcalls : child.series (Run.onSession (Session.moveTo r.session.cursor)) id id subs
      (r.onSession Session.pushFrame) = some calls)
    (h : Run.any child.runner r.session.cursor subs.length 0 subs
      (r.onSession Session.pushFrame) = some s)
    (hmatch : ¬ s.failed = true) :
    ∃ before winner, calls = before ++ [winner] ∧ (∀ c ∈ before, c.failed = true) ∧
      ¬ winner.failed = true ∧ s.session.subResults = winner.stop.session.subResults ∧
      s.session.result = winner.result := by
  obtain ⟨calls', hcalls', hends⟩ := any_calls _ _ _ _ _ _ h
  obtain rfl : calls' = calls := Option.some.inj (hcalls'.symm.trans hcalls)
  rcases hends with ⟨-, -, hs⟩ | ⟨before, winner, rfl, hbefore, hwinner, rfl⟩
  · obtain rfl := Option.some.inj hs
    exact absurd (by simp [Run.failed, Result.failed, Session.addFeedback]) hmatch
  · exact ⟨before, winner, rfl, hbefore, hwinner, rfl, rfl⟩

/-- The child that has matched furthest is the winner, and its result is kept. -/
theorem best_matched (subs : List (Grammar V C))
    (hcalls : child.series (Run.onSession (Session.moveTo r.session.cursor)) id (fun _ => true)
      subs (r.onSession Session.pushFrame) = some calls)
    (h : Run.best child.runner r.session.cursor subs.length none subs
      (r.onSession Session.pushFrame) = some s)
    (hmatch : ¬ s.failed = true) :
    ∃ winner, Call.longest calls = some winner ∧
      s.session.subResults =
        (Run.after id calls (r.onSession Session.pushFrame)).session.subResults ∧
      s.session.result = winner.result := by
  obtain ⟨calls', hcalls', -, hs⟩ := best_calls _ _ _ _ _ _ h
  obtain rfl : calls' = calls := Option.some.inj (hcalls'.symm.trans hcalls)
  rw [Call.longest_eq_foldl] at hs
  cases hlongest : Call.longest calls' with
  | none =>
    rw [hlongest] at hs
    obtain rfl := Option.some.inj hs
    exact absurd (by simp [Run.failed, Result.failed, Session.addFeedback]) hmatch
  | some winner =>
    rw [hlongest] at hs
    obtain rfl := Option.some.inj hs
    exact ⟨winner, rfl, rfl, rfl⟩

/-- The result of the child is passed on if it has matched; otherwise there is nothing of it. -/
theorem optional_matched (sub : Grammar V C)
    (hcalls : (child sub (r.onSession Session.pushFrame)).map ([·]) = some calls)
    (h : Run.optional child.runner r.session.cursor sub (r.onSession Session.pushFrame) = some s) :
    ∃ c, calls = [c] ∧ s.session.subResults = c.stop.session.subResults ∧
      s.session.result =
        if c.failed then { position := r.session.cursor } else c.result := by
  obtain ⟨c, hc, rfl⟩ := Option.map_eq_some_iff.1 hcalls
  have hrun : child.runner sub (r.onSession Session.pushFrame) = some c.stop := by
    rw [runner, hc]
    rfl
  rw [Run.optional, hrun, Option.bind_eq_bind, Option.bind_some] at h
  by_cases hfailed : c.failed = true
  · rw [if_pos (show (c.stop.onSession Session.popFrame).failed = true from hfailed)] at h
    obtain rfl := Option.some.inj h
    exact ⟨c, rfl, rfl, (if_pos hfailed).symm⟩
  · rw [if_neg (show ¬ (c.stop.onSession Session.popFrame).failed = true from hfailed)] at h
    obtain rfl := Option.some.inj h
    exact ⟨c, rfl, rfl, (if_neg hfailed).symm⟩

/-- With at most one result, taking the one is taking all. -/
theorem gatherOne_feedback (results : List (Result V)) (h : results.length ≤ 1) (s : Session V) :
    (s.gatherOne results).result.feedback =
      s.result.feedback ++ results.flatMap (·.feedback) := by
  match results with
  | [] => simp [Session.gatherOne]
  | [first] => simp [Session.gatherOne]
  | _ :: _ :: _ => simp at h

/-- The rounds that count have matched, and their results are what the match is made of. -/
theorem repeated_matched (hbalance : Run.KeepsBalance child.runner) (sub : Grammar V C) (min : Nat)
    (max : Option Nat) (fuel : Nat)
    (hcalls : child.rounds sub min max fuel 0 (r.onSession Session.pushFrame) = some calls)
    (h : Run.repeated child.runner r.session.cursor sub min max fuel
      (r.onSession Session.pushFrame) = some s)
    (hmatch : ¬ s.failed = true) :
    s.session.subResults = (Call.matched calls).map Call.result ∧
      s.session.result.feedback = (Call.matched calls).flatMap fun c => c.result.feedback := by
  obtain ⟨⟨t, count, failure⟩, ht, hs⟩ := Option.bind_eq_some_iff.1 h
  obtain rfl := Option.some.inj hs
  obtain ⟨calls', hcalls', rfl, hcount, -, hmax⟩ := rounds_calls _ _ _ _ _ _ _ _ _ ht
  obtain rfl : calls' = calls := Option.some.inj (hcalls'.symm.trans hcalls)
  have hcollected := collected_of_frames (rounds_collected hbalance sub min max fuel 0
    (r.onSession Session.pushFrame) calls' { start := r.session.cursor } r.session.frames rfl
    hcalls)
  rw [List.nil_append] at hcollected
  refine ⟨hcollected, ?_⟩
  by_cases hmin : min ≤ count
  · by_cases hone : Run.mayGoOn max 1 = true
    · simp [Run.conclude, hmin, hone, hcollected, Session.gather, List.flatMap_map]
    · have hle : ((Call.matched calls').map Call.result).length ≤ 1 := by
        cases max with
        | none => exact absurd rfl hone
        | some m =>
          have := hmax m rfl (Nat.zero_le m)
          have : ¬ 1 < m := by simpa [Run.mayGoOn] using hone
          rw [List.length_map]
          omega
      simp [Run.conclude, hmin, hone, hcollected, gatherOne_feedback _ hle, List.flatMap_map]
  · exact absurd (by simp [Run.conclude, hmin, Run.failed, Result.failed, Session.addFeedback])
      hmatch

end Recorder

end Descent
