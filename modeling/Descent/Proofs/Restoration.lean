import Descent.Proofs.Balance

/-!
# Failures go back to the start

Nothing is asked of children here: they may leave the cursor and the result
anywhere, with or without a failure. A combinator that fails has put the
cursor back to where it began all the same, and its result begins there; and
nothing at all is left of a failure that was optional.
-/
namespace Descent

variable {V C : Type}

/-- A combinator that may fail, without a hook. Its children may have hooks and be scripts. -/
inductive Grammar.Bare : Grammar V C → Prop
  | all (subs : List (Grammar V C)) : Bare (.all subs .done)
  | any (subs : List (Grammar V C)) : Bare (.any subs .done)
  | best (subs : List (Grammar V C)) : Bare (.best subs .done)
  | repeated (sub : Grammar V C) (min : Nat) (max : Option Nat) :
      Bare (.repeated sub min max .done)

namespace Run

/-- After a failure the cursor is at `start`, and the result begins there. -/
def Restored (start : Nat) (r : Run V C) : Prop :=
  r.failed = true → r.session.cursor = start ∧ r.session.result.position = start

theorem Restored.finish {start : Nat} {r : Run V C} (h : Restored start r) :
    Restored start (r.finish .done) := by
  rw [finish_done]
  exact h

theorem restored_of_matched {start : Nat} {r : Run V C} (h : r.session.result.errorAt = none) :
    Restored start r := by
  intro hfailed
  simp [failed, Result.failed, h] at hfailed

variable {child : Runner V C} (hchild : KeepsBalance child) (start n : Nat)

include hchild

theorem all_restores (i : Nat) (gs : List (Grammar V C)) (r r' : Run V C)
    (hsize : start ≤ r.session.source.size) (h : Run.all child start i gs r = some r') :
    Restored start r' := by
  induction gs generalizing i r with
  | nil =>
    obtain rfl := Option.some.inj h
    exact restored_of_matched rfl
  | cons g gs ih =>
    obtain ⟨s, hs, h⟩ := Option.bind_eq_some_iff.1 h
    have hsource := (hchild g r s hs).1
    split at h
    · obtain rfl := Option.some.inj h
      intro _
      constructor
      · simp [hsource, Nat.min_eq_left hsize]
      · rfl
    · exact ih (i + 1) _ (by simpa [hsource] using hsize) h

theorem any_restores (i : Nat) (gs : List (Grammar V C)) (r r' : Run V C)
    (hsize : start ≤ r.session.source.size) (h : Run.any child start n i gs r = some r') :
    Restored start r' := by
  induction gs generalizing i r with
  | nil =>
    obtain rfl := Option.some.inj h
    intro _
    constructor <;> simp [Session.addFeedback, Nat.min_eq_left hsize]
  | cons g gs ih =>
    obtain ⟨s, hs, h⟩ := Option.bind_eq_some_iff.1 h
    have hsource := (hchild g _ s hs).1
    split at h
    · exact ih (i + 1) _ (by simpa [hsource] using hsize) h
    · next hmatched =>
      obtain rfl := Option.some.inj h
      exact fun hfailed => absurd hfailed hmatched

theorem best_restores (found : Option (Nat × Result V))
    (hfound : ∀ stop result, found = some (stop, result) → result.errorAt = none)
    (gs : List (Grammar V C)) (r r' : Run V C) (hsize : start ≤ r.session.source.size)
    (h : Run.best child start n found gs r = some r') : Restored start r' := by
  induction gs generalizing found r with
  | nil =>
    cases found with
    | none =>
      obtain rfl := Option.some.inj h
      intro _
      constructor <;> simp [Session.addFeedback, Nat.min_eq_left hsize]
    | some found =>
      obtain rfl := Option.some.inj h
      exact restored_of_matched (hfound found.1 found.2 rfl)
  | cons g gs ih =>
    obtain ⟨s, hs, h⟩ := Option.bind_eq_some_iff.1 h
    have hsource := (hchild g _ s hs).1
    split at h
    · exact ih found hfound _ (by simpa [hsource] using hsize) h
    · next hmatched =>
      have hresult : s.session.result.errorAt = none := by
        simpa [failed] using hmatched
      exact ih _ (further_keeps (P := fun _ result => result.errorAt = none) hfound hresult) _
        (by simpa [hsource] using hsize) h

omit hchild in
theorem conclude_restores (min : Nat) (max : Option Nat) (count : Nat)
    (failure : Option (Result V)) (r : Run V C) (hsize : start ≤ r.session.source.size) :
    Restored start (r.conclude start min max count failure) := by
  unfold conclude
  dsimp only
  split
  · refine restored_of_matched ?_
    by_cases hm : mayGoOn max 1
    · simp [hm, Session.gather]
    · cases r.session.collected <;> simp [hm, Session.gatherOne]
  · intro _
    constructor <;> simp [Session.addFeedback, Nat.min_eq_left hsize]

theorem repeated_restores (g : Grammar V C) (min : Nat) (max : Option Nat) (fuel : Nat)
    (r r' : Run V C) (hsize : start ≤ r.session.source.size)
    (h : Run.repeated child start g min max fuel r = some r') : Restored start r' := by
  obtain ⟨⟨s, count, failure⟩, hs, h⟩ := Option.bind_eq_some_iff.1 h
  obtain rfl := Option.some.inj h
  have hsource := (rounds_outer hchild g min max fuel 0 r s count failure hs).1
  exact conclude_restores start min max count failure s (by rwa [hsource])

omit hchild in
/-- An optional child that fails leaves an empty result at the start. -/
theorem optional_forgets (g : Grammar V C) (r s : Run V C) (hrun : child g r = some s)
    (hfailed : s.failed = true) :
    Run.optional child start g r =
      some (((s.onSession Session.popFrame).emit (.optionalIgnored start)).onSession fun s =>
        { s with result := { position := start } }.moveTo start) := by
  rw [Run.optional, hrun, Option.bind_eq_bind, Option.bind_some]
  exact if_pos hfailed

end Run

/-- Combinators restore the cursor over children that do what they like: after a failure the cursor
and the result of the combinator are at its start, and a failure of an optional child becomes a
match of nothing there. -/
theorem failure_restores (env : Env V C) (fuel : Nat) (r : Run V C)
    (hc : r.session.cursor ≤ r.session.source.size) :
    (∀ g : Grammar V C, g.Bare → ∀ r', g.parse env fuel r = some r' → r'.failed = true →
      r'.session.cursor = r.session.cursor ∧
        r'.session.result.position = r.session.cursor) ∧
    ∀ (sub : Grammar V C) (s : Run V C),
      sub.parse env fuel (r.onSession Session.pushFrame) = some s → s.failed = true →
      ∃ r', (Grammar.optional sub .done).parse env (fuel + 1) r = some r' ∧ r'.failed = false ∧
        r'.session.cursor = r.session.cursor ∧
        r'.session.result = { position := r.session.cursor } := by
  constructor
  · intro g hg r' hrun
    cases fuel with
    | zero => cases hrun
    | succ fuel =>
      have hchild := Grammar.parse_balanced env fuel
      let opened := r.onSession Session.pushFrame
      cases hg with
      | all subs =>
        obtain ⟨s, hs, rfl⟩ := Option.map_eq_some_iff.1 hrun
        exact (Run.all_restores hchild _ 0 subs opened s hc hs).finish
      | any subs =>
        obtain ⟨s, hs, rfl⟩ := Option.map_eq_some_iff.1 hrun
        exact (Run.any_restores hchild _ _ 0 subs opened s hc hs).finish
      | best subs =>
        obtain ⟨s, hs, rfl⟩ := Option.map_eq_some_iff.1 hrun
        exact (Run.best_restores hchild _ _ none nofun subs opened s hc hs).finish
      | repeated sub min max =>
        obtain ⟨s, hs, rfl⟩ := Option.map_eq_some_iff.1 hrun
        exact (Run.repeated_restores hchild _ sub min max fuel opened s hc hs).finish
  · intro sub s hs hfailed
    have hsource := (Grammar.parse_balanced env fuel sub _ s hs).1
    refine ⟨_, by rw [Grammar.parse, Run.optional_forgets _ _ _ _ hs hfailed]; rfl, ?_⟩
    rw [Run.finish_done]
    refine ⟨rfl, ?_, rfl⟩
    simp [hsource, Nat.min_eq_left hc]

section Strays

/-- Goes backwards in a match, and then far ahead in a failure that it puts elsewhere. -/
def stray : Grammar Unit Unit :=
  .script <| .look fun v _ =>
    if v.cursor = 2 then .act (.moveTo 1) (.act (.setResult { position := 4 }) .done)
    else .act (.moveTo 5) (.act (.setResult { position := 9, errorAt := some 0 }) .done)

def noRules : Env Unit Unit := fun _ => .unbound

def beforeStrays : Run Unit Unit := ⟨{ source := ⟨"strays", "abcdef"⟩, cursor := 2 }, (), #[]⟩

theorem failure_restores_strays :
    (∃ r', (Grammar.repeated stray 2 none .done).parse noRules 5 beforeStrays = some r' ∧
      r'.session.cursor = 2 ∧ r'.session.result.position = 2) ∧
    ∃ r', (Grammar.optional (.all [stray, stray] .done) .done).parse noRules 6 beforeStrays =
      some r' ∧ r'.session.cursor = 2 ∧ r'.session.result = { position := 2 } := by
  obtain ⟨hcombinator, hoptional⟩ := failure_restores noRules 5 beforeStrays (by decide)
  constructor
  · have hfailed : ((Grammar.repeated stray 2 none .done).parse noRules 5 beforeStrays).map
        Run.failed = some true := by decide +kernel
    obtain ⟨r', hrun, hfailed⟩ := Option.map_eq_some_iff.1 hfailed
    exact ⟨r', hrun, hcombinator _ (.repeated stray 2 none) r' hrun hfailed⟩
  · have hfailed : ((Grammar.all [stray, stray] .done).parse noRules 5
        (beforeStrays.onSession Session.pushFrame)).map Run.failed = some true := by
      decide +kernel
    obtain ⟨s, hrun, hfailed⟩ := Option.map_eq_some_iff.1 hfailed
    obtain ⟨r', hrun', -, hcursor, hresult⟩ := hoptional _ s hrun hfailed
    exact ⟨r', hrun', hcursor, hresult⟩

end Strays

end Descent
