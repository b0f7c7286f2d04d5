import Descent.Proofs.Reached

/-!
# Runs without the line cache

To take the cache away from a session, and have every location found by a scan
from the start of the text, commutes with whatever is done to the session as
long as the cache fits the text: with operations, with scripts and with
parses.
-/
namespace Descent

variable {V C : Type}

namespace Session

/-- The session without its line cache. -/
def uncached (s : Session V) : Session V := { s with cache := none }

variable {s : Session V} (h : s.CacheFits)

include h

theorem uncached_locate (offset : Nat) :
    s.uncached.locate offset = ((s.locate offset).1, (s.locate offset).2.uncached) := by
  obtain ⟨cache, hcache⟩ := s.locate_snd offset
  rw [(s.locate_of_cacheFits offset h).1, hcache]
  rfl

theorem uncached_note (kind : Feedback.Kind) (offset : Nat) (message : String)
    (cause : Option String) :
    s.uncached.note kind offset message cause = (s.note kind offset message cause).uncached := by
  have hnone : s.uncached.CacheFits := fun cache hcache => by cases hcache
  have hitem := s.item_of_cacheFits kind offset message cause h
  have hitem' := s.uncached.item_of_cacheFits kind offset message cause hnone
  rw [note_eq, note_eq, hitem, hitem', uncached_locate h]
  rfl

theorem uncached_unmatched (delta : Nat) (message : String) (cause : Option String) :
    s.uncached.unmatched delta message cause = (s.unmatched delta message cause).uncached :=
  uncached_note (kept_cacheFits.result h _) _ _ _ _

theorem uncached_reject (message : String) :
    s.uncached.reject message = (s.reject message).uncached :=
  congrArg (moveTo s.result.position) (uncached_note (kept_cacheFits.result h _) _ _ _ _)

theorem uncached_report : s.uncached.report = s.report := by
  have hlocate := fun offset => congrArg Prod.fst (uncached_locate h offset)
  unfold report
  simp only [hlocate]
  rfl

theorem uncached_scan (p : Primitive) : s.uncached.scan p = (s.scan p).uncached := by
  have hrest : s.uncached.rest = s.rest := rfl
  unfold scan
  rw [hrest]
  split
  · rfl
  · exact uncached_unmatched h _ _ _

theorem uncached_perform (action : Action V) :
    action.perform s.uncached = (action.perform s).uncached := by
  cases action with
  | unmatched delta message cause => exact uncached_unmatched h delta message cause
  | note kind offset message cause => exact uncached_note h kind offset message cause
  | reject message => exact uncached_reject h message
  | _ => rfl

theorem uncached_run (script : Script V C) (c : C) :
    script.run s.uncached c = ((script.run s c).1.uncached, (script.run s c).2) := by
  induction script generalizing s c with
  | done => rfl
  | act action next ih =>
    rw [Script.run_act, uncached_perform h]
    exact ih (kept_cacheFits.perform h action) c
  | setContext c' next ih => exact ih h c'
  | look next ih => exact ih _ _ h c
  | locate offset next ih =>
    rw [Script.run_locate, uncached_locate h]
    exact ih _ (kept_cacheFits.locate s offset h) c
  | report next ih =>
    rw [Script.run_report, uncached_report h]
    exact ih _ h c

end Session

namespace Run

/-- The run with a session that has no line cache. -/
def uncached (r : Run V C) : Run V C := r.onSession Session.uncached

@[simp] theorem uncached_failed (r : Run V C) : r.uncached.failed = r.failed := rfl

theorem perform_uncached (script : Script V C) (r : Run V C) (h : r.session.CacheFits) :
    r.uncached.perform script = (r.perform script).uncached := by
  simp only [perform, uncached, onSession, Session.uncached_run h]

theorem finish_uncached (hook : Script V C) (r : Run V C) (h : r.session.CacheFits) :
    r.uncached.finish hook = (r.finish hook).uncached := by
  unfold finish
  rw [uncached_failed]
  split
  · rfl
  · rw [perform_uncached hook r h]
    rfl

/-- What is left when every alternative has failed. -/
theorem giveUp_uncached (start : Nat) (message : String) (items : List Feedback.Item)
    (s : Session V) (h : s.CacheFits) :
    ((s.uncached.moveTo start).unmatched 0 message none).addFeedback items =
      (((s.moveTo start).unmatched 0 message none).addFeedback items).uncached :=
  congrArg (Session.addFeedback items)
    (Session.uncached_unmatched (s := s.moveTo start) h 0 message none)

variable {child : Runner V C}
  (hkeeps : ∀ g r r', r.session.CacheFits → child g r = some r' → r'.session.CacheFits)
  (hchild : ∀ g r, r.session.CacheFits → child g r.uncached = (child g r).map uncached)
  (start n : Nat)

include hkeeps hchild

theorem all_uncached (i : Nat) (gs : List (Grammar V C)) (r : Run V C)
    (h : r.session.CacheFits) :
    Run.all child start i gs r.uncached = (Run.all child start i gs r).map uncached := by
  induction gs generalizing i r with
  | nil => rfl
  | cons g gs ih =>
    rw [Run.all, Run.all, hchild g r h]
    cases hs : child g r with
    | none => rfl
    | some s =>
      simp only [Option.map_some, Option.bind_eq_bind, Option.bind_some]
      by_cases hfailed : s.failed = true
      · rw [if_pos (show s.uncached.failed = true from hfailed), if_pos hfailed]
        rfl
      · rw [if_neg (show ¬s.uncached.failed = true from hfailed), if_neg hfailed]
        exact ih (i + 1) (s.onSession Session.collect) (hkeeps g r s h hs)

theorem any_uncached (i : Nat) (gs : List (Grammar V C)) (r : Run V C)
    (h : r.session.CacheFits) :
    Run.any child start n i gs r.uncached = (Run.any child start n i gs r).map uncached := by
  induction gs generalizing i r with
  | nil =>
    have hsession := giveUp_uncached start s!"any subparser should match; all {n} failed"
      (r.session.collected.flatMap (·.feedback)) r.session.popFrame h
    exact congrArg (fun session => some { r.emit (.anyFailed start n) with session }) hsession
  | cons g gs ih =>
    have hstep : child g (r.uncached.onSession (Session.moveTo start)) =
        (child g (r.onSession (Session.moveTo start))).map uncached :=
      hchild g (r.onSession (Session.moveTo start)) h
    rw [Run.any, Run.any, hstep]
    cases hs : child g (r.onSession (Session.moveTo start)) with
    | none => rfl
    | some s =>
      have hfits := hkeeps g (r.onSession (Session.moveTo start)) s h hs
      simp only [Option.map_some, Option.bind_eq_bind, Option.bind_some]
      by_cases hfailed : s.failed = true
      · rw [if_pos (show s.uncached.failed = true from hfailed), if_pos hfailed]
        exact ih (i + 1) (s.onSession Session.collect) hfits
      · rw [if_neg (show ¬s.uncached.failed = true from hfailed), if_neg hfailed]
        rfl

theorem best_uncached (found : Option (Nat × Result V)) (gs : List (Grammar V C)) (r : Run V C)
    (h : r.session.CacheFits) :
    Run.best child start n found gs r.uncached =
      (Run.best child start n found gs r).map uncached := by
  induction gs generalizing found r with
  | nil =>
    cases found with
    | some found => rfl
    | none =>
      have hsession := giveUp_uncached start s!"best subparser should match; all {n} failed"
        (r.session.collected.flatMap (·.feedback)) r.session.popFrame h
      exact congrArg (fun session => some { r.emit (.bestFailed start n) with session }) hsession
  | cons g gs ih =>
    have hstep : child g (r.uncached.onSession (Session.moveTo start)) =
        (child g (r.onSession (Session.moveTo start))).map uncached :=
      hchild g (r.onSession (Session.moveTo start)) h
    rw [Run.best, Run.best, hstep]
    cases hs : child g (r.onSession (Session.moveTo start)) with
    | none => rfl
    | some s =>
      have hfits := hkeeps g (r.onSession (Session.moveTo start)) s h hs
      simp only [Option.map_some, Option.bind_eq_bind, Option.bind_some]
      by_cases hfailed : s.failed = true
      · rw [if_pos (show s.uncached.failed = true from hfailed), if_pos hfailed]
        exact ih found (s.onSession Session.collect) hfits
      · rw [if_neg (show ¬s.uncached.failed = true from hfailed), if_neg hfailed]
        exact ih _ (s.onSession fun s => { s with result := {} }) hfits

omit hkeeps in
theorem optional_uncached (g : Grammar V C) (r : Run V C) (h : r.session.CacheFits) :
    Run.optional child start g r.uncached = (Run.optional child start g r).map uncached := by
  rw [Run.optional, Run.optional, hchild g r h]
  cases child g r with
  | none => rfl
  | some s =>
    simp only [Option.map_some, Option.bind_eq_bind, Option.bind_some]
    by_cases hfailed : (s.onSession Session.popFrame).failed = true
    · rw [if_pos hfailed]
      exact if_pos hfailed
    · rw [if_neg hfailed]
      exact if_neg hfailed

theorem rounds_uncached (g : Grammar V C) (min : Nat) (max : Option Nat) (fuel count : Nat)
    (r : Run V C) (h : r.session.CacheFits) :
    rounds child g min max fuel count r.uncached =
      (rounds child g min max fuel count r).map (Prod.map uncached id) := by
  induction fuel generalizing count r with
  | zero => rfl
  | succ fuel ih =>
    rw [rounds, rounds]
    by_cases hgo : mayGoOn max count = true
    · rw [if_pos hgo, if_pos hgo, hchild g r h]
      cases hs : child g r with
      | none => rfl
      | some s =>
        simp only [Option.map_some, Option.bind_eq_bind, Option.bind_some]
        by_cases hfailed : s.failed = true
        · rw [if_pos (show s.uncached.failed = true from hfailed), if_pos hfailed]
          rfl
        · rw [if_neg (show ¬s.uncached.failed = true from hfailed), if_neg hfailed]
          by_cases hidle : s.session.cursor = r.session.cursor ∧ min ≤ count + 1
          · rw [if_pos (by exact hidle), if_pos (by exact hidle)]
            rfl
          · rw [if_neg (by exact hidle), if_neg (by exact hidle)]
            exact ih (count + 1) (s.onSession Session.collect) (hkeeps g r s h hs)
    · rw [if_neg hgo, if_neg hgo]
      rfl

omit hkeeps hchild in
theorem conclude_uncached (min : Nat) (max : Option Nat) (count : Nat)
    (failure : Option (Result V)) (r : Run V C) (h : r.session.CacheFits) :
    r.uncached.conclude start min max count failure =
      (r.conclude start min max count failure).uncached := by
  have hcollected : r.uncached.session.collected = r.session.collected := rfl
  unfold conclude
  rw [hcollected]
  generalize r.session.collected = results
  by_cases hmin : min ≤ count
  · simp only [if_pos hmin]
    by_cases hgo : mayGoOn max 1 = true
    · simp only [if_pos hgo]
      rfl
    · simp only [if_neg hgo]
      cases results <;> rfl
  · simp only [if_neg hmin]
    have hsession := Session.uncached_unmatched (s := (r.session.moveTo start).popFrame) h
      (r.session.cursor - start) s!"at least {min} matches expected but got only {count}" none
    exact congrArg (fun s => onSession
      (fun _ => { s.addFeedback ((failure.map (·.feedback)).getD []) with subResults := results })
      (r.emit (.repeatFailed start count min))) hsession

theorem repeated_uncached (g : Grammar V C) (min : Nat) (max : Option Nat) (fuel : Nat)
    (r : Run V C) (h : r.session.CacheFits) :
    Run.repeated child start g min max fuel r.uncached =
      (Run.repeated child start g min max fuel r).map uncached := by
  rw [Run.repeated, Run.repeated, rounds_uncached hkeeps hchild g min max fuel 0 r h]
  cases hs : rounds child g min max fuel 0 r with
  | none => rfl
  | some t =>
    obtain ⟨s, count, failure⟩ := t
    have hfits := rounds_keeps Session.kept_cacheFits hkeeps g min max fuel 0 r s count failure h hs
    exact congrArg some (conclude_uncached start min max count failure s hfits)

end Run

/-- A parse comes to the same without the line cache, up to the cache. -/
theorem Grammar.parse_uncached (env : Env V C) (fuel : Nat) (g : Grammar V C) (r : Run V C)
    (h : r.session.CacheFits) :
    g.parse env fuel r.uncached = (g.parse env fuel r).map Run.uncached := by
  have hkeeps := Grammar.parse_keeps (C := C) Session.kept_cacheFits env
  induction fuel generalizing g r with
  | zero => rfl
  | succ fuel ih =>
    -- A combinator makes its result by a loop and then runs its hook.
    have hfinish : ∀ (hook : Script V C) (o o' : Option (Run V C)), o' = o.map Run.uncached →
        (∀ s, o = some s → s.session.CacheFits) →
        o'.map (Run.finish hook) = (o.map (Run.finish hook)).map Run.uncached := by
      rintro hook o o' rfl hfits
      cases o with
      | none => rfl
      | some s => exact congrArg some (Run.finish_uncached hook s (hfits s rfl))
    have hopen : (r.onSession Session.pushFrame).session.CacheFits := h
    have hkept := Session.kept_cacheFits (V := V)
    cases g with
    | primitive p hook =>
      refine congrArg some ?_
      have hscan : r.uncached.onSession (Session.scan p) =
          (r.onSession (Session.scan p)).uncached :=
        congrArg (fun session => { r with session }) (Session.uncached_scan h p)
      rw [hscan]
      exact Run.finish_uncached hook _ (hkept.scan h p)
    | all subs hook =>
      exact hfinish hook _ _ (Run.all_uncached (hkeeps fuel) ih _ 0 subs _ hopen)
        fun s hs => Run.all_keeps hkept (hkeeps fuel) _ 0 subs _ s hopen hs
    | any subs hook =>
      exact hfinish hook _ _ (Run.any_uncached (hkeeps fuel) ih _ _ 0 subs _ hopen)
        fun s hs => Run.any_keeps hkept (hkeeps fuel) _ _ 0 subs _ s hopen hs
    | best subs hook =>
      exact hfinish hook _ _ (Run.best_uncached (hkeeps fuel) ih _ _ none subs _ hopen)
        fun s hs => Run.best_keeps hkept (hkeeps fuel) _ _ none subs _ s hopen hs
    | optional sub hook =>
      exact hfinish hook _ _ (Run.optional_uncached ih _ sub _ hopen)
        fun s hs => Run.optional_keeps hkept (hkeeps fuel) _ sub _ s hopen hs
    | repeated sub min max hook =>
      exact hfinish hook _ _ (Run.repeated_uncached (hkeeps fuel) ih _ sub min max fuel _ hopen)
        fun s hs => Run.repeated_keeps hkept (hkeeps fuel) _ sub min max fuel _ s hopen hs
    | reference cell owning =>
      simp only [Grammar.parse]
      cases env cell with
      | bound target => exact ih target r h
      | unbound =>
        exact congrArg (fun session => some { r with session }) (Session.uncached_unmatched h _ _ _)
      | dropped =>
        exact congrArg (fun session => some { r with session }) (Session.uncached_unmatched h _ _ _)
    | script body => exact congrArg some (Run.perform_uncached body r h)

end Descent
