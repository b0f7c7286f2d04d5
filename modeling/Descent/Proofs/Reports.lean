import Descent.Proofs.Balance
import Descent.Proofs.Fuel
import Descent.Proofs.Scanning

/-!
# Failure reports

What a grammar without hooks tells at an offset of a text can be said by a
recursion on the grammar: where a match ends, or the error position and the
items of a failure. Which reports of children are kept, and what a combinator
says itself, depends on the combinator only. A parse tells exactly that.
-/
namespace Descent

variable {V C : Type}

/-- Where a match ends, or the whole report of a failure. -/
inductive Verdict where
  | matched (stop : Nat)
  | failed (errorAt : Nat) (items : List Feedback.Item)
  deriving DecidableEq, Repr

/-- What is told of each grammar at each offset. -/
abbrev Judge (V C : Type) := Grammar V C → Nat → Option Verdict

namespace Verdict

/-- The longer one of two matches, a match rather than a failure, or else both reports. -/
def furthest : Verdict → Verdict → Verdict
  | matched stop, matched stop' => matched (max stop stop')
  | matched stop, failed .. => matched stop
  | failed .., matched stop' => matched stop'
  | failed errorAt items, failed _ more => failed errorAt (items ++ more)

/-- The failure with an item of its own in front, at its own place. -/
def headed (source : Source) (place : Nat) (message : String) : Verdict → Verdict
  | matched stop => matched stop
  | failed _ items => failed place (source.item .error place message none :: items)

theorem furthest_assoc (u v w : Verdict) :
    (u.furthest v).furthest w = u.furthest (v.furthest w) := by
  cases u <;> cases v <;> cases w <;> simp [furthest, Nat.max_assoc]

theorem headed_nil_furthest (source : Source) (start place : Nat) (message : String)
    (v : Verdict) : ((failed start []).furthest v).headed source place message =
      v.headed source place message := by
  cases v <;> rfl

variable (child : Judge V C)

/-- One child after the other: the report of the first that fails is the report of all. -/
def row : List (Grammar V C) → Nat → Option Verdict
  | [], place => some (matched place)
  | g :: gs, place => do
    match ← child g place with
    | matched stop => row gs stop
    | failed errorAt items => return failed errorAt items

/-- The first child that matches, or the reports of all. -/
def choice (place : Nat) : List (Grammar V C) → Option Verdict
  | [] => some (failed place [])
  | g :: gs => do
    match ← child g place with
    | matched stop => return matched stop
    | failed errorAt items => (choice place gs).map (failed errorAt items).furthest

/-- The longest match of a child, or the reports of all. -/
def longest (place : Nat) : List (Grammar V C) → Option Verdict
  | [] => some (failed place [])
  | g :: gs => do
    let verdict ← child g place
    (longest place gs).map verdict.furthest

/-- How many rounds have matched, where they end, and the report of the attempt that failed there,
if there was one. -/
structure Attempts where
  count : Nat
  stop : Nat
  items : List Feedback.Item := []

/-- Round after round from the one with number `count` on. -/
def rounds (sub : Grammar V C) (min : Nat) (max : Option Nat) : Nat → Nat → Nat → Option Attempts
  | 0, _, _ => none
  | fuel + 1, count, place =>
    if Run.mayGoOn max count then do
      match ← child sub place with
      | failed _ items => return { count, stop := place, items }
      | matched stop =>
        if stop = place ∧ min ≤ count + 1 then return { count := count + 1, stop }
        else rounds sub min max fuel (count + 1) stop
    else some { count, stop := place }

/-- Too few rounds are reported where the last of them ends. -/
def Attempts.verdict (source : Source) (min : Nat) (t : Attempts) : Verdict :=
  if min ≤ t.count then matched t.stop
  else (failed t.stop t.items).headed source t.stop
    s!"at least {min} matches expected but got only {t.count}"

/-- What the scan of a primitive has found. -/
def ofScan (source : Source) (place : Nat) : Except Miss (Match V) → Verdict
  | .ok found => matched (place + found.length)
  | .error miss =>
    failed (place + miss.delta)
      [source.item .error (place + miss.delta) miss.message miss.cause]

/-- A failure of what is optional is a match of nothing. -/
def orNothing (place : Nat) : Verdict → Verdict
  | matched stop => matched stop
  | failed .. => matched place

end Verdict

/-- What is told of a grammar at an offset of a source. Fuel is spent as in a parse. -/
def Grammar.verdict (env : Env V C) (source : Source) : Nat → Judge V C
  | 0, _, _ => none
  | fuel + 1, g, place =>
    let child := Grammar.verdict env source fuel
    match g with
    | .primitive p _ =>
      some (.ofScan source place (p.scan (source.restFrom place) : Except Miss (Match V)))
    | .all subs _ => Verdict.row child subs place
    | .any subs _ =>
      (Verdict.choice child place subs).map
        (.headed source place s!"any subparser should match; all {subs.length} failed")
    | .best subs _ =>
      (Verdict.longest child place subs).map
        (.headed source place s!"best subparser should match; all {subs.length} failed")
    | .optional sub _ => do return (← child sub place).orNothing place
    | .repeated sub min max _ => do
      return (← Verdict.rounds child sub min max fuel 0 place).verdict source min
    | .reference cell _ =>
      match env cell with
      | .bound target => child target place
      | .unbound =>
        some (.failed place
          [source.item .error place "forward parser used before being bound" none])
      | .dropped =>
        some (.failed place [source.item .error place "forward parser was dropped" none])
    | .script _ => none

namespace Run

/-- The run is at a boundary of the source, with a line cache that fits. -/
structure At (source : Source) (place : Nat) (r : Run V C) : Prop where
  source_eq : r.session.source = source
  cursor_eq : r.session.cursor = place
  boundary : IsBoundary place source.chars
  cacheFits : r.session.CacheFits

/-- The run has come from `start` to what the verdict says; a match leaves no feedback. -/
def Tells (source : Source) (start : Nat) (r : Run V C) : Verdict → Prop
  | .matched stop =>
    r.At source stop ∧ start ≤ stop ∧ r.session.result.errorAt = none ∧
      r.session.result.feedback = []
  | .failed errorAt items =>
    r.At source start ∧ r.session.result.errorAt = some errorAt ∧
      r.session.result.feedback = items

/-- A frame is open, and the results in it have these items. -/
structure Holds (items : List Feedback.Item) (r : Run V C) : Prop where
  isOpen : r.session.frames ≠ []
  feedback : r.session.collected.flatMap (·.feedback) = items

section Steps

variable {source : Source} {start place : Nat} {r s : Run V C} {items : List Feedback.Item}

/-- What is not in front may be replaced. -/
theorem At.congr (h : r.At source place) (hsource : s.session.source = r.session.source)
    (hcursor : s.session.cursor = r.session.cursor) (hcache : s.session.cache = r.session.cache) :
    s.At source place :=
  ⟨hsource.trans h.source_eq, hcursor.trans h.cursor_eq, h.boundary,
    Session.cacheFits_of_eq hcache hsource h.cacheFits⟩

theorem At.moveTo (h : r.At source place) (hstart : IsBoundary start source.chars) :
    (r.onSession (Session.moveTo start)).At source start := by
  refine ⟨h.source_eq, ?_, hstart, Session.cacheFits_of_eq rfl rfl h.cacheFits⟩
  rw [onSession_session, Session.moveTo_cursor, h.source_eq]
  exact Nat.min_eq_left (source.le_size hstart)

theorem At.unmatched (h : r.At source place) (delta : Nat) (message : String)
    (cause : Option String) :
    Tells source place (r.onSession (Session.unmatched delta message cause))
      (.failed (place + delta) [source.item .error (place + delta) message cause]) := by
  refine ⟨⟨?_, ?_, h.boundary, Session.unmatched_cacheFits _ _ _ _ h.cacheFits⟩, ?_⟩
  · simpa using h.source_eq
  · simpa using h.cursor_eq
  · rw [onSession_session, Session.unmatched_result_of_cacheFits _ _ _ _ h.cacheFits, h.source_eq,
      h.cursor_eq]
    exact ⟨rfl, rfl⟩

/-- A match from `start` to a later boundary. -/
theorem At.matched (h : r.At source start) {stop : Nat} (hle : start ≤ stop)
    (hstop : IsBoundary stop source.chars) :
    Tells source start (r.onSession (Session.matched (stop - start))) (.matched stop) := by
  refine ⟨⟨h.source_eq, ?_, hstop, Session.cacheFits_of_eq rfl rfl h.cacheFits⟩, hle, rfl, rfl⟩
  have hsize := source.le_size hstop
  rw [onSession_session, Session.matched_cursor, h.source_eq, h.cursor_eq]
  omega

theorem Tells.congr {v : Verdict} (h : Tells source start r v)
    (hsource : s.session.source = r.session.source)
    (hcursor : s.session.cursor = r.session.cursor) (hcache : s.session.cache = r.session.cache)
    (herror : s.session.result.errorAt = r.session.result.errorAt)
    (hfeedback : s.session.result.feedback = r.session.result.feedback) :
    Tells source start s v := by
  cases v with
  | matched stop =>
    obtain ⟨hat, hle, hnone, hnil⟩ := h
    exact ⟨hat.congr hsource hcursor hcache, hle, herror.trans hnone, hfeedback.trans hnil⟩
  | failed errorAt items =>
    obtain ⟨hat, hsome, hitems⟩ := h
    exact ⟨hat.congr hsource hcursor hcache, herror.trans hsome, hfeedback.trans hitems⟩

/-- A primitive tells what its scan has found. -/
theorem At.scan (h : r.At source place) (p : Primitive) :
    Tells source place (r.onSession (Session.scan p))
      (.ofScan source place (p.scan (source.restFrom place) : Except Miss (Match V))) := by
  have hrest : r.session.rest = source.restFrom place := by
    rw [Session.rest, h.source_eq, h.cursor_eq]
  cases hscan : (p.scan (source.restFrom place) : Except Miss (Match V)) with
  | ok found =>
    have hstop := source.isBoundary_add h.boundary (p.scan_isBoundary _ found hscan)
    have hmatched := h.matched (Nat.le_add_right place found.length) hstop
    rw [Nat.add_sub_cancel_left] at hmatched
    refine hmatched.congr ?_ ?_ ?_ ?_ ?_
    all_goals simp [Session.scan, hrest, hscan]
  | error miss =>
    refine (h.unmatched miss.delta miss.message miss.cause).congr ?_ ?_ ?_ ?_ ?_
    all_goals simp [Session.scan, hrest, hscan]

theorem Tells.not_failed {stop : Nat} (h : Tells source start r (.matched stop)) :
    ¬ r.failed = true := by
  simp [failed, Result.failed, h.2.2.1]

theorem Tells.failed {errorAt : Nat} (h : Tells source start r (.failed errorAt items)) :
    r.failed = true := by
  simp [Run.failed, Result.failed, h.2.1]

theorem finish_tells {o : Option (Run V C)} {o' : Option Verdict}
    (h : Option.Rel (Tells source start) o o') :
    Option.Rel (Tells source start) (o.map (Run.finish .done)) o' := by
  cases h with
  | none => exact .none
  | some h =>
    refine .some ?_
    rw [finish_done]
    exact h.congr rfl rfl rfl rfl rfl

theorem Holds.child (h : Holds items r) (hbalance : Balanced r s) : Holds items s := by
  refine ⟨hbalance.2 ▸ h.isOpen, ?_⟩
  rw [Session.collected, hbalance.2]
  exact h.feedback

theorem Holds.moveTo (h : Holds items r) (offset : Nat) :
    Holds items (r.onSession (Session.moveTo offset)) := ⟨h.isOpen, h.feedback⟩

theorem Holds.collect (h : Holds items r) :
    Holds (items ++ r.session.result.feedback) (r.onSession Session.collect) := by
  refine ⟨Session.collect_frames_ne_nil _ h.isOpen, ?_⟩
  rw [onSession_session, Session.collected_collect _ h.isOpen, List.flatMap_append, h.feedback]
  simp

end Steps

/-- A child from which runs come to what the judge tells. -/
def Judged (source : Source) (child : Runner V C) (judge : Judge V C) (g : Grammar V C) : Prop :=
  ∀ place r, r.At source place → Option.Rel (Tells source place) (child g r) (judge g place)

section Loops

variable {source : Source} {child : Runner V C} {judge : Judge V C}
  (hbalance : KeepsBalance child) {start : Nat} (hstart : IsBoundary start source.chars) (n : Nat)

include hbalance hstart

theorem all_judged (gs : List (Grammar V C)) (hchild : ∀ g ∈ gs, Judged source child judge g)
    (i place : Nat) (r : Run V C) (hr : r.At source place) (hle : start ≤ place)
    (hholds : Holds [] r) :
    Option.Rel (Tells source start) (Run.all child start i gs r)
      (Verdict.row judge gs place) := by
  induction gs generalizing i place r with
  | nil =>
    have hmatched := (hr.moveTo hstart).matched hle hr.boundary
    rw [Run.all, Verdict.row, hr.cursor_eq]
    exact .some (hmatched.congr rfl rfl rfl rfl (by simpa [Session.gather] using hholds.feedback))
  | cons g gs ih =>
    rw [Run.all, Verdict.row]
    refine bind_rel (hchild g List.mem_cons_self place r hr) fun s v hs _ htells => ?_
    cases v with
    | matched stop =>
      rw [if_neg htells.not_failed]
      obtain ⟨hat, hle', -, hfeedback⟩ := htells
      have hcollect := (hholds.child (hbalance g r s hs)).collect
      rw [hfeedback] at hcollect
      exact ih (fun g' hg' => hchild g' (List.mem_cons_of_mem g hg')) (i + 1) stop _
        (hat.congr rfl rfl rfl) (hle.trans hle') hcollect
    | failed errorAt items =>
      rw [if_pos htells.failed]
      obtain ⟨hat, herror, hfeedback⟩ := htells
      exact .some ⟨(hat.moveTo hstart).congr rfl rfl rfl, herror, hfeedback⟩

omit hbalance in
/-- What is left when no child has matched. -/
theorem At.giveUp {place : Nat} {r : Run V C} (h : r.At source place) (message : String)
    (items : List Feedback.Item) :
    Tells source start (r.onSession fun s =>
        ((s.moveTo start).unmatched 0 message none).addFeedback items)
      (((Verdict.failed start items).furthest (.failed start [])).headed source start message) := by
  obtain ⟨hat, herror, hfeedback⟩ := (h.moveTo hstart).unmatched 0 message none
  rw [Verdict.furthest, List.append_nil]
  refine ⟨hat.congr rfl rfl rfl, herror, ?_⟩
  rw [onSession_session, onSession_session] at hfeedback
  rw [onSession_session, Session.addFeedback, hfeedback]
  rfl

theorem any_judged (gs : List (Grammar V C)) (hchild : ∀ g ∈ gs, Judged source child judge g)
    (i place : Nat) (r : Run V C) (hr : r.At source place) (items : List Feedback.Item)
    (hholds : Holds items r) :
    Option.Rel (fun r' v => Tells source start r' (((Verdict.failed start items).furthest v).headed
        source start s!"any subparser should match; all {n} failed"))
      (Run.any child start n i gs r) (Verdict.choice judge start gs) := by
  induction gs generalizing i place r items with
  | nil =>
    have hpopped : (r.onSession Session.popFrame).At source place := hr.congr rfl rfl rfl
    rw [Run.any, Verdict.choice, ← hholds.feedback]
    exact .some ((hpopped.giveUp hstart _ _).congr rfl rfl rfl rfl rfl)
  | cons g gs ih =>
    have hmoved := hr.moveTo hstart
    rw [Run.any, Verdict.choice]
    refine bind_rel (hchild g List.mem_cons_self start _ hmoved) fun s v hs _ htells => ?_
    cases v with
    | matched stop =>
      rw [if_neg htells.not_failed]
      exact .some (htells.congr rfl rfl rfl rfl rfl)
    | failed errorAt more =>
      rw [if_pos htells.failed]
      obtain ⟨hat, -, hfeedback⟩ := htells
      have hcollect := ((hholds.moveTo start).child (hbalance g _ s hs)).collect
      rw [hfeedback] at hcollect
      refine rel_map_right ?_
      simp only [← Verdict.furthest_assoc]
      exact ih (fun g' hg' => hchild g' (List.mem_cons_of_mem g hg')) (i + 1) start
        (s.onSession Session.collect) (hat.congr rfl rfl rfl) _ hcollect

/-- What has been found so far: a match that was kept, or the items of failures. -/
def kept (start : Nat) (items : List Feedback.Item) : Option (Nat × Result V) → Verdict
  | none => .failed start items
  | some (stop, _) => .matched stop

omit hbalance hstart in
theorem kept_further (items : List Feedback.Item) (found : Option (Nat × Result V)) (stop : Nat)
    (result : Result V) :
    kept start items (further found stop result) =
      (kept start items found).furthest (.matched stop) := by
  cases found with
  | none => rfl
  | some found =>
    by_cases hlt : found.1 < stop
    · simp only [further, if_pos hlt, kept, Verdict.furthest]
      rw [Nat.max_eq_right (Nat.le_of_lt hlt)]
    · simp only [further, if_neg hlt, kept, Verdict.furthest]
      rw [Nat.max_eq_left (Nat.le_of_not_lt hlt)]

omit hbalance hstart in
theorem kept_append (items more : List Feedback.Item) (found : Option (Nat × Result V))
    (errorAt : Nat) :
    kept start (items ++ more) found =
      (kept start items found).furthest (.failed errorAt more) := by
  cases found <;> rfl

/-- A match that was kept ends at a later boundary and has no feedback. -/
structure Keeps (source : Source) (start stop : Nat) (result : Result V) : Prop where
  start_le : start ≤ stop
  boundary : IsBoundary stop source.chars
  errorAt : result.errorAt = none
  feedback : result.feedback = []

theorem best_judged (gs : List (Grammar V C)) (hchild : ∀ g ∈ gs, Judged source child judge g)
    (found : Option (Nat × Result V))
    (hfound : ∀ stop result, found = some (stop, result) → Keeps source start stop result)
    (place : Nat) (r : Run V C) (hr : r.At source place) (items : List Feedback.Item)
    (hholds : Holds items r) :
    Option.Rel (fun r' v => Tells source start r' (((kept start items found).furthest v).headed
        source start s!"best subparser should match; all {n} failed"))
      (Run.best child start n found gs r) (Verdict.longest judge start gs) := by
  induction gs generalizing found place r items with
  | nil =>
    have hpopped : (r.onSession Session.popFrame).At source place := hr.congr rfl rfl rfl
    rw [Verdict.longest, ← hholds.feedback]
    cases found with
    | none => exact .some ((hpopped.giveUp hstart _ _).congr rfl rfl rfl rfl rfl)
    | some found =>
      have hkeeps := hfound found.1 found.2 rfl
      exact .some ⟨(hpopped.moveTo hkeeps.boundary).congr rfl rfl rfl, hkeeps.start_le,
        hkeeps.errorAt, hkeeps.feedback⟩
  | cons g gs ih =>
    have hrest := fun g' hg' => hchild g' (List.mem_cons_of_mem g hg')
    have hmoved := hr.moveTo hstart
    rw [Run.best, Verdict.longest]
    refine bind_rel (hchild g List.mem_cons_self start _ hmoved) fun s v hs _ htells =>
      rel_map_right ?_
    have hopen := (hholds.moveTo start).child (hbalance g _ s hs)
    -- what the child tells goes to what has been found so far
    simp only [← Verdict.furthest_assoc]
    cases v with
    | matched stop =>
      rw [if_neg htells.not_failed]
      obtain ⟨hat, hle, herror, hfeedback⟩ := htells
      have hkeeps : Keeps source start s.session.cursor s.session.result :=
        ⟨hat.cursor_eq ▸ hle, hat.cursor_eq ▸ hat.boundary, herror, hfeedback⟩
      rw [← kept_further, ← hat.cursor_eq]
      exact ih hrest _ (further_keeps hfound hkeeps) stop
        (s.onSession fun s => { s with result := {} }) (hat.congr rfl rfl rfl) items
        ⟨hopen.isOpen, hopen.feedback⟩
    | failed errorAt more =>
      rw [if_pos htells.failed]
      obtain ⟨hat, -, hfeedback⟩ := htells
      have hcollect := hopen.collect
      rw [hfeedback] at hcollect
      rw [← kept_append]
      exact ih hrest found hfound start (s.onSession Session.collect) (hat.congr rfl rfl rfl) _
        hcollect

omit hbalance in
theorem optional_judged (g : Grammar V C) (hchild : Judged source child judge g) (r : Run V C)
    (hr : r.At source start) :
    Option.Rel (Tells source start) (Run.optional child start g r)
      (do return (← judge g start).orNothing start) := by
  rw [Run.optional]
  refine bind_rel (hchild start r hr) fun s v _ _ htells => ?_
  have hpopped : Tells source start (s.onSession Session.popFrame) v :=
    htells.congr rfl rfl rfl rfl rfl
  dsimp only
  cases v with
  | matched stop =>
    rw [if_neg hpopped.not_failed]
    exact .some hpopped
  | failed errorAt items =>
    rw [if_pos hpopped.failed]
    obtain ⟨hat, -, -⟩ := hpopped
    exact .some ⟨(hat.moveTo hstart).congr rfl rfl rfl, Nat.le_refl start, rfl, rfl⟩

/-- What the rounds of a repetition leave: a run where they end, their number, and what the attempt
that failed has told. -/
structure Tallies (source : Source) (start : Nat) (x : Run V C × Nat × Option (Result V))
    (t : Verdict.Attempts) : Prop where
  stops : x.1.At source t.stop
  start_le : start ≤ t.stop
  holds : Holds [] x.1
  count : x.2.1 = t.count
  items : (x.2.2.map (·.feedback)).getD [] = t.items

omit hstart in
theorem rounds_judged (g : Grammar V C) (hchild : Judged source child judge g) (min : Nat)
    (max : Option Nat) (fuel count place : Nat) (r : Run V C) (hr : r.At source place)
    (hle : start ≤ place) (hholds : Holds [] r) :
    Option.Rel (Tallies source start) (rounds child g min max fuel count r)
      (Verdict.rounds judge g min max fuel count place) := by
  induction fuel generalizing count place r with
  | zero => exact .none
  | succ fuel ih =>
    rw [rounds, Verdict.rounds]
    split
    · refine bind_rel (hchild place r hr) fun s v hs _ htells => ?_
      have hopen := hholds.child (hbalance g r s hs)
      cases v with
      | failed errorAt items =>
        rw [if_pos htells.failed]
        obtain ⟨hat, -, hfeedback⟩ := htells
        exact .some ⟨hat.congr rfl rfl rfl, hle, ⟨hopen.isOpen, hopen.feedback⟩, rfl, hfeedback⟩
      | matched stop =>
        rw [if_neg htells.not_failed]
        obtain ⟨hat, hle', -, hfeedback⟩ := htells
        have hcollect := hopen.collect
        rw [hfeedback] at hcollect
        have hat' : (s.onSession Session.collect).At source stop := hat.congr rfl rfl rfl
        dsimp only
        rw [hat'.cursor_eq, hr.cursor_eq]
        split
        · exact .some ⟨hat', hle.trans hle', hcollect, rfl, rfl⟩
        · exact ih (count + 1) stop _ hat' (hle.trans hle') hcollect
    · exact .some ⟨hr, hle, hholds, rfl, rfl⟩

omit hbalance in
theorem conclude_judged (min : Nat) (max : Option Nat) (count : Nat)
    (failure : Option (Result V)) (r : Run V C) (t : Verdict.Attempts)
    (h : Tallies source start (r, count, failure) t) :
    Tells source start (r.conclude start min max count failure) (t.verdict source min) := by
  obtain ⟨hat, hle, hholds, rfl, hitems⟩ := h
  have hback : (r.onSession fun s => (s.moveTo start).popFrame).At source start :=
    (hat.moveTo hstart).congr rfl rfl rfl
  unfold conclude Verdict.Attempts.verdict
  dsimp only
  rw [hat.cursor_eq]
  split
  · have hmatched := hback.matched hle hat.boundary
    by_cases hmany : mayGoOn max 1
    · simp only [if_pos hmany]
      exact hmatched.congr rfl rfl rfl rfl (by simpa [Session.gather] using hholds.feedback)
    · simp only [if_neg hmany]
      have hfeedback := hholds.feedback
      cases hresults : r.session.collected with
      | nil => exact hmatched.congr rfl rfl rfl rfl rfl
      | cons first rest =>
        rw [hresults, List.flatMap_cons, List.append_eq_nil_iff] at hfeedback
        exact hmatched.congr rfl rfl rfl rfl hfeedback.1
  · obtain ⟨hat', herror, hfeedback⟩ := hback.unmatched (t.stop - start)
      s!"at least {min} matches expected but got only {t.count}" none
    rw [Nat.add_sub_cancel' hle] at herror hfeedback
    refine ⟨hat'.congr rfl rfl rfl, herror, ?_⟩
    rw [← hitems]
    exact congrArg (· ++ _) hfeedback

theorem repeated_judged (g : Grammar V C) (hchild : Judged source child judge g) (min : Nat)
    (max : Option Nat) (fuel : Nat) (r : Run V C) (hr : r.At source start)
    (hholds : Holds [] r) :
    Option.Rel (Tells source start) (Run.repeated child start g min max fuel r)
      (do return (← Verdict.rounds judge g min max fuel 0 start).verdict source min) := by
  rw [Run.repeated]
  refine bind_rel (rounds_judged hbalance g hchild min max fuel 0 start r hr (Nat.le_refl start)
    hholds) fun x t _ _ ht => .some ?_
  exact conclude_judged hstart min max x.2.1 x.2.2 x.1 t ht

end Loops

end Run

/-- Every parse comes to what is told of the grammar, if there is anything to tell. -/
theorem Grammar.parse_judged (env : Env V C) (henv : HookedEnv (· = .done) env) (source : Source)
    (fuel : Nat) (g : Grammar V C) (hg : g.HookedBy (· = .done)) :
    Run.Judged source (Grammar.parse env fuel) (Grammar.verdict env source fuel) g := by
  induction fuel generalizing g with
  | zero => exact fun _ _ _ => .none
  | succ fuel ih =>
    intro place r hr
    have hbalance := Grammar.parse_balanced env fuel
    have hopened : (r.onSession Session.pushFrame).At source place := hr.congr rfl rfl rfl
    have hholds : Run.Holds [] (r.onSession Session.pushFrame) := ⟨List.cons_ne_nil _ _, rfl⟩
    cases hg with
    | primitive p hook hdone =>
      subst hdone
      exact Run.finish_tells (.some (hr.scan p))
    | all subs hook hooked hdone =>
      subst hdone
      rw [parse, verdict, hr.cursor_eq]
      exact Run.finish_tells (Run.all_judged hbalance hr.boundary subs
        (fun g hg => ih g (hooked g hg)) 0 place _ hopened (Nat.le_refl place) hholds)
    | any subs hook hooked hdone =>
      subst hdone
      have hany := Run.any_judged hbalance hr.boundary subs.length subs
        (fun g hg => ih g (hooked g hg)) 0 place _ hopened [] hholds
      simp only [Verdict.headed_nil_furthest] at hany
      rw [parse, verdict, hr.cursor_eq]
      exact Run.finish_tells (rel_map_right hany)
    | best subs hook hooked hdone =>
      subst hdone
      have hbest := Run.best_judged hbalance hr.boundary subs.length subs
        (fun g hg => ih g (hooked g hg)) none (fun _ _ h => by cases h) place _ hopened [] hholds
      simp only [Run.kept, Verdict.headed_nil_furthest] at hbest
      rw [parse, verdict, hr.cursor_eq]
      exact Run.finish_tells (rel_map_right hbest)
    | optional sub hook hooked hdone =>
      subst hdone
      rw [parse, verdict, hr.cursor_eq]
      exact Run.finish_tells (Run.optional_judged hr.boundary sub (ih sub hooked) _ hopened)
    | repeated sub min max hook hooked hdone =>
      subst hdone
      rw [parse, verdict, hr.cursor_eq]
      exact Run.finish_tells (Run.repeated_judged hbalance hr.boundary sub (ih sub hooked) min max
        fuel _ hopened hholds)
    | reference cell owning =>
      simp only [parse, verdict]
      cases hcell : env cell with
      | bound target => exact ih target (henv cell target hcell) place r hr
      | unbound => exact .some (hr.unmatched 0 _ none)
      | dropped => exact .some (hr.unmatched 0 _ none)

/-- What a run tells: the end of a match, or the error position and the feedback of a failure. -/
def Run.verdict (r : Run V C) : Verdict :=
  match r.session.result.errorAt with
  | none => .matched r.session.cursor
  | some errorAt => .failed errorAt r.session.result.feedback

theorem Run.Tells.verdict_eq {source : Source} {start : Nat} {r : Run V C} {v : Verdict}
    (h : r.Tells source start v) : r.verdict = v := by
  cases v with
  | matched stop =>
    obtain ⟨hat, -, hnone, -⟩ := h
    rw [verdict, hnone, hat.cursor_eq]
  | failed errorAt items =>
    obtain ⟨-, hsome, hitems⟩ := h
    rw [verdict, hsome, hitems]

/-- Failure reports are complete and in order: at every boundary of every text, a parse without
hooks ends exactly where there is a verdict on the grammar, and with that verdict. A match leaves no
feedback at all. -/
theorem parse_verdict (env : Env V C) (henv : HookedEnv (fun hook => hook = .done) env)
    (fuel : Nat) (g : Grammar V C) (hg : g.HookedBy fun hook => hook = .done) (r : Run V C)
    (hp : IsBoundary r.session.cursor r.session.source.chars) (hfits : r.session.CacheFits) :
    (g.parse env fuel r).map Run.verdict =
        Grammar.verdict env r.session.source fuel g r.session.cursor ∧
      ∀ r', g.parse env fuel r = some r' → r'.failed = false →
        r'.session.result.feedback = [] := by
  have hjudged := Grammar.parse_judged env henv r.session.source fuel g hg r.session.cursor r
    ⟨rfl, rfl, hp, hfits⟩
  generalize g.parse env fuel r = o at hjudged ⊢
  generalize Grammar.verdict env r.session.source fuel g r.session.cursor = o' at hjudged ⊢
  cases hjudged with
  | none => exact ⟨rfl, nofun⟩
  | @some s v htells =>
    refine ⟨congrArg some htells.verdict_eq, ?_⟩
    rintro r' ⟨⟩ hmatched
    cases v with
    | matched stop => exact htells.2.2.2
    | failed errorAt items => simp [htells.failed] at hmatched

section Syllables

def letter (mark : Mark) : Grammar Unit Unit := .primitive (.literal mark) .done

/-- An `e`, or an `n` and an `o`. -/
def syllable : Grammar Unit Unit :=
  .any [letter ⟨"e", by decide⟩,
    .all [letter ⟨"n", by decide⟩, letter ⟨"o", by decide⟩] .done] .done

def syllableEnv : Env Unit Unit
  | 0 => .bound syllable
  | _ => .unbound

/-- At least two syllables between other letters. -/
def syllables : Grammar Unit Unit :=
  .all [letter ⟨"p", by decide⟩, .repeated (.reference 0 true) 2 none .done,
    letter ⟨"t", by decide⟩] .done

theorem syllable_hookedBy : syllable.HookedBy fun hook => hook = .done := by
  refine .any _ _ (fun g hg => ?_) rfl
  simp only [List.mem_cons, List.not_mem_nil, or_false] at hg
  obtain rfl | rfl := hg
  · exact .primitive _ _ rfl
  · refine .all _ _ (fun g hg => ?_) rfl
    simp only [List.mem_cons, List.not_mem_nil, or_false] at hg
    obtain rfl | rfl := hg
    · exact .primitive _ _ rfl
    · exact .primitive _ _ rfl

theorem syllables_hookedBy : syllables.HookedBy fun hook => hook = .done := by
  refine .all _ _ (fun g hg => ?_) rfl
  simp only [List.mem_cons, List.not_mem_nil, or_false] at hg
  obtain rfl | rfl | rfl := hg
  · exact .primitive _ _ rfl
  · exact .repeated _ _ _ _ (.reference 0 true) rfl
  · exact .primitive _ _ rfl

theorem syllableEnv_hooked : HookedEnv (fun hook => hook = .done) syllableEnv := by
  intro cell g h
  match cell with
  | 0 =>
    obtain rfl := Target.bound.inj h
    exact syllable_hookedBy

def word (content : String) : Source := ⟨"word", content⟩

def beforeWord (content : String) : Run Unit Unit := ⟨{ source := word content }, (), #[]⟩

/-- The second syllable is missed, and its report goes on to the letter that was missed in it; or
both are there, and nothing is left of the `e` that the second of them is not. -/
theorem parse_verdict_syllables :
    (∃ r', syllables.parse syllableEnv 12 (beforeWord "penx") = some r' ∧
      r'.verdict = .failed 2
        [(word "penx").item .error 2 "at least 2 matches expected but got only 1" none,
          (word "penx").item .error 2 "any subparser should match; all 2 failed" none,
          (word "penx").item .error 2 "literal 'e' expected" none,
          (word "penx").item .error 3 "literal 'o' expected" none]) ∧
    ∃ r', syllables.parse syllableEnv 12 (beforeWord "peenot") = some r' ∧
      r'.session.result.feedback = [] := by
  have hverdict := fun content => parse_verdict syllableEnv syllableEnv_hooked 12 syllables
    syllables_hookedBy (beforeWord content) (isBoundary_zero _) (Session.cacheFits_fresh rfl)
  constructor
  · obtain ⟨hmap, -⟩ := hverdict "penx"
    refine Option.map_eq_some_iff.1 (hmap.trans ?_)
    decide +kernel
  · obtain ⟨-, hempty⟩ := hverdict "peenot"
    have hmatched : (syllables.parse syllableEnv 12 (beforeWord "peenot")).map Run.failed =
        some false := by decide +kernel
    obtain ⟨r', hrun, hmatched⟩ := Option.map_eq_some_iff.1 hmatched
    exact ⟨r', hrun, hempty r' hrun hmatched⟩

end Syllables

end Descent
