import Descent.Proofs.Contract
import Descent.Proofs.Evaluation

/-!
# Parsing refines evaluation

A parse works on one session, with frames that are opened and closed and a
slot that each call overwrites. What it comes to is what the evaluation of the
grammar gives: the same result, the same cursor and the same context.
-/
namespace Descent

variable {V C : Type}

/-- A session at which a parser may begin: fresh sessions are ready, and so is every session that
a finished parse leaves. -/
structure Session.Ready (s : Session V) : Prop where
  boundary : IsBoundary s.cursor s.source.chars
  cacheFits : s.CacheFits
  clean : s.subResults = []

def Run.outcome (r : Run V C) : Outcome V C := ⟨r.session.result, r.session.cursor, r.context⟩

/-- A hook that sets values, adds feedback, rejects or changes the context, depending on the
result, the results of the children and the context. -/
def Script.Pure (hook : Script V C) : Prop := hook.Modest ∧ hook.Local

namespace Session

variable {s : Session V}

theorem ready_fresh (source : Source) (p : Nat) (h : IsBoundary p source.chars) :
    ({ source, cursor := p } : Session V).Ready := ⟨h, cacheFits_fresh rfl, rfl⟩

theorem Ready.moveTo (h : s.Ready) {start : Nat} (hs : IsBoundary start s.source.chars) :
    (s.moveTo start).Ready ∧ (s.moveTo start).cursor = start := by
  have hsize := s.source.le_size hs
  have hstart : (s.moveTo start).cursor = start := by simp; omega
  exact ⟨⟨by rw [hstart]; exact hs, h.cacheFits, h.clean⟩, hstart⟩

theorem Ready.collect (h : s.Ready) : s.collect.Ready := ⟨h.boundary, h.cacheFits, h.clean⟩

theorem Ready.pushFrame (h : s.Ready) : s.pushFrame.Ready := ⟨h.boundary, h.cacheFits, h.clean⟩

/-- A primitive leaves what the source tells about its cursor. -/
theorem scan_evaluates (s : Session V) (p : Primitive) (hr : s.Ready) :
    (s.scan p).CacheFits ∧ (s.scan p).subResults = [] ∧
      match p.scan (s.source.restFrom s.cursor) with
      | .ok found =>
        (s.scan p).result =
          s.source.span s.cursor (s.cursor + found.length) found.value [] ∧
        (s.scan p).cursor = s.cursor + found.length
      | .error miss =>
        (s.scan p).result = s.source.failure s.cursor miss.delta miss.message miss.cause ∧
        (s.scan p).cursor = s.cursor := by
  unfold scan rest
  cases hscan : p.scan (s.source.restFrom s.cursor) with
  | ok found =>
    have hsize := s.source.le_size (s.source.isBoundary_add hr.boundary
      (p.scan_isBoundary _ found hscan))
    have hstop : min (s.cursor + found.length) s.source.size = s.cursor + found.length := by omega
    refine ⟨cacheFits_of_eq rfl rfl hr.cacheFits, hr.clean, ?_, ?_⟩
    · simp [Source.span, hstop]
    · simp [hstop]
  | error miss =>
    exact ⟨s.unmatched_cacheFits _ _ _ hr.cacheFits, by simpa using hr.clean,
      s.unmatched_result_of_cacheFits _ _ _ hr.cacheFits, by simp⟩

end Session

/-- The run of a hook has the effect that the evaluation gives it. -/
theorem Script.run_effect (hook : Script V C) (hp : hook.Pure) (s : Session V) (c : C)
    (hcache : s.CacheFits) (hsize : s.result.position ≤ s.source.size) :
    hook.effect s.source s.subResults ⟨s.result, s.cursor, c⟩ =
        ⟨(hook.run s c).1.result, (hook.run s c).1.cursor, (hook.run s c).2⟩ ∧
      (hook.run s c).1.CacheFits := by
  obtain ⟨hm, hl⟩ := hp
  induction hook generalizing s c with
  | done => exact ⟨rfl, hcache⟩
  | act action next ih =>
    cases action with
    | setValue value =>
      exact ih { s with result.value := value } c hcache hsize hm.2 hl
    | note kind offset message cause =>
      have h := ih (s.note kind offset message cause) c (s.note_cacheFits _ _ _ _ hcache)
        (by simpa using hsize) hm.2 hl
      simpa [effect, Action.perform, s.item_of_cacheFits _ _ _ _ hcache] using h
    | reject message =>
      have h := ih (s.reject message) c (s.reject_cacheFits message hcache)
        (by simpa using hsize) hm.2 hl
      have hmin : min s.result.position s.source.size = s.result.position := by omega
      simpa [effect, Action.perform, Outcome.reject, s.item_of_cacheFits _ _ _ _ hcache, hmin]
        using h
    | _ => exact absurd hm.1 id
  | setContext c' next ih => exact ih s c' hcache hsize hm hl
  | look next ih =>
    have hview : next s.view c = next ⟨s.source, s.cursor, s.result, s.subResults, 0⟩ c :=
      hl.1 _ _ c rfl rfl
    have h := ih s.view c s c hcache hsize (hm _ _) (hl.2 _ _)
    rw [run_look, effect, ← hview]
    exact h
  | locate offset next => exact absurd hl id
  | report next => exact absurd hl id

namespace Run

/-- A failure is final, and of a match the hook makes what the evaluation makes of it. -/
theorem finish_evaluates (hook : Script V C) (hp : hook.Pure) (r : Run V C)
    (hcache : r.session.CacheFits) (start : Nat) (hs : IsBoundary start r.session.source.chars)
    (hobeys : r.session.Obeys start) :
    (r.finish hook).outcome =
        (if r.outcome.result.failed then r.outcome
          else hook.effect r.session.source r.session.subResults r.outcome) ∧
      (r.finish hook).session.CacheFits ∧ (r.finish hook).session.subResults = [] := by
  by_cases hfailed : r.failed = true
  · have houtcome : r.outcome.result.failed = true := hfailed
    rw [if_pos houtcome]
    unfold finish
    rw [if_pos hfailed]
    exact ⟨rfl, Session.cacheFits_of_eq rfl rfl hcache, rfl⟩
  · have hspans := hobeys.spans (by simpa [Run.failed] using hfailed)
    have heffect := hook.run_effect hp r.session r.context hcache
      (hspans.position ▸ r.session.source.le_size hs)
    have houtcome : ¬ r.outcome.result.failed = true := hfailed
    rw [if_neg houtcome]
    unfold finish
    rw [if_neg hfailed]
    exact ⟨heffect.1.symm, Session.cacheFits_of_eq rfl rfl heffect.2, rfl⟩

/-- A child whose finished runs come to what the evaluation of the grammar gives. -/
structure Refines (ev : Source → Evaluator V C) (child : Runner V C) (g : Grammar V C) : Prop where
  obeys : ObeysAs child g
  evaluates : ∀ r r', r.session.Ready → child g r = some r' →
    ev r.session.source g r.session.cursor r.context = some r'.outcome ∧
      r'.session.CacheFits ∧ r'.session.subResults = []

variable {ev : Source → Evaluator V C} {child : Runner V C}

/-- All that a finished run of a child leaves. -/
theorem Refines.run {g : Grammar V C} (h : Refines ev child g) (hbalance : KeepsBalance child)
    {r r' : Run V C} (hr : r.session.Ready) (hrun : child g r = some r') :
    ev r.session.source g r.session.cursor r.context = some r'.outcome ∧
      r'.session.Ready ∧ Balanced r r' ∧ r'.session.Obeys r.session.cursor := by
  obtain ⟨heval, hcache, hclean⟩ := h.evaluates r r' hr hrun
  obtain ⟨hsource, hobeys⟩ := h.obeys r r' hr.boundary hrun
  exact ⟨heval, ⟨(hobeys.boundary (hsource ▸ hr.boundary)).1, hcache, hclean⟩,
    hbalance g r r' hrun, hobeys⟩

/-- What the loop over a sequence leaves for each way in which it ends; `before` are the results
that the frame held when it began. -/
def EndsRow (source : Source) (start : Nat) (before : List (Result V)) (r : Run V C) :
    Row V C → Prop
  | .matched results stop context =>
    r.outcome = ⟨source.span start stop (.list ((before ++ results).map (·.value)))
        ((before ++ results).flatMap (·.feedback)), stop, context⟩ ∧
      r.session.subResults = before ++ results
  | .failed failure context =>
    r.outcome = ⟨{ failure with position := start }, start, context⟩ ∧ r.failed = true

theorem all_evaluates (hbalance : KeepsBalance child) (start : Nat) (gs : List (Grammar V C))
    (hchild : ∀ g ∈ gs, Refines ev child g) (i : Nat) (r r' : Run V C) (frame : Frame V)
    (outer : List (Frame V)) (hframes : r.session.frames = frame :: outer)
    (hr : r.session.Ready) (hs : IsBoundary start r.session.source.chars)
    (hle : start ≤ r.session.cursor) (h : Run.all child start i gs r = some r') :
    r'.session.CacheFits ∧ r'.session.source = r.session.source ∧
      ∃ row, (ev r.session.source).row gs r.session.cursor r.context = some row ∧
        EndsRow r.session.source start frame.results r' row := by
  induction gs generalizing i r frame with
  | nil =>
    obtain rfl := Option.some.inj h
    have hstart := (hr.moveTo hs).2
    have hsize := r.session.source.le_size hr.boundary
    have hstop : min (start + (r.session.cursor - start)) r.session.source.size =
        r.session.cursor := by omega
    refine ⟨hr.cacheFits, rfl, _, rfl, ?_⟩
    simp only [Session.moveTo_cursor] at hstart
    simp [EndsRow, outcome, Session.gather, Source.span, hframes, Session.collected, hstart, hstop]
  | cons g gs ih =>
    obtain ⟨s, hrun, h⟩ := Option.bind_eq_some_iff.1 h
    obtain ⟨heval, hready, hbal, hobeys⟩ :=
      (hchild g List.mem_cons_self).run hbalance hr hrun
    split at h
    · next hfailed =>
      obtain rfl := Option.some.inj h
      have hstart := (hready.moveTo (hbal.1 ▸ hs)).2
      refine ⟨hready.cacheFits, hbal.1, _, Evaluator.row_failed heval hfailed, ?_⟩
      · simp only [Session.moveTo_cursor] at hstart
        exact ⟨by simp [outcome, hstart], hfailed⟩
    · next hfailed =>
      have hspans := hobeys.spans (by simpa [Run.failed] using hfailed)
      have hcollect := s.session.collect_frames frame outer (hbal.2.trans hframes)
      obtain ⟨hcache, hsource, row, hrow, hends⟩ := ih
        (fun g' hg' => hchild g' (List.mem_cons_of_mem _ hg')) (i + 1)
        (s.onSession Session.collect) _ hcollect hready.collect (by simpa [hbal.1] using hs)
        (Nat.le_trans hle hspans.start_le) h
      have hrow' : (ev r.session.source).row gs s.session.cursor s.context = some row := by
        simpa [hbal.1] using hrow
      refine ⟨hcache, by simpa [hbal.1] using hsource, _,
        Evaluator.row_matched heval hfailed row hrow', ?_⟩
      cases row with
      | matched results stop context =>
        simpa [EndsRow, Row.cons, outcome, hbal.1] using hends
      | failed failure context => exact hends

/-- What is left when every alternative has failed. -/
theorem giveUp_result (start : Nat) (s : Session V) (message : String)
    (failures : List (Result V)) (hcache : s.CacheFits) (hs : IsBoundary start s.source.chars) :
    (((s.moveTo start).unmatched 0 message none).addFeedback
        (failures.flatMap (·.feedback))).CacheFits ∧
      (((s.moveTo start).unmatched 0 message none).addFeedback
        (failures.flatMap (·.feedback))).cursor = start ∧
      (((s.moveTo start).unmatched 0 message none).addFeedback
        (failures.flatMap (·.feedback))).result = s.source.failureOf start 0 message failures := by
  have hsize := s.source.le_size hs
  have hstart : (s.moveTo start).cursor = start := by simp; omega
  have hresult := (s.moveTo start).unmatched_result_of_cacheFits 0 message none hcache
  rw [hstart] at hresult
  have hfits := (s.moveTo start).unmatched_cacheFits 0 message none hcache
  refine ⟨Session.cacheFits_of_eq rfl rfl hfits, ?_, ?_⟩
  · simpa [Session.addFeedback] using hstart
  · simp only [Session.addFeedback, hresult]
    rfl

/-- What the loop over the alternatives leaves for each way in which it ends. -/
def EndsChoice (source : Source) (start n : Nat) (before : List (Result V)) (r : Run V C) :
    Choice V C → Prop
  | .won winner => r.outcome = winner ∧ ¬ r.failed = true
  | .lost failures context =>
    r.outcome = ⟨source.failureOf start 0 s!"any subparser should match; all {n} failed"
      (before ++ failures), start, context⟩

theorem any_evaluates (hbalance : KeepsBalance child) (start n : Nat) (gs : List (Grammar V C))
    (hchild : ∀ g ∈ gs, Refines ev child g) (i : Nat) (r r' : Run V C) (frame : Frame V)
    (outer : List (Frame V)) (hframes : r.session.frames = frame :: outer)
    (hr : r.session.Ready) (hs : IsBoundary start r.session.source.chars)
    (h : Run.any child start n i gs r = some r') :
    r'.session.CacheFits ∧ r'.session.source = r.session.source ∧ r'.session.subResults = [] ∧
      ∃ choice, (ev r.session.source).choice start gs r.context = some choice ∧
        EndsChoice r.session.source start n frame.results r' choice := by
  induction gs generalizing i r frame with
  | nil =>
    obtain rfl := Option.some.inj h
    obtain ⟨hcache, hcursor, hresult⟩ := giveUp_result start r.session.popFrame
      s!"any subparser should match; all {n} failed" frame.results hr.cacheFits hs
    refine ⟨hcache, by simp, by simpa using hr.clean, _, rfl, ?_⟩
    have hcollected : r.session.collected = frame.results := by simp [Session.collected, hframes]
    simp only [EndsChoice, outcome, onSession_session, onSession_context, emit_session,
      emit_context, hcollected, List.append_nil]
    exact congrArg₂ (Outcome.mk · · r.context) hresult hcursor
  | cons g gs ih =>
    obtain ⟨s, hrun, h⟩ := Option.bind_eq_some_iff.1 h
    have hready' := hr.moveTo hs
    obtain ⟨heval, hready, hbal, hobeys⟩ :=
      (hchild g List.mem_cons_self).run (r := r.onSession (Session.moveTo start)) hbalance
        hready'.1 hrun
    simp only [onSession_session, hready'.2, Session.moveTo_source, onSession_context] at heval
    simp only [onSession_session, hready'.2] at hobeys
    have hsource : s.session.source = r.session.source := hbal.1
    split at h
    · next hfailed =>
      have hcollect := s.session.collect_frames frame outer (hbal.2.trans hframes)
      obtain ⟨hcache, hsource', hclean, choice, hchoice, hends⟩ := ih
        (fun g' hg' => hchild g' (List.mem_cons_of_mem _ hg')) (i + 1)
        (s.onSession Session.collect) _ hcollect hready.collect (by simpa [hsource] using hs) h
      have hchoice' : (ev r.session.source).choice start gs s.context = some choice := by
        simpa [hsource] using hchoice
      refine ⟨hcache, by simpa [hsource] using hsource', hclean, _,
        Evaluator.choice_failed heval hfailed choice hchoice', ?_⟩
      cases choice with
      | won winner => exact hends
      | lost failures context =>
        simpa [EndsChoice, Choice.cons, outcome, hsource] using hends
    · next hfailed =>
      obtain rfl := Option.some.inj h
      have hspans := hobeys.spans (by simpa [Run.failed] using hfailed)
      exact ⟨hready.cacheFits, hsource, hready.clean, _,
        Evaluator.choice_matched heval hfailed, rfl, hfailed⟩

/-- The match that is kept among the outcomes, after those that came before. -/
def keptOf (found : Option (Nat × Result V)) (outcomes : List (Outcome V C)) :
    Option (Nat × Result V) :=
  (outcomes.filter fun o => !o.result.failed).foldl
    (fun best o => further best o.cursor o.result) found

def failuresOf (outcomes : List (Outcome V C)) : List (Result V) :=
  (outcomes.filter fun o => o.result.failed).map (·.result)

section Kept

variable {o : Outcome V C}

theorem keptOf_failed (ho : o.result.failed = true) (found : Option (Nat × Result V))
    (outcomes : List (Outcome V C)) : keptOf found (o :: outcomes) = keptOf found outcomes := by
  simp [keptOf, ho]

theorem keptOf_matched (ho : ¬ o.result.failed = true) (found : Option (Nat × Result V))
    (outcomes : List (Outcome V C)) :
    keptOf found (o :: outcomes) = keptOf (further found o.cursor o.result) outcomes := by
  simp [keptOf, ho]

theorem failuresOf_failed (ho : o.result.failed = true) (outcomes : List (Outcome V C)) :
    failuresOf (o :: outcomes) = o.result :: failuresOf outcomes := by
  simp [failuresOf, ho]

theorem failuresOf_matched (ho : ¬ o.result.failed = true) (outcomes : List (Outcome V C)) :
    failuresOf (o :: outcomes) = failuresOf outcomes := by
  simp [failuresOf, ho]

end Kept

/-- What the loop for the longest match leaves, given the match that it kept. -/
def EndsBest (source : Source) (start n : Nat) (failures : List (Result V)) (context : C)
    (r : Run V C) : Option (Nat × Result V) → Prop
  | some (stop, result) => r.outcome = ⟨result, stop, context⟩
  | none =>
    r.outcome = ⟨source.failureOf start 0 s!"best subparser should match; all {n} failed" failures,
      start, context⟩

/-- At the end of the loop the match that was kept is taken, if there is one. -/
theorem best_nil_evaluates (start n : Nat) (found : Option (Nat × Result V)) (r r' : Run V C)
    (hr : r.session.Ready) (hs : IsBoundary start r.session.source.chars)
    (hfound : ∀ stop result, found = some (stop, result) → stop ≤ r.session.source.size)
    (h : Run.best child start n found [] r = some r') :
    r'.session.CacheFits ∧ r'.session.source = r.session.source ∧ r'.session.subResults = [] ∧
      EndsBest r.session.source start n r.session.collected r.context r' found := by
  cases found with
  | none =>
    obtain rfl := Option.some.inj h
    obtain ⟨hcache, hcursor, hresult⟩ := giveUp_result start r.session.popFrame
      s!"best subparser should match; all {n} failed" r.session.collected hr.cacheFits hs
    refine ⟨hcache, by simp, by simpa using hr.clean, ?_⟩
    simp only [EndsBest, outcome, onSession_session, onSession_context, emit_session, emit_context]
    exact congrArg₂ (Outcome.mk · · r.context) hresult hcursor
  | some found =>
    obtain ⟨stop, result⟩ := found
    obtain rfl := Option.some.inj h
    have hstop : min stop r.session.source.size = stop := Nat.min_eq_left (hfound _ _ rfl)
    refine ⟨Session.cacheFits_of_eq rfl rfl hr.cacheFits, rfl, hr.clean, ?_⟩
    simp [EndsBest, outcome, hstop]

theorem best_evaluates (hbalance : KeepsBalance child) (start n : Nat) (gs : List (Grammar V C))
    (hchild : ∀ g ∈ gs, Refines ev child g) (found : Option (Nat × Result V)) (r r' : Run V C)
    (frame : Frame V) (outer : List (Frame V)) (hframes : r.session.frames = frame :: outer)
    (hr : r.session.Ready) (hs : IsBoundary start r.session.source.chars)
    (hfound : ∀ stop result, found = some (stop, result) → stop ≤ r.session.source.size)
    (h : Run.best child start n found gs r = some r') :
    r'.session.CacheFits ∧ r'.session.source = r.session.source ∧ r'.session.subResults = [] ∧
      ∃ outcomes context,
        (ev r.session.source).each start gs r.context = some (outcomes, context) ∧
        EndsBest r.session.source start n (frame.results ++ failuresOf outcomes) context r'
          (keptOf found outcomes) := by
  induction gs generalizing found r frame with
  | nil =>
    have hcollected : r.session.collected = frame.results := by simp [Session.collected, hframes]
    obtain ⟨hcache, hsource, hclean, hends⟩ := best_nil_evaluates start n found r r' hr hs hfound h
    refine ⟨hcache, hsource, hclean, [], r.context, rfl, ?_⟩
    simpa [keptOf, failuresOf, hcollected] using hends
  | cons g gs ih =>
    obtain ⟨s, hrun, h⟩ := Option.bind_eq_some_iff.1 h
    have hready' := hr.moveTo hs
    obtain ⟨heval, hready, hbal, hobeys⟩ :=
      (hchild g List.mem_cons_self).run (r := r.onSession (Session.moveTo start)) hbalance
        hready'.1 hrun
    simp only [onSession_session, hready'.2, Session.moveTo_source, onSession_context] at heval
    have hsource : s.session.source = r.session.source := hbal.1
    have hframes' : s.session.frames = frame :: outer := hbal.2.trans hframes
    have hrest := fun g' hg' => hchild g' (List.mem_cons_of_mem g hg')
    split at h
    · next hfailed =>
      obtain ⟨hcache, hsource', hclean, outcomes, context, heach, hends⟩ := ih hrest found
        (s.onSession Session.collect) _ (s.session.collect_frames frame outer hframes')
        hready.collect (by simpa [hsource] using hs) (by simpa [hsource] using hfound) h
      simp only [onSession_session, onSession_context, Session.collect_source, hsource]
        at heach hends hsource'
      refine ⟨hcache, hsource', hclean, _, _, Evaluator.each_cons heval outcomes context heach,
        ?_⟩
      have hmiss : s.outcome.result.failed = true := hfailed
      rw [keptOf_failed hmiss, failuresOf_failed hmiss]
      simpa [outcome] using hends
    · next hfailed =>
      rw [← hsource] at hfound
      obtain ⟨hcache, hsource', hclean, outcomes, context, heach, hends⟩ := ih hrest _
        (s.onSession fun s => { s with result := {} }) frame hframes'
        ⟨hready.boundary, Session.cacheFits_of_eq rfl rfl hready.cacheFits, hready.clean⟩
        (by simpa [hsource] using hs)
        (further_keeps hfound (s.session.source.le_size hready.boundary)) h
      simp only [onSession_session, onSession_context, hsource] at heach hends hsource'
      refine ⟨hcache, hsource', hclean, _, _, Evaluator.each_cons heval outcomes context heach,
        ?_⟩
      have hmatch : ¬ s.outcome.result.failed = true := hfailed
      rw [keptOf_matched hmatch, failuresOf_matched hmatch]
      exact hends

theorem optional_evaluates (hbalance : KeepsBalance child) (g : Grammar V C)
    (hchild : Refines ev child g) (start : Nat) (r r' : Run V C) (hr : r.session.Ready)
    (hc : r.session.cursor = start) (h : Run.optional child start g r = some r') :
    r'.session.CacheFits ∧ r'.session.source = r.session.source ∧ r'.session.subResults = [] ∧
      ∃ o, ev r.session.source g start r.context = some o ∧
        r'.outcome = if o.result.failed then
          ⟨r.session.source.span start start .none [], start, o.context⟩ else o := by
  obtain ⟨s, hrun, h⟩ := Option.bind_eq_some_iff.1 h
  obtain ⟨heval, hready, hbal, hobeys⟩ := hchild.run hbalance hr hrun
  rw [hc] at heval hobeys
  have hsize := s.session.source.le_size hready.boundary
  have hsource : s.session.source = r.session.source := hbal.1
  dsimp only at h
  split at h
  · next hfailed =>
    obtain rfl := Option.some.inj h
    have hcursor : s.session.cursor = start := (hobeys.misses hfailed).1
    have hstart : min start s.session.source.size = start := by omega
    refine ⟨Session.cacheFits_of_eq rfl rfl hready.cacheFits, hsource, hready.clean, _, heval, ?_⟩
    have hmiss : s.outcome.result.failed = true := hfailed
    rw [if_pos hmiss]
    simp [outcome, Source.span, hstart]
  · next hfailed =>
    obtain rfl := Option.some.inj h
    have hmatch : ¬ s.outcome.result.failed = true := hfailed
    exact ⟨hready.cacheFits, hsource, hready.clean, _, heval, by rw [if_neg hmatch]; rfl⟩

/-- As long as the greatest number is not exceeded, going on means not to have reached it. -/
theorem mayGoOn_iff {max : Option Nat} {count : Nat} (hle : ∀ m, max = some m → count ≤ m) :
    mayGoOn max count = true ↔ max ≠ some count := by
  cases max with
  | none => simp [mayGoOn]
  | some m =>
    have := hle m rfl
    simp only [mayGoOn, decide_eq_true_eq, ne_eq, Option.some.injEq]
    omega

theorem rounds_evaluates (hbalance : KeepsBalance child) (g : Grammar V C)
    (hchild : Refines ev child g) (min : Nat) (max : Option Nat) (fuel count : Nat)
    (r r' : Run V C) (count' : Nat) (failure : Option (Result V)) (frame : Frame V)
    (outer : List (Frame V)) (hframes : r.session.frames = frame :: outer)
    (hr : r.session.Ready) (hle : ∀ m, max = some m → count ≤ m)
    (h : rounds child g min max fuel count r = some (r', count', failure)) :
    r'.session.Ready ∧ r'.session.source = r.session.source ∧
      ∃ t, (ev r.session.source).rounds g min max fuel count r.session.cursor r.context =
          some t ∧
        r'.session.frames = { frame with results := frame.results ++ t.results } :: outer ∧
        r'.session.cursor = t.stop ∧ r'.context = t.context ∧ failure = t.failure ∧
        count' = count + t.results.length ∧ ∀ m, max = some m → count' ≤ m := by
  induction fuel generalizing count r frame with
  | zero => simp [rounds] at h
  | succ fuel ih =>
    unfold rounds at h
    split at h
    · next hgo =>
      have hmax := (mayGoOn_iff hle).1 hgo
      have hnext : ∀ m, max = some m → count + 1 ≤ m := by
        intro m hm
        have := hle m hm
        have : m ≠ count := fun heq => hmax (heq ▸ hm)
        omega
      obtain ⟨s, hrun, h⟩ := Option.bind_eq_some_iff.1 h
      obtain ⟨heval, hready, hbal, hobeys⟩ := hchild.run hbalance hr hrun
      have hsource : s.session.source = r.session.source := hbal.1
      have hframes' : s.session.frames = frame :: outer := hbal.2.trans hframes
      split at h
      · next hfailed =>
        obtain ⟨rfl, rfl, rfl⟩ : _ = r' ∧ count = count' ∧ some s.session.result = failure := by
          simpa using h
        have hcursor := (hobeys.misses hfailed).1
        exact ⟨⟨hready.boundary, Session.cacheFits_of_eq rfl rfl hready.cacheFits, hready.clean⟩,
          hsource, _, Evaluator.rounds_failed hmax heval hfailed, by simpa using hframes',
          hcursor, rfl, rfl, rfl, hle⟩
      · next hfailed =>
        have hcollect := s.session.collect_frames frame outer hframes'
        dsimp only at h
        split at h
        · next hidle =>
          obtain ⟨rfl, rfl, rfl⟩ : _ = r' ∧ count + 1 = count' ∧ none = failure := by
            simpa using h
          exact ⟨hready.collect, hsource, _, Evaluator.rounds_idle hmax heval hfailed hidle,
            hcollect, rfl, rfl, rfl, rfl, hnext⟩
        · next hidle =>
          obtain ⟨hready', hsource', t, ht, hframes'', hstop, hcontext, hfailure, hcount, hbound⟩ :=
            ih (count + 1) (s.onSession Session.collect) _ hcollect hready.collect hnext h
          simp only [onSession_session, onSession_context, Session.collect_source,
            Session.collect_cursor, hsource] at ht hsource'
          refine ⟨hready', hsource', _,
            Evaluator.rounds_round hmax heval hfailed hidle t ht, ?_, hstop, hcontext, hfailure,
            ?_, hbound⟩
          · simpa [outcome] using hframes''
          · rw [hcount, List.length_cons]
            omega
    · next hgo =>
      have hmax : max = some count := by
        by_contra hne
        exact hgo ((mayGoOn_iff hle).2 hne)
      obtain ⟨rfl, rfl, rfl⟩ : r = r' ∧ count = count' ∧ none = failure := by simpa using h
      exact ⟨hr, rfl, _, Evaluator.rounds_full hmax, by simpa using hframes, rfl, rfl, rfl, rfl,
        hle⟩

/-- At most one result is taken as it is, more of them as a list. -/
theorem gather_eq {max : Option Nat} {results : List (Result V)} (s : Session V)
    (hle : ∀ m, max = some m → results.length ≤ m) (hvalue : s.result.value = .none) :
    (if mayGoOn max 1 then s.gather results else s.gatherOne results) =
      { s with result := { s.result with
          value := Result.valueOf max results
          feedback := s.result.feedback ++ results.flatMap (·.feedback) } } := by
  have hone : mayGoOn max 1 = true ↔ ¬ (max = some 0 ∨ max = some 1) := by
    cases max with
    | none => simp [mayGoOn]
    | some m => simp [mayGoOn]; omega
  unfold Result.valueOf
  by_cases hm : max = some 0 ∨ max = some 1
  · have hshort : results.length ≤ 1 := by
      rcases hm with hm | hm
      · have := hle 0 hm; omega
      · exact hle 1 hm
    rw [if_pos hm, if_neg (fun h => hone.1 h hm)]
    match results, hshort with
    | [], _ => simp [Session.gatherOne, ← hvalue]
    | [result], _ => simp [Session.gatherOne]
  · rw [if_neg hm, if_pos (hone.2 hm)]
    rfl

theorem conclude_evaluates (start min : Nat) (max : Option Nat) (failure : Option (Result V))
    (r : Run V C) (hr : r.session.Ready) (hs : start ≤ r.session.cursor)
    (hle : ∀ m, max = some m → r.session.collected.length ≤ m) :
    (r.conclude start min max r.session.collected.length failure).session.CacheFits ∧
      (r.conclude start min max r.session.collected.length failure).session.subResults =
        r.session.collected ∧
      (r.conclude start min max r.session.collected.length failure).outcome =
        if min ≤ r.session.collected.length then
          ⟨r.session.source.span start r.session.cursor (Result.valueOf max r.session.collected)
            (r.session.collected.flatMap (·.feedback)), r.session.cursor, r.context⟩
        else
          ⟨r.session.source.failureOf start (r.session.cursor - start)
            s!"at least {min} matches expected but got only {r.session.collected.length}"
            failure.toList, start, r.context⟩ := by
  generalize hresults : r.session.collected = results at *
  have hsize := r.session.source.le_size hr.boundary
  have hstart : Min.min start r.session.source.size = start := by omega
  have hstop : Min.min (start + (r.session.cursor - start)) r.session.source.size =
      r.session.cursor := by omega
  unfold conclude
  simp only [hresults]
  by_cases hmin : min ≤ results.length
  · rw [if_pos hmin, if_pos hmin]
    have hgather := gather_eq
      ((r.session.moveTo start).popFrame.matched (r.session.cursor - start)) hle rfl
    simp only [outcome, onSession_session, onSession_context, emit_session, emit_context, hgather]
    refine ⟨Session.cacheFits_of_eq rfl rfl hr.cacheFits, trivial, ?_⟩
    simp [hstart, hstop, Source.span]
  · rw [if_neg hmin, if_neg hmin]
    have hresult := (r.session.moveTo start).popFrame.unmatched_result_of_cacheFits
      (r.session.cursor - start)
      s!"at least {min} matches expected but got only {results.length}" none hr.cacheFits
    simp only [Session.popFrame_cursor, Session.moveTo_cursor, Session.popFrame_source,
      Session.moveTo_source, hstart] at hresult
    refine ⟨?_, rfl, ?_⟩
    · exact Session.cacheFits_of_eq rfl rfl
        ((r.session.moveTo start).popFrame.unmatched_cacheFits (r.session.cursor - start)
          s!"at least {min} matches expected but got only {results.length}" none hr.cacheFits)
    · simp only [outcome, onSession_session, onSession_context, emit_session, emit_context,
        Session.addFeedback, hresult]
      cases failure <;> simp [Source.failure, Source.failureOf, hstart]

theorem repeated_evaluates (hbalance : KeepsBalance child) (sub : Grammar V C)
    (hchild : Refines ev child sub) (min : Nat) (max : Option Nat) (fuel : Nat) (r s : Run V C)
    (hr : r.session.Ready)
    (h : Run.repeated child r.session.cursor sub min max fuel (r.onSession Session.pushFrame) =
      some s) :
    s.session.CacheFits ∧ s.session.source = r.session.source ∧
      s.session.Obeys r.session.cursor ∧
      ∃ t, (ev r.session.source).rounds sub min max fuel 0 r.session.cursor r.context = some t ∧
        s.session.subResults = t.results ∧
        s.outcome =
          if min ≤ t.results.length then
            ⟨r.session.source.span r.session.cursor t.stop (Result.valueOf max t.results)
              (t.results.flatMap (·.feedback)), t.stop, t.context⟩
          else
            ⟨r.session.source.failureOf r.session.cursor (t.stop - r.session.cursor)
              s!"at least {min} matches expected but got only {t.results.length}"
              t.failure.toList, r.session.cursor, t.context⟩ := by
  obtain ⟨⟨t, count, failure⟩, ht, hs⟩ := Option.bind_eq_some_iff.1 h
  obtain rfl := Option.some.inj hs
  obtain ⟨hready, hsource, rounds, heval, hframes, hstop, hcontext, hfailure, hcount, hle⟩ :=
    rounds_evaluates hbalance sub hchild min max fuel 0 (r.onSession Session.pushFrame) t count
      failure { start := r.session.cursor } r.session.frames rfl hr.pushFrame (by simp) ht
  have hbound := rounds_boundary r.session.cursor sub hchild.obeys min max fuel 0
    (r.onSession Session.pushFrame) t count failure hr.boundary (Nat.le_refl _) ht
  simp only [onSession_session, Session.pushFrame_source, Session.pushFrame_cursor,
    onSession_context] at heval hsource
  have hcollected : t.session.collected = rounds.results := by simp [Session.collected, hframes]
  have hlength : count = t.session.collected.length := by rw [hcollected, hcount]; omega
  subst hlength
  obtain ⟨hcache, hsubs, houtcome⟩ := conclude_evaluates r.session.cursor min max failure t hready
    hbound.2.2 hle
  have hobeys := conclude_obeys r.session.cursor min max
    t.session.collected.length failure t hready.boundary hbound.2.2
  refine ⟨hcache, hobeys.1.trans hsource, hobeys.2, rounds, heval, hsubs.trans hcollected, ?_⟩
  rw [houtcome, hcollected, hsource, hstop, hcontext, hfailure]

end Run

/-- Without a longest match, every outcome is a failure. -/
theorem Outcome.failuresOf_of_longest {outcomes : List (Outcome V C)}
    (h : longest outcomes = none) : Run.failuresOf outcomes = outcomes.map (·.result) := by
  unfold Run.failuresOf
  rw [List.filter_eq_self.2 (failed_of_longest h)]

namespace Run

/-- What a combinator leaves before its hook runs: the evaluation of the grammar at the start is
this outcome, and what the hook makes of it if it is a match. -/
def Settles (ev : Source → Evaluator V C) (g : Grammar V C) (hook : Script V C)
    (r s : Run V C) : Prop :=
  s.session.CacheFits ∧
    ev r.session.source g r.session.cursor r.context =
      some (if s.outcome.result.failed then s.outcome
        else hook.effect r.session.source s.session.subResults s.outcome)

/-- When the hook has run as well, the parse has come to what the evaluation gives. -/
theorem Settles.finish {ev : Source → Evaluator V C} {g : Grammar V C} {hook : Script V C}
    {r s : Run V C} (h : Settles ev g hook r s) (hp : hook.Pure) (hr : r.session.Ready)
    (hobeys : s.session.source = r.session.source ∧ s.session.Obeys r.session.cursor) :
    ev r.session.source g r.session.cursor r.context = some (s.finish hook).outcome ∧
      (s.finish hook).session.CacheFits ∧ (s.finish hook).session.subResults = [] := by
  obtain ⟨houtcome, hclose⟩ := finish_evaluates hook hp s h.1 r.session.cursor
    (hobeys.1 ▸ hr.boundary) hobeys.2
  rw [houtcome, hobeys.1]
  exact ⟨h.2, hclose⟩

/-- A reference that leads nowhere fails on the spot. -/
theorem unmatched_evaluates (r : Run V C) (message : String) (hr : r.session.Ready) :
    (some ⟨r.session.source.failure r.session.cursor 0 message none, r.session.cursor,
        r.context⟩ : Option (Outcome V C)) =
      some (r.onSession (Session.unmatched 0 message none)).outcome ∧
    (r.session.unmatched 0 message none).CacheFits ∧
    (r.session.unmatched 0 message none).subResults = [] := by
  have hresult := r.session.unmatched_result_of_cacheFits 0 message none hr.cacheFits
  refine ⟨?_, r.session.unmatched_cacheFits 0 message none hr.cacheFits,
    by simpa using hr.clean⟩
  simp only [outcome, onSession_session, onSession_context, hresult, Session.unmatched_cursor]

variable {env : Env V C} {fuel : Nat} {child : Runner V C} {hook : Script V C} {r s : Run V C}

theorem scan_settles (p : Primitive) (hr : r.session.Ready) :
    Settles (Grammar.eval env (fuel + 1)) (.primitive p hook) hook r
      (r.onSession (Session.scan p)) := by
  obtain ⟨hcache, hsubs, hscan⟩ := r.session.scan_evaluates p hr
  refine ⟨hcache, ?_⟩
  rw [onSession_session, hsubs, outcome, onSession_session]
  cases hfound : p.scan (r.session.source.restFrom r.session.cursor) with
  | ok found =>
    rw [hfound] at hscan
    rw [Grammar.eval_primitive_matched hfound, hscan.1, hscan.2,
      if_neg (Source.span_failed _ _ _ _ _)]
    rfl
  | error miss =>
    rw [hfound] at hscan
    rw [Grammar.eval_primitive_failed hfound, hscan.1, hscan.2]
    rfl

theorem all_settles (hbalance : KeepsBalance child) (subs : List (Grammar V C))
    (hchild : ∀ g ∈ subs, Refines (Grammar.eval env fuel) child g) (hr : r.session.Ready)
    (h : Run.all child r.session.cursor 0 subs (r.onSession Session.pushFrame) = some s) :
    Settles (Grammar.eval env (fuel + 1)) (.all subs hook) hook r s := by
  obtain ⟨hcache, -, row, hrow, hends⟩ := all_evaluates hbalance r.session.cursor subs hchild 0
    (r.onSession Session.pushFrame) s { start := r.session.cursor } r.session.frames rfl
    ⟨hr.boundary, hr.cacheFits, hr.clean⟩ hr.boundary (Nat.le_refl _) h
  simp only [onSession_session, Session.pushFrame_source, Session.pushFrame_cursor,
    onSession_context] at hrow hends
  refine ⟨hcache, ?_⟩
  cases row with
  | matched results stop context =>
    rw [Grammar.eval_all_matched hrow, hends.1, hends.2, if_neg (Source.span_failed _ _ _ _ _)]
    rfl
  | failed failure context =>
    have hfailed : s.outcome.result.failed = true := hends.2
    rw [Grammar.eval_all_failed hrow, if_pos hfailed, hends.1]

theorem any_settles (hbalance : KeepsBalance child) (subs : List (Grammar V C))
    (hchild : ∀ g ∈ subs, Refines (Grammar.eval env fuel) child g) (hr : r.session.Ready)
    (h : Run.any child r.session.cursor subs.length 0 subs (r.onSession Session.pushFrame) =
      some s) :
    Settles (Grammar.eval env (fuel + 1)) (.any subs hook) hook r s := by
  obtain ⟨hcache, -, hclean, choice, hchoice, hends⟩ := any_evaluates hbalance r.session.cursor
    subs.length subs hchild 0 (r.onSession Session.pushFrame) s { start := r.session.cursor }
    r.session.frames rfl ⟨hr.boundary, hr.cacheFits, hr.clean⟩ hr.boundary h
  simp only [onSession_session, Session.pushFrame_source, onSession_context] at hchoice hends
  refine ⟨hcache, ?_⟩
  rw [hclean]
  cases choice with
  | won winner =>
    have hmatch : ¬ s.outcome.result.failed = true := hends.2
    rw [Grammar.eval_any_won hchoice, if_neg hmatch, hends.1]
  | lost failures context =>
    have houtcome : s.outcome = _ := hends
    rw [Grammar.eval_any_lost hchoice, houtcome, if_pos (Source.failureOf_failed _ _ _ _ _)]
    rfl

theorem best_settles (hbalance : KeepsBalance child) (subs : List (Grammar V C))
    (hchild : ∀ g ∈ subs, Refines (Grammar.eval env fuel) child g) (hr : r.session.Ready)
    (h : Run.best child r.session.cursor subs.length none subs
      (r.onSession Session.pushFrame) = some s) :
    Settles (Grammar.eval env (fuel + 1)) (.best subs hook) hook r s := by
  obtain ⟨hcache, -, hclean, outcomes, context, heach, hends⟩ := best_evaluates hbalance
    r.session.cursor subs.length subs hchild none (r.onSession Session.pushFrame) s
    { start := r.session.cursor } r.session.frames rfl ⟨hr.boundary, hr.cacheFits, hr.clean⟩
    hr.boundary (by simp) h
  simp only [onSession_session, Session.pushFrame_source, onSession_context] at heach hends
  have hkept : keptOf none outcomes =
      (Outcome.longest outcomes).map fun o => (o.cursor, o.result) :=
    Outcome.longest_eq_foldl outcomes
  rw [hkept] at hends
  refine ⟨hcache, ?_⟩
  rw [hclean]
  cases hlongest : Outcome.longest outcomes with
  | some winner =>
    rw [hlongest] at hends
    have houtcome : s.outcome = { winner with context } := hends
    have hmatch : ¬ s.outcome.result.failed = true := by
      rw [houtcome]
      exact fun hw => Outcome.longest_matched hlongest hw
    rw [Grammar.eval_best_matched heach hlongest, if_neg hmatch, houtcome]
  | none =>
    rw [hlongest, Outcome.failuresOf_of_longest hlongest] at hends
    have houtcome : s.outcome = _ := hends
    rw [Grammar.eval_best_failed heach hlongest, houtcome,
      if_pos (Source.failureOf_failed _ _ _ _ _)]
    rfl

theorem optional_settles (hbalance : KeepsBalance child) (sub : Grammar V C)
    (hchild : Refines (Grammar.eval env fuel) child sub) (hr : r.session.Ready)
    (h : Run.optional child r.session.cursor sub (r.onSession Session.pushFrame) = some s) :
    Settles (Grammar.eval env (fuel + 1)) (.optional sub hook) hook r s := by
  obtain ⟨hcache, -, hclean, o, heval, houtcome⟩ := optional_evaluates hbalance sub hchild
    r.session.cursor (r.onSession Session.pushFrame) s
    ⟨hr.boundary, hr.cacheFits, hr.clean⟩ rfl h
  simp only [onSession_session, Session.pushFrame_source, onSession_context] at heval houtcome
  refine ⟨hcache, ?_⟩
  rw [hclean, houtcome]
  by_cases ho : o.result.failed = true
  · rw [Grammar.eval_optional_failed heval ho, if_pos ho, if_neg (Source.span_failed _ _ _ _ _)]
  · rw [Grammar.eval_optional_matched heval ho, if_neg ho, if_neg ho]

theorem repeated_settles (hbalance : KeepsBalance child) (sub : Grammar V C)
    (hchild : Refines (Grammar.eval env fuel) child sub) (min : Nat) (max : Option Nat)
    (hr : r.session.Ready)
    (h : Run.repeated child r.session.cursor sub min max fuel (r.onSession Session.pushFrame) =
      some s) :
    Settles (Grammar.eval env (fuel + 1)) (.repeated sub min max hook) hook r s ∧
      s.session.source = r.session.source ∧ s.session.Obeys r.session.cursor := by
  obtain ⟨hcache, hsource, hobeys, t, heval, hsubs, houtcome⟩ :=
    repeated_evaluates hbalance sub hchild min max fuel r s hr h
  refine ⟨⟨hcache, ?_⟩, hsource, hobeys⟩
  rw [houtcome, hsubs]
  by_cases hmin : min ≤ t.results.length
  · rw [Grammar.eval_repeated_matched heval hmin, if_pos hmin,
      if_neg (Source.span_failed _ _ _ _ _)]
  · rw [Grammar.eval_repeated_failed heval hmin, if_neg hmin,
      if_pos (Source.failureOf_failed _ _ _ _ _)]

end Run

/-- Every finished parse comes to what the evaluation gives. -/
theorem Grammar.parse_refines (env : Env V C) (henv : HookedEnv Script.Pure env) (fuel : Nat)
    (g : Grammar V C) (hg : g.HookedBy Script.Pure) :
    Run.Refines (Grammar.eval env fuel) (Grammar.parse env fuel) g := by
  have hkeeps : ∀ g' : Grammar V C, g'.HookedBy Script.Pure → g'.HookedBy Script.Modest :=
    fun g' h => h.mono fun hook hp => hp.1
  have hbalance := Grammar.parse_balanced env
  have hobeys := fun fuel g' hg' => Grammar.parse_obeys env
    (fun cell g' h => hkeeps g' (henv cell g' h)) fuel g' (hkeeps g' hg')
  induction fuel generalizing g with
  | zero => exact ⟨hobeys 0 g hg, fun r r' _ h => by simp [Grammar.parse] at h⟩
  | succ fuel ih =>
    refine ⟨hobeys (fuel + 1) g hg, ?_⟩
    intro r r' hr h
    have hs := hr.boundary
    cases hg with
    | primitive p hook hp =>
      obtain rfl := Option.some.inj h
      exact (Run.scan_settles p hr).finish hp hr (r.session.scan_obeys p hs)
    | all subs hook hsubs hp =>
      obtain ⟨s, hrun, rfl⟩ := Option.map_eq_some_iff.1 h
      refine Run.Settles.finish ?_ hp hr ?_
      · exact Run.all_settles (hbalance fuel) subs (fun g hg => ih g (hsubs g hg)) hr hrun
      · exact Run.all_obeys r.session.cursor subs (fun g hg => hobeys fuel g (hsubs g hg)) 0
          (r.onSession Session.pushFrame) s hs hs (Nat.le_refl _) hrun
    | any subs hook hsubs hp =>
      obtain ⟨s, hrun, rfl⟩ := Option.map_eq_some_iff.1 h
      refine Run.Settles.finish ?_ hp hr ?_
      · exact Run.any_settles (hbalance fuel) subs (fun g hg => ih g (hsubs g hg)) hr hrun
      · exact Run.any_obeys r.session.cursor subs.length subs
          (fun g hg => hobeys fuel g (hsubs g hg)) 0 (r.onSession Session.pushFrame) s hs hrun
    | best subs hook hsubs hp =>
      obtain ⟨s, hrun, rfl⟩ := Option.map_eq_some_iff.1 h
      refine Run.Settles.finish ?_ hp hr ?_
      · exact Run.best_settles (hbalance fuel) subs (fun g hg => ih g (hsubs g hg)) hr hrun
      · exact Run.best_obeys r.session.cursor subs.length subs
          (fun g hg => hobeys fuel g (hsubs g hg)) none (r.onSession Session.pushFrame) s hs
          (by simp) hrun
    | optional sub hook hsub hp =>
      obtain ⟨s, hrun, rfl⟩ := Option.map_eq_some_iff.1 h
      refine Run.Settles.finish ?_ hp hr ?_
      · exact Run.optional_settles (hbalance fuel) sub (ih sub hsub) hr hrun
      · exact Run.optional_obeys r.session.cursor sub (hobeys fuel sub hsub)
          (r.onSession Session.pushFrame) s hs rfl hrun
    | repeated sub min max hook hsub hp =>
      obtain ⟨s, hrun, rfl⟩ := Option.map_eq_some_iff.1 h
      obtain ⟨hsettles, hso⟩ :=
        Run.repeated_settles (hbalance fuel) sub (ih sub hsub) min max hr hrun
      exact hsettles.finish hp hr hso
    | reference cell owning =>
      simp only [Grammar.parse] at h
      simp only [Grammar.eval]
      cases hcell : env cell with
      | bound target =>
        rw [hcell] at h
        exact (ih target (henv cell target hcell)).evaluates r r' hr h
      | unbound =>
        rw [hcell] at h
        obtain rfl := Option.some.inj h
        exact r.unmatched_evaluates _ hr
      | dropped =>
        rw [hcell] at h
        obtain rfl := Option.some.inj h
        exact r.unmatched_evaluates _ hr

/-- A parse that ends comes to the outcome of the evaluation: its result, its cursor and its
context. The session is then ready for the next parse. -/
theorem parse_refines_eval (env : Env V C) (fuel : Nat) (g : Grammar V C) (r r' : Run V C)
    (hg : g.HookedBy Script.Pure) (henv : HookedEnv Script.Pure env) (hr : r.session.Ready)
    (h : g.parse env fuel r = some r') :
    (∀ fuel', fuel ≤ fuel' →
      Grammar.eval env fuel' r.session.source g r.session.cursor r.context =
        some ⟨r'.session.result, r'.session.cursor, r'.context⟩) ∧
      r'.session.Ready := by
  obtain ⟨heval, hready, -, -⟩ :=
    (Grammar.parse_refines env henv fuel g hg).run (Grammar.parse_balanced env fuel) hr h
  refine ⟨?_, hready⟩
  intro fuel' hle
  exact Grammar.eval_mono env r.session.source hle g r.session.cursor r.context r'.outcome heval

section Nesting

/-- Counts the pairs of parentheses in the context, and keeps the text as the value. -/
def countPair : Script Unit Nat :=
  .look fun v n => .setContext (n + 1) (.act (.setValue (.text v.result.text)) .done)

/-- A pair of parentheses around the parser of cell 0, or around nothing. -/
def pair : Grammar Unit Nat :=
  .all [.primitive (.literal ⟨"(", by decide⟩) .done, .optional (.reference 0 false) .done,
    .primitive (.literal ⟨")", by decide⟩) .done] countPair

def pairEnv : Env Unit Nat
  | 0 => .bound pair
  | _ => .unbound

theorem pair_pure : pair.HookedBy Script.Pure := by
  have hdone : Script.Pure (.done : Script Unit Nat) := ⟨trivial, trivial⟩
  refine .all _ _ (fun g hg => ?_) ⟨fun _ _ => ⟨trivial, trivial⟩, ?_, fun _ _ => trivial⟩
  · simp only [List.mem_cons, List.not_mem_nil, or_false] at hg
    rcases hg with rfl | rfl | rfl
    · exact .primitive _ _ hdone
    · exact .optional _ _ (.reference 0 false) hdone
    · exact .primitive _ _ hdone
  · intro v v' n hresult _
    dsimp only
    rw [hresult]

def beforePairs : Run Unit Nat :=
  ⟨{ source := ⟨"pairs", "x(())y"⟩, cursor := 1 }, 0, #[]⟩

/-- Two pairs, one in the other, are counted on a text that goes on after them. -/
theorem parse_refines_eval_pairs :
    ∃ r', pair.parse pairEnv 8 beforePairs = some r' ∧
      r'.session.result.errorAt = none ∧ r'.session.cursor = 5 ∧ r'.context = 2 ∧
      Grammar.eval pairEnv 8 ⟨"pairs", "x(())y"⟩ pair 1 0 =
        some ⟨r'.session.result, 5, 2⟩ := by
  have hends : (pair.parse pairEnv 8 beforePairs).map
      (fun r' => (r'.session.result.errorAt, r'.session.cursor, r'.context)) =
        some (none, 5, 2) := by
    decide +kernel
  obtain ⟨r', h, hends⟩ := Option.map_eq_some_iff.1 hends
  obtain ⟨herror, hcursor, hcontext⟩ :
      r'.session.result.errorAt = none ∧ r'.session.cursor = 5 ∧ r'.context = 2 := by
    simpa using hends
  have henv : HookedEnv Script.Pure pairEnv := by
    intro cell g hg
    match cell with
    | 0 => obtain rfl := Target.bound.inj hg; exact pair_pure
  have hready : beforePairs.session.Ready := ⟨by decide, Session.cacheFits_fresh rfl, rfl⟩
  have heval := (parse_refines_eval pairEnv 8 pair beforePairs r' pair_pure henv hready h).1 8
    (Nat.le_refl 8)
  rw [hcursor, hcontext] at heval
  exact ⟨r', h, herror, hcursor, hcontext, heval⟩

end Nesting

end Descent
