import Descent.Proofs.Balance
import Descent.Proofs.Scanning

/-!
# The contract of a parse

A parse that matches has gone from its start to a later boundary, and its
result is the text between the two. A parse that fails is back at its start,
and its feedback names the place of the failure. Hooks that set values, add
feedback and reject do not break this, at any node of any grammar.
-/
namespace Descent

variable {V C : Type}

namespace Result

/-- A match of the text from `start` to `stop`. -/
structure Spans (source : Source) (start stop : Nat) (r : Result V) : Prop where
  errorAt : r.errorAt = none
  position : r.position = start
  start_le : start ≤ stop
  boundary : IsBoundary stop source.chars
  text : r.text = source.textBetween start stop

/-- A failure of an attempt at `start`. -/
structure Misses (source : Source) (start : Nat) (r : Result V) : Prop where
  position : r.position = start
  text : r.text = ""
  fault : ∃ e, r.errorAt = some e ∧ start ≤ e ∧ e ≤ source.size ∧
    ∃ item ∈ r.feedback, item.kind = .error ∧ item.offset = e

theorem Spans.failed {source : Source} {start stop : Nat} {r : Result V}
    (h : r.Spans source start stop) : r.failed = false := by
  simp [h.errorAt]

theorem Misses.failed {source : Source} {start : Nat} {r : Result V}
    (h : r.Misses source start) : r.failed = true := by
  obtain ⟨e, he, -⟩ := h.fault
  simp [Result.failed, he]

theorem Misses.mono {source : Source} {start start' : Nat} {r : Result V}
    (h : r.Misses source start') (hle : start ≤ start') :
    Misses source start { r with position := start } := by
  obtain ⟨e, he, hs, hsize, hitem⟩ := h.fault
  exact ⟨rfl, h.text, e, he, by omega, hsize, hitem⟩

theorem Misses.addFeedback {source : Source} {start : Nat} {r : Result V}
    (h : r.Misses source start) (items : List Feedback.Item) :
    Misses source start { r with feedback := r.feedback ++ items } := by
  obtain ⟨e, he, hs, hsize, item, hitem, hkind⟩ := h.fault
  exact ⟨h.position, h.text, e, he, hs, hsize, item, List.mem_append_left _ hitem, hkind⟩

end Result

namespace Session

/-- The session after a parse that began at `start`. -/
def Obeys (s : Session V) (start : Nat) : Prop :=
  s.result.Spans s.source start s.cursor ∨
    (s.cursor = start ∧ s.result.Misses s.source start)

variable {s : Session V} {start : Nat}

theorem Obeys.congr {t : Session V} (hs : t.source = s.source) (hc : t.cursor = s.cursor)
    (hr : t.result = s.result) (h : s.Obeys start) : t.Obeys start := by
  unfold Obeys
  rw [hs, hc, hr]
  exact h

theorem Obeys.spans (h : s.Obeys start) (hr : s.result.failed = false) :
    s.result.Spans s.source start s.cursor := by
  rcases h with h | ⟨-, h⟩
  · exact h
  · rw [h.failed] at hr; cases hr

theorem Obeys.misses (h : s.Obeys start) (hr : s.result.failed = true) :
    s.cursor = start ∧ s.result.Misses s.source start := by
  rcases h with h | h
  · rw [h.failed] at hr; cases hr
  · exact h

/-- Either way the cursor is on a boundary again, and not before the start. -/
theorem Obeys.boundary (h : s.Obeys start) (hb : IsBoundary start s.source.chars) :
    IsBoundary s.cursor s.source.chars ∧ start ≤ s.cursor := by
  rcases h with h | ⟨hc, -⟩
  · exact ⟨h.boundary, h.start_le⟩
  · rw [hc]; exact ⟨hb, Nat.le_refl _⟩

theorem matched_spans (n : Nat) (h : IsBoundary (s.cursor + n) s.source.chars) :
    (s.matched n).result.Spans s.source s.cursor (s.matched n).cursor := by
  have hle := s.source.le_size h
  have hmin : min (s.cursor + n) s.source.size = s.cursor + n := by omega
  rw [matched_cursor, hmin]
  exact ⟨rfl, rfl, by omega, h, by simp [hmin]⟩

theorem unmatched_misses (delta : Nat) (message : String) (cause : Option String)
    (h : s.cursor + delta ≤ s.source.size) :
    (s.unmatched delta message cause).result.Misses s.source s.cursor := by
  rw [unmatched_result]
  exact ⟨rfl, rfl, s.cursor + delta, rfl, by omega, h, _, List.mem_singleton.2 rfl,
    rfl, rfl⟩

theorem reject_misses (message : String) (hp : s.result.position = start)
    (hle : start ≤ s.source.size) :
    (s.reject message).cursor = start ∧ (s.reject message).result.Misses s.source start := by
  subst hp
  rw [reject_cursor, reject_result]
  refine ⟨by omega, rfl, rfl, s.result.position, rfl, Nat.le_refl _, hle, _,
    List.mem_append_right _ (List.mem_singleton.2 rfl), rfl, rfl⟩

end Session

namespace Script

/-- After a rejection a hook may still talk, but the failure stays. -/
theorem run_misses (hook : Script V C) (start : Nat) (s : Session V) (c : C) (hm : hook.Modest)
    (hle : start ≤ s.source.size)
    (h : s.cursor = start ∧ s.result.Misses s.source start) :
    (hook.run s c).1.cursor = start ∧
      (hook.run s c).1.result.Misses s.source start := by
  induction hook generalizing s c with
  | done => exact h
  | act action next ih =>
    have hstep : (action.perform s).cursor = start ∧
        (action.perform s).result.Misses s.source start := by
      cases action with
      | setValue value => exact ⟨h.1, h.2.position, h.2.text, h.2.fault⟩
      | note kind offset message cause =>
        simpa [Action.perform, h.1] using h.2.addFeedback _
      | reject message => exact Session.reject_misses message h.2.position hle
      | _ => exact absurd hm.1 id
    simpa using ih (action.perform s) c hm.2 (by simpa using hle) (by simpa using hstep)
  | setContext c' next ih => exact ih s c' hm hle h
  | look next ih => exact ih _ _ s c (hm _ _) hle h
  | locate offset next ih =>
    simpa using ih (s.locate offset).1 (s.locate offset).2 c (hm _)
      (by simpa using hle) (by simpa using h)
  | report next ih => exact ih _ s c (hm _) hle h

/-- A hook leaves a match as it is, or makes a failure at its start of it. -/
theorem run_obeys (hook : Script V C) (start : Nat) (s : Session V) (c : C) (hm : hook.Modest)
    (hle : start ≤ s.source.size)
    (h : s.result.Spans s.source start s.cursor) :
    (hook.run s c).1.Obeys start := by
  induction hook generalizing s c with
  | done => exact Or.inl h
  | act action next ih =>
    cases action with
    | setValue value =>
      exact ih { s with result.value := value } c hm.2 hle
        ⟨h.errorAt, h.position, h.start_le, h.boundary, h.text⟩
    | note kind offset message cause =>
      refine ih (s.note kind offset message cause) c hm.2 (by simpa using hle) ?_
      rw [Session.note_result, Session.note_source, Session.note_cursor]
      exact ⟨h.errorAt, h.position, h.start_le, h.boundary, h.text⟩
    | reject message =>
      have hr := Session.reject_misses message h.position hle
      have hrun := run_misses next start (s.reject message) c hm.2 (by simpa using hle)
        (by simpa using hr)
      exact Or.inr (by simpa [Action.perform] using hrun)
    | _ => exact absurd hm.1 id
  | setContext c' next ih => exact ih s c' hm hle h
  | look next ih => exact ih _ _ s c (hm _ _) hle h
  | locate offset next ih =>
    exact ih (s.locate offset).1 (s.locate offset).2 c (hm _)
      (by simpa using hle) (by simpa using h)
  | report next ih => exact ih _ s c (hm _) hle h

end Script

namespace Run

/-- A child that begins on a boundary keeps the source and obeys the contract. -/
def ObeysAs (child : Runner V C) (g : Grammar V C) : Prop :=
  ∀ r r', IsBoundary r.session.cursor r.session.source.chars → child g r = some r' →
    r'.session.source = r.session.source ∧ r'.session.Obeys r.session.cursor

theorem finish_obeys (hook : Script V C) (start : Nat) (r : Run V C) (hm : hook.Modest)
    (hb : IsBoundary start r.session.source.chars) (h : r.session.Obeys start) :
    (r.finish hook).session.Obeys start := by
  unfold finish
  split
  · exact h.congr rfl rfl rfl
  · next hr =>
    have hspans := h.spans (by simpa [Run.failed] using hr)
    exact (Script.run_obeys hook start r.session r.context hm
      (r.session.source.le_size hb) hspans).congr rfl rfl rfl

section Loops

variable {child : Runner V C} (start n : Nat)

theorem all_obeys (gs : List (Grammar V C)) (hchild : ∀ g ∈ gs, ObeysAs child g) (i : Nat)
    (r r' : Run V C) (hs : IsBoundary start r.session.source.chars)
    (hc : IsBoundary r.session.cursor r.session.source.chars) (hle : start ≤ r.session.cursor)
    (h : Run.all child start i gs r = some r') :
    r'.session.source = r.session.source ∧ r'.session.Obeys start := by
  induction gs generalizing i r with
  | nil =>
    obtain rfl := Option.some.inj h
    have hstart : min start r.session.source.size = start := by
      have := r.session.source.le_size hs; omega
    have hspans := Session.matched_spans (s := (r.session.moveTo start).popFrame)
      (r.session.cursor - start) (by simpa [hstart, Nat.add_sub_of_le hle] using hc)
    simp only [Session.popFrame_cursor, Session.moveTo_cursor, hstart] at hspans
    exact ⟨by simp, Or.inl
      ⟨hspans.errorAt, hspans.position, hspans.start_le, hspans.boundary, hspans.text⟩⟩
  | cons g gs ih =>
    obtain ⟨s, hchild', h⟩ := Option.bind_eq_some_iff.1 h
    obtain ⟨hsource, hobeys⟩ := hchild g List.mem_cons_self r s hc hchild'
    split at h
    · next hr =>
      obtain rfl := Option.some.inj h
      obtain ⟨-, hmiss⟩ := hobeys.misses hr
      have hsize := s.session.source.le_size (hsource ▸ hs)
      exact ⟨hsource, Or.inr ⟨by simp; omega, hmiss.mono hle⟩⟩
    · next hr =>
      have hspans := hobeys.spans (by simpa [Run.failed] using hr)
      obtain ⟨hsource', hobeys'⟩ := ih (fun g' hg' => hchild g' (List.mem_cons_of_mem _ hg'))
        (i + 1) (s.onSession Session.collect) (by simpa [hsource] using hs)
        (by simpa using hspans.boundary)
        (by simpa using Nat.le_trans hle hspans.start_le) h
      exact ⟨by simpa [hsource] using hsource', hobeys'⟩

/-- What is left when every alternative has failed. -/
theorem giveUp_obeys (s : Session V) (message : String) (items : List Feedback.Item)
    (hs : IsBoundary start s.source.chars) :
    (((s.moveTo start).unmatched 0 message none).addFeedback items).Obeys start := by
  have hsize := s.source.le_size hs
  have hstart : (s.moveTo start).cursor = start := by simp; omega
  have hmiss := Session.unmatched_misses (s := s.moveTo start) 0 message none
    (by rw [hstart]; exact hsize)
  rw [hstart] at hmiss
  exact Or.inr ⟨by simpa [Session.addFeedback] using hstart, by
    simpa [Session.addFeedback] using hmiss.addFeedback items⟩

theorem any_obeys (gs : List (Grammar V C)) (hchild : ∀ g ∈ gs, ObeysAs child g) (i : Nat)
    (r r' : Run V C) (hs : IsBoundary start r.session.source.chars)
    (h : Run.any child start n i gs r = some r') :
    r'.session.source = r.session.source ∧ r'.session.Obeys start := by
  induction gs generalizing i r with
  | nil =>
    obtain rfl := Option.some.inj h
    exact ⟨by simp, giveUp_obeys start r.session.popFrame _ _ hs⟩
  | cons g gs ih =>
    obtain ⟨s, hchild', h⟩ := Option.bind_eq_some_iff.1 h
    have hsize := r.session.source.le_size hs
    have hstart : min start r.session.source.size = start := by omega
    obtain ⟨hsource, hobeys⟩ := hchild g List.mem_cons_self (r.onSession (Session.moveTo start)) s
      (by simpa [hstart] using hs) hchild'
    simp only [onSession_session, Session.moveTo_source, Session.moveTo_cursor, hstart]
      at hsource hobeys
    split at h
    · obtain ⟨hsource', hobeys'⟩ := ih (fun g' hg' => hchild g' (List.mem_cons_of_mem _ hg'))
        (i + 1) (s.onSession Session.collect) (by simpa [hsource] using hs) h
      exact ⟨by simpa [hsource] using hsource', hobeys'⟩
    · obtain rfl := Option.some.inj h
      exact ⟨by simpa using hsource, hobeys.congr rfl rfl rfl⟩

theorem best_obeys (gs : List (Grammar V C)) (hchild : ∀ g ∈ gs, ObeysAs child g)
    (found : Option (Nat × Result V)) (r r' : Run V C)
    (hs : IsBoundary start r.session.source.chars)
    (hfound : ∀ stop result, found = some (stop, result) →
      result.Spans r.session.source start stop)
    (h : Run.best child start n found gs r = some r') :
    r'.session.source = r.session.source ∧ r'.session.Obeys start := by
  have hsize := r.session.source.le_size hs
  have hstart : min start r.session.source.size = start := by omega
  induction gs generalizing found r with
  | nil =>
    cases found with
    | none =>
      obtain rfl := Option.some.inj h
      exact ⟨by simp, giveUp_obeys start r.session.popFrame _ _ hs⟩
    | some found =>
      obtain ⟨stop, result⟩ := found
      obtain rfl := Option.some.inj h
      have hspans := hfound stop result rfl
      have hstop : min stop r.session.source.size = stop := by
        have := r.session.source.le_size hspans.boundary; omega
      exact ⟨by simp, Or.inl (by simpa [hstop] using hspans)⟩
  | cons g gs ih =>
    obtain ⟨s, hchild', h⟩ := Option.bind_eq_some_iff.1 h
    obtain ⟨hsource, hobeys⟩ := hchild g List.mem_cons_self (r.onSession (Session.moveTo start)) s
      (by simpa [hstart] using hs) hchild'
    simp only [onSession_session, Session.moveTo_source, Session.moveTo_cursor, hstart]
      at hsource hobeys
    have hrest := fun g' hg' => hchild g' (List.mem_cons_of_mem g hg')
    split at h
    · obtain ⟨hsource', hobeys'⟩ := ih hrest found (s.onSession Session.collect)
        (by simpa [hsource] using hs) (by simpa [hsource] using hfound) h
        (by simpa [hsource] using hsize) (by simpa [hsource] using hstart)
      exact ⟨by simpa [hsource] using hsource', hobeys'⟩
    · next hr =>
      have hspans := hobeys.spans (by simpa [Run.failed] using hr)
      rw [← hsource] at hfound
      obtain ⟨hsource', hobeys'⟩ := ih hrest _ (s.onSession fun s => { s with result := {} })
        (by simpa [hsource] using hs) (further_keeps hfound hspans) h
        (by simpa [hsource] using hsize) (by simpa [hsource] using hstart)
      exact ⟨by simpa [hsource] using hsource', hobeys'⟩

theorem optional_obeys (g : Grammar V C) (hchild : ObeysAs child g) (r r' : Run V C)
    (hs : IsBoundary start r.session.source.chars) (hc : r.session.cursor = start)
    (h : Run.optional child start g r = some r') :
    r'.session.source = r.session.source ∧ r'.session.Obeys start := by
  obtain ⟨s, hchild', h⟩ := Option.bind_eq_some_iff.1 h
  obtain ⟨hsource, hobeys⟩ := hchild r s (by rwa [hc]) hchild'
  rw [hc] at hobeys
  dsimp only at h
  split at h
  · obtain rfl := Option.some.inj h
    have hsize := r.session.source.le_size hs
    have hstart : min start s.session.source.size = start := by rw [hsource]; omega
    refine ⟨by simpa using hsource, Or.inl ?_⟩
    simp only [onSession_session, Session.moveTo_result, Session.moveTo_cursor,
      Session.moveTo_source, emit_session, Session.popFrame_source, hstart]
    exact ⟨rfl, rfl, Nat.le_refl _, by rwa [hsource], by simp⟩
  · obtain rfl := Option.some.inj h
    exact ⟨by simpa using hsource, hobeys.congr rfl rfl rfl⟩

/-- The rounds of a repetition leave the cursor on a boundary that is not before the start. -/
theorem rounds_boundary (g : Grammar V C) (hchild : ObeysAs child g) (min : Nat)
    (max : Option Nat) (fuel count : Nat) (r r' : Run V C) (count' : Nat)
    (failure : Option (Result V)) (hc : IsBoundary r.session.cursor r.session.source.chars)
    (hle : start ≤ r.session.cursor)
    (h : rounds child g min max fuel count r = some (r', count', failure)) :
    r'.session.source = r.session.source ∧
      IsBoundary r'.session.cursor r.session.source.chars ∧ start ≤ r'.session.cursor := by
  induction fuel generalizing count r with
  | zero => simp [rounds] at h
  | succ fuel ih =>
    unfold rounds at h
    split at h
    · obtain ⟨s, hchild', h⟩ := Option.bind_eq_some_iff.1 h
      obtain ⟨hsource, hobeys⟩ := hchild r s hc hchild'
      have hbound := hobeys.boundary (hsource ▸ hc)
      rw [hsource] at hbound
      split at h
      · obtain ⟨rfl, -, -⟩ : _ = r' ∧ _ := by simpa using h
        exact ⟨hsource, hbound.1, Nat.le_trans hle hbound.2⟩
      · dsimp only at h
        split at h
        · obtain ⟨rfl, -, -⟩ : _ = r' ∧ _ := by simpa using h
          exact ⟨by simpa using hsource, by simpa using hbound.1,
            by simpa using Nat.le_trans hle hbound.2⟩
        · have hnext := ih (count + 1) (s.onSession Session.collect)
            (by simpa [hsource] using hbound.1) (by simpa using Nat.le_trans hle hbound.2) h
          simpa [hsource] using hnext
    · obtain ⟨rfl, -, -⟩ : r = r' ∧ _ := by simpa using h
      exact ⟨rfl, hc, hle⟩

theorem conclude_obeys (min : Nat) (max : Option Nat) (count : Nat) (failure : Option (Result V))
    (r : Run V C) (hc : IsBoundary r.session.cursor r.session.source.chars)
    (hle : start ≤ r.session.cursor) :
    (r.conclude start min max count failure).session.source = r.session.source ∧
      (r.conclude start min max count failure).session.Obeys start := by
  have hsize := r.session.source.le_size hc
  have hcursor : (r.session.moveTo start).popFrame.cursor = start := by simp; omega
  refine ⟨(conclude_closed start min max count failure r).1, ?_⟩
  unfold conclude
  dsimp only
  split
  · have hspans := Session.matched_spans (s := (r.session.moveTo start).popFrame)
      (r.session.cursor - start) (by rw [hcursor, Nat.add_sub_of_le hle]; exact hc)
    rw [hcursor] at hspans
    refine Or.inl ?_
    simp only [onSession_session, emit_session]
    split
    · exact ⟨hspans.errorAt, hspans.position, hspans.start_le, hspans.boundary, hspans.text⟩
    · unfold Session.gatherOne
      split
      · exact hspans
      · exact ⟨hspans.errorAt, hspans.position, hspans.start_le, hspans.boundary, hspans.text⟩
  · have hmiss := Session.unmatched_misses (s := (r.session.moveTo start).popFrame)
      (r.session.cursor - start)
      s!"at least {min} matches expected but got only {count}" none
      (by rw [hcursor]; simp; omega)
    rw [hcursor] at hmiss
    exact Or.inr ⟨by simpa [Session.addFeedback] using hcursor, by
      simpa [Session.addFeedback] using hmiss.addFeedback _⟩

end Loops

end Run

/-- A primitive obeys the contract before its hook runs. -/
theorem Session.scan_obeys (s : Session V) (p : Primitive)
    (hc : IsBoundary s.cursor s.source.chars) :
    (s.scan p).source = s.source ∧ (s.scan p).Obeys s.cursor := by
  unfold Session.scan
  split
  · next found hfound =>
    have hspans := matched_spans found.length
      (s.source.isBoundary_add hc (p.scan_isBoundary s.rest found hfound))
    exact ⟨rfl, Or.inl
      ⟨hspans.errorAt, hspans.position, hspans.start_le, hspans.boundary, hspans.text⟩⟩
  · next miss hmiss =>
    have hdelta := p.scan_delta_le s.rest miss hmiss
    have hrest := s.source.add_byteLength_restFrom hc
    have hsize : s.cursor + miss.delta ≤ s.source.size := by
      unfold Session.rest at hdelta; omega
    exact ⟨by simp, Or.inr ⟨by simp, by
      simpa using unmatched_misses miss.delta miss.message miss.cause hsize⟩⟩

/-- The contract holds at every node of a grammar that ends. -/
theorem Grammar.parse_obeys (env : Env V C) (henv : HookedEnv Script.Modest env) (fuel : Nat)
    (g : Grammar V C) (hg : g.HookedBy Script.Modest) : Run.ObeysAs (Grammar.parse env fuel) g := by
  induction fuel generalizing g with
  | zero => intro r r' _ h; simp [Grammar.parse] at h
  | succ fuel ih =>
    intro r r' hc h
    have hclose : ∀ (hook : Script V C) (s : Run V C), hook.Modest →
        s.session.source = r.session.source ∧ s.session.Obeys r.session.cursor →
        (s.finish hook).session.source = r.session.source ∧
          (s.finish hook).session.Obeys r.session.cursor := by
      intro hook s hp hs
      exact ⟨(Run.finish_balanced hook s).1.trans hs.1,
        Run.finish_obeys hook r.session.cursor s hp (hs.1 ▸ hc) hs.2⟩
    cases hg with
    | primitive p hook hp =>
      obtain rfl := Option.some.inj h
      exact hclose hook _ hp (r.session.scan_obeys p hc)
    | all subs hook hsubs hp =>
      obtain ⟨s, hs, rfl⟩ := Option.map_eq_some_iff.1 h
      exact hclose hook s hp
        (Run.all_obeys r.session.cursor subs (fun g hg => ih g (hsubs g hg)) 0
          (r.onSession Session.pushFrame) s hc hc (Nat.le_refl _) hs)
    | any subs hook hsubs hp =>
      obtain ⟨s, hs, rfl⟩ := Option.map_eq_some_iff.1 h
      exact hclose hook s hp
        (Run.any_obeys r.session.cursor _ subs (fun g hg => ih g (hsubs g hg)) 0
          (r.onSession Session.pushFrame) s hc hs)
    | best subs hook hsubs hp =>
      obtain ⟨s, hs, rfl⟩ := Option.map_eq_some_iff.1 h
      exact hclose hook s hp
        (Run.best_obeys r.session.cursor _ subs (fun g hg => ih g (hsubs g hg)) none
          (r.onSession Session.pushFrame) s hc (by simp) hs)
    | optional sub hook hsub hp =>
      obtain ⟨s, hs, rfl⟩ := Option.map_eq_some_iff.1 h
      exact hclose hook s hp
        (Run.optional_obeys r.session.cursor sub (ih sub hsub)
          (r.onSession Session.pushFrame) s hc rfl hs)
    | repeated sub min max hook hsub hp =>
      obtain ⟨s, hs, rfl⟩ := Option.map_eq_some_iff.1 h
      obtain ⟨⟨t, count, failure⟩, ht, hs⟩ := Option.bind_eq_some_iff.1 hs
      obtain rfl := Option.some.inj hs
      obtain ⟨hsource, hbound, hle⟩ := Run.rounds_boundary r.session.cursor sub (ih sub hsub) min
        max fuel 0 (r.onSession Session.pushFrame) t count failure hc (Nat.le_refl _) ht
      have hsource : t.session.source = r.session.source := hsource
      have hconclude := Run.conclude_obeys r.session.cursor min max count failure
        t (hsource ▸ hbound) hle
      exact hclose hook _ hp ⟨hconclude.1.trans hsource, hconclude.2⟩
    | reference cell owning =>
      have hmisses := fun message => Session.unmatched_misses 0 message none
        (r.session.source.le_size hc)
      simp only [Grammar.parse] at h
      split at h
      · next target htarget => exact ih target (henv cell target htarget) r r' hc h
      · obtain rfl := Option.some.inj h
        exact ⟨by simp, Or.inr ⟨by simp, by simpa using hmisses _⟩⟩
      · obtain rfl := Option.some.inj h
        exact ⟨by simp, Or.inr ⟨by simp, by simpa using hmisses _⟩⟩

end Descent
