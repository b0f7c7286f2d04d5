import Descent.Proofs.Alignment
import Descent.Proofs.Balance
import Descent.Proofs.Fuel

/-!
# What a parse depends on

A parse without hooks depends on the text after the cursor only. At two places
with the same text after them it goes the same way step by step, and what it
leaves differs in offsets and locations only. Neither the text before the
cursor nor anything else in the session makes a difference.
-/
namespace Descent

variable {V C : Type}

namespace Place

/-- Runs at aligned cursors, whose traces have grown by the same events. -/
structure Ready (a b : Place) (before before' : List Event) (r s : Run V C) : Prop where
  sessions : Sessions a b r.session s.session
  traces : ∃ events : List Event,
    r.trace.toList = before ++ events.map (Event.after a.offset) ∧
    s.trace.toList = before' ++ events.map (Event.after b.offset)

/-- Runs that are ready and have aligned results. -/
structure Done (a b : Place) (before before' : List Event) (r s : Run V C) : Prop
    extends Ready a b before before' r s where
  result : AlignedResults a b r.session.result s.session.result

/-- Runs that are ready and have a frame open, with aligned results in it. -/
structure Open (a b : Place) (before before' : List Event) (r s : Run V C) : Prop
    extends Ready a b before before' r s where
  left : r.session.frames ≠ []
  right : s.session.frames ≠ []
  collected : List.Forall₂ (AlignedResults a b) r.session.collected s.session.collected

section Steps

variable {a b : Place} {before before' : List Event} {r s r' s' : Run V C}

theorem Ready.onSession (h : Ready a b before before' r s) {f g : Session V → Session V}
    (hfg : Sessions a b (f r.session) (g s.session)) :
    Ready a b before before' (r.onSession f) (s.onSession g) := ⟨hfg, h.traces⟩

theorem Ready.settle (h : Ready a b before before' r s) {f g : Session V → Session V}
    (hfg : Settled a b (f r.session) (g s.session)) :
    Done a b before before' (r.onSession f) (s.onSession g) :=
  ⟨h.onSession hfg.toSessions, hfg.result⟩

/-- A combinator goes back to its start and closes its frame. -/
theorem Ready.back (hab : Parallel a b) (h : Ready a b before before' r s) {m n : Nat}
    (hmn : Aligned a b m n) :
    Ready a b before before' (r.onSession fun s => (s.moveTo m).popFrame)
      (s.onSession fun s => (s.moveTo n).popFrame) :=
  h.onSession (h.sessions.back hab hmn)

theorem Ready.emit (h : Ready a b before before' r s) (e : Event) :
    Ready a b before before' (r.emit (e.after a.offset)) (s.emit (e.after b.offset)) := by
  obtain ⟨events, hr, hs⟩ := h.traces
  exact ⟨h.sessions, events ++ [e], by simp [Run.emit, hr], by simp [Run.emit, hs]⟩

theorem Done.settled (h : Done a b before before' r s) : Settled a b r.session s.session :=
  ⟨h.sessions, h.result⟩

theorem Done.failed_eq (h : Done a b before before' r s) : r.failed = s.failed :=
  h.result.failed_eq

theorem Ready.pushFrame (h : Ready a b before before' r s) :
    Open a b before before' (r.onSession Session.pushFrame) (s.onSession Session.pushFrame) :=
  ⟨h.onSession (h.sessions.congr ⟨rfl, rfl, rfl⟩ ⟨rfl, rfl, rfl⟩), List.cons_ne_nil _ _,
    List.cons_ne_nil _ _, .nil⟩

/-- A child leaves the open frame as it was. -/
theorem Open.child (h : Open a b before before' r s) (hdone : Done a b before before' r' s')
    (hr : Run.Balanced r r') (hs : Run.Balanced s s') : Open a b before before' r' s' where
  toReady := hdone.toReady
  left := hr.2 ▸ h.left
  right := hs.2 ▸ h.right
  collected := by
    rw [Session.collected, Session.collected, hr.2, hs.2]
    exact h.collected

theorem Open.collect (h : Open a b before before' r s)
    (hresult : AlignedResults a b r.session.result s.session.result) :
    Open a b before before' (r.onSession Session.collect) (s.onSession Session.collect) where
  toReady := h.onSession (h.sessions.congr ⟨rfl, rfl, rfl⟩ ⟨rfl, rfl, rfl⟩)
  left := Session.collect_frames_ne_nil _ h.left
  right := Session.collect_frames_ne_nil _ h.right
  collected := by
    rw [Run.onSession_session, Run.onSession_session, Session.collected_collect _ h.left,
      Session.collected_collect _ h.right]
    exact List.rel_append h.collected (.cons hresult .nil)

theorem Open.moveTo (hab : Parallel a b) (h : Open a b before before' r s) {m n : Nat}
    (hmn : Aligned a b m n) : Open a b before before' (r.onSession (Session.moveTo m))
      (s.onSession (Session.moveTo n)) :=
  ⟨h.onSession (h.sessions.moveTo hab hmn), h.left, h.right, h.collected⟩

theorem Open.clear (h : Open a b before before' r s) :
    Open a b before before' (r.onSession fun s => { s with result := {} })
      (s.onSession fun s => { s with result := {} }) :=
  ⟨h.onSession (h.sessions.congr ⟨rfl, rfl, rfl⟩ ⟨rfl, rfl, rfl⟩), h.left, h.right, h.collected⟩

theorem Done.subResults (h : Done a b before before' r s) (us vs : List (Result V)) :
    Done a b before before' (r.onSession fun s => { s with subResults := us })
      (s.onSession fun s => { s with subResults := vs }) :=
  h.settle (h.settled.subResults us vs)

/-- After the end of a combinator its hook, which does nothing, and the children's results. -/
theorem Done.finish (h : Done a b before before' r s) :
    Done a b before before' (r.finish .done) (s.finish .done) := by
  rw [Run.finish_done, Run.finish_done]
  exact h.subResults [] []

end Steps

section Loops

variable (a b : Place) (before before' : List Event)

/-- At aligned cursors the child goes the same way. -/
def Lockstep (child : Run.Runner V C) (g : Grammar V C) : Prop :=
  ∀ r s, Ready a b before before' r s →
    Option.Rel (Done a b before before') (child g r) (child g s)

variable {a b before before'} {child : Run.Runner V C} (hbalance : Run.KeepsBalance child)
  (hab : Parallel a b) (d n : Nat)

include hbalance hab

theorem all_lockstep (gs : List (Grammar V C))
    (hchild : ∀ g ∈ gs, Lockstep a b before before' child g) (i : Nat) (r s : Run V C)
    (h : Open a b before before' r s) :
    Option.Rel (Done a b before before') (Run.all child (a.offset + d) i gs r)
      (Run.all child (b.offset + d) i gs s) := by
  have hstart : Aligned a b (a.offset + d) (b.offset + d) := ⟨d, rfl, rfl⟩
  induction gs generalizing i r s with
  | nil =>
    have hback := h.sessions.back hab hstart
    rw [Run.all, Run.all, h.sessions.cursor.sub_eq hstart]
    exact .some (((h.back hab hstart).emit (.allMatched d _)).settle
      (((hback.matched hab _).gather h.collected).subResults _ _))
  | cons g gs ih =>
    rw [Run.all, Run.all]
    refine bind_rel (hchild g List.mem_cons_self r s h.toReady) fun r' s' hr hs hdone => ?_
    have hopen := h.child hdone (hbalance g r r' hr) (hbalance g s s' hs)
    rw [hdone.failed_eq]
    split
    · have hpopped : Sessions a b r'.session.popFrame s'.session.popFrame :=
        hdone.sessions.congr ⟨rfl, rfl, rfl⟩ ⟨rfl, rfl, rfl⟩
      exact .some ((hdone.emit (.allFailed d i)).settle ⟨(hpopped.moveTo hab hstart).congr
        ⟨rfl, rfl, rfl⟩ ⟨rfl, rfl, rfl⟩, { hdone.result with position := hstart }⟩)
    · exact ih (fun g' hg' => hchild g' (List.mem_cons_of_mem g hg')) (i + 1) _ _
        (hopen.collect hdone.result)

omit hbalance in
theorem giveUp_settled {m k : Nat} (hmk : Aligned a b m k) (message : String) {s t : Session V}
    (h : Sessions a b s t) {is js : List Feedback.Item}
    (hitems : List.Forall₂ (AlignedItems a b) is js) :
    Settled a b (((s.moveTo m).unmatched 0 message none).addFeedback is)
      (((t.moveTo k).unmatched 0 message none).addFeedback js) :=
  ((h.moveTo hab hmk).unmatched 0 message none).addFeedback hitems

theorem any_lockstep (gs : List (Grammar V C))
    (hchild : ∀ g ∈ gs, Lockstep a b before before' child g) (i : Nat) (r s : Run V C)
    (h : Open a b before before' r s) :
    Option.Rel (Done a b before before') (Run.any child (a.offset + d) n i gs r)
      (Run.any child (b.offset + d) n i gs s) := by
  have hstart : Aligned a b (a.offset + d) (b.offset + d) := ⟨d, rfl, rfl⟩
  induction gs generalizing i r s with
  | nil =>
    have hpopped : Sessions a b r.session.popFrame s.session.popFrame :=
      h.sessions.congr ⟨rfl, rfl, rfl⟩ ⟨rfl, rfl, rfl⟩
    exact .some ((h.emit (.anyFailed d n)).settle
      (giveUp_settled hab hstart _ hpopped (aligned_feedback h.collected)))
  | cons g gs ih =>
    rw [Run.any, Run.any]
    have hmoved := h.moveTo hab hstart
    refine bind_rel (hchild g List.mem_cons_self _ _ hmoved.toReady) fun r' s' hr hs hdone => ?_
    have hopen := hmoved.child hdone (hbalance g _ r' hr) (hbalance g _ s' hs)
    rw [hdone.failed_eq]
    split
    · exact ih (fun g' hg' => hchild g' (List.mem_cons_of_mem g hg')) (i + 1) _ _
        (hopen.collect hdone.result)
    · exact .some ((hdone.emit (.anyMatched d i)).settle
        ⟨hdone.sessions.congr ⟨rfl, rfl, rfl⟩ ⟨rfl, rfl, rfl⟩, hdone.result⟩)

/-- The best matches so far end at aligned offsets. -/
def AlignedFound (a b : Place) (x y : Nat × Result V) : Prop :=
  Aligned a b x.1 y.1 ∧ AlignedResults a b x.2 y.2

omit hbalance hab in
theorem further_aligned {x y : Option (Nat × Result V)} (h : Option.Rel (AlignedFound a b) x y)
    {m k : Nat} (hmk : Aligned a b m k) {u v : Result V} (huv : AlignedResults a b u v) :
    Option.Rel (AlignedFound a b) (Run.further x m u) (Run.further y k v) := by
  cases h with
  | none => exact .some ⟨hmk, huv⟩
  | @some x y h =>
    have hiff := h.1.lt_iff hmk
    by_cases hlt : x.1 < m
    · simp only [Run.further, if_pos hlt, if_pos (hiff.1 hlt)]
      exact .some ⟨hmk, huv⟩
    · simp only [Run.further, if_neg hlt, if_neg (mt hiff.2 hlt)]
      exact .some h

theorem best_lockstep (gs : List (Grammar V C))
    (hchild : ∀ g ∈ gs, Lockstep a b before before' child g) {x y : Option (Nat × Result V)}
    (hfound : Option.Rel (AlignedFound a b) x y) (r s : Run V C)
    (h : Open a b before before' r s) :
    Option.Rel (Done a b before before') (Run.best child (a.offset + d) n x gs r)
      (Run.best child (b.offset + d) n y gs s) := by
  have hstart : Aligned a b (a.offset + d) (b.offset + d) := ⟨d, rfl, rfl⟩
  induction gs generalizing x y r s with
  | nil =>
    have hpopped : Sessions a b r.session.popFrame s.session.popFrame :=
      h.sessions.congr ⟨rfl, rfl, rfl⟩ ⟨rfl, rfl, rfl⟩
    cases hfound with
    | none =>
      exact .some (((h.onSession hpopped).emit (.bestFailed d n)).settle
        (giveUp_settled hab hstart _ hpopped (aligned_feedback h.collected)))
    | @some x y hfound =>
      obtain ⟨m, u⟩ := x
      obtain ⟨k, v⟩ := y
      obtain ⟨⟨e, rfl, rfl⟩, huv⟩ := hfound
      exact .some (((h.onSession hpopped).emit (.bestMatched d e)).settle
        ⟨(hpopped.moveTo hab ⟨e, rfl, rfl⟩).congr ⟨rfl, rfl, rfl⟩ ⟨rfl, rfl, rfl⟩, huv⟩)
  | cons g gs ih =>
    have hrest := fun g' hg' => hchild g' (List.mem_cons_of_mem g hg')
    rw [Run.best, Run.best]
    have hmoved := h.moveTo hab hstart
    refine bind_rel (hchild g List.mem_cons_self _ _ hmoved.toReady) fun r' s' hr hs hdone => ?_
    have hopen := hmoved.child hdone (hbalance g _ r' hr) (hbalance g _ s' hs)
    rw [hdone.failed_eq]
    split
    · exact ih hrest hfound _ _ (hopen.collect hdone.result)
    · exact ih hrest (further_aligned hfound hdone.sessions.cursor hdone.result) _ _ hopen.clear

omit hbalance in
theorem optional_lockstep (g : Grammar V C) (hchild : Lockstep a b before before' child g)
    (r s : Run V C) (h : Ready a b before before' r s) :
    Option.Rel (Done a b before before') (Run.optional child (a.offset + d) g r)
      (Run.optional child (b.offset + d) g s) := by
  have hstart : Aligned a b (a.offset + d) (b.offset + d) := ⟨d, rfl, rfl⟩
  rw [Run.optional, Run.optional]
  refine bind_rel (hchild r s h) fun r' s' _ _ hdone => ?_
  have hpopped : Done a b before before' (r'.onSession Session.popFrame)
      (s'.onSession Session.popFrame) :=
    hdone.settle ⟨hdone.sessions.congr ⟨rfl, rfl, rfl⟩ ⟨rfl, rfl, rfl⟩, hdone.result⟩
  dsimp only
  rw [hpopped.failed_eq]
  split
  · have hcleared : Sessions a b
        { r'.session.popFrame with result := { position := a.offset + d } }
        { s'.session.popFrame with result := { position := b.offset + d } } :=
      hpopped.sessions.congr ⟨rfl, rfl, rfl⟩ ⟨rfl, rfl, rfl⟩
    exact .some ((hpopped.emit (.optionalIgnored d)).settle
      ⟨hcleared.moveTo hab hstart, ⟨hstart, rfl, rfl, .none, .nil⟩⟩)
  · exact .some hpopped

/-- What the rounds of a repetition leave: open runs, the same number, and aligned failures. -/
def AlignedRounds (a b : Place) (before before' : List Event)
    (x y : Run V C × Nat × Option (Result V)) : Prop :=
  Open a b before before' x.1 y.1 ∧ x.2.1 = y.2.1 ∧
    Option.Rel (AlignedResults a b) x.2.2 y.2.2

omit hab in
theorem rounds_lockstep (g : Grammar V C) (hchild : Lockstep a b before before' child g)
    (min : Nat) (max : Option Nat) (fuel count : Nat) (r s : Run V C)
    (h : Open a b before before' r s) :
    Option.Rel (AlignedRounds a b before before') (Run.rounds child g min max fuel count r)
      (Run.rounds child g min max fuel count s) := by
  induction fuel generalizing count r s with
  | zero => exact .none
  | succ fuel ih =>
    rw [Run.rounds, Run.rounds]
    split
    · refine bind_rel (hchild r s h.toReady) fun r' s' hr hs hdone => ?_
      have hopen := h.child hdone (hbalance g r r' hr) (hbalance g s s' hs)
      rw [hdone.failed_eq]
      split
      · exact .some ⟨hopen.clear, rfl, .some hdone.result⟩
      · have hcollect := hopen.collect hdone.result
        have hcursor : (r'.onSession Session.collect).session.cursor = r.session.cursor ↔
            (s'.onSession Session.collect).session.cursor = s.session.cursor :=
          hcollect.sessions.cursor.eq_iff h.sessions.cursor
        dsimp only
        by_cases hidle : (s'.onSession Session.collect).session.cursor = s.session.cursor ∧
            min ≤ count + 1
        · rw [if_pos hidle, if_pos ((and_congr_left' hcursor).2 hidle)]
          exact .some ⟨hcollect, rfl, .none⟩
        · rw [if_neg hidle, if_neg (mt (and_congr_left' hcursor).1 hidle)]
          exact ih (count + 1) _ _ hcollect
    · exact .some ⟨h, rfl, .none⟩

omit hbalance in
theorem conclude_done (min : Nat) (max : Option Nat) (count : Nat)
    {x y : Option (Result V)} (hxy : Option.Rel (AlignedResults a b) x y) (r s : Run V C)
    (h : Open a b before before' r s) :
    Done a b before before' (r.conclude (a.offset + d) min max count x)
      (s.conclude (b.offset + d) min max count y) := by
  have hstart : Aligned a b (a.offset + d) (b.offset + d) := ⟨d, rfl, rfl⟩
  have hback := h.sessions.back hab hstart
  unfold Run.conclude
  rw [h.sessions.cursor.sub_eq hstart]
  by_cases hmin : min ≤ count
  · simp only [if_pos hmin]
    have hemit := (h.back hab hstart).emit
      (.repeatMatched d count (s.session.cursor - (b.offset + d)))
    have hmatched := hback.matched hab (s.session.cursor - (b.offset + d))
    by_cases hgo : Run.mayGoOn max 1 = true
    · simp only [if_pos hgo]
      exact (hemit.settle (hmatched.gather h.collected)).subResults _ _
    · simp only [if_neg hgo]
      exact (hemit.settle (hmatched.gatherOne h.collected)).subResults _ _
  · simp only [if_neg hmin]
    have hemit := (h.back hab hstart).emit (.repeatFailed d count min)
    have hfailure : List.Forall₂ (AlignedItems a b) ((x.map (·.feedback)).getD [])
        ((y.map (·.feedback)).getD []) := by
      cases hxy with
      | none => exact .nil
      | some hresult => exact hresult.feedback
    exact (hemit.settle ((hback.unmatched _ _ none).addFeedback hfailure)).subResults _ _

theorem repeated_lockstep (g : Grammar V C) (hchild : Lockstep a b before before' child g)
    (min : Nat) (max : Option Nat) (fuel : Nat) (r s : Run V C)
    (h : Open a b before before' r s) :
    Option.Rel (Done a b before before') (Run.repeated child (a.offset + d) g min max fuel r)
      (Run.repeated child (b.offset + d) g min max fuel s) := by
  rw [Run.repeated, Run.repeated]
  refine bind_rel (rounds_lockstep hbalance g hchild min max fuel 0 r s h) ?_
  rintro ⟨r', count, x⟩ ⟨s', count', y⟩ - - ⟨hopen, rfl, hxy⟩
  exact .some (conclude_done hab d min max count hxy r' s' hopen)

end Loops

/-- At places with the same text after them a parse goes the same way. -/
theorem parse_lockstep {a b : Place} (hab : Parallel a b) (before before' : List Event)
    (env : Env V C) (henv : HookedEnv (· = .done) env) (fuel : Nat) (g : Grammar V C)
    (hg : g.HookedBy (· = .done)) : Lockstep a b before before' (Grammar.parse env fuel) g := by
  induction fuel generalizing g with
  | zero => exact fun r s _ => .none
  | succ fuel ih =>
    intro r s h
    have hbalance := Grammar.parse_balanced env fuel
    have hopen := h.pushFrame
    have hfinish : ∀ {o o' : Option (Run V C)}, Option.Rel (Done a b before before') o o' →
        Option.Rel (Done a b before before') (o.map (Run.finish .done))
          (o'.map (Run.finish .done)) := by
      rintro o o' (hdone | _)
      · exact .some hdone.finish
      · exact .none
    obtain ⟨d, hr, hs⟩ := h.sessions.cursor
    cases hg with
    | primitive p hook hdone =>
      subst hdone
      exact .some (h.settle (h.sessions.scan hab p)).finish
    | all subs hook hooked hdone =>
      subst hdone
      simp only [Grammar.parse, hr, hs]
      exact hfinish (all_lockstep hbalance hab d subs (fun g hg => ih g (hooked g hg)) 0 _ _ hopen)
    | any subs hook hooked hdone =>
      subst hdone
      simp only [Grammar.parse, hr, hs]
      exact hfinish (any_lockstep hbalance hab d _ subs (fun g hg => ih g (hooked g hg)) 0
        _ _ hopen)
    | best subs hook hooked hdone =>
      subst hdone
      simp only [Grammar.parse, hr, hs]
      exact hfinish (best_lockstep hbalance hab d _ subs (fun g hg => ih g (hooked g hg)) .none
        _ _ hopen)
    | optional sub hook hooked hdone =>
      subst hdone
      simp only [Grammar.parse, hr, hs]
      exact hfinish (optional_lockstep hab d sub (ih sub hooked) _ _ hopen.toReady)
    | repeated sub min max hook hooked hdone =>
      subst hdone
      simp only [Grammar.parse, hr, hs]
      exact hfinish (repeated_lockstep hbalance hab d sub (ih sub hooked) min max fuel _ _ hopen)
    | reference cell owning =>
      simp only [Grammar.parse]
      cases hcell : env cell with
      | bound target => exact ih target (henv cell target hcell) r s h
      | unbound => exact .some (h.settle (h.sessions.unmatched 0 _ none))
      | dropped => exact .some (h.settle (h.sessions.unmatched 0 _ none))

end Place

/-- A parse without hooks depends on the text after the cursor only. From two sessions with the
same text there either no amount of fuel is enough, or both parses end, and then with the same
success, text, value and feedback texts, and with every offset equally far behind the start. The
name of the source, the text before the cursor, the results and frames that are there already,
the line cache, the context and the trace may all differ. -/
theorem parse_depends_on_rest (env : Env V C) (henv : HookedEnv (fun hook => hook = .done) env)
    (g : Grammar V C) (hg : g.HookedBy fun hook => hook = .done) (r s : Run V C)
    (hr : IsBoundary r.session.cursor r.session.source.chars)
    (hs : IsBoundary s.session.cursor s.session.source.chars)
    (hrest : r.session.rest = s.session.rest) (hrfits : r.session.CacheFits)
    (hsfits : s.session.CacheFits) :
    let a : Place := ⟨r.session.source, r.session.cursor⟩
    let b : Place := ⟨s.session.source, s.session.cursor⟩
    (∀ fuel, g.parse env fuel r = none ∧ g.parse env fuel s = none) ∨
    ∃ r' s', (∃ fuel, ∀ fuel' ≥ fuel,
        g.parse env fuel' r = some r' ∧ g.parse env fuel' s = some s') ∧
      r'.failed = s'.failed ∧
      Place.AlignedResults a b r'.session.result s'.session.result ∧
      Place.Aligned a b r'.session.cursor s'.session.cursor ∧
      ∃ events : List Event,
        r'.trace.toList = r.trace.toList ++ events.map (Event.after a.offset) ∧
        s'.trace.toList = s.trace.toList ++ events.map (Event.after b.offset) := by
  intro a b
  have hready : Place.Ready a b r.trace.toList s.trace.toList r s :=
    ⟨⟨rfl, rfl, Place.aligned_offset a b, hrfits, hsfits⟩, [], by simp, by simp⟩
  have hstep := fun fuel => Place.parse_lockstep (a := a) (b := b) ⟨hr, hs, hrest⟩ _ _ env henv
    fuel g hg r s hready
  by_cases hends : ∃ fuel r', g.parse env fuel r = some r'
  · obtain ⟨fuel, r', hrun⟩ := hends
    have hfuel := hstep fuel
    rw [hrun] at hfuel
    generalize hrun' : g.parse env fuel s = o at hfuel
    cases hfuel with
    | @some _ s' hdone =>
      refine Or.inr ⟨r', s', ⟨fuel, fun fuel' hle => ?_⟩, hdone.failed_eq, hdone.result,
        hdone.sessions.cursor, hdone.traces⟩
      exact ⟨g.parse_mono env hle r r' hrun, g.parse_mono env hle s s' hrun'⟩
  · refine Or.inl fun fuel => ?_
    have hnone : g.parse env fuel r = none :=
      Option.eq_none_iff_forall_ne_some.2 fun r' h => hends ⟨fuel, r', h⟩
    have hfuel := hstep fuel
    rw [hnone] at hfuel
    generalize hrun' : g.parse env fuel s = o at hfuel
    cases hfuel
    exact ⟨hnone, rfl⟩

section Twice

/-- Two letters, or the first of them before a parser that is not bound. -/
def firstBound : Grammar Unit Unit :=
  .any [.primitive (.literal ⟨"km", by decide⟩) .done,
    .all [.primitive (.literal ⟨"k", by decide⟩) .done, .reference 0 false] .done] .done

/-- At the start of a text. -/
def atStart : Run Unit Unit := ⟨{ source := ⟨"first", "kl"⟩ }, (), #[]⟩

/-- On the second line of another text, with traces of earlier parses. -/
def onSecondLine : Run Unit Unit :=
  ⟨{ source := ⟨"second", "x\nkl"⟩, cursor := 2, result := { errorAt := some 1 },
     subResults := [{}], frames := [{ start := 1, results := [{}] }] }, (), #[.allMatched 0 1]⟩

theorem firstBound_hookedBy : firstBound.HookedBy fun hook => hook = .done := by
  refine .any _ _ (fun g hg => ?_) rfl
  simp only [List.mem_cons, List.not_mem_nil, or_false] at hg
  obtain rfl | rfl := hg
  · exact .primitive _ _ rfl
  · refine .all _ _ (fun g hg => ?_) rfl
    simp only [List.mem_cons, List.not_mem_nil, or_false] at hg
    obtain rfl | rfl := hg
    · exact .primitive _ _ rfl
    · exact .reference _ _

/-- The same failure, two bytes later. -/
theorem parse_depends_on_rest_twice : ∃ r' s',
    firstBound.parse (fun _ => .unbound) 5 atStart = some r' ∧
    firstBound.parse (fun _ => .unbound) 5 onSecondLine = some s' ∧
    r'.failed = true ∧ s'.failed = true ∧
    Place.AlignedResults ⟨⟨"first", "kl"⟩, 0⟩ ⟨⟨"second", "x\nkl"⟩, 2⟩ r'.session.result
      s'.session.result ∧
    r'.trace = #[.allFailed 0 1, .anyFailed 0 2] ∧
    s'.trace = #[.allMatched 0 1, .allFailed 2 1, .anyFailed 2 2] := by
  have hends : (firstBound.parse (fun _ => .unbound) 5 atStart).map (fun r => (r.failed, r.trace)) =
      some (true, #[.allFailed 0 1, .anyFailed 0 2]) := by decide +kernel
  have hends' : (firstBound.parse (fun _ => .unbound) 5 onSecondLine).map (·.trace) =
      some #[.allMatched 0 1, .allFailed 2 1, .anyFailed 2 2] := by decide +kernel
  obtain ⟨r', hr', hpair⟩ := Option.map_eq_some_iff.1 hends
  obtain ⟨s', hs', htrace'⟩ := Option.map_eq_some_iff.1 hends'
  obtain ⟨hfailed, htrace⟩ := Prod.ext_iff.1 hpair
  obtain hnone | ⟨r'', s'', ⟨fuel, hfuel⟩, hfailed', hresult, -⟩ :=
    parse_depends_on_rest (fun _ => .unbound) (fun cell g h => by cases h) firstBound
      firstBound_hookedBy atStart onSecondLine (by decide) (by decide) (by decide)
      (Session.cacheFits_fresh rfl) (Session.cacheFits_fresh rfl)
  · rw [(hnone 5).1] at hr'
    cases hr'
  · obtain ⟨hr'', hs''⟩ := hfuel (max fuel 5) (Nat.le_max_left fuel 5)
    rw [Grammar.parse_mono _ (Nat.le_max_right fuel 5) firstBound atStart r' hr'] at hr''
    rw [Grammar.parse_mono _ (Nat.le_max_right fuel 5) firstBound onSecondLine s' hs'] at hs''
    cases hr''
    cases hs''
    exact ⟨r', s', hr', hs', hfailed, hfailed'.symm.trans hfailed, hresult, htrace, htrace'⟩

end Twice

end Descent
