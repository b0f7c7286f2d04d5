import Descent.Proofs.Balance

/-!
# Sessions that come up

Whatever parsers, hooks and scripts do to a session comes down to three steps:
a place is located, the cursor is moved within the text, or results and frames
are replaced. A property that each of these steps keeps is kept by every
finished parse.
-/
namespace Descent

variable {V C : Type}

namespace Session

/-- The sessions that come up while a source is parsed, at any point of any run. -/
inductive Reached : Session V → Prop
  | fresh (source : Source) : Reached { source }
  | locate (s : Session V) (offset : Nat) (h : Reached s) : Reached (s.locate offset).2
  | moveTo (s : Session V) (offset : Nat) (h : Reached s) : Reached (s.moveTo offset)
  | update (s : Session V) (result : Result V) (subResults : List (Result V))
      (frames : List (Frame V)) (h : Reached s) : Reached { s with result, subResults, frames }

/-- A property that each of the three steps keeps. -/
structure Kept (P : Session V → Prop) : Prop where
  locate : ∀ s offset, P s → P (s.locate offset).2
  moveTo : ∀ s offset, P s → P (s.moveTo offset)
  update : ∀ s result subResults frames, P s → P { s with result, subResults, frames }

theorem kept_reached : Kept (Reached (V := V)) := ⟨.locate, .moveTo, .update⟩

theorem kept_cacheFits : Kept (CacheFits (V := V)) where
  locate s offset h := (s.locate_of_cacheFits offset h).2
  moveTo _ _ h := h
  update _ _ _ _ h := h

/-- Whatever happens to a session, it keeps a line cache. -/
theorem kept_cached : Kept fun s : Session V => s.cache.isSome = true where
  locate s offset h := by
    unfold locate
    split
    · rfl
    · exact h
  moveTo _ _ h := h
  update _ _ _ _ h := h

theorem kept_cursor_le : Kept fun s : Session V => s.cursor ≤ s.source.size where
  locate s offset h := by simpa using h
  moveTo s offset _ := Nat.min_le_right offset s.source.size
  update _ _ _ _ h := h

theorem Kept.of_reached {P : Session V → Prop} (hP : Kept P)
    (hfresh : ∀ source, P { source }) {s : Session V} (h : s.Reached) : P s := by
  induction h with
  | fresh source => exact hfresh source
  | locate s offset _ ih => exact hP.locate s offset ih
  | moveTo s offset _ ih => exact hP.moveTo s offset ih
  | update s result subResults frames _ ih => exact hP.update s result subResults frames ih

theorem Reached.cacheFits {s : Session V} (h : s.Reached) : s.CacheFits := by
  exact kept_cacheFits.of_reached (fun source => cacheFits_fresh rfl) h

/-- The line cache answers for every offset, so that the plain scan is never fallen back on. -/
theorem Reached.locate_found {s : Session V} (h : s.Reached) :
    ∃ cache, s.cache = some cache ∧ ∀ offset, ∃ next,
      cache.resolve? s.source.chars offset =
          some (Location.ofOffset s.source.chars offset, next) ∧
        s.locate offset =
          (Location.ofOffset s.source.chars offset, { s with cache := some next }) := by
  obtain ⟨cache, hcache⟩ : ∃ cache, s.cache = some cache :=
    Option.isSome_iff_exists.1 (kept_cached.of_reached (fun _ => rfl) h)
  refine ⟨cache, hcache, fun offset => ?_⟩
  obtain ⟨next, hresolve, -⟩ :=
    cache.resolve?_answers s.source.chars offset (h.cacheFits cache hcache)
  exact ⟨next, hresolve, by simp [Session.locate, hcache, hresolve]⟩

theorem Reached.cursor_le {s : Session V} (h : s.Reached) : s.cursor ≤ s.source.size :=
  kept_cursor_le.of_reached (fun _ => Nat.zero_le _) h

namespace Kept

variable {P : Session V → Prop} (hP : Kept P) {s : Session V} (h : P s)

include hP h

theorem result (result : Result V) : P { s with result } :=
  hP.update s result s.subResults s.frames h

theorem subResults (subResults : List (Result V)) : P { s with subResults } :=
  hP.update s s.result subResults s.frames h

theorem frames (frames : List (Frame V)) : P { s with frames } :=
  hP.update s s.result s.subResults frames h

theorem collect : P s.collect := hP.update s _ s.subResults _ h

theorem note (kind : Feedback.Kind) (offset : Nat) (message : String) (cause : Option String) :
    P (s.note kind offset message cause) := by
  rw [note_eq]
  exact hP.result (hP.locate s offset h) _

theorem matched (n : Nat) : P (s.matched n) :=
  hP.result (hP.moveTo s (s.cursor + n) h) _

theorem unmatched (delta : Nat) (message : String) (cause : Option String) :
    P (s.unmatched delta message cause) := hP.note (hP.result h _) _ _ _ _

theorem reject (message : String) : P (s.reject message) :=
  hP.moveTo _ _ (hP.note (hP.result h _) _ _ _ _)

theorem scan (p : Primitive) : P (s.scan p) := by
  unfold Session.scan
  split
  · exact hP.result (hP.matched h _) _
  · exact hP.unmatched h _ _ _

theorem perform (action : Action V) : P (action.perform s) := by
  cases action with
  | moveTo offset => exact hP.moveTo s offset h
  | rewind offset => exact hP.moveTo s _ h
  | matched n => exact hP.matched h n
  | unmatched delta message cause => exact hP.unmatched h delta message cause
  | note kind offset message cause => exact hP.note h kind offset message cause
  | reject message => exact hP.reject h message
  | setValue value => exact hP.result h _
  | setResult result => exact hP.result h result
  | setSubResults results => exact hP.subResults h results

theorem run (script : Script V C) (c : C) : P (script.run s c).1 := by
  induction script generalizing s c with
  | done => exact h
  | act action next ih => exact ih (hP.perform h action) c
  | setContext c' next ih => exact ih h c'
  | look next ih => exact ih _ _ h c
  | locate offset next ih => exact ih _ (hP.locate s offset h) c
  | report next ih => exact ih _ h c

end Kept

end Session

namespace Run

open Session (Kept)

variable {P : Session V → Prop} (hP : Kept P) {child : Runner V C}

include hP

theorem finish_keeps (hook : Script V C) (r : Run V C) (h : P r.session) :
    P (r.finish hook).session := by
  unfold finish
  split
  · exact hP.subResults h _
  · exact hP.subResults (hP.run h hook r.context) _

/-- What is left when every alternative has failed. -/
theorem giveUp_keeps (start : Nat) (message : String) (items : List Feedback.Item)
    (s : Session V) (h : P s) :
    P (((s.moveTo start).unmatched 0 message none).addFeedback items) :=
  hP.result (hP.unmatched (hP.moveTo s start h) _ _ _) _

variable (hchild : ∀ g r r', P r.session → child g r = some r' → P r'.session) (start n : Nat)

include hchild

theorem all_keeps (i : Nat) (gs : List (Grammar V C)) (r r' : Run V C) (h : P r.session)
    (hrun : Run.all child start i gs r = some r') : P r'.session := by
  induction gs generalizing i r with
  | nil =>
    obtain rfl := Option.some.inj hrun
    have hback := hP.frames (hP.moveTo r.session start h) r.session.frames.tail
    exact hP.subResults (hP.result (hP.matched hback (r.session.cursor - start)) _) _
  | cons g gs ih =>
    obtain ⟨s, hs, hrun⟩ := Option.bind_eq_some_iff.1 hrun
    have hkept := hchild g r s h hs
    split at hrun
    · obtain rfl := Option.some.inj hrun
      exact hP.result (hP.moveTo _ start (hP.frames hkept s.session.frames.tail)) _
    · exact ih (i + 1) (s.onSession Session.collect) (hP.collect hkept) hrun

theorem any_keeps (i : Nat) (gs : List (Grammar V C)) (r r' : Run V C) (h : P r.session)
    (hrun : Run.any child start n i gs r = some r') : P r'.session := by
  induction gs generalizing i r with
  | nil =>
    obtain rfl := Option.some.inj hrun
    exact giveUp_keeps hP start _ _ r.session.popFrame (hP.frames h _)
  | cons g gs ih =>
    obtain ⟨s, hs, hrun⟩ := Option.bind_eq_some_iff.1 hrun
    have hkept := hchild g (r.onSession (Session.moveTo start)) s (hP.moveTo _ start h) hs
    split at hrun
    · exact ih (i + 1) (s.onSession Session.collect) (hP.collect hkept) hrun
    · obtain rfl := Option.some.inj hrun
      exact hP.frames hkept _

theorem best_keeps (found : Option (Nat × Result V)) (gs : List (Grammar V C)) (r r' : Run V C)
    (h : P r.session) (hrun : Run.best child start n found gs r = some r') : P r'.session := by
  induction gs generalizing found r with
  | nil =>
    have hpop : P r.session.popFrame := hP.frames h _
    cases found with
    | none =>
      obtain rfl := Option.some.inj hrun
      exact giveUp_keeps hP start _ _ r.session.popFrame hpop
    | some found =>
      obtain rfl := Option.some.inj hrun
      exact hP.result (hP.moveTo _ found.1 hpop) _
  | cons g gs ih =>
    obtain ⟨s, hs, hrun⟩ := Option.bind_eq_some_iff.1 hrun
    have hkept := hchild g (r.onSession (Session.moveTo start)) s (hP.moveTo _ start h) hs
    split at hrun
    · exact ih found (s.onSession Session.collect) (hP.collect hkept) hrun
    · exact ih _ (s.onSession fun s => { s with result := {} }) (hP.result hkept _) hrun

theorem optional_keeps (g : Grammar V C) (r r' : Run V C) (h : P r.session)
    (hrun : Run.optional child start g r = some r') : P r'.session := by
  obtain ⟨s, hs, hrun⟩ := Option.bind_eq_some_iff.1 hrun
  have hpop : P s.session.popFrame := hP.frames (hchild g r s h hs) _
  dsimp only at hrun
  split at hrun
  · obtain rfl := Option.some.inj hrun
    exact hP.moveTo _ start (hP.result hpop _)
  · obtain rfl := Option.some.inj hrun
    exact hpop

theorem rounds_keeps (g : Grammar V C) (min : Nat) (max : Option Nat) (fuel count : Nat)
    (r r' : Run V C) (count' : Nat) (failure : Option (Result V)) (h : P r.session)
    (hrun : rounds child g min max fuel count r = some (r', count', failure)) :
    P r'.session := by
  induction fuel generalizing count r with
  | zero => simp [rounds] at hrun
  | succ fuel ih =>
    unfold rounds at hrun
    split at hrun
    · obtain ⟨s, hs, hrun⟩ := Option.bind_eq_some_iff.1 hrun
      have hkept := hchild g r s h hs
      split at hrun
      · obtain ⟨rfl, -, -⟩ : _ = r' ∧ _ := by simpa using hrun
        exact hP.result hkept _
      · have hcollect := hP.collect hkept
        dsimp only at hrun
        split at hrun
        · obtain ⟨rfl, -, -⟩ : _ = r' ∧ _ := by simpa using hrun
          exact hcollect
        · exact ih (count + 1) (s.onSession Session.collect) hcollect hrun
    · obtain ⟨rfl, -, -⟩ : r = r' ∧ _ := by simpa using hrun
      exact h

omit hchild in
theorem conclude_keeps (min : Nat) (max : Option Nat) (count : Nat)
    (failure : Option (Result V)) (r : Run V C) (h : P r.session) :
    P (r.conclude start min max count failure).session := by
  have hback : P (r.session.moveTo start).popFrame := hP.frames (hP.moveTo _ start h) _
  unfold conclude
  refine hP.subResults ?_ _
  dsimp only
  split
  · have hmatched := hP.matched hback (r.session.cursor - start)
    simp only [onSession_session, emit_session]
    split
    · exact hP.result hmatched _
    · unfold Session.gatherOne
      split
      · exact hmatched
      · exact hP.result hmatched _
  · exact hP.result (hP.unmatched hback _ _ _) _

theorem repeated_keeps (g : Grammar V C) (min : Nat) (max : Option Nat) (fuel : Nat)
    (r r' : Run V C) (h : P r.session)
    (hrun : Run.repeated child start g min max fuel r = some r') : P r'.session := by
  obtain ⟨⟨s, count, failure⟩, hs, hrun⟩ := Option.bind_eq_some_iff.1 hrun
  obtain rfl := Option.some.inj hrun
  exact conclude_keeps hP start min max count failure s
    (rounds_keeps hP hchild g min max fuel 0 r s count failure h hs)

end Run

/-- What the three steps keep, a finished parse keeps. -/
theorem Grammar.parse_keeps {P : Session V → Prop} (hP : Session.Kept P) (env : Env V C)
    (fuel : Nat) (g : Grammar V C) (r r' : Run V C) (h : P r.session)
    (hrun : g.parse env fuel r = some r') : P r'.session := by
  induction fuel generalizing g r r' with
  | zero => simp [Grammar.parse] at hrun
  | succ fuel ih =>
    have hopen : P (r.onSession Session.pushFrame).session := hP.frames h _
    cases g with
    | primitive p hook =>
      obtain rfl := Option.some.inj hrun
      exact Run.finish_keeps hP hook _ (hP.scan h p)
    | all subs hook =>
      obtain ⟨s, hs, rfl⟩ := Option.map_eq_some_iff.1 hrun
      exact Run.finish_keeps hP hook s
        (Run.all_keeps hP ih _ 0 subs (r.onSession Session.pushFrame) s hopen hs)
    | any subs hook =>
      obtain ⟨s, hs, rfl⟩ := Option.map_eq_some_iff.1 hrun
      exact Run.finish_keeps hP hook s
        (Run.any_keeps hP ih _ _ 0 subs (r.onSession Session.pushFrame) s hopen hs)
    | best subs hook =>
      obtain ⟨s, hs, rfl⟩ := Option.map_eq_some_iff.1 hrun
      exact Run.finish_keeps hP hook s
        (Run.best_keeps hP ih _ _ none subs (r.onSession Session.pushFrame) s hopen hs)
    | optional sub hook =>
      obtain ⟨s, hs, rfl⟩ := Option.map_eq_some_iff.1 hrun
      exact Run.finish_keeps hP hook s
        (Run.optional_keeps hP ih _ sub (r.onSession Session.pushFrame) s hopen hs)
    | repeated sub min max hook =>
      obtain ⟨s, hs, rfl⟩ := Option.map_eq_some_iff.1 hrun
      exact Run.finish_keeps hP hook s
        (Run.repeated_keeps hP ih _ sub min max fuel (r.onSession Session.pushFrame) s hopen hs)
    | reference cell owning =>
      simp only [Grammar.parse] at hrun
      split at hrun
      · next target _ => exact ih target r r' h hrun
      · obtain rfl := Option.some.inj hrun
        rw [Run.onSession_session]
        exact hP.unmatched h 0 _ none
      · obtain rfl := Option.some.inj hrun
        rw [Run.onSession_session]
        exact hP.unmatched h 0 _ none
    | script body =>
      obtain rfl := Option.some.inj hrun
      exact hP.run h body r.context

end Descent
