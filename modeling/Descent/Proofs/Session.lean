import Descent.Proofs.LineCache
import Descent.Session.Script

/-!
# What session operations change

Every operation says what it leaves of the source, the cursor, the current
result, the children's results and the frames. Only the line cache is not
followed from step to step: it is enough that it fits the source.
-/
namespace Descent

variable {V : Type}

/-- The item of a note, with its place found by a plain scan. -/
def Source.item (source : Source) (kind : Feedback.Kind) (offset : Nat) (message : String)
    (cause : Option String) : Feedback.Item :=
  { kind, offset
    message := (Location.ofOffset source.chars offset).describe source.name ++ message ++
      (cause.elim "" (": " ++ ·)) ++ "." }

/-- The result of a failure at some distance after its start. -/
def Source.failure (source : Source) (start delta : Nat) (message : String)
    (cause : Option String) : Result V :=
  { position := start, errorAt := some (start + delta),
    feedback := [source.item .error (start + delta) message cause] }

namespace Session

/-- The line cache, if there is one, fits the source. -/
def CacheFits (s : Session V) : Prop := ∀ cache, s.cache = some cache → cache.Fits s.source.chars

theorem cacheFits_of_eq {s t : Session V} (hc : t.cache = s.cache) (hs : t.source = s.source)
    (h : s.CacheFits) : t.CacheFits := by
  intro cache hcache
  rw [hs]
  exact h cache (hc ▸ hcache)

/-- A cache that has found nothing yet fits every source. -/
theorem cacheFits_fresh {s : Session V} (h : s.cache = some {}) : s.CacheFits := by
  intro cache hcache
  obtain rfl : {} = cache := Option.some.inj (h.symm.trans hcache)
  exact LineCache.fits_default _

@[simp] theorem cacheFits_iff_of_update (s : Session V) (cursor : Nat) (result : Result V)
    (subResults : List (Result V)) (frames : List (Frame V)) :
    CacheFits { s with cursor, result, subResults, frames } ↔ s.CacheFits := Iff.rfl

section Locate

variable (s : Session V) (offset : Nat)

theorem locate_snd : ∃ cache, (s.locate offset).2 = { s with cache } := by
  unfold locate
  split
  · exact ⟨_, rfl⟩
  · exact ⟨s.cache, rfl⟩

@[simp] theorem locate_source : (s.locate offset).2.source = s.source := by
  obtain ⟨cache, h⟩ := s.locate_snd offset; rw [h]

@[simp] theorem locate_cursor : (s.locate offset).2.cursor = s.cursor := by
  obtain ⟨cache, h⟩ := s.locate_snd offset; rw [h]

@[simp] theorem locate_result : (s.locate offset).2.result = s.result := by
  obtain ⟨cache, h⟩ := s.locate_snd offset; rw [h]

@[simp] theorem locate_subResults : (s.locate offset).2.subResults = s.subResults := by
  obtain ⟨cache, h⟩ := s.locate_snd offset; rw [h]

@[simp] theorem locate_frames : (s.locate offset).2.frames = s.frames := by
  obtain ⟨cache, h⟩ := s.locate_snd offset; rw [h]

/-- With a cache that fits, or with none, a location is that of the plain scan. -/
theorem locate_of_cacheFits (h : s.CacheFits) :
    (s.locate offset).1 = Location.ofOffset s.source.chars offset ∧
      (s.locate offset).2.CacheFits := by
  cases hc : s.cache with
  | none => exact ⟨by simp [locate, hc], by simpa [locate, hc] using h⟩
  | some cache =>
    obtain ⟨cache', hanswer, hfits⟩ :=
      LineCache.resolve?_answers cache s.source.chars offset (h cache hc)
    refine ⟨by simp [locate, hc, hanswer], ?_⟩
    intro cache'' hcache
    obtain rfl : cache' = cache'' := by simpa [locate, hc, hanswer] using hcache
    simpa using hfits

end Locate

section Note

variable (s : Session V) (kind : Feedback.Kind) (offset : Nat) (message : String)
  (cause : Option String)

/-- The item that a note adds, located as the session does it. -/
def item : Feedback.Item :=
  { kind, offset
    message := (s.locate offset).1.describe s.source.name ++ message ++
      (cause.elim "" (": " ++ ·)) ++ "." }

@[simp] theorem item_kind : (s.item kind offset message cause).kind = kind := rfl
@[simp] theorem item_offset : (s.item kind offset message cause).offset = offset := rfl

/-- An item depends on the source and the cache only. -/
theorem item_congr {s t : Session V} (hs : t.source = s.source) (hc : t.cache = s.cache) :
    t.item kind offset message cause = s.item kind offset message cause := by
  simp only [item, locate, hs, hc]
  split <;> rfl

theorem item_of_cacheFits (h : s.CacheFits) :
    s.item kind offset message cause = s.source.item kind offset message cause := by
  simp only [item, Source.item, (s.locate_of_cacheFits offset h).1]

theorem note_eq : s.note kind offset message cause =
    { (s.locate offset).2 with
      result := { s.result with
        feedback := s.result.feedback ++ [s.item kind offset message cause] } } := by
  cases cause <;> simp [note, item]

@[simp] theorem note_source : (s.note kind offset message cause).source = s.source := by
  simp [note_eq]

@[simp] theorem note_cursor : (s.note kind offset message cause).cursor = s.cursor := by
  simp [note_eq]

@[simp] theorem note_subResults :
    (s.note kind offset message cause).subResults = s.subResults := by
  simp [note_eq]

@[simp] theorem note_frames : (s.note kind offset message cause).frames = s.frames := by
  simp [note_eq]

@[simp] theorem note_result : (s.note kind offset message cause).result =
    { s.result with feedback := s.result.feedback ++ [s.item kind offset message cause] } := by
  simp [note_eq]

theorem note_cacheFits (h : s.CacheFits) : (s.note kind offset message cause).CacheFits := by
  rw [note_eq, cacheFits_iff_of_update]
  exact (s.locate_of_cacheFits offset h).2

end Note

section Movement

variable (s : Session V) (offset n : Nat)

@[simp] theorem moveTo_source : (s.moveTo offset).source = s.source := rfl
@[simp] theorem moveTo_cursor : (s.moveTo offset).cursor = min offset s.source.size := rfl
@[simp] theorem moveTo_cache : (s.moveTo offset).cache = s.cache := rfl
@[simp] theorem moveTo_result : (s.moveTo offset).result = s.result := rfl
@[simp] theorem moveTo_subResults : (s.moveTo offset).subResults = s.subResults := rfl
@[simp] theorem moveTo_frames : (s.moveTo offset).frames = s.frames := rfl

@[simp] theorem matched_source : (s.matched n).source = s.source := rfl
@[simp] theorem matched_cursor : (s.matched n).cursor = min (s.cursor + n) s.source.size := rfl
@[simp] theorem matched_cache : (s.matched n).cache = s.cache := rfl
@[simp] theorem matched_result : (s.matched n).result =
    { position := s.cursor
      text := s.source.textBetween s.cursor (min (s.cursor + n) s.source.size) } := rfl
@[simp] theorem matched_subResults : (s.matched n).subResults = s.subResults := rfl
@[simp] theorem matched_frames : (s.matched n).frames = s.frames := rfl

end Movement

section Failure

variable (s : Session V) (delta : Nat) (message : String) (cause : Option String)

@[simp] theorem unmatched_source : (s.unmatched delta message cause).source = s.source := by
  simp [unmatched]

@[simp] theorem unmatched_cursor : (s.unmatched delta message cause).cursor = s.cursor := by
  simp [unmatched]

@[simp] theorem unmatched_subResults :
    (s.unmatched delta message cause).subResults = s.subResults := by
  simp [unmatched]

@[simp] theorem unmatched_frames : (s.unmatched delta message cause).frames = s.frames := by
  simp [unmatched]

@[simp] theorem unmatched_result : (s.unmatched delta message cause).result =
    { position := s.cursor, errorAt := some (s.cursor + delta),
      feedback := [s.item .error (s.cursor + delta) message cause] } := by
  simpa [unmatched] using item_congr _ _ _ _ (by rfl) (by rfl)

@[simp] theorem reject_source : (s.reject message).source = s.source := by simp [reject]

@[simp] theorem reject_cursor :
    (s.reject message).cursor = min s.result.position s.source.size := by
  simp [reject]

@[simp] theorem reject_subResults : (s.reject message).subResults = s.subResults := by
  simp [reject]

@[simp] theorem reject_frames : (s.reject message).frames = s.frames := by simp [reject]

@[simp] theorem reject_result : (s.reject message).result =
    { s.result with
      errorAt := some s.result.position, text := "", value := .none
      feedback := s.result.feedback ++ [s.item .error s.result.position message none] } := by
  simpa [reject] using item_congr _ _ _ _ (by rfl) (by rfl)

theorem unmatched_cacheFits (h : s.CacheFits) : (s.unmatched delta message cause).CacheFits :=
  note_cacheFits _ _ _ _ _ h

theorem reject_cacheFits (h : s.CacheFits) : (s.reject message).CacheFits := by
  unfold reject
  exact cacheFits_of_eq (moveTo_cache _ _) (moveTo_source _ _) (note_cacheFits _ _ _ _ _ h)

/-- With a cache that fits, a failure is the one that the source alone tells. -/
theorem unmatched_result_of_cacheFits (h : s.CacheFits) :
    (s.unmatched delta message cause).result =
      s.source.failure s.cursor delta message cause := by
  rw [unmatched_result, item_of_cacheFits _ _ _ _ _ h, Source.failure]

end Failure

section Frames

variable (s : Session V)

@[simp] theorem pushFrame_source : s.pushFrame.source = s.source := rfl
@[simp] theorem pushFrame_cursor : s.pushFrame.cursor = s.cursor := rfl
@[simp] theorem pushFrame_cache : s.pushFrame.cache = s.cache := rfl
@[simp] theorem pushFrame_subResults : s.pushFrame.subResults = s.subResults := rfl
@[simp] theorem pushFrame_frames : s.pushFrame.frames = { start := s.cursor } :: s.frames := rfl

@[simp] theorem popFrame_source : s.popFrame.source = s.source := rfl
@[simp] theorem popFrame_cursor : s.popFrame.cursor = s.cursor := rfl
@[simp] theorem popFrame_cache : s.popFrame.cache = s.cache := rfl
@[simp] theorem popFrame_result : s.popFrame.result = s.result := rfl
@[simp] theorem popFrame_subResults : s.popFrame.subResults = s.subResults := rfl
@[simp] theorem popFrame_frames : s.popFrame.frames = s.frames.tail := rfl

@[simp] theorem collect_source : s.collect.source = s.source := rfl
@[simp] theorem collect_cursor : s.collect.cursor = s.cursor := rfl
@[simp] theorem collect_cache : s.collect.cache = s.cache := rfl
@[simp] theorem collect_result : s.collect.result = {} := rfl
@[simp] theorem collect_subResults : s.collect.subResults = s.subResults := rfl

/-- Collecting changes the innermost frame only. -/
@[simp] theorem collect_frames_tail : s.collect.frames.tail = s.frames.tail := by
  cases h : s.frames <;> simp [collect, h]

theorem collect_frames (frame : Frame V) (outer : List (Frame V)) (h : s.frames = frame :: outer) :
    s.collect.frames = { frame with results := frame.results ++ [s.result] } :: outer := by
  simp [collect, h]

theorem collected_collect (h : s.frames ≠ []) :
    s.collect.collected = s.collected ++ [s.result] := by
  obtain ⟨frame, outer, hframes⟩ := List.exists_cons_of_ne_nil h
  rw [Session.collected, s.collect_frames frame outer hframes, Session.collected, hframes]
  rfl

theorem collect_frames_ne_nil (h : s.frames ≠ []) : s.collect.frames ≠ [] := by
  obtain ⟨frame, outer, hframes⟩ := List.exists_cons_of_ne_nil h
  rw [s.collect_frames frame outer hframes]
  exact List.cons_ne_nil _ _

end Frames

end Session

end Descent
