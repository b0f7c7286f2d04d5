import Descent.Grammar.Event
import Descent.Grammar.Run
import Descent.Proofs.Scanning
import Mathlib.Data.List.Forall2

/-!
# Sessions side by side

Two places, in two texts or in one, may have the same text after them. What
sessions do there differs in the offsets and in the locations that messages
begin with, and in nothing else.
-/
namespace Descent

variable {V C : Type}

/-- A place in a source. -/
structure Place where
  source : Source
  offset : Nat

/-- The event with its offsets counted from a place that begins at `origin`. -/
def Event.after (origin : Nat) : Event → Event
  | allMatched start length => allMatched (origin + start) length
  | allFailed start child => allFailed (origin + start) child
  | anyMatched start child => anyMatched (origin + start) child
  | anyFailed start children => anyFailed (origin + start) children
  | bestMatched start stop => bestMatched (origin + start) (origin + stop)
  | bestFailed start children => bestFailed (origin + start) children
  | optionalIgnored start => optionalIgnored (origin + start)
  | repeatMatched start count length => repeatMatched (origin + start) count length
  | repeatFailed start count min => repeatFailed (origin + start) count min

namespace Place

/-- Offsets that are equally far behind two places. -/
def Aligned (a b : Place) (m n : Nat) : Prop := ∃ d, m = a.offset + d ∧ n = b.offset + d

/-- Items that say the same about aligned offsets. -/
structure AlignedItems (a b : Place) (i j : Feedback.Item) : Prop where
  kind : i.kind = j.kind
  offset : Aligned a b i.offset j.offset
  message : ∃ text,
    i.message = (Location.ofOffset a.source.chars i.offset).describe a.source.name ++ text ∧
    j.message = (Location.ofOffset b.source.chars j.offset).describe b.source.name ++ text

/-- Results that differ in offsets and locations only. -/
structure AlignedResults (a b : Place) (r s : Result V) : Prop where
  position : Aligned a b r.position s.position
  text : r.text = s.text
  value : r.value = s.value
  errorAt : Option.Rel (Aligned a b) r.errorAt s.errorAt
  feedback : List.Forall₂ (AlignedItems a b) r.feedback s.feedback

/-- Places with the same text after them, each between two characters. -/
structure Parallel (a b : Place) : Prop where
  left : IsBoundary a.offset a.source.chars
  right : IsBoundary b.offset b.source.chars
  rest : a.source.restFrom a.offset = b.source.restFrom b.offset

section Offsets

variable {a b : Place} {m n m' n' : Nat}

theorem aligned_offset (a b : Place) : Aligned a b a.offset b.offset := ⟨0, rfl, rfl⟩

theorem Aligned.add (h : Aligned a b m n) (k : Nat) : Aligned a b (m + k) (n + k) := by
  obtain ⟨d, rfl, rfl⟩ := h
  exact ⟨d + k, Nat.add_assoc .., Nat.add_assoc ..⟩

theorem Aligned.sub_eq (h : Aligned a b m n) (h' : Aligned a b m' n') : m - m' = n - n' := by
  obtain ⟨d, rfl, rfl⟩ := h
  obtain ⟨d', rfl, rfl⟩ := h'
  omega

theorem Aligned.lt_iff (h : Aligned a b m n) (h' : Aligned a b m' n') : m < m' ↔ n < n' := by
  obtain ⟨d, rfl, rfl⟩ := h
  obtain ⟨d', rfl, rfl⟩ := h'
  omega

theorem Aligned.eq_iff (h : Aligned a b m n) (h' : Aligned a b m' n') : m = m' ↔ n = n' := by
  obtain ⟨d, rfl, rfl⟩ := h
  obtain ⟨d', rfl, rfl⟩ := h'
  omega

end Offsets

section Texts

theorem dropBytes?_append (front cs : List Char) (n : Nat) :
    dropBytes? (byteLength front + n) (front ++ cs) = dropBytes? n cs := by
  induction front with
  | nil => simp
  | cons c front ih =>
    obtain ⟨k, hk⟩ : ∃ k, byteLength (c :: front) + n = k + 1 :=
      ⟨_, (Nat.succ_pred_eq_of_pos (Nat.add_pos_left (Nat.add_pos_left c.utf8Size_pos _) _)).symm⟩
    rw [hk, List.cons_append, dropBytes?]
    rw [byteLength_cons] at hk
    rw [if_pos (by omega), show k + 1 - c.utf8Size = byteLength front + n by omega, ih]

theorem slice?_append (front cs : List Char) (m n : Nat) :
    slice? (byteLength front + m) (byteLength front + n) (front ++ cs) = slice? m n cs := by
  simp only [slice?, dropBytes?_append, Nat.add_le_add_iff_left, Nat.add_sub_add_left]

variable {a b : Place} (h : Parallel a b)

include h

theorem Parallel.cut : ∃ before before' after, a.source.chars = before ++ after ∧
    byteLength before = a.offset ∧ b.source.chars = before' ++ after ∧
    byteLength before' = b.offset := by
  obtain ⟨before, hcut, hp⟩ := a.source.exists_cut h.left
  obtain ⟨before', hcut', hp'⟩ := b.source.exists_cut h.right
  exact ⟨before, before', _, hcut, hp, h.rest ▸ hcut', hp'⟩

/-- The texts after the places are equally long. -/
theorem Parallel.size : Aligned a b a.source.size b.source.size := by
  obtain ⟨before, before', after, hcut, hp, hcut', hp'⟩ := h.cut
  refine ⟨byteLength after, ?_, ?_⟩
  · rw [Source.size_eq, hcut, byteLength_append, hp]
  · rw [Source.size_eq, hcut', byteLength_append, hp']

variable {m n m' n' : Nat} (hmn : Aligned a b m n)

include hmn

theorem Parallel.restFrom : a.source.restFrom m = b.source.restFrom n := by
  obtain ⟨before, before', after, hcut, hp, hcut', hp'⟩ := h.cut
  obtain ⟨d, rfl, rfl⟩ := hmn
  rw [Source.restFrom, Source.restFrom, hcut, hcut', ← hp, ← hp', dropBytes?_append,
    dropBytes?_append]

theorem Parallel.textBetween (hmn' : Aligned a b m' n') :
    a.source.textBetween m m' = b.source.textBetween n n' := by
  obtain ⟨before, before', after, hcut, hp, hcut', hp'⟩ := h.cut
  obtain ⟨d, rfl, rfl⟩ := hmn
  obtain ⟨d', rfl, rfl⟩ := hmn'
  rw [Source.textBetween, Source.textBetween, hcut, hcut', ← hp, ← hp', slice?_append,
    slice?_append]

theorem Parallel.min_size : Aligned a b (min m a.source.size) (min n b.source.size) := by
  obtain ⟨d, hm, hn⟩ := hmn
  obtain ⟨l, hl, hl'⟩ := h.size
  exact ⟨min d l, by omega, by omega⟩

end Texts

section Feedback

variable {a b : Place}

theorem aligned_item (kind : Feedback.Kind) {m n : Nat} (hmn : Aligned a b m n)
    (message : String) (cause : Option String) :
    AlignedItems a b (a.source.item kind m message cause) (b.source.item kind n message cause) :=
  ⟨rfl, hmn, message ++ cause.elim "" (": " ++ ·) ++ ".",
    by simp [Source.item, String.append_assoc], by simp [Source.item, String.append_assoc]⟩

theorem aligned_feedback {rs ss : List (Result V)} (h : List.Forall₂ (AlignedResults a b) rs ss) :
    List.Forall₂ (AlignedItems a b) (rs.flatMap (·.feedback)) (ss.flatMap (·.feedback)) :=
  List.rel_flatMap h fun _ _ hresult => hresult.feedback

theorem aligned_values {rs ss : List (Result V)} (h : List.Forall₂ (AlignedResults a b) rs ss) :
    rs.map (·.value) = ss.map (·.value) := by
  induction h with
  | nil => rfl
  | cons hresult _ ih => rw [List.map_cons, List.map_cons, hresult.value, ih]

theorem AlignedResults.failed_eq {r s : Result V} (h : AlignedResults a b r s) :
    r.failed = s.failed := by
  have herror := h.errorAt
  unfold Result.failed
  generalize r.errorAt = e at herror ⊢
  generalize s.errorAt = f at herror ⊢
  cases herror <;> rfl

end Feedback

/-- Sessions at aligned cursors. -/
structure Sessions (a b : Place) (s t : Session V) : Prop where
  left : s.source = a.source
  right : t.source = b.source
  cursor : Aligned a b s.cursor t.cursor
  leftFits : s.CacheFits
  rightFits : t.CacheFits

/-- Sessions at aligned cursors with aligned results. -/
structure Settled (a b : Place) (s t : Session V) : Prop extends Sessions a b s t where
  result : AlignedResults a b s.result t.result

section Operations

variable {a b : Place} {s t : Session V}

/-- What is not in front may be replaced. -/
theorem Sessions.congr (h : Sessions a b s t) {s' t' : Session V}
    (hs : s'.source = s.source ∧ s'.cursor = s.cursor ∧ s'.cache = s.cache)
    (ht : t'.source = t.source ∧ t'.cursor = t.cursor ∧ t'.cache = t.cache) :
    Sessions a b s' t' where
  left := hs.1.trans h.left
  right := ht.1.trans h.right
  cursor := by rw [hs.2.1, ht.2.1]; exact h.cursor
  leftFits := Session.cacheFits_of_eq hs.2.2 hs.1 h.leftFits
  rightFits := Session.cacheFits_of_eq ht.2.2 ht.1 h.rightFits

variable (hab : Parallel a b) (h : Sessions a b s t)

include hab h

theorem Sessions.rest : s.rest = t.rest := by
  rw [Session.rest, Session.rest, h.left, h.right, hab.restFrom h.cursor]

theorem Sessions.moveTo {m n : Nat} (hmn : Aligned a b m n) :
    Sessions a b (s.moveTo m) (t.moveTo n) where
  left := h.left
  right := h.right
  cursor := by
    rw [Session.moveTo_cursor, Session.moveTo_cursor, h.left, h.right]
    exact hab.min_size hmn
  leftFits := h.leftFits
  rightFits := h.rightFits

/-- A combinator goes back to its start and closes its frame. -/
theorem Sessions.back {m n : Nat} (hmn : Aligned a b m n) :
    Sessions a b (s.moveTo m).popFrame (t.moveTo n).popFrame :=
  (h.moveTo hab hmn).congr ⟨rfl, rfl, rfl⟩ ⟨rfl, rfl, rfl⟩

theorem Sessions.matched (n : Nat) : Settled a b (s.matched n) (t.matched n) where
  toSessions := (h.moveTo hab (h.cursor.add n)).congr ⟨rfl, rfl, rfl⟩ ⟨rfl, rfl, rfl⟩
  result := by
    have hstop := hab.min_size (h.cursor.add n)
    rw [Session.matched_result, Session.matched_result, h.left, h.right]
    exact ⟨h.cursor, hab.textBetween h.cursor hstop, rfl, .none, .nil⟩

omit hab

theorem Sessions.unmatched (delta : Nat) (message : String) (cause : Option String) :
    Settled a b (s.unmatched delta message cause) (t.unmatched delta message cause) where
  left := by simpa using h.left
  right := by simpa using h.right
  cursor := by simpa using h.cursor
  leftFits := s.unmatched_cacheFits delta message cause h.leftFits
  rightFits := t.unmatched_cacheFits delta message cause h.rightFits
  result := by
    rw [Session.unmatched_result_of_cacheFits _ _ _ _ h.leftFits,
      Session.unmatched_result_of_cacheFits _ _ _ _ h.rightFits, h.left, h.right]
    have herror := h.cursor.add delta
    exact ⟨h.cursor, rfl, rfl, .some herror, .cons (aligned_item _ herror message cause) .nil⟩

include hab

theorem Sessions.scan (p : Primitive) : Settled a b (s.scan p) (t.scan p) := by
  unfold Session.scan
  rw [h.rest hab]
  cases p.scan t.rest with
  | ok found =>
    have hmatched := h.matched hab found.length
    exact ⟨hmatched.toSessions.congr ⟨rfl, rfl, rfl⟩ ⟨rfl, rfl, rfl⟩,
      { hmatched.result with value := rfl }⟩
  | error miss => exact h.unmatched miss.delta miss.message miss.cause

omit hab h

theorem Settled.subResults (h : Settled a b s t) (rs ss : List (Result V)) :
    Settled a b { s with subResults := rs } { t with subResults := ss } :=
  ⟨h.toSessions.congr ⟨rfl, rfl, rfl⟩ ⟨rfl, rfl, rfl⟩, h.result⟩

theorem Settled.addFeedback (h : Settled a b s t) {is js : List Feedback.Item}
    (hitems : List.Forall₂ (AlignedItems a b) is js) :
    Settled a b (s.addFeedback is) (t.addFeedback js) :=
  ⟨h.toSessions.congr ⟨rfl, rfl, rfl⟩ ⟨rfl, rfl, rfl⟩,
    { h.result with feedback := List.rel_append h.result.feedback hitems }⟩

theorem Settled.gather (h : Settled a b s t) {rs ss : List (Result V)}
    (hresults : List.Forall₂ (AlignedResults a b) rs ss) :
    Settled a b (s.gather rs) (t.gather ss) :=
  ⟨h.toSessions.congr ⟨rfl, rfl, rfl⟩ ⟨rfl, rfl, rfl⟩,
    { h.result with
      value := congrArg Value.list (aligned_values hresults)
      feedback := List.rel_append h.result.feedback (aligned_feedback hresults) }⟩

theorem Settled.gatherOne (h : Settled a b s t) {rs ss : List (Result V)}
    (hresults : List.Forall₂ (AlignedResults a b) rs ss) :
    Settled a b (s.gatherOne rs) (t.gatherOne ss) := by
  cases hresults with
  | nil => exact h
  | cons hfirst _ =>
    exact ⟨h.toSessions.congr ⟨rfl, rfl, rfl⟩ ⟨rfl, rfl, rfl⟩,
      { h.result with
        value := hfirst.value
        feedback := List.rel_append h.result.feedback hfirst.feedback }⟩

end Operations

end Place

end Descent
