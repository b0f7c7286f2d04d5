import Descent.Primitive.Scan
import Descent.Proofs.Session

/-!
# What primitives take

A match takes a front of the remaining text, cut between two characters. So a
cursor on a boundary is moved to a boundary, and no failure lies past the end.
-/
namespace Descent

section Longest

/-- The longest front of a text that belongs to a language. -/
structure LongestFront (language : Set (List Char)) (cs front : List Char) : Prop where
  isPrefix : front <+: cs
  mem : front ∈ language
  longest : ∀ other ∈ language, other <+: cs → other.length ≤ front.length

theorem LongestFront.unique {language : Set (List Char)} {cs front front' : List Char}
    (h : LongestFront language cs front) (h' : LongestFront language cs front') :
    front = front' := by
  have hle : front.length ≤ front'.length := h'.longest front h.mem h.isPrefix
  have hfront : front <+: front' := List.prefix_of_prefix_length_le h.isPrefix h'.isPrefix hle
  exact hfront.eq_of_length_le (h.longest front' h'.mem h'.isPrefix)

/-- A front of a text whose characters all have a property is a front of all those that do. -/
theorem isPrefix_takeWhile {text cs : List Char} {p : Char → Bool} (h : text <+: cs)
    (hp : ∀ c ∈ text, p c = true) : text <+: cs.takeWhile p := by
  obtain ⟨rest, rfl⟩ := h
  rw [List.takeWhile_append_of_pos hp]
  exact List.prefix_append _ _

theorem longestFront_takeWhile (p : Char → Bool) (cs : List Char) :
    LongestFront {front | ∀ c ∈ front, p c = true} cs (cs.takeWhile p) where
  isPrefix := List.takeWhile_prefix p
  mem _ hc := List.mem_takeWhile_imp hc
  longest _ hother hfront := (isPrefix_takeWhile hfront hother).length_le

/-- A front whose characters all have a property is the longest before one that has not. -/
theorem longestFront_append {p : Char → Bool} {text after : List Char}
    (htext : ∀ c ∈ text, p c = true) (hafter : ∀ c ∈ after.head?, p c = false) :
    LongestFront {front | ∀ c ∈ front, p c = true} (text ++ after) text := by
  have hstop : after.takeWhile p = [] := by
    cases after with
    | nil => rfl
    | cons c after => exact List.takeWhile_cons_of_neg (by simp [hafter c rfl])
  have hfront := longestFront_takeWhile p (text ++ after)
  rwa [List.takeWhile_append_of_pos htext, hstop, List.append_nil] at hfront

end Longest

namespace Source

variable (source : Source)

/-- A cursor on a boundary cuts the text in two. -/
theorem exists_cut {p : Nat} (h : IsBoundary p source.chars) :
    ∃ front, source.chars = front ++ source.restFrom p ∧ byteLength front = p := by
  obtain ⟨front, after, hcut, hp⟩ := h
  refine ⟨front, ?_, hp⟩
  rw [restFrom, hcut, ← hp, dropBytes?_byteLength, Option.getD_some]

theorem isBoundary_add {p n : Nat} (h : IsBoundary p source.chars)
    (hn : IsBoundary n (source.restFrom p)) : IsBoundary (p + n) source.chars := by
  obtain ⟨front, hcut, hp⟩ := source.exists_cut h
  rw [hcut]
  simpa only [hp] using hn.append front

theorem le_size {p : Nat} (h : IsBoundary p source.chars) : p ≤ source.size := by
  rw [size_eq]; exact h.le_byteLength

theorem add_byteLength_restFrom {p : Nat} (h : IsBoundary p source.chars) :
    p + byteLength (source.restFrom p) = source.size := by
  obtain ⟨front, hcut, hp⟩ := source.exists_cut h
  rw [size_eq, hcut, byteLength_append, hp]

/-- What is left of the text at an offset. -/
def At (offset : Nat) (cs : List Char) : Prop :=
  ∃ before, source.chars = before ++ cs ∧ byteLength before = offset

theorem at_zero : source.At 0 source.chars := ⟨[], rfl, rfl⟩

variable {source} {offset : Nat} {cs : List Char}

theorem At.restFrom (h : source.At offset cs) : source.restFrom offset = cs := by
  obtain ⟨before, hcut, rfl⟩ := h
  rw [Source.restFrom, hcut, dropBytes?_byteLength, Option.getD_some]

theorem At.add_byteLength (h : source.At offset cs) : offset + byteLength cs = source.size := by
  obtain ⟨before, hcut, rfl⟩ := h
  rw [size_eq, hcut, byteLength_append]

/-- After some of its characters, the rest of the text is left. -/
theorem At.drop (h : source.At offset cs) {front : List Char} (hf : front <+: cs) :
    source.At (offset + byteLength front) (cs.drop front.length) := by
  obtain ⟨before, hcut, rfl⟩ := h
  obtain ⟨after, rfl⟩ := hf
  exact ⟨before ++ front, by simp [hcut], by simp⟩

theorem At.textBetween (h : source.At offset cs) {front : List Char} (hf : front <+: cs) :
    source.textBetween offset (offset + byteLength front) = String.ofList front := by
  obtain ⟨before, hcut, rfl⟩ := h
  obtain ⟨after, rfl⟩ := hf
  have hslice := slice?_eq_some_iff.2 ⟨before, after, hcut, rfl, rfl⟩
  rw [Source.textBetween, hslice, Option.getD_some]

variable (source)

@[simp] theorem textBetween_self (p : Nat) : source.textBetween p p = "" := by
  unfold textBetween slice?
  cases h : dropBytes? p source.chars with
  | none => simp
  | some rest => cases rest <;> simp [takeBytes?]

end Source

namespace Primitive

variable {V : Type}

theorem identifierPrefix_isPrefix (first following : String) (cs : List Char) :
    identifierPrefix first following cs <+: cs := by
  cases cs with
  | nil => exact List.prefix_rfl
  | cons c cs =>
    by_cases hc : startsIdentifier first c
    · simpa [identifierPrefix, hc] using List.takeWhile_prefix _
    · simp [identifierPrefix, hc]

theorem bodyLength?_isBoundary (stop : List Char) (state : Quoting) (cs : List Char) (n : Nat)
    (h : bodyLength? stop state cs = some n) : IsBoundary n cs := by
  induction cs generalizing state n with
  | nil => simp [bodyLength?] at h
  | cons c cs ih =>
    unfold bodyLength? at h
    split at h
    · next hstop =>
      obtain rfl : byteLength stop = n := by simpa using h
      exact isBoundary_of_isPrefix (List.isPrefixOf_iff_prefix.1 hstop.2.2)
    · obtain ⟨k, hk, rfl⟩ := Option.map_eq_some_iff.1 h
      exact (ih _ _ hk).cons c

theorem nonemptyMatch_isBoundary (found rest : List Char) (miss : Miss) (m : Match V)
    (hp : found <+: rest) (h : nonemptyMatch found miss = .ok m) : IsBoundary m.length rest := by
  unfold nonemptyMatch at h
  split at h
  · simp at h
  · obtain rfl : _ = m := by simpa using h
    exact isBoundary_of_isPrefix hp

/-- A match is cut between two characters of the remaining text. -/
theorem scan_isBoundary (p : Primitive) (rest : List Char) (m : Match V)
    (h : p.scan rest = .ok m) : IsBoundary m.length rest := by
  cases p with
  | literal mark =>
    simp only [scan] at h
    split at h
    · next hm =>
      obtain rfl : _ = m := by simpa using h
      obtain ⟨body, hbody⟩ := Option.isSome_iff_exists.1 hm
      exact isBoundary_of_isPrefix ⟨body, (Mark.after?_eq_some_iff.1 hbody).symm⟩
    · simp at h
  | identifier first following =>
    exact nonemptyMatch_isBoundary _ _ _ _ (identifierPrefix_isPrefix first following rest) h
  | natural radix =>
    simp only [scan] at h
    split at h
    · simp at h
    · split at h
      · obtain rfl : _ = m := by simpa using h
        exact isBoundary_of_isPrefix (List.takeWhile_prefix _)
      · simp at h
  | blanks newlines => exact nonemptyMatch_isBoundary _ _ _ _ (List.takeWhile_prefix _) h
  | textEnd =>
    simp only [scan] at h
    split at h
    · obtain rfl : _ = m := by simpa using h
      exact isBoundary_zero _
    · simp at h
  | regexp pattern matcher =>
    simp only [scan] at h
    split at h
    · next start stop hfind =>
      obtain rfl : _ = m := by simpa using h
      exact matcher.stop_boundary rest start stop hfind
    · simp at h
  | lineComment start =>
    simp only [scan] at h
    split at h
    · next body hbody =>
      obtain rfl : _ = m := by simpa using h
      rw [Mark.after?_eq_some_iff.1 hbody]
      exact (isBoundary_of_isPrefix (List.takeWhile_prefix _)).append start.chars
    · simp at h
  | blockComment start stop =>
    simp only [scan] at h
    split at h
    · next body hbody =>
      split at h
      · next n hn =>
        obtain rfl : _ = m := by simpa using h
        rw [Mark.after?_eq_some_iff.1 hbody]
        exact (bodyLength?_isBoundary _ _ _ _ hn).append start.chars
      · simp at h
    · simp at h

/-- A failure lies in the remaining text or at its end. -/
theorem scan_delta_le (p : Primitive) (rest : List Char) (miss : Miss)
    (h : (p.scan rest : Except Miss (Match V)) = .error miss) : miss.delta ≤ byteLength rest := by
  cases p with
  | blockComment start stop =>
    simp only [scan] at h
    split at h
    · next body hbody =>
      split at h
      · simp at h
      · obtain rfl : _ = miss := by simpa using h
        rw [Mark.after?_eq_some_iff.1 hbody]
        simp [Miss.delta, Mark.size]
    · obtain rfl : _ = miss := by simpa using h
      exact Nat.zero_le _
  | _ =>
    simp only [scan, nonemptyMatch] at h
    repeat' split at h
    all_goals first
      | (obtain rfl : _ = miss := by simpa using h
         exact Nat.zero_le _)
      | simp at h

end Primitive

namespace Session

variable {V : Type} {s : Session V} {p : Primitive}

/-- From between two characters, a front of what is left is matched as it stands there. -/
theorem scan_taken {front after : List Char} {value : Value V}
    (hb : IsBoundary s.cursor s.source.chars) (hrest : s.rest = front ++ after)
    (hscan : p.scan s.rest = .ok ⟨byteLength front, value⟩) :
    (s.scan p).cursor = s.cursor + byteLength front ∧
      (s.scan p).result = { position := s.cursor, text := String.ofList front, value } := by
  have hat : s.source.At s.cursor (front ++ after) := hrest ▸ s.source.exists_cut hb
  have hsize := hat.add_byteLength
  rw [byteLength_append] at hsize
  have hstop : min (s.cursor + byteLength front) s.source.size = s.cursor + byteLength front :=
    Nat.min_eq_left (by omega)
  rw [scan, hscan]
  simp [hstop, hat.textBetween (List.prefix_append _ _)]

/-- A miss leaves the cursor where it is, and its message is the only feedback. -/
theorem scan_missed {miss : Miss} (hscan : (p.scan s.rest : Except Miss (Match V)) = .error miss) :
    (s.scan p).cursor = s.cursor ∧
      (s.scan p).result =
        { position := s.cursor, errorAt := some (s.cursor + miss.delta),
          feedback := [s.item .error (s.cursor + miss.delta) miss.message miss.cause] } := by
  rw [scan, hscan]
  simp

end Session

end Descent
