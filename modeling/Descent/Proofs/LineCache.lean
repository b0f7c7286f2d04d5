import Descent.LineCache
import Mathlib.Data.List.TakeWhile
import Mathlib.Data.Nat.Init
import Mathlib.Tactic.Common

/-!
# The line cache and the plain scan

A cache fits a text when it names the start of one of its lines and the number
of that line. Each of the three searches finds the line of an offset, and
leaves a cache that fits again. So a run of queries gives the answers of a
plain scan, in whatever order the offsets come.
-/
namespace Descent

/-- A text after which a line begins. -/
def EndsLine (before : List Char) : Prop := before = [] ∨ ∃ front, before = front ++ ['\n']

/-- A text at which a line stops. -/
def StopsLine (after : List Char) : Prop := after = [] ∨ ∃ tail, after = '\n' :: tail

theorem endsLine_append_newline (front : List Char) : EndsLine (front ++ ['\n']) :=
  Or.inr ⟨front, rfl⟩

/-- A text is its first line and the rest, which stops it. -/
theorem firstLine_split (cs : List Char) :
    ∃ tail, cs = firstLine cs ++ tail ∧ StopsLine tail ∧ '\n' ∉ firstLine cs := by
  refine ⟨cs.dropWhile (· ≠ '\n'), (List.takeWhile_append_dropWhile).symm, ?_, ?_⟩
  · induction cs with
    | nil => exact Or.inl rfl
    | cons c cs ih =>
      by_cases hc : c = '\n'
      · subst hc; exact Or.inr ⟨cs, by simp⟩
      · simpa [List.dropWhile_cons, hc] using ih
  · intro h
    have := List.mem_takeWhile_imp h
    simp at this

theorem firstLine_append (line tail : List Char) (hl : '\n' ∉ line) (ht : StopsLine tail) :
    firstLine (line ++ tail) = line := by
  unfold firstLine
  rw [List.takeWhile_append_of_pos (by intro c hc; simp; rintro rfl; exact hl hc)]
  rcases ht with rfl | ⟨tail, rfl⟩ <;> simp

@[simp] theorem utf8Size_newline : Char.utf8Size '\n' = 1 := rfl

@[simp] theorem byteLength_newline : byteLength ['\n'] = 1 := rfl

@[simp] theorem byteLength_reverse (cs : List Char) : byteLength cs.reverse = byteLength cs := by
  induction cs with
  | nil => rfl
  | cons c cs ih => simp [ih, Nat.add_comm]

section NewlineOffsets

theorem newlineOffsets_append (start : Nat) (xs ys : List Char) :
    newlineOffsets start (xs ++ ys) =
      newlineOffsets start xs ++ newlineOffsets (start + byteLength xs) ys := by
  induction xs generalizing start with
  | nil => simp [newlineOffsets]
  | cons c cs ih => by_cases hc : c = '\n' <;> simp [newlineOffsets, ih, hc, Nat.add_assoc]

theorem length_newlineOffsets (start : Nat) (cs : List Char) :
    (newlineOffsets start cs).length = cs.count '\n' := by
  induction cs generalizing start with
  | nil => rfl
  | cons c cs ih => by_cases hc : c = '\n' <;> simp [newlineOffsets, ih, hc]

theorem newlineOffsets_of_notMem (start : Nat) (cs : List Char) (h : '\n' ∉ cs) :
    newlineOffsets start cs = [] := by
  apply List.eq_nil_of_length_eq_zero
  rw [length_newlineOffsets, List.count_eq_zero]
  exact h

theorem newlineOffsets_bounds (start n : Nat) (cs : List Char) (h : n ∈ newlineOffsets start cs) :
    start ≤ n ∧ n < start + byteLength cs := by
  induction cs generalizing start with
  | nil => simp [newlineOffsets] at h
  | cons c cs ih =>
    have hc := c.utf8Size_pos
    have htail : n ∈ newlineOffsets (start + c.utf8Size) cs →
        start ≤ n ∧ n < start + byteLength (c :: cs) := by
      intro hn
      have := ih (start + c.utf8Size) hn
      simp only [byteLength_cons]
      omega
    by_cases hn : c = '\n'
    · simp only [newlineOffsets, hn, if_true, List.mem_cons] at h
      rcases h with rfl | h
      · simp only [byteLength_cons]; omega
      · exact htail (by simpa [hn] using h)
    · exact htail (by simpa [newlineOffsets, hn] using h)

/-- The next line begins one past the last newline of the lines before it. -/
theorem lastNewline_of_endsLine (before : List Char) (h : EndsLine before) :
    ((newlineOffsets 0 before).getLast?.map (· + 1)).getD 0 = byteLength before := by
  rcases h with rfl | ⟨front, rfl⟩
  · rfl
  · simp [newlineOffsets_append, newlineOffsets]

end NewlineOffsets

/-- The plain scan on a text that is cut around the line of the offset. -/
theorem Location.ofOffset_eq (before line after : List Char) (offset : Nat)
    (hb : EndsLine before) (hl : '\n' ∉ line) (ha : StopsLine after)
    (hlo : byteLength before ≤ offset) (hhi : offset ≤ byteLength before + byteLength line) :
    Location.ofOffset (before ++ (line ++ after)) offset =
      ⟨before.count '\n' + 1, offset - byteLength before + 1, String.ofList line⟩ := by
  have hmin : min offset (byteLength (before ++ (line ++ after))) = offset := by
    simp only [byteLength_append]; omega
  have hended : (newlineOffsets 0 (before ++ (line ++ after))).filter (· < offset) =
      newlineOffsets 0 before := by
    rw [newlineOffsets_append, newlineOffsets_append, newlineOffsets_of_notMem _ line hl,
      List.nil_append, List.filter_append]
    have hfront : (newlineOffsets 0 before).filter (· < offset) = newlineOffsets 0 before := by
      rw [List.filter_eq_self]
      intro n hn
      have := newlineOffsets_bounds 0 n before hn
      simp only [decide_eq_true_eq]
      omega
    have hback : (newlineOffsets (0 + byteLength before + byteLength line) after).filter
        (· < offset) = [] := by
      rw [List.filter_eq_nil_iff]
      intro n hn
      have := newlineOffsets_bounds _ n after hn
      simp only [decide_eq_true_eq]
      omega
    rw [hfront, hback, List.append_nil]
  simp only [Location.ofOffset, hmin, hended, lastNewline_of_endsLine before hb,
    length_newlineOffsets, dropBytes?_byteLength, Option.getD_some,
    firstLine_append line after hl ha]

theorem Location.ofOffset_min (content : List Char) (offset : Nat) :
    Location.ofOffset content (min offset (byteLength content)) =
      Location.ofOffset content offset := by
  simp [Location.ofOffset]

theorem Location.ofOffset_nil (offset : Nat) : Location.ofOffset [] offset = ⟨1, 1, ""⟩ := by
  simp [Location.ofOffset, newlineOffsets, firstLine]

namespace LineCache

/-- A cache that names the start of a line of the text, and the number of that line. -/
def Fits (cache : LineCache) (content : List Char) : Prop :=
  ∃ before after, content = before ++ after ∧ EndsLine before ∧
    cache.start = byteLength before ∧ cache.number = before.count '\n' + 1

theorem fits_default (content : List Char) : ({} : LineCache).Fits content :=
  ⟨[], content, rfl, Or.inl rfl, rfl, rfl⟩

/-- The right answer, together with a cache that fits. -/
def Answers (content : List Char) (offset : Nat) (answer : Option (Location × LineCache)) : Prop :=
  ∃ cache, answer = some (Location.ofOffset content offset, cache) ∧ cache.Fits content

theorem hit?_answers (before line after : List Char) (offset : Nat)
    (hb : EndsLine before) (hl : '\n' ∉ line) (ha : StopsLine after)
    (hlo : byteLength before ≤ offset) (hhi : offset ≤ byteLength before + byteLength line) :
    Answers (before ++ (line ++ after)) offset
      (hit? (before ++ (line ++ after)) (byteLength before) (byteLength before + byteLength line)
        (before.count '\n' + 1) offset) := by
  have hslice : slice? (byteLength before) (byteLength before + byteLength line)
      (before ++ (line ++ after)) = some line :=
    slice?_eq_some_iff.2 ⟨before, after, rfl, rfl, rfl⟩
  have hsub : sub? offset (byteLength before) = some (offset - byteLength before) :=
    sub?_eq_some_iff.2 (by omega)
  refine ⟨⟨byteLength before, before.count '\n' + 1⟩, ?_, before, line ++ after, rfl, hb, rfl, rfl⟩
  rw [Location.ofOffset_eq before line after offset hb hl ha hlo hhi]
  simp [hit?, hslice, hsub]

/-- The search forward, from a line that does not start after the offset. -/
theorem forward?_answers (content : List Char) (offset : Nat) (before rest : List Char)
    (hc : content = before ++ rest) (hb : EndsLine before) (hlo : byteLength before ≤ offset)
    (hhi : offset ≤ byteLength content) :
    Answers content offset
      (forward? content offset rest (byteLength before) (before.count '\n' + 1)) := by
  -- each round moves one line from `rest` to `before`
  induction hn : rest.length using Nat.strong_induction_on generalizing before rest with
  | _ n ih =>
    obtain ⟨tail, hrest, htail, hline⟩ := firstLine_split rest
    rw [forward?]
    by_cases hle : offset ≤ byteLength before + byteLength (firstLine rest)
    · have hcut : content = before ++ (firstLine rest ++ tail) := by rw [← hrest, hc]
      simpa only [if_pos hle, hcut] using
        hit?_answers before (firstLine rest) tail offset hb hline htail hlo hle
    · simp only [if_neg hle]
      rcases htail with rfl | ⟨tail, rfl⟩
      · have : byteLength rest = byteLength (firstLine rest) := by
          conv_lhs => rw [hrest]
          simp
        rw [hc, byteLength_append] at hhi
        omega
      · have hsplit : rest = (firstLine rest ++ ['\n']) ++ tail := by
          rw [List.append_assoc]; exact hrest
        have hdrop : dropBytes? (byteLength before + byteLength (firstLine rest) + 1 -
            byteLength before) rest = some tail :=
          dropBytes?_eq_some_iff.2 ⟨firstLine rest ++ ['\n'], hsplit, by
            simp only [byteLength_append, byteLength_newline]; omega⟩
        have hlen : tail.length < n := by
          rw [← hn, hrest]; simp; omega
        have hnext := ih tail.length hlen (before ++ firstLine rest ++ ['\n']) tail
          (by rw [hc]; conv_lhs => rw [hsplit]
              simp)
          (endsLine_append_newline _) (by simp; omega) rfl
        simp only [hdrop]
        simpa [Nat.add_assoc, List.count_eq_zero.2 hline] using hnext

theorem backward?_here (content back : List Char) (offset start stop number number' : Nat)
    (hs : sub? stop (byteLength (firstLine back)) = some start) (hn : sub? number' 1 = some number)
    (hle : start ≤ offset) :
    backward? content offset back stop number' = hit? content start stop number offset := by
  rw [backward?]
  split
  · next h₁ h₂ => simp_all
  · next h => exact absurd hn (h _ _ hs)

theorem backward?_before (content back back' : List Char)
    (offset start stop stop' number number' : Nat)
    (hs : sub? stop' (byteLength (firstLine back')) = some start)
    (hn : sub? number' 1 = some number)
    (hle : ¬ start ≤ offset) (hp : sub? start 1 = some stop)
    (hd : dropBytes? (byteLength (firstLine back') + 1) back' = some back) :
    backward? content offset back' stop' number' = backward? content offset back stop number := by
  rw [backward?]
  split
  · next h₁ h₂ =>
    obtain rfl : start = _ := by simpa [hs] using h₁
    obtain rfl : number = _ := by simpa [hn] using h₂
    rw [if_neg hle]
    split
    · next h₃ h₄ => simp_all
    · next h => exact absurd hd (h _ _ hp)
  · next h => exact absurd hn (h _ _ hs)

/-- The search backward, from a newline at which or before which the offset lies. -/
theorem backward?_answers (content : List Char) (offset : Nat) (back after : List Char)
    (hc : content = back.reverse ++ '\n' :: after) (hhi : offset ≤ byteLength back) :
    Answers content offset
      (backward? content offset back (byteLength back) (back.count '\n' + 2)) := by
  -- each round moves one line from `back` to `after`
  induction hn : back.length using Nat.strong_induction_on generalizing back after with
  | _ n ih =>
    obtain ⟨tail, hback, htail, hline⟩ := firstLine_split back
    have hlen : byteLength back = byteLength (firstLine back) + byteLength tail := by
      conv_lhs => rw [hback]
      simp
    have hcount : back.count '\n' = tail.count '\n' := by
      conv_lhs => rw [hback]
      simp [List.count_eq_zero.2 hline]
    have hstart : sub? (byteLength back) (byteLength (firstLine back)) =
        some (byteLength tail) := sub?_eq_some_iff.2 (by omega)
    have hnumber : sub? (back.count '\n' + 2) 1 = some (tail.count '\n' + 1) :=
      sub?_eq_some_iff.2 (by omega)
    have hends : EndsLine tail.reverse := by
      rcases htail with rfl | ⟨tail, rfl⟩
      · exact Or.inl rfl
      · exact Or.inr ⟨tail.reverse, by simp⟩
    have hcut : content = tail.reverse ++ ((firstLine back).reverse ++ '\n' :: after) := by
      rw [hc]; conv_lhs => rw [hback]
      simp
    by_cases hle : byteLength tail ≤ offset
    · have hhit := hit?_answers tail.reverse (firstLine back).reverse ('\n' :: after) offset hends
        (by simpa using hline) (Or.inr ⟨after, rfl⟩) (by simpa using hle) (by simp; omega)
      rw [backward?_here _ _ _ _ _ _ _ hstart hnumber hle]
      rw [← hcut] at hhit
      simpa [hlen, Nat.add_comm] using hhit
    · rcases htail with rfl | ⟨tail, rfl⟩
      · simp at hle
      · have hprev : sub? (byteLength ('\n' :: tail)) 1 = some (byteLength tail) :=
          sub?_eq_some_iff.2 (by simp [Nat.add_comm])
        have hdrop : dropBytes? (byteLength (firstLine back) + 1) back = some tail :=
          dropBytes?_eq_some_iff.2 ⟨firstLine back ++ ['\n'], by
            rw [List.append_assoc]; exact hback, by simp⟩
        have hshort : tail.length < n := by
          rw [← hn, hback]; simp; omega
        have hnext := ih tail.length hshort tail ((firstLine back).reverse ++ '\n' :: after)
          (by rw [hcut]; simp) (by
            simp only [byteLength_cons, utf8Size_newline] at hle
            omega) rfl
        rw [backward?_before _ _ _ _ _ _ _ _ _ hstart hnumber hle hprev hdrop]
        simpa using hnext

/-- Whatever line the cache names, the offset is resolved as by a plain scan. -/
theorem resolve?_answers (cache : LineCache) (content : List Char) (offset : Nat)
    (h : cache.Fits content) : Answers content offset (cache.resolve? content offset) := by
  obtain ⟨start, number⟩ := cache
  obtain ⟨before, after, hc, hb, hstart, hnumber⟩ := id h
  simp only at hstart hnumber
  rw [Answers, ← Location.ofOffset_min]
  unfold resolve?
  by_cases hempty : content = []
  · subst hempty
    exact ⟨⟨start, number⟩, by simp [Location.ofOffset_nil], h⟩
  · simp only [List.isEmpty_iff, hempty, if_false]
    have hhi : min offset (byteLength content) ≤ byteLength content := Nat.min_le_right _ _
    generalize min offset (byteLength content) = offset at hhi
    by_cases hle : start ≤ offset
    · have hdrop : dropBytes? start content = some after :=
        dropBytes?_eq_some_iff.2 ⟨before, hc, hstart.symm⟩
      have hforward := forward?_answers content offset before after hc hb (by omega) hhi
      rw [← hstart, ← hnumber] at hforward
      simpa [hle, hdrop, Answers] using hforward
    · rcases hb with rfl | ⟨front, rfl⟩
      · simp only [byteLength_nil] at hstart; omega
      · simp only [byteLength_append, byteLength_newline] at hstart
        have hboundary : sub? start 1 = some (byteLength front) := sub?_eq_some_iff.2 (by omega)
        have hgap : sub? (byteLength front) offset = some (byteLength front - offset) :=
          sub?_eq_some_iff.2 (by omega)
        simp only [hle, if_false, hboundary, hgap, Option.bind_eq_bind, Option.bind_some]
        by_cases hnear : offset ≤ byteLength front - offset
        · rw [if_pos hnear]
          exact forward?_answers content offset [] content rfl (Or.inl rfl) (Nat.zero_le _) hhi
        · have htake : takeBytes? (byteLength front) content = some front :=
            takeBytes?_eq_some_iff.2 ⟨'\n' :: after, by simpa using hc, rfl⟩
          have hback := backward?_answers content offset front.reverse after
            (by simpa using hc) (by rw [byteLength_reverse]; omega)
          rw [if_neg hnear, htake, hnumber]
          simpa [Answers] using hback

/-- Resolves offsets one after the other, each with the cache that the one before has left. -/
def resolveAll? (content : List Char) : LineCache → List Nat → Option (List Location)
  | _, [] => some []
  | cache, offset :: offsets => do
    let (location, cache) ← cache.resolve? content offset
    return location :: (← resolveAll? content cache offsets)

theorem resolveAll?_of_fits (content : List Char) (offsets : List Nat) (cache : LineCache)
    (h : cache.Fits content) :
    resolveAll? content cache offsets = some (offsets.map (Location.ofOffset content)) := by
  induction offsets generalizing cache with
  | nil => rfl
  | cons offset offsets ih =>
    obtain ⟨cache', hanswer, hfits⟩ := resolve?_answers cache content offset h
    simp [resolveAll?, hanswer, ih cache' hfits]

/-- Whatever was asked before, the answer for an offset is that of the plain scan. -/
theorem resolveAll?_eq_ofOffset (content : List Char) (offsets : List Nat) :
    resolveAll? content {} offsets = some (offsets.map (Location.ofOffset content)) :=
  resolveAll?_of_fits content offsets {} (fits_default content)

/-- The newline belongs to the line it ends; what comes after the last one is a line too. -/
example : resolveAll? "ab\ncd\n".toList {} [6, 2, 3, 99] =
    some [⟨3, 1, ""⟩, ⟨1, 3, "ab"⟩, ⟨2, 1, "cd"⟩, ⟨3, 1, ""⟩] := by
  rw [resolveAll?_of_fits _ _ _ (fits_default _)]
  decide

end LineCache

end Descent
