import Descent.Proofs.Settings.Language

/-!
# Quoted values

The expression for quoted values finds what stands between two quotes, and
nothing else. Its search is followed character by character: before the second
quote there is one thread, which may go on or stop.
-/
namespace Descent

namespace Settings

open Regex

def quoteSet : CharSet := .single '"'
def otherSet : CharSet := .compl (.union (.union .empty (.single '\n')) (.single '"'))

/-- What is left to match between the quotes, after the first one and after each character. -/
def Inside (t : Thread) : Prop :=
  t = [.cat ((Regex.set otherSet).star true) (.set quoteSet)] ∨
    t = [.loop (.set otherSet) true, .set quoteSet]

theorem Inside.heads {t : Thread} (h : Inside t) (before after : Option Char) :
    t.heads before after =
      [.read otherSet [.loop (.set otherSet) true, .set quoteSet], .read quoteSet []] := by
  rcases h with rfl | rfl <;> rfl

theorem otherSet_contains (c : Char) : otherSet.contains c = isQuotable c := by
  have hnewline := CharSet.contains_single '\n' c
  have hquote := CharSet.contains_single '"' c
  have hother : otherSet.contains c =
      !((CharSet.single '\n').contains c || (CharSet.single '"').contains c) := rfl
  rw [hother, Bool.eq_iff_iff, Bool.not_eq_true', Bool.or_eq_false_iff, ← Bool.not_eq_true,
    ← Bool.not_eq_true, hnewline, hquote]
  simp only [isQuotable, Bool.and_eq_true, bne_iff_ne]
  exact And.comm

/-- One more character between the quotes, or the second quote, or nothing that fits. -/
theorem advance_inside (c : Char) :
    advance c [.read otherSet [.loop (.set otherSet) true, .set quoteSet], .read quoteSet []] =
      if isQuotable c then [[.loop (.set otherSet) true, .set quoteSet]]
      else if c = '"' then [[]] else [] := by
  have hquote : quoteSet.contains c = true ↔ c = '"' := CharSet.contains_single '"' c
  by_cases hc : isQuotable c = true
  · have hne : ¬ c = '"' := by
      rintro rfl
      cases hc
    simp [advance, List.eraseDups_cons, otherSet_contains, hc, hquote, hne]
  · by_cases hq : c = '"'
    · subst hq
      decide
    · simp [advance, otherSet_contains, hc, hquote, hq]

/-- After the last quote the match stops. -/
theorem follow_done (before : Option Char) (taken : Nat) (best : Option Nat) (cs : List Char) :
    follow before [[]] taken best cs = some taken := by
  cases cs <;> rfl

/-- Between the quotes, the search goes on to the next quote on the same line. -/
theorem follow_inside (t : Thread) (ht : Inside t) (before : Option Char) (taken : Nat)
    (cs : List Char) :
    follow before [t] taken none cs =
      if (cs.dropWhile isQuotable).head? = some '"' then
        some (taken + byteLength (cs.takeWhile isQuotable) + 1) else none := by
  induction cs generalizing t before taken with
  | nil => simp [follow, ht.heads, untilStop]
  | cons c cs ih =>
    have hmoves : untilStop ([t].flatMap (Thread.heads before (some c))) =
        ([.read otherSet [.loop (.set otherSet) true, .set quoteSet], .read quoteSet []],
          false) := by
      rw [List.flatMap_singleton, ht.heads]
      rfl
    rw [follow, hmoves]
    dsimp only
    rw [advance_inside]
    by_cases hc : isQuotable c = true
    · rw [if_pos hc, List.dropWhile_cons_of_pos hc, List.takeWhile_cons_of_pos hc]
      have hnext := ih _ (Or.inr rfl) (some c) (taken + c.utf8Size)
      simp only [byteLength_cons, ← Nat.add_assoc]
      exact hnext
    · rw [if_neg hc, List.dropWhile_cons_of_neg hc, List.takeWhile_cons_of_neg hc]
      by_cases hq : c = '"'
      · subst hq
        have hsize : Char.utf8Size '"' = 1 := rfl
        simpa [hsize] using follow_done (some '"') (taken + 1) none cs
      · simp [hq]

/-- Past the start of the text there is no match. -/
theorem quotedRegex_matchFront_some (c : Char) (cs : List Char) :
    quotedRegex.matchFront (some c) cs = none := by
  cases cs <;> rfl

theorem quotedRegex_findFrom_some (c : Char) (offset : Nat) (cs : List Char) :
    quotedRegex.findFrom (some c) offset cs = none := by
  induction cs generalizing c offset with
  | nil =>
    unfold findFrom
    rw [quotedRegex_matchFront_some]
  | cons c' cs ih =>
    unfold findFrom
    rw [quotedRegex_matchFront_some]
    exact ih c' _

/-- At the start of the text there is a match if the text starts with a quoted value. -/
theorem quotedRegex_matchFront_none (cs : List Char) :
    quotedRegex.matchFront none cs = (quotedAt? cs).map fun v => byteLength v.1 := by
  cases cs with
  | nil => rfl
  | cons c cs =>
    have hmoves : untilStop ([[quotedRegex]].flatMap (Thread.heads none (some c))) =
        ([.read quoteSet [.cat ((Regex.set otherSet).star true) (.set quoteSet)]], false) := rfl
    rw [matchFront, follow, hmoves]
    dsimp only
    by_cases hq : c = '"'
    · subst hq
      have hnext := follow_inside _ (Or.inl rfl) (some '"') 1 cs
      have hsize : Char.utf8Size '"' = 1 := rfl
      have hadvance : advance '"'
          [.read quoteSet [.cat ((Regex.set otherSet).star true) (.set quoteSet)]] =
            [[.cat ((Regex.set otherSet).star true) (.set quoteSet)]] := by decide
      rw [hadvance, quotedAt?]
      simp only [hsize, Nat.zero_add]
      by_cases hclosed : (cs.dropWhile isQuotable).head? = some '"'
      · simp only [hclosed] at hnext ⊢
        simp [hnext, hsize, Nat.add_assoc]
      · simp only [hclosed] at hnext ⊢
        simp [hnext]
    · have hadvance : advance c
          [.read quoteSet [.cat ((Regex.set otherSet).star true) (.set quoteSet)]] = [] := by
        have hquote : ¬ quoteSet.contains c = true :=
          fun h => hq ((CharSet.contains_single '"' c).1 h)
        simp [advance, hquote]
      rw [hadvance, quotedAt?_cons_of_ne hq]
      rfl

/-- The expression matches at the front of a text, or not at all. -/
theorem quotedRegex_find (cs : List Char) :
    quotedRegex.find cs = (quotedAt? cs).map fun v => (0, byteLength v.1) := by
  unfold find findFrom
  rw [quotedRegex_matchFront_none]
  cases hquoted : quotedAt? cs with
  | some v => simp
  | none =>
    cases cs with
    | nil => rfl
    | cons c cs => exact quotedRegex_findFrom_some c _ cs

theorem dropWhile_eq_self {p : Char → Bool} {cs : List Char} (h : ∀ c ∈ cs, ¬ p c = true) :
    cs.dropWhile p = cs := by
  cases cs with
  | nil => rfl
  | cons c cs => exact List.dropWhile_cons_of_neg (h c List.mem_cons_self)

/-- Between quotes there is no quote to take off. -/
theorem unquote_quoted {inner : List Char} (h : ∀ c ∈ inner, isQuotable c = true) :
    unquote ('"' :: inner ++ ['"']) = inner := by
  have hne : ∀ c ∈ inner, ¬ (c == '"') = true := by
    intro c hc hq
    have := h c hc
    simp [isQuotable, beq_iff_eq.1 hq] at this
  have hreverse : inner.reverse.dropWhile (· == '"') = inner.reverse :=
    dropWhile_eq_self fun c hc => hne c (List.mem_reverse.1 hc)
  cases inner with
  | nil => rfl
  | cons c cs =>
    have hfront : ('"' :: (c :: cs) ++ ['"']).dropWhile (· == '"') = c :: cs ++ ['"'] := by
      rw [List.cons_append, List.dropWhile_cons_of_pos (by rfl)]
      exact List.dropWhile_cons_of_neg (hne c List.mem_cons_self)
    rw [unquote, hfront, List.reverse_append, List.reverse_singleton, List.singleton_append,
      List.dropWhile_cons_of_pos (by rfl), hreverse, List.reverse_reverse]

end Settings

end Descent
