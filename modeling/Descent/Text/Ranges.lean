/-!
# Sets of characters as ranges

A set of characters is written as a list of closed ranges of code points in
increasing order, so a search may stop at the first range that starts later.
-/
namespace Descent

/-- Closed ranges of code points, in increasing order. -/
abbrev Ranges := List (Nat × Nat)

/-- Whether a code point lies in one of the ranges. -/
def Ranges.covers : Ranges → Nat → Bool
  | [], _ => false
  | (lo, hi) :: rest, n => if n < lo then false else if n ≤ hi then true else Ranges.covers rest n

def Ranges.contains (ranges : Ranges) (c : Char) : Bool := ranges.covers c.toNat

/-- The ranges are nonempty and each starts after the one before it ends. -/
def Ranges.increasing : Ranges → Bool
  | [] => true
  | [(lo, hi)] => decide (lo ≤ hi)
  | (lo, hi) :: (lo', hi') :: rest =>
    decide (lo ≤ hi) && decide (hi < lo') && Ranges.increasing ((lo', hi') :: rest)

/-- On increasing ranges the early stop loses nothing. -/
theorem Ranges.covers_iff {ranges : Ranges} (h : ranges.increasing = true) (n : Nat) :
    ranges.covers n = true ↔ ∃ r ∈ ranges, r.1 ≤ n ∧ n ≤ r.2 := by
  fun_induction Ranges.increasing ranges with
  | case1 => simp [covers]
  | case2 lo hi => simp [covers]
  | case3 lo hi lo' hi' rest ih =>
    simp only [Bool.and_eq_true, decide_eq_true_eq] at h
    have ih := ih h.2
    rw [covers]
    split
    · next hlt =>
      simp only [Bool.false_eq_true, false_iff]
      rintro ⟨r, hr, hlo, hhi⟩
      rcases List.mem_cons.1 hr with rfl | hr
      · exact absurd hlo (by simpa using hlt)
      · have : covers ((lo', hi') :: rest) n = true := ih.2 ⟨r, hr, hlo, hhi⟩
        rw [covers, if_pos (by omega)] at this
        exact absurd this (by simp)
    · next hge =>
      split
      · next hle => simpa using Or.inl ⟨by omega, hle⟩
      · next hgt =>
        rw [ih]
        constructor
        · rintro ⟨r, hr, hb⟩; exact ⟨r, List.mem_cons_of_mem _ hr, hb⟩
        · rintro ⟨r, hr, hb⟩
          rcases List.mem_cons.1 hr with rfl | hr
          · exact absurd hb.2 hgt
          · exact ⟨r, hr, hb⟩

/-- Ranges that do not meet have no code point in common. -/
theorem Ranges.covers_of_apart {ranges others : Ranges} (h : ranges.increasing = true)
    (hothers : others.increasing = true)
    (hapart : ∀ r ∈ ranges, ∀ s ∈ others, r.2 < s.1 ∨ s.2 < r.1) {n : Nat}
    (hn : ranges.covers n = true) : others.covers n = false := by
  refine Bool.eq_false_iff.2 fun hn' => ?_
  obtain ⟨r, hr, hlo, hhi⟩ := (covers_iff h n).1 hn
  obtain ⟨s, hs, hlo', hhi'⟩ := (covers_iff hothers n).1 hn'
  have := hapart r hr s hs
  omega

end Descent
