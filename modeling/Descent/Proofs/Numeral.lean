import Descent.Text.Numeral
import Mathlib.Tactic.Common

/-!
# The values of numerals

A numeral is read into a word when its positional value fits, and the word then
has that value. So what is printed in base ten is read back.
-/
namespace Descent

section Words

variable {base : Nat} (hbase : 1 ≤ base)

include hbase

/-- More digits do not make the value smaller. -/
theorem le_foldl_positional (n : Nat) (digits : List Nat) :
    n ≤ digits.foldl (fun n d => n * base + d) n := by
  induction digits generalizing n with
  | nil => exact Nat.le_refl n
  | cons d digits ih =>
    calc n ≤ n * base := Nat.le_mul_of_pos_right n hbase
      _ ≤ n * base + d := Nat.le_add_right _ d
      _ ≤ digits.foldl (fun n d => n * base + d) (n * base + d) := ih _

/-- The word overflows at some digit just when the value of all the digits does not fit. -/
theorem foldlM_appendDigit? (word : UInt64) (digits : List Nat) :
    digits.foldlM (appendDigit? base) word =
      if digits.foldl (fun n d => n * base + d) word.toNat < UInt64.size then
        some (UInt64.ofNat (digits.foldl (fun n d => n * base + d) word.toNat))
      else none := by
  induction digits generalizing word with
  | nil => simp [word.toNat_lt_size]
  | cons d digits ih =>
    have hgrows := le_foldl_positional hbase (word.toNat * base + d) digits
    rw [List.foldlM_cons, List.foldl_cons]
    by_cases hfits : word.toNat * base + d < UInt64.size
    · have hword : (UInt64.ofNat (word.toNat * base + d)).toNat = word.toNat * base + d :=
        UInt64.toNat_ofNat_of_lt' hfits
      have hnext : appendDigit? base word d = some (UInt64.ofNat (word.toNat * base + d)) := by
        rw [appendDigit?, if_pos (by omega), if_pos hfits]
      rw [hnext, Option.bind_eq_bind, Option.bind_some, ih, hword]
    · have hnext : appendDigit? base word d = none := by
        rw [appendDigit?, if_neg hfits]
        exact ite_self none
      rw [hnext, if_neg (by omega)]
      rfl

theorem wordOfDigits?_eq (digits : List Nat) :
    wordOfDigits? base digits =
      if positional base digits < UInt64.size then some (UInt64.ofNat (positional base digits))
      else none :=
  foldlM_appendDigit? hbase 0 digits

end Words

section Digits

variable {base : Nat} {cs : List Char}

/-- What a text of digits counts for, however large. -/
def numeralValue (base : Nat) (cs : List Char) : Nat := positional base (cs.filterMap (digit? base))

theorem mapM_digit? (h : ∀ c ∈ cs, isDigit base c = true) :
    cs.mapM (digit? base) = some (cs.filterMap (digit? base)) := by
  induction cs with
  | nil => rfl
  | cons c cs ih =>
    obtain ⟨hc, hcs⟩ := List.forall_mem_cons.1 h
    obtain ⟨d, hd⟩ := Option.isSome_iff_exists.1 hc
    simp [List.mapM_cons, hd, ih hcs]

theorem readNumeral?_eq (hbase : 1 ≤ base) (h : ∀ c ∈ cs, isDigit base c = true) :
    readNumeral? base cs =
      if numeralValue base cs < UInt64.size then some (UInt64.ofNat (numeralValue base cs))
      else none := by
  rw [readNumeral?, mapM_digit? h]
  exact wordOfDigits?_eq hbase _

end Digits

section Decimals

theorem digit?_ten (c : Char) :
    digit? 10 c = if c.isDigit then some (c.toNat - '0'.toNat) else none := by
  have hzero : '0'.toNat = 48 := rfl
  have hnine : '9'.toNat = 57 := rfl
  have hiff := c.isDigit_iff_toNat
  simp only [hzero, hnine] at hiff
  unfold digit? digitWeight?
  by_cases hc : c.isDigit = true
  · have hbounds := hiff.1 hc
    have hlt : c.toNat - 48 < 10 := by omega
    simp [hc, hbounds, hlt]
  · have hbounds := mt hiff.2 hc
    -- a letter counts ten at least
    simp only [hc, if_neg hbounds]
    split
    · simp
    · split <;> simp

theorem isDigit_ten (c : Char) : isDigit 10 c = c.isDigit := by
  rw [isDigit, digit?_ten]
  cases c.isDigit <;> rfl

theorem mapM_digit?_ten (cs : List Char) (h : ∀ c ∈ cs, c.isDigit = true) :
    cs.mapM (digit? 10) = some (cs.map fun c => c.toNat - '0'.toNat) := by
  induction cs with
  | nil => rfl
  | cons c cs ih =>
    obtain ⟨hc, hcs⟩ := List.forall_mem_cons.1 h
    simp [List.mapM_cons, digit?_ten, hc, ih hcs]

theorem positional_ten (cs : List Char) :
    positional 10 (cs.map fun c => c.toNat - '0'.toNat) = Nat.ofDigitChars 10 cs 0 := by
  rw [positional, Nat.ofDigitChars_eq_foldl, List.foldl_map]
  simp only [Nat.mul_comm]

theorem isDigit_of_mem_decimal {n : Nat} {c : Char} (h : c ∈ Nat.toDigits 10 n) :
    c.isDigit = true :=
  Nat.isDigit_of_mem_toDigits (by decide) (Nat.le_refl 10) h

/-- A word printed in base ten is read back. -/
theorem readNumeral?_toDigits (n : UInt64) :
    readNumeral? 10 (Nat.toDigits 10 n.toNat) = some n := by
  have hdigits := mapM_digit?_ten (Nat.toDigits 10 n.toNat) fun c hc => isDigit_of_mem_decimal hc
  have hvalue : positional 10 ((Nat.toDigits 10 n.toNat).map fun c => c.toNat - '0'.toNat) =
      n.toNat := by
    rw [positional_ten, Nat.ofDigitChars_ten_toDigits]
  rw [readNumeral?, hdigits, Option.bind_some, wordOfDigits?_eq (by decide), hvalue,
    if_pos n.toNat_lt_size, UInt64.ofNat_toNat]

end Decimals

end Descent
