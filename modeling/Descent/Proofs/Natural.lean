import Descent.Proofs.Balance
import Descent.Proofs.Numeral
import Descent.Proofs.Scanning
import Mathlib.Data.Nat.Digits.Defs

/-!
# Natural numbers

A natural number is read from the longest front of digits. The word that is
built up digit by digit overflows just when the positional value of all the
digits does not fit, so each word is read back from all of its spellings, with
any leading zeros and with letters in either case.
-/
namespace Descent

section Spelling

/-- The digits of all bases in their order. -/
def lowerDigits : List Char := "0123456789abcdefghijklmnopqrstuvwxyz".toList

def upperDigits : List Char := "0123456789ABCDEFGHIJKLMNOPQRSTUVWXYZ".toList

/-- A character is written for a digit, as a letter of either case if the digit is above nine. -/
def Spells (c : Char) (d : Nat) : Prop := lowerDigits[d]? = some c ∨ upperDigits[d]? = some c

instance (c : Char) (d : Nat) : Decidable (Spells c d) := inferInstanceAs (Decidable (_ ∨ _))

/-- The texts of digits of a base. -/
def digitTexts (base : Nat) : Set (List Char) := {text | ∀ c ∈ text, ∃ d < base, Spells c d}

variable {base : Nat} {c : Char} {d : Nat}

theorem digitWeight?_eq_some_iff : digitWeight? c = some d ↔ Spells c d := by
  constructor
  · intro h
    -- what counts for a digit is ASCII, and there are few of these characters
    have hascii : c.toNat < 123 := by
      simp only [digitWeight?] at h
      grind
    have hall : ∀ n < 123, ∀ d ∈ digitWeight? (Char.ofNat n),
        lowerDigits[d]? = some (Char.ofNat n) ∨ upperDigits[d]? = some (Char.ofNat n) := by
      decide +kernel
    have hc := hall c.toNat hascii
    rw [Char.ofNat_toNat] at hc
    exact hc d h
  · have hall : ∀ d < 36, lowerDigits[d]?.bind digitWeight? = some d ∧
        upperDigits[d]?.bind digitWeight? = some d := by decide +kernel
    rintro (h | h)
    · have hweight := (hall d (List.getElem?_eq_some_iff.1 h).1).1
      rwa [h] at hweight
    · have hweight := (hall d (List.getElem?_eq_some_iff.1 h).1).2
      rwa [h] at hweight

theorem digit?_eq_some_iff : digit? base c = some d ↔ d < base ∧ Spells c d := by
  rw [digit?, Option.filter_eq_some_iff, digitWeight?_eq_some_iff, decide_eq_true_iff, and_comm]

theorem isDigit_iff : isDigit base c = true ↔ ∃ d < base, Spells c d := by
  simp only [isDigit, Option.isSome_iff_exists, digit?_eq_some_iff]

theorem digitTexts_eq (base : Nat) :
    digitTexts base = {text | ∀ c ∈ text, isDigit base c = true} := by
  simp only [digitTexts, isDigit_iff]

end Spelling

section Values

variable {base : Nat} {text : List Char} {digits : List Nat}

theorem positional_eq_ofDigits (base : Nat) (digits : List Nat) :
    positional base digits = Nat.ofDigits base digits.reverse := by
  rw [Nat.ofDigits_eq_foldr, List.foldr_reverse, positional]
  simp [Nat.add_comm, Nat.mul_comm]

/-- The digits of a text are those that its characters are written for. -/
theorem filterMap_digit? (htext : text ∈ digitTexts base)
    (hspells : List.Forall₂ Spells text digits) : text.filterMap (digit? base) = digits := by
  induction hspells with
  | nil => rfl
  | @cons c d text digits hc hspells ih =>
    obtain ⟨⟨d', hd', hc'⟩, htext⟩ := List.forall_mem_cons.1 htext
    have hweight := (digitWeight?_eq_some_iff.2 hc).symm.trans (digitWeight?_eq_some_iff.2 hc')
    obtain rfl := Option.some.inj hweight
    rw [List.filterMap_cons_some (digit?_eq_some_iff.2 ⟨hd', hc⟩), ih htext]

theorem exists_spelled (htext : text ∈ digitTexts base) :
    ∃ digits, List.Forall₂ Spells text digits := by
  induction text with
  | nil => exact ⟨[], .nil⟩
  | cons c text ih =>
    obtain ⟨⟨d, -, hc⟩, htext⟩ := List.forall_mem_cons.1 htext
    obtain ⟨digits, hspells⟩ := ih htext
    exact ⟨d :: digits, .cons hc hspells⟩

theorem readNumeral?_of_spelled (hbase : 1 ≤ base) (htext : text ∈ digitTexts base)
    (hspells : List.Forall₂ Spells text digits) :
    readNumeral? base text =
      if Nat.ofDigits base digits.reverse < UInt64.size then
        some (UInt64.ofNat (Nat.ofDigits base digits.reverse))
      else none := by
  rw [readNumeral?_eq hbase fun c hc => isDigit_iff.2 (htext c hc), numeralValue,
    filterMap_digit? htext hspells, positional_eq_ofDigits]

theorem mem_digitTexts_of_spelled (hspells : List.Forall₂ Spells text digits)
    (hdigits : ∀ d ∈ digits, d < base) : text ∈ digitTexts base := by
  induction hspells with
  | nil => exact fun c hc => absurd hc List.not_mem_nil
  | @cons c d text digits hc hspells ih =>
    obtain ⟨hd, hdigits⟩ := List.forall_mem_cons.1 hdigits
    exact List.forall_mem_cons.2 ⟨⟨d, hd, hc⟩, ih hdigits⟩

/-- The digits of a number with some zeros in front. -/
def paddedDigits (base zeros n : Nat) : List Nat :=
  List.replicate zeros 0 ++ (Nat.digits base n).reverse

theorem paddedDigits_lt {zeros n d : Nat} (hbase : 1 < base) (h : d ∈ paddedDigits base zeros n) :
    d < base := by
  rcases List.mem_append.1 h with hzero | hdigit
  · rw [List.eq_of_mem_replicate hzero]
    exact Nat.lt_of_succ_lt hbase
  · exact Nat.digits_lt_base hbase (List.mem_reverse.1 hdigit)

/-- Leading zeros do not count. -/
theorem ofDigits_paddedDigits (base zeros n : Nat) :
    Nat.ofDigits base (paddedDigits base zeros n).reverse = n := by
  rw [paddedDigits, List.reverse_append, List.reverse_reverse, List.reverse_replicate,
    Nat.ofDigits_append, Nat.ofDigits_digits, Nat.ofDigits_replicate_zero, Nat.mul_zero,
    Nat.add_zero]

end Values

section Scan

variable {V : Type} {base : Nat} {radix : Radix} {rest text after : List Char}
  {digits : List Nat}

theorem longestFront_digits (base : Nat) (cs : List Char) :
    LongestFront (digitTexts base) cs (cs.takeWhile (isDigit base)) := by
  rw [digitTexts_eq]
  exact longestFront_takeWhile _ cs

theorem longestFront_spelled (htext : text ∈ digitTexts base)
    (hafter : ∀ c ∈ after.head?, ¬ ∃ d < base, Spells c d) :
    LongestFront (digitTexts base) (text ++ after) text := by
  rw [digitTexts_eq] at htext ⊢
  exact longestFront_append htext fun c hc => by
    rw [Bool.eq_false_iff, ne_eq, isDigit_iff]
    exact hafter c hc

variable (hfront : LongestFront (digitTexts radix.base) rest text)
  (hspells : List.Forall₂ Spells text digits)

include hfront hspells

theorem scan_natural :
    ((Primitive.natural radix).scan rest : Except Miss (Match V)) =
      if text = [] then .error (.natural false)
      else if Nat.ofDigits radix.base digits.reverse < UInt64.size then
        .ok ⟨byteLength text, .natural (UInt64.ofNat (Nat.ofDigits radix.base digits.reverse))⟩
      else .error (.natural true) := by
  have htoken := (longestFront_digits radix.base rest).unique hfront
  have hbase : 1 ≤ radix.base := Nat.le_of_succ_le radix.two_le
  have hread := readNumeral?_of_spelled hbase hfront.mem hspells
  rw [Primitive.scan, htoken, hread]
  by_cases hempty : text = []
  · simp [hempty]
  · by_cases hfits : Nat.ofDigits radix.base digits.reverse < UInt64.size
    · simp [hempty, hfits]
    · simp [hempty, hfits]

variable {s : Session V} (hs : s.rest = rest)

include hs

theorem Session.scan_natural_taken (hb : IsBoundary s.cursor s.source.chars) (hne : text ≠ [])
    (hfits : Nat.ofDigits radix.base digits.reverse < UInt64.size) :
    (s.scan (.natural radix)).cursor = s.cursor + byteLength text ∧
      (s.scan (.natural radix)).result =
        { position := s.cursor
          text := String.ofList text
          value := .natural (UInt64.ofNat (Nat.ofDigits radix.base digits.reverse)) } := by
  obtain ⟨after, hcut⟩ := hfront.isPrefix
  refine Session.scan_taken hb (hs.trans hcut.symm) ?_
  rw [hs, scan_natural hfront hspells, if_neg hne, if_pos hfits]

theorem Session.scan_natural_missed
    (h : ¬ (text ≠ [] ∧ Nat.ofDigits radix.base digits.reverse < UInt64.size)) :
    (s.scan (.natural radix)).cursor = s.cursor ∧
      (s.scan (.natural radix)).result =
        { position := s.cursor
          errorAt := some s.cursor
          feedback := [s.item .error s.cursor "natural number expected"
            (if text = [] then none else some "number too large to fit in target type")] } := by
  have hscan := scan_natural (V := V) hfront hspells
  rw [← hs] at hscan
  by_cases hempty : text = []
  · rw [if_pos hempty] at hscan ⊢
    exact Session.scan_missed hscan
  · rw [if_neg hempty, if_neg fun hfits => h ⟨hempty, hfits⟩] at hscan
    rw [if_neg hempty]
    exact Session.scan_missed hscan

end Scan

variable {V C : Type}

/-- A natural number matches just when the longest front of digits is not empty and its value fits a
word. It takes these digits for their value then; otherwise it fails on the spot, and tells of the
overflow if there are digits. So each word is read from all of its spellings. -/
theorem natural_exact (env : Env V C) (fuel : Nat) (radix : Radix) (hook : Script V C)
    (r : Run V C) (hr : IsBoundary r.session.cursor r.session.source.chars) :
    let s := r.onSession (Session.scan (.natural radix))
    let p := r.session.cursor
    (Grammar.primitive (.natural radix) hook).parse env (fuel + 1) r = some (s.finish hook) ∧
      (∃ text digits, LongestFront (digitTexts radix.base) r.session.rest text ∧
        List.Forall₂ Spells text digits) ∧
      (∀ text digits, LongestFront (digitTexts radix.base) r.session.rest text →
        List.Forall₂ Spells text digits →
        let value := Nat.ofDigits radix.base digits.reverse
        (¬ s.failed = true ↔ text ≠ [] ∧ value < 2 ^ 64) ∧
        (¬ s.failed = true → s.session.cursor = p + byteLength text ∧
          s.session.result =
            { position := p
              text := String.ofList text
              value := .natural (UInt64.ofNat value) }) ∧
        (s.failed = true → s.session.cursor = p ∧
          s.session.result =
            { position := p
              errorAt := some p
              feedback := [r.session.item .error p "natural number expected"
                (if text = [] then none else some "number too large to fit in target type")] })) ∧
      ∀ (n : UInt64) (zeros : Nat) (text after : List Char),
        List.Forall₂ Spells text (paddedDigits radix.base zeros n.toNat) → text ≠ [] →
        r.session.rest = text ++ after →
        (∀ c ∈ after.head?, ¬ ∃ d < radix.base, Spells c d) →
        ¬ s.failed = true ∧ s.session.cursor = p + byteLength text ∧
          s.session.result =
            { position := p, text := String.ofList text, value := .natural n } := by
  intro s p
  refine ⟨rfl, ?_, fun text digits hfront hspells => ?_, ?_⟩
  · have hfront := longestFront_digits radix.base r.session.rest
    obtain ⟨digits, hspells⟩ := exists_spelled hfront.mem
    exact ⟨_, digits, hfront, hspells⟩
  · by_cases hfits : text ≠ [] ∧ Nat.ofDigits radix.base digits.reverse < 2 ^ 64
    · obtain ⟨hcursor, hresult⟩ :=
        Session.scan_natural_taken hfront hspells rfl hr hfits.1 hfits.2
      have hmatch : ¬ s.failed = true := by simp [s, Run.failed, Result.failed, hresult]
      exact ⟨⟨fun _ => hfits, fun _ => hmatch⟩, fun _ => ⟨hcursor, hresult⟩,
        fun hfailed => absurd hfailed hmatch⟩
    · obtain ⟨hcursor, hresult⟩ := Session.scan_natural_missed hfront hspells rfl hfits
      have hfailed : s.failed = true := by simp [s, Run.failed, Result.failed, hresult]
      exact ⟨⟨fun hmatch => absurd hfailed hmatch, fun h => absurd h hfits⟩,
        fun hmatch => absurd hfailed hmatch, fun _ => ⟨hcursor, hresult⟩⟩
  · intro n zeros text after hspells hne hrest hafter
    have htext := mem_digitTexts_of_spelled hspells fun d hd => paddedDigits_lt radix.two_le hd
    have hfront := longestFront_spelled htext hafter
    have hvalue := ofDigits_paddedDigits radix.base zeros n.toNat
    have hfits : Nat.ofDigits radix.base (paddedDigits radix.base zeros n.toNat).reverse <
        UInt64.size := by
      rw [hvalue]
      exact n.toNat_lt_size
    obtain ⟨hcursor, hresult⟩ :=
      Session.scan_natural_taken hfront hspells hrest hr hne hfits
    rw [hvalue, UInt64.ofNat_toNat] at hresult
    exact ⟨by simp [s, Run.failed, Result.failed, hresult], hcursor, hresult⟩

section Hexadecimal

def unboundNumerals : Env Unit Unit := fun _ => .unbound

def sixteen : Radix := ⟨16, by decide, by decide⟩

/-- At an offset of a text. -/
def beforeNumeral (text : String) (offset : Nat) : Run Unit Unit :=
  ⟨{ source := ⟨"numeral", text⟩, cursor := offset }, (), #[]⟩

/-- The largest word is read in spite of its leading zero, up to a letter that is no digit; the next
number is too large. -/
theorem natural_exact_hexadecimal :
    let largest := (beforeNumeral "é0ffffFFFFffffFFFFg" 2).onSession
      (Session.scan (.natural sixteen))
    let next := (beforeNumeral "10000000000000000" 0).onSession
      (Session.scan (.natural sixteen))
    (¬ largest.failed = true ∧ largest.session.cursor = 19 ∧
      largest.session.result =
        { position := 2, text := "0ffffFFFFffffFFFF", value := .natural 18446744073709551615 }) ∧
    next.failed = true ∧ next.session.cursor = 0 := by
  intro largest next
  obtain ⟨-, -, -, hreads⟩ := natural_exact unboundNumerals 0 sixteen .done
    (beforeNumeral "é0ffffFFFFffffFFFFg" 2) (by decide +kernel)
  obtain ⟨-, ⟨text, digits, hfront, hspells⟩, hexact, -⟩ :=
    natural_exact unboundNumerals 0 sixteen .done
      (beforeNumeral "10000000000000000" 0) (by decide +kernel)
  have hfailed : next.failed = true := by decide +kernel
  have hletter : ∀ c ∈ ['g'].head?, ¬ ∃ d < sixteen.base, Spells c d := by
    rintro c ⟨⟩
    decide +kernel
  exact ⟨hreads 18446744073709551615 1 "0ffffFFFFffffFFFF".toList ['g'] (by decide +kernel)
    (by decide +kernel) (by decide +kernel) hletter,
    hfailed, ((hexact text digits hfront hspells).2.2 hfailed).1⟩

end Hexadecimal

end Descent
