import Descent.Proofs.BlockComment
import Descent.Proofs.Evaluation
import Descent.Proofs.LongestMatch
import Descent.Proofs.Natural
import Descent.Proofs.Settings.Language

/-!
# Tokens

What each primitive takes, told by languages and positions and not by a scan.
The evaluation of grammars and the language of settings read their tokens with
the scans of the primitives; the equivalences here say which tokens these are.
-/
namespace Descent

variable {V C : Type}

namespace Primitive

/-- The text that a primitive takes from the front of another, and the value that it gives. -/
def Takes (rest text : List Char) (value : Value V) : Primitive → Prop
  | literal mark => text = mark.chars ∧ text <+: rest ∧ value = .none
  | identifier first following =>
    text ≠ [] ∧ LongestFront (identifierTexts first following) rest text ∧ value = .none
  | natural radix =>
    text ≠ [] ∧ LongestFront (digitTexts radix.base) rest text ∧
      ∃ digits, List.Forall₂ Spells text digits ∧
        Nat.ofDigits radix.base digits.reverse < UInt64.size ∧
        value = .natural (UInt64.ofNat (Nat.ofDigits radix.base digits.reverse))
  | blanks newlines => text ≠ [] ∧ LongestFront (blankTexts newlines) rest text ∧ value = .none
  | textEnd => text = [] ∧ rest = [] ∧ value = .none
  | regexp _ matcher =>
    text <+: rest ∧ (∃ start, matcher.find rest = some (start, byteLength text)) ∧
      value = .text (String.ofList text)
  | lineComment start => LongestFront (lineCommentTexts start) rest text ∧ value = .text ""
  | blockComment start stop =>
    (∀ c ∈ stop.chars.head?, isQuote c = false) ∧
      ∃ body i, rest = start.chars ++ body ∧ IsLeast {i | EndsAt stop.chars body i} i ∧
        text = start.chars ++ body.take i ++ stop.chars ∧ value = .text ""

theorem Reads.scan_eq_ok_iff {p : Primitive} {language : Set (List Char)} {value : Value V}
    {miss : Miss} (h : p.Reads language value miss) {rest : List Char} {m : Match V} :
    p.scan rest = .ok m ↔
      ∃ text, text ≠ [] ∧ LongestFront language rest text ∧ m = ⟨byteLength text, value⟩ := by
  constructor
  · intro hscan
    by_cases hempty : ∀ text ∈ language, text <+: rest → text = []
    · rw [h.missed hempty] at hscan
      cases hscan
    · obtain ⟨text, hmem, hfront, hne⟩ : ∃ text ∈ language, text <+: rest ∧ text ≠ [] := by
        simpa using hempty
      obtain ⟨front, hlongest, hle⟩ := exists_longestFront hmem hfront
      have hfront : front ≠ [] := by
        rintro rfl
        exact hne (List.eq_nil_of_length_eq_zero (Nat.le_zero.1 hle))
      rw [h.taken hlongest hfront] at hscan
      exact ⟨front, hfront, hlongest, (Except.ok.inj hscan).symm⟩
  · rintro ⟨text, hne, hfront, rfl⟩
    exact h.taken hfront hne

theorem ne_nil_of_mem_lineCommentTexts {start : Mark} {text : List Char}
    (h : text ∈ lineCommentTexts start) : text ≠ [] := by
  obtain ⟨line, rfl, -⟩ := h
  simp [start.chars_ne_nil]

section Scans

variable {rest : List Char} {m : Match V}

theorem natural_scan_eq_ok_iff {radix : Radix} : (natural radix).scan rest = .ok m ↔
    ∃ text value, (natural radix).Takes rest text value ∧ m = ⟨byteLength text, value⟩ := by
  have hfront := longestFront_digits radix.base rest
  constructor
  · intro hscan
    obtain ⟨digits, hspells⟩ := exists_spelled hfront.mem
    rw [scan_natural hfront hspells] at hscan
    split at hscan
    · cases hscan
    · next hne =>
      split at hscan
      · next hfits =>
        obtain rfl := Except.ok.inj hscan
        exact ⟨_, _, ⟨hne, hfront, digits, hspells, hfits, rfl⟩, rfl⟩
      · cases hscan
  · rintro ⟨text, value, ⟨hne, hfront, digits, hspells, hfits, rfl⟩, rfl⟩
    rw [scan_natural hfront hspells, if_neg hne, if_pos hfits]

theorem blockComment_scan_eq_ok_iff {start stop : Mark} :
    (blockComment start stop).scan rest = .ok m ↔
      ∃ text value, (blockComment start stop).Takes rest text value ∧
        m = ⟨byteLength text, value⟩ := by
  constructor
  · intro hscan
    have hplain : ∀ c ∈ stop.chars.head?, isQuote c = false := by
      intro c hc
      by_contra hquote
      obtain ⟨miss, hmiss⟩ := scan_of_quote (V := V) start stop hc
        (Bool.eq_true_of_not_eq_false hquote) rest
      cases hscan.symm.trans hmiss
    by_cases habsent : start.chars <+: rest
    · obtain ⟨body, hbody⟩ := habsent
      by_cases hends : ∃ i, EndsAt stop.chars body i
      · obtain ⟨i, hi⟩ := exists_isLeast hends
        rw [scan_of_least hplain hbody.symm hi] at hscan
        exact ⟨_, _, ⟨hplain, body, i, hbody.symm, hi, rfl, rfl⟩, (Except.ok.inj hscan).symm⟩
      · rw [scan_of_unclosed hbody.symm (bodyLength?_eq_none hplain hends)] at hscan
        cases hscan
    · obtain ⟨got, hmiss⟩ := scan_of_absent (V := V) start stop habsent
      cases hscan.symm.trans hmiss
  · rintro ⟨text, value, ⟨hplain, body, i, hbody, hi, rfl, rfl⟩, rfl⟩
    exact scan_of_least hplain hbody hi

/-- A primitive matches what it takes, and nothing else. -/
theorem scan_eq_ok_iff {p : Primitive} : p.scan rest = .ok m ↔
    ∃ text value, p.Takes rest text value ∧ m = ⟨byteLength text, value⟩ := by
  cases p with
  | literal mark =>
    have hafter : (mark.after? rest).isSome = true ↔ mark.chars <+: rest := by
      rw [Option.isSome_iff_exists]
      exact exists_congr fun after => Mark.after?_eq_some_iff.trans eq_comm
    simp only [scan, Takes, hafter]
    constructor
    · intro hscan
      split at hscan
      · next hfront =>
        obtain rfl := Except.ok.inj hscan
        exact ⟨_, _, ⟨rfl, hfront, rfl⟩, rfl⟩
      · cases hscan
    · rintro ⟨text, value, ⟨rfl, hfront, rfl⟩, rfl⟩
      rw [if_pos hfront]
      rfl
  | identifier first following =>
    simp only [(identifier_reads first following).scan_eq_ok_iff, Takes]
    grind
  | natural radix => exact natural_scan_eq_ok_iff
  | blanks newlines =>
    simp only [(blanks_reads newlines).scan_eq_ok_iff, Takes]
    grind
  | textEnd =>
    simp only [scan, Takes, List.isEmpty_iff]
    constructor
    · intro hscan
      split at hscan
      · next hrest =>
        obtain rfl := Except.ok.inj hscan
        exact ⟨_, _, ⟨rfl, hrest, rfl⟩, rfl⟩
      · cases hscan
    · rintro ⟨text, value, ⟨rfl, hrest, rfl⟩, rfl⟩
      rw [if_pos hrest]
      rfl
  | regexp pattern matcher =>
    simp only [scan, Takes]
    constructor
    · intro hscan
      split at hscan
      · next start stop hfind =>
        obtain rfl := Except.ok.inj hscan
        obtain ⟨text, after, rfl, rfl⟩ := matcher.stop_boundary rest start stop hfind
        exact ⟨text, _, ⟨List.prefix_append text after, ⟨start, hfind⟩, rfl⟩, by simp⟩
      · cases hscan
    · rintro ⟨text, value, ⟨⟨after, rfl⟩, ⟨start, hfind⟩, rfl⟩, rfl⟩
      simp [hfind]
  | lineComment start =>
    simp only [(lineComment_reads start).scan_eq_ok_iff, Takes]
    constructor
    · rintro ⟨text, -, hfront, rfl⟩
      exact ⟨text, _, ⟨hfront, rfl⟩, rfl⟩
    · rintro ⟨text, value, ⟨hfront, rfl⟩, rfl⟩
      exact ⟨text, ne_nil_of_mem_lineCommentTexts hfront.mem, hfront, rfl⟩
  | blockComment start stop => exact blockComment_scan_eq_ok_iff

theorem Takes.isPrefix {p : Primitive} {text : List Char} {value : Value V}
    (h : p.Takes rest text value) : text <+: rest := by
  cases p with
  | literal mark => exact h.2.1
  | identifier | natural | blanks => exact h.2.1.isPrefix
  | textEnd => exact h.1 ▸ List.nil_prefix
  | regexp => exact h.1
  | lineComment => exact h.1.isPrefix
  | blockComment start stop =>
    obtain ⟨-, body, i, rfl, hi, rfl, -⟩ := h
    obtain ⟨after, hcut⟩ := hi.1.2
    exact ⟨after, by rw [List.append_assoc, hcut, List.append_assoc, List.take_append_drop]⟩

/-- There is at most one text to take. -/
theorem Takes.unique {p : Primitive} {text text' : List Char} {value value' : Value V}
    (h : p.Takes rest text value) (h' : p.Takes rest text' value') : text = text' := by
  have hscan := scan_eq_ok_iff.2 ⟨text, value, h, rfl⟩
  have hscan' := scan_eq_ok_iff.2 ⟨text', value', h', rfl⟩
  obtain ⟨hlength, -⟩ := Match.mk.inj (Except.ok.inj (hscan.symm.trans hscan'))
  obtain ⟨after, hcut⟩ := h.isPrefix
  obtain ⟨after', hcut'⟩ := h'.isPrefix
  have htake := takeBytes?_eq_some_iff.2 ⟨after, hcut.symm, rfl⟩
  have htake' := takeBytes?_eq_some_iff.2 ⟨after', hcut'.symm, hlength.symm⟩
  exact Option.some.inj (htake.symm.trans htake')

end Scans

end Primitive

section Evaluation

variable {env : Env V C} {fuel : Nat} {source : Source} {start : Nat} {rest : List Char}
  {p : Primitive} {hook : Script V C} {context : C}

/-- A primitive is evaluated to the text that it takes, and to a failure where it takes none. -/
theorem Grammar.eval_primitive (hat : source.At start rest) :
    (∀ text value, p.Takes rest text value →
      eval env (fuel + 1) source (.primitive p hook) start context =
        some (hook.effect source [] ⟨{ position := start, text := String.ofList text, value },
          start + byteLength text, context⟩)) ∧
    ((∀ text (value : Value V), ¬ p.Takes rest text value) →
      ∃ miss, (p.scan rest : Except Miss (Match V)) = .error miss ∧
        eval env (fuel + 1) source (.primitive p hook) start context =
          some ⟨source.failure start miss.delta miss.message miss.cause, start, context⟩) := by
  refine ⟨fun text value htakes => ?_, fun hnone => ?_⟩
  · have hscan := Primitive.scan_eq_ok_iff.2 ⟨text, value, htakes, rfl⟩
    simp only [eval, hat.restFrom, hscan, Source.span, hat.textBetween htakes.isPrefix]
  · cases hscan : (p.scan rest : Except Miss (Match V)) with
    | ok m =>
      obtain ⟨text, value, htakes, -⟩ := Primitive.scan_eq_ok_iff.1 hscan
      exact absurd htakes (hnone text value)
    | error miss => exact ⟨miss, rfl, by simp only [eval, hat.restFrom, hscan]⟩

end Evaluation

namespace Settings

variable {cs text : List Char}

/-- The longest front in a language, unless it is empty. -/
theorem nonempty_eq_some_iff {language : Set (List Char)} {found : List Char}
    (hfound : LongestFront language cs found) :
    (if found.isEmpty then none else some found) = some text ↔
      text ≠ [] ∧ LongestFront language cs text := by
  rw [Option.ite_none_left_eq_some, Option.some.injEq]
  constructor
  · rintro ⟨hne, rfl⟩
    exact ⟨by simpa using hne, hfound⟩
  · rintro ⟨hne, htext⟩
    obtain rfl := hfound.unique htext
    exact ⟨by simpa using hne, rfl⟩

theorem blanksAt?_eq_some_iff :
    blanksAt? cs = some text ↔
      (Primitive.blanks true).Takes cs text (.none : Value SettingValue) :=
  (nonempty_eq_some_iff (Primitive.longestFront_blanks true cs)).trans (by simp [Primitive.Takes])

theorem identifierAt?_eq_some_iff :
    identifierAt? cs = some text ↔
      (Primitive.identifier "_" "_-.").Takes cs text (.none : Value SettingValue) :=
  (nonempty_eq_some_iff (Primitive.longestFront_identifier "_" "_-." cs)).trans
    (by simp [Primitive.Takes])

theorem lineCommentAt?_eq_some_iff (mark : Mark) :
    lineCommentAt? mark.text cs = some text ↔
      (Primitive.lineComment mark).Takes cs text (.text "" : Value SettingValue) := by
  have hmark : Mark.ofString? mark.text = some mark := dif_neg mark.nonempty
  have htakes : ∀ body, mark.after? cs = some body →
      (Primitive.lineComment mark).Takes cs (mark.chars ++ firstLine body)
        (.text "" : Value SettingValue) := by
    intro body hbody
    obtain rfl := Mark.after?_eq_some_iff.1 hbody
    obtain ⟨tail, hsplit, htail, hfirst⟩ := firstLine_split body
    have hfront := Primitive.longestFront_lineComment mark hfirst htail
    rw [← hsplit] at hfront
    exact ⟨hfront, rfl⟩
  have hline : lineCommentAt? mark.text cs =
      (mark.after? cs).map fun body => mark.chars ++ firstLine body := by
    rw [lineCommentAt?, hmark, Option.map_eq_bind]
    rfl
  rw [hline, Option.map_eq_some_iff]
  constructor
  · rintro ⟨body, hbody, rfl⟩
    exact htakes body hbody
  · intro htext
    obtain ⟨line, rfl, -⟩ := htext.1.mem
    obtain ⟨after, hcut⟩ := htext.isPrefix
    have hbody : mark.after? cs = some (line ++ after) :=
      Mark.after?_eq_some_iff.2 (by rw [← hcut, List.append_assoc])
    exact ⟨line ++ after, hbody, (htakes _ hbody).unique htext⟩

section BlockComments

open Primitive (EndsAt isQuote)

theorem closeMark_plain : ∀ c ∈ closeMark.chars.head?, isQuote c = false := by
  rintro c ⟨⟩
  rfl

theorem blockCommentAt?_of_least {body : List Char} {i : Nat} (hbody : cs = openMark.chars ++ body)
    (hi : IsLeast {i | EndsAt closeMark.chars body i} i) :
    blockCommentAt? cs = some (openMark.chars ++ body.take i ++ closeMark.chars) := by
  obtain ⟨after, hcut⟩ := hi.1.2
  have hfront : body = (body.take i ++ closeMark.chars) ++ after := by
    rw [List.append_assoc, hcut, List.take_append_drop]
  rw [← Primitive.ends_outside closeMark.chars_ne_nil] at hi
  have hlength := (Primitive.bodyLength?_eq_some_iff closeMark.chars_ne_nil closeMark_plain
    .outside body _).2 ⟨i, hi, rfl⟩
  rw [← byteLength_append] at hlength
  have htake := takeBytes?_eq_some_iff.2 ⟨after, hfront, rfl⟩
  rw [blockCommentAt?, Mark.after?_eq_some_iff.2 hbody]
  simp only [Option.bind_eq_bind, Option.bind_some, hlength, htake, List.append_assoc]
  rfl

/-- A block comment goes up to the first end mark outside of strings. -/
theorem blockCommentAt?_eq_some_iff :
    blockCommentAt? cs = some text ↔
      (Primitive.blockComment openMark closeMark).Takes cs text
        (.text "" : Value SettingValue) := by
  constructor
  · intro h
    obtain ⟨body, hbody, hclosed⟩ := Option.bind_eq_some_iff.1 h
    obtain ⟨n, hn, -⟩ := Option.bind_eq_some_iff.1 hclosed
    obtain ⟨i, hi, -⟩ := (Primitive.bodyLength?_eq_some_iff closeMark.chars_ne_nil closeMark_plain
      .outside body n).1 hn
    rw [Primitive.ends_outside closeMark.chars_ne_nil] at hi
    have hcut := Mark.after?_eq_some_iff.1 hbody
    have htext := Option.some.inj (h.symm.trans (blockCommentAt?_of_least hcut hi))
    exact ⟨closeMark_plain, body, i, hcut, hi, htext, rfl⟩
  · rintro ⟨-, body, i, hbody, hi, rfl, -⟩
    exact blockCommentAt?_of_least hbody hi

end BlockComments

theorem numberAt?_eq_some_iff (radix : Radix) {n : UInt64} :
    numberAt? radix.base cs = some (text, .number n) ↔
      (Primitive.natural radix).Takes cs text (.natural n : Value SettingValue) := by
  have hbase : 1 ≤ radix.base := Nat.le_of_succ_le radix.two_le
  have hfront := longestFront_digits radix.base cs
  obtain ⟨digits, hspells⟩ := exists_spelled hfront.mem
  have hread := readNumeral?_of_spelled hbase hfront.mem hspells
  simp only [numberAt?, Option.ite_none_left_eq_some, Option.map_eq_some_iff, Prod.mk.injEq,
    SettingValue.number.injEq, hread]
  constructor
  · rintro ⟨hne, k, hk, rfl, rfl⟩
    obtain ⟨hfits, hk⟩ := Option.ite_none_right_eq_some.1 hk
    obtain rfl := Option.some.inj hk
    exact ⟨by simpa using hne, hfront, digits, hspells, hfits, rfl⟩
  · rintro ⟨hne, htext, digits', hspells', hfits, hvalue⟩
    obtain rfl := hfront.unique htext
    rw [← hread, readNumeral?_of_spelled hbase hfront.mem hspells', if_pos hfits]
    exact ⟨by simpa using hne, n, congrArg some (Value.natural.inj hvalue).symm, rfl, rfl⟩

end Settings

end Descent
