import Descent.Check.Outcome
import Descent.Proofs.Numeral
import Descent.Proofs.Settings.Concatenation

/-!
# Settings listed and read again

What a scan finds has keys that are identifiers, words that are identifiers,
and quoted texts that fit between two quotes. Each such setting, written on a
line of its own, is scanned to the end and comes back. So the listing of an
accepted text is itself accepted, and has the same keys and values.
-/
namespace Descent

section Characters

/-- No blank is a letter. -/
theorem isAlphabetic_of_isBlank {c : Char} (h : isBlank c = true) : isAlphabetic c = false := by
  have hincreasing : blankRanges.increasing = true := by decide
  have hincreasing' : alphabeticRanges.increasing = true := by decide +kernel
  have hapart : ∀ r ∈ blankRanges, ∀ s ∈ alphabeticRanges, r.2 < s.1 ∨ s.2 < r.1 := by
    decide +kernel
  exact Ranges.covers_of_apart hincreasing hincreasing' hapart h

theorem isBlank_of_startsIdentifier {c : Char}
    (h : Primitive.startsIdentifier "_" c = true) : isBlank c = false := by
  refine Bool.eq_false_iff.2 fun hblank => ?_
  rw [Primitive.startsIdentifier, isAlphabetic_of_isBlank hblank, Bool.false_or] at h
  obtain rfl : c = '_' := by simpa using h
  exact absurd hblank (by decide)

/-- No decimal digit starts an identifier. -/
theorem startsIdentifier_of_isDigit {c : Char} (h : c.isDigit = true) :
    Primitive.startsIdentifier "_" c = false := by
  have hbounds : 48 ≤ c.toNat ∧ c.toNat ≤ 57 := c.isDigit_iff_toNat.1 h
  have halphabetic : isAlphabetic c = false := if_pos (by omega)
  have hne : c ≠ '_' := by
    rintro rfl
    exact absurd hbounds (by decide)
  simp [Primitive.startsIdentifier, halphabetic, hne]

theorem isBlank_of_isDigit {c : Char} (h : c.isDigit = true) : isBlank c = false := by
  have hbounds : 48 ≤ c.toNat ∧ c.toNat ≤ 57 := c.isDigit_iff_toNat.1 h
  simp only [isBlank, Ranges.contains, blankRanges, Ranges.covers]
  grind

end Characters

/-- A text that is an identifier from end to end. -/
def IsIdentifier (cs : List Char) : Prop :=
  ∃ c rest, cs = c :: rest ∧ Primitive.startsIdentifier "_" c = true ∧
    ∀ d ∈ rest, Primitive.continuesIdentifier "_-." d = true

/-- A value that is the only one that its spelling stands for. -/
def SettingValue.Plain : SettingValue → Prop
  | .number _ => True
  | .word s => IsIdentifier s.toList
  | .quoted s => ∀ c ∈ s.toList, Settings.isQuotable c = true

/-- What a setting says, wherever it stands. -/
def Setting.binding (s : Setting) : String × SettingValue := (s.key, s.value)

/-- A setting that may stand in a text. -/
structure Setting.Plain (s : Setting) : Prop where
  key : IsIdentifier s.key.toList
  value : s.value.Plain

namespace Settings

open Check (renderValue settingLine)

section Found

variable {o : Options} {offset : Nat} {cs text : List Char} {value : SettingValue}

theorem isIdentifier_of_identifierAt? (h : identifierAt? cs = some text) : IsIdentifier text := by
  obtain ⟨hne, h⟩ := Option.ite_none_left_eq_some.1 h
  obtain rfl := Option.some.inj h
  cases cs with
  | nil => exact absurd rfl hne
  | cons c cs =>
    rw [Primitive.identifierPrefix] at hne ⊢
    split at hne
    · next hstart =>
      rw [if_pos hstart]
      exact ⟨c, _, rfl, hstart, fun d hd => List.mem_takeWhile_imp hd⟩
    · exact absurd rfl hne

theorem plain_of_valueAt? {radix : Nat} (h : valueAt? radix cs = some (text, value)) :
    value.Plain := by
  have hmem := List.mem_of_find?_eq_some h
  simp only [valuesAt, List.mem_append, Option.mem_toList] at hmem
  rcases hmem with (hnumber | hword) | hquoted
  · obtain ⟨-, hnumber⟩ := Option.ite_none_left_eq_some.1 hnumber
    obtain ⟨n, -, heq⟩ := Option.map_eq_some_iff.1 hnumber
    obtain ⟨-, rfl⟩ := Prod.mk.inj heq
    trivial
  · obtain ⟨text', htext, heq⟩ := Option.map_eq_some_iff.1 hword
    obtain ⟨-, rfl⟩ := Prod.mk.inj heq
    simpa [SettingValue.Plain] using isIdentifier_of_identifierAt? htext
  · obtain ⟨inner, rest, -, hinner, -, rfl⟩ := quotedAt?_eq_some_iff.1 hquoted
    simpa [SettingValue.Plain] using hinner

theorem plain_of_entryAt? {setting : Setting} (h : entryAt? o offset cs = some (text, setting)) :
    setting.Plain := by
  unfold entryAt? at h
  obtain ⟨key, hkey, h⟩ := Option.bind_eq_some_iff.1 h
  obtain ⟨rest, -, h⟩ := Option.bind_eq_some_iff.1 h
  obtain ⟨⟨valueText, value⟩, hvalue, h⟩ := Option.bind_eq_some_iff.1 h
  obtain ⟨-, rfl⟩ := Prod.mk.inj (Option.some.inj h)
  exact ⟨by simpa using isIdentifier_of_identifierAt? hkey, plain_of_valueAt? hvalue⟩

/-- Every setting that a scan finds may stand in a text. -/
theorem scan_plain (o : Options) (offset : Nat) (cs : List Char) :
    ∀ setting ∈ (scan o offset cs).1, setting.Plain := by
  fun_induction scan o offset cs with
  | case1 offset cs hnone => simp
  | case2 offset cs item hsome settings rest hscan ih =>
    rw [hscan] at ih
    intro setting hmem
    rcases List.mem_append.1 hmem with hentry | hlater
    · rcases itemAt?_cases hsome with ⟨_, -, rfl⟩ | ⟨-, ⟨_, -, rfl⟩ | ⟨-, ⟨_, -, rfl⟩ |
        ⟨-, text, found, hfound, rfl⟩⟩⟩
      · cases hentry
      · cases hentry
      · cases hentry
      · obtain rfl : setting = found := by simpa using hentry
        exact plain_of_entryAt? hfound
    · exact ih setting hlater

end Found

section Read

variable {cs : List Char}

/-- An identifier is read up to a character that does not continue it. -/
theorem identifierAt?_of_isIdentifier (h : IsIdentifier cs) (rest : List Char)
    (hrest : ∀ c ∈ rest.head?, Primitive.continuesIdentifier "_-." c = false) :
    identifierAt? (cs ++ rest) = some cs := by
  obtain ⟨c, cs, rfl, hstart, hcontinue⟩ := h
  have hstop : rest.takeWhile (Primitive.continuesIdentifier "_-.") = [] := by
    cases rest with
    | nil => rfl
    | cons d rest => exact List.takeWhile_cons_of_neg (by simp [hrest d rfl])
  have hprefix : Primitive.identifierPrefix "_" "_-." (c :: cs ++ rest) = c :: cs := by
    rw [List.cons_append, Primitive.identifierPrefix, if_pos hstart,
      List.takeWhile_append_of_pos hcontinue, hstop, List.append_nil]
  rw [identifierAt?, hprefix]
  rfl

theorem identifierAt?_cons_of_not_start {c : Char}
    (h : Primitive.startsIdentifier "_" c = false) (cs : List Char) :
    identifierAt? (c :: cs) = none := by
  rw [identifierAt?, Primitive.identifierPrefix, h]
  rfl

theorem numberAt?_cons_of_not_digit {c : Char} (h : c.isDigit = false) (cs : List Char) :
    numberAt? 10 (c :: cs) = none := by
  have hstop : (c :: cs).takeWhile (isDigit 10) = [] :=
    List.takeWhile_cons_of_neg (by simp [isDigit_ten, h])
  rw [numberAt?, hstop]
  rfl

theorem valueAt?_of_valuesAt {radix : Nat} {v : List Char × SettingValue}
    (h : valuesAt radix cs = [v]) : valueAt? radix cs = some v := by
  rw [valueAt?, h]
  simp

theorem renderValue_number (n : UInt64) :
    (renderValue (.number n)).toList = Nat.toDigits 10 n.toNat := by
  rw [renderValue, Nat.toString_eq_ofList_toDigits, String.toList_ofList]

theorem renderValue_quoted (s : String) :
    (renderValue (.quoted s)).toList = '"' :: s.toList ++ ['"'] := by
  simp [renderValue]

theorem valuesAt_number (n : UInt64) :
    valuesAt 10 (Nat.toDigits 10 n.toNat) = [(Nat.toDigits 10 n.toNat, .number n)] := by
  have hall : (Nat.toDigits 10 n.toNat).takeWhile (isDigit 10) = Nat.toDigits 10 n.toNat :=
    List.takeWhile_eq_self_iff.2 fun c hc => by rw [isDigit_ten, isDigit_of_mem_decimal hc]
  have hnumber : numberAt? 10 (Nat.toDigits 10 n.toNat) =
      some (Nat.toDigits 10 n.toNat, .number n) := by
    rw [numberAt?, hall, readNumeral?_toDigits]
    simp [Nat.toDigits_ne_nil]
  obtain ⟨c, digits, hdigits⟩ := List.exists_cons_of_ne_nil (Nat.toDigits_ne_nil (n := n.toNat)
    (b := 10))
  have hc : c.isDigit = true := isDigit_of_mem_decimal (hdigits ▸ List.mem_cons_self)
  have hword : identifierAt? (c :: digits) = none :=
    identifierAt?_cons_of_not_start (startsIdentifier_of_isDigit hc) digits
  have hquoted : quotedAt? (c :: digits) = none :=
    quotedAt?_cons_of_ne (by rintro rfl; cases hc) digits
  rw [valuesAt, hnumber, hdigits, wordAt?, hword, hquoted]
  rfl

theorem valuesAt_word {s : String} (h : IsIdentifier s.toList) :
    valuesAt 10 s.toList = [(s.toList, .word s)] := by
  have hword := identifierAt?_of_isIdentifier h [] (by simp)
  rw [List.append_nil] at hword
  obtain ⟨c, cs, hcs, hstart, -⟩ := h
  have hc : c.isDigit = false := by
    refine Bool.eq_false_iff.2 fun hc => ?_
    rw [startsIdentifier_of_isDigit hc] at hstart
    cases hstart
  have hnumber : numberAt? 10 s.toList = none := hcs ▸ numberAt?_cons_of_not_digit hc cs
  have hquoted : quotedAt? s.toList = none :=
    hcs ▸ quotedAt?_cons_of_ne (by rintro rfl; exact absurd hstart (by decide)) cs
  simp [valuesAt, hnumber, wordAt?, hword, hquoted]

theorem valuesAt_quoted {s : String} (h : ∀ c ∈ s.toList, isQuotable c = true) :
    valuesAt 10 ('"' :: s.toList ++ ['"']) = [('"' :: s.toList ++ ['"'], .quoted s)] := by
  have hquoted : quotedAt? ('"' :: s.toList ++ ['"']) =
      some ('"' :: s.toList ++ ['"'], .quoted s) :=
    quotedAt?_eq_some_iff.2 ⟨s.toList, [], rfl, h, rfl, by rw [String.ofList_toList]⟩
  have hnumber : numberAt? 10 ('"' :: s.toList ++ ['"']) = none :=
    numberAt?_cons_of_not_digit rfl _
  have hword : identifierAt? ('"' :: s.toList ++ ['"']) = none :=
    identifierAt?_cons_of_not_start (by decide) _
  rw [valuesAt, hnumber, wordAt?, hword, hquoted]
  rfl

/-- A value is read back from its spelling. -/
theorem valueAt?_renderValue {value : SettingValue} (h : value.Plain) :
    valueAt? 10 (renderValue value).toList = some ((renderValue value).toList, value) := by
  apply valueAt?_of_valuesAt
  cases value with
  | number n =>
    rw [renderValue_number]
    exact valuesAt_number n
  | word s => exact valuesAt_word h
  | quoted s =>
    rw [renderValue_quoted]
    exact valuesAt_quoted h

/-- No spelling starts with a blank. -/
theorem renderValue_head {value : SettingValue} (h : value.Plain) :
    ∃ c rest, (renderValue value).toList = c :: rest ∧ isBlank c = false := by
  cases value with
  | number n =>
    obtain ⟨c, digits, hdigits⟩ := List.exists_cons_of_ne_nil
      (Nat.toDigits_ne_nil (n := n.toNat) (b := 10))
    have hc : c.isDigit = true := isDigit_of_mem_decimal (hdigits ▸ List.mem_cons_self)
    exact ⟨c, digits, (renderValue_number n).trans hdigits, isBlank_of_isDigit hc⟩
  | word s =>
    obtain ⟨c, rest, hcs, hstart, -⟩ := h
    exact ⟨c, rest, hcs, isBlank_of_startsIdentifier hstart⟩
  | quoted s => exact ⟨'"', _, renderValue_quoted s, by decide⟩

end Read

section Lines

/-- A setting as it is written on its line. -/
def spelled (s : Setting) : List Char :=
  s.key.toList ++ ' ' :: '=' :: ' ' :: (renderValue s.value).toList

theorem toList_settingLine (s : Setting) :
    (settingLine s).toList = [' ', ' '] ++ spelled s ++ ['\n'] := by
  have hline : settingLine s = "  " ++ s.key ++ " = " ++ renderValue s.value ++ "\n" := rfl
  simp [hline, spelled]

variable {s : Setting} (h : s.Plain) (offset : Nat)

include h

theorem entryAt?_spelled :
    entryAt? {} offset (spelled s) = some (spelled s, { s with offset }) := by
  obtain ⟨c, value, hvalue, hc⟩ := renderValue_head h.value
  have hkey : identifierAt? (spelled s) = some s.key.toList :=
    identifierAt?_of_isIdentifier h.key _ (by simp; decide)
  have hright : Primitive.blankPrefix false (' ' :: (renderValue s.value).toList) = [' '] := by
    have hblank : isBlank ' ' = true := by decide
    simp [Primitive.blankPrefix, hvalue, hblank, hc]
  have hleft : Primitive.blankPrefix false
      (' ' :: '=' :: ' ' :: (renderValue s.value).toList) = [' '] := by
    have hblank : isBlank ' ' = true := by decide
    have hequals : isBlank '=' = false := by decide
    simp [Primitive.blankPrefix, hblank, hequals]
  have hequals : equalsMark.after? ('=' :: ' ' :: (renderValue s.value).toList) =
      some (' ' :: (renderValue s.value).toList) :=
    Mark.after?_eq_some_iff.2 rfl
  rw [entryAt?, hkey, spelled]
  simp only [Option.bind_eq_bind, Option.bind_some, List.drop_left, hleft, List.length_singleton,
    List.drop_succ_cons, List.drop_zero, hequals, hright, valueAt?_renderValue h.value,
    List.drop_length]
  simp [Primitive.blankPrefix, equalsMark, Mark.chars]

theorem itemAt?_spelled :
    itemAt? {} offset (spelled s) = some ⟨spelled s, some { s with offset }⟩ := by
  have hkey : identifierAt? (spelled s) = some s.key.toList :=
    identifierAt?_of_isIdentifier h.key _ (by simp; decide)
  obtain ⟨c, rest, hkeyChars, hstart, -⟩ := h.key
  have hblanks : blanksAt? (spelled s) = none := by
    simp [blanksAt?, Primitive.blankPrefix, spelled, hkeyChars, isBlank_of_startsIdentifier hstart]
  have hline : lineCommentAt? "#" (spelled s) = none := by
    have hmark : (⟨"#", by decide⟩ : Mark).after? (spelled s) = none :=
      after?_of_identifier (c := '#') (by rfl) (by decide) hkey
    have hof : Mark.ofString? "#" = some ⟨"#", by decide⟩ := rfl
    rw [lineCommentAt?, hof, Option.bind_eq_bind, Option.bind_some, hmark]
    rfl
  have hblock : blockCommentAt? (spelled s) = none := by
    rw [blockCommentAt?, after?_of_identifier (c := '/') (by rfl) (by decide) hkey]
    rfl
  simp [itemAt?, hblanks, hline, hblock, entryAt?_spelled h offset]

/-- A line is scanned to its end, and gives its setting. -/
theorem scan_line :
    scan {} 0 ([' ', ' '] ++ spelled s) = ([{ s with offset := 2 }], []) := by
  have hindent : ∀ c ∈ [' ', ' '], isBlank c = true := by
    intro c hc
    obtain rfl : c = ' ' := by simpa using hc
    rfl
  have hend : scan {} (2 + byteLength (spelled s)) [] = ([], []) :=
    scan_none (itemAt?_nil {} _)
  have hstart : 0 + byteLength [' ', ' '] = 2 := rfl
  rw [scan_blanks _ hindent, hstart, scan_some (itemAt?_spelled h 2), List.drop_length, hend]
  rfl

end Lines

theorem binding_later (n : Nat) (settings : List Setting) :
    (settings.map (later n)).map Setting.binding = settings.map Setting.binding := List.map_map

/-- Line after line is scanned, and gives a setting that says the same. -/
theorem scan_listing (settings : List Setting) (h : ∀ s ∈ settings, s.Plain) :
    (scan {} 0 (String.join (settings.map settingLine)).toList).2 = [] ∧
      (scan {} 0 (String.join (settings.map settingLine)).toList).1.map Setting.binding =
        settings.map Setting.binding := by
  induction settings with
  | nil =>
    have hnil : scan {} 0 [] = ([], []) := scan_none (itemAt?_nil {} 0)
    rw [List.map_nil, String.join_nil, String.toList_empty, hnil]
    exact ⟨rfl, rfl⟩
  | cons s settings ih =>
    obtain ⟨hs, hsettings⟩ := List.forall_mem_cons.1 h
    obtain ⟨hend, hsame⟩ := ih hsettings
    have hline := scan_line hs
    have hlines := scan_lines (o := {}) (by decide) ([' ', ' '] ++ spelled s)
      (String.join (settings.map settingLine)).toList (congrArg Prod.snd hline) hend
    have hchars : (String.join ((s :: settings).map settingLine)).toList =
        [' ', ' '] ++ spelled s ++ '\n' :: (String.join (settings.map settingLine)).toList := by
      rw [List.map_cons, String.join_cons, String.toList_append, toList_settingLine,
        List.append_assoc, List.singleton_append]
    rw [hchars, hlines, hline]
    refine ⟨rfl, ?_⟩
    rw [List.map_append, binding_later, hsame]
    rfl

theorem valid_of_parse {o : Options} {source : Source} {p : Parsed}
    (h : parse o source = .ok p) : o.Valid := by
  unfold parse at h
  split at h
  · next hgrammar => exact valid_of_grammar hgrammar
  · cases h

/-- The lines of a listing are a settings text of their own. Under the default options it is
accepted, whatever the options were under which the listed settings were read, and it gives the
same keys and values in the same order. -/
theorem parse_listing (o : Options) (source : Source) (p : Parsed) (h : parse o source = .ok p)
    (name : String) :
    ∃ p', parse {} ⟨name, String.join (p.settings.map settingLine)⟩ = .ok p' ∧
      p'.settings.map Setting.binding = p.settings.map Setting.binding := by
  obtain ⟨-, rfl⟩ := (parse_ok_iff (valid_of_parse h)).1 h
  obtain ⟨hend, hsame⟩ := scan_listing _ (scan_plain o 0 source.chars)
  exact ⟨accepted {} _, parse_of_scan (by decide) _ hend, hsame⟩

/-- Hexadecimal digits are listed in base ten; a text that would be a comment stays between its
quotes, and a key that comes twice is listed twice. -/
theorem parse_listing_hexadecimal :
    ∃ p p', parse { radix := 16, newlineIsBlank := true, comment := ";" }
        ⟨"hexadecimal", "a\n=\nff ; one\nb=\"# = 1\" a = zig"⟩ = .ok p ∧
      parse {} ⟨"listing", "  a = 255\n  b = \"# = 1\"\n  a = zig\n"⟩ = .ok p' ∧
      p'.settings.map Setting.binding =
        [("a", .number 255), ("b", .quoted "# = 1"), ("a", .word "zig")] := by
  let o : Options := { radix := 16, newlineIsBlank := true, comment := ";" }
  let source : Source := ⟨"hexadecimal", "a\n=\nff ; one\nb=\"# = 1\" a = zig"⟩
  have hscan : scan o 0 source.chars =
      ([⟨"a", .number 255, 0⟩, ⟨"b", .quoted "# = 1", 13⟩, ⟨"a", .word "zig", 23⟩], []) := by
    decide +kernel
  have h : parse o source = .ok (accepted o source) :=
    parse_of_scan (by decide) source (congrArg Prod.snd hscan)
  have hsettings : (accepted o source).settings = _ := congrArg Prod.fst hscan
  obtain ⟨p, hp, hsame⟩ := parse_listing o source (accepted o source) h "listing"
  rw [hsettings] at hp hsame
  exact ⟨_, p, h, hp, hsame⟩

end Settings

end Descent
