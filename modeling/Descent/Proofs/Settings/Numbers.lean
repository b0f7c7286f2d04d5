import Descent.Proofs.Settings.Acceptance
import Descent.Proofs.Settings.Listing

/-!
# Values made of digits

Where the radix has letters among its digits, a text of digits may be a word as
well. The two take the same characters then, and the number comes first. So a
value made of digits is stored as the number that it spells, as long as that
fits. A larger one is refused when it begins with a decimal digit; when it
begins with a letter, the word is what is left of it.
-/
namespace Descent

/-- A digit of any base may stand in an identifier. -/
theorem continuesIdentifier_of_isDigit {base : Nat} {c : Char} (h : isDigit base c = true) :
    Primitive.continuesIdentifier "_-." c = true := by
  obtain ⟨d, hd⟩ := Option.isSome_iff_exists.1 h
  have hweight : digitWeight? c = some d := (Option.filter_eq_some_iff.1 hd).1
  have hascii : c.toNat < 128 := by
    simp only [digitWeight?] at hweight
    grind
  have hall : ∀ n < 128, (digitWeight? (Char.ofNat n)).isSome = true →
      Primitive.continuesIdentifier "_-." (Char.ofNat n) = true := by decide +kernel
  have hc := hall c.toNat hascii
  rw [Char.ofNat_toNat, hweight] at hc
  exact hc rfl

theorem Source.At.after_front {source : Source} {offset : Nat} {front token rest : List Char}
    (h : source.At offset (front ++ token ++ rest)) :
    source.At (offset + byteLength front) (token ++ rest) := by
  have hdrop := h.drop ⟨token ++ rest, (List.append_assoc _ _ _).symm⟩
  rwa [List.append_assoc, List.drop_left] at hdrop

namespace Settings

open Grammar (eval)

section Tokens

variable {radix : Nat} {cs text : List Char} {value : SettingValue}

/-- An identifier that is all digits ends where the digits end. -/
theorem takeWhile_of_identifierAt? (h : identifierAt? cs = some text)
    (hdigits : ∀ c ∈ text, isDigit radix c = true) : cs.takeWhile (isDigit radix) = text := by
  have hfronts := identifierAt?_fronts h
  refine ((isPrefix_takeWhile hfronts.2 hdigits).eq_of_length_le ?_).symm
  obtain ⟨c, following, rfl, hstart, -⟩ := isIdentifier_of_identifierAt? h
  obtain ⟨rest, rfl⟩ := hfronts.2
  obtain ⟨-, h⟩ := Option.ite_none_left_eq_some.1 h
  rw [List.cons_append, Primitive.identifierPrefix, if_pos hstart, Option.some.injEq] at h
  have hlonger : (following ++ rest).takeWhile (isDigit radix) <+:
      (following ++ rest).takeWhile (Primitive.continuesIdentifier "_-.") :=
    isPrefix_takeWhile (List.takeWhile_prefix _) fun d hd =>
      continuesIdentifier_of_isDigit (List.mem_takeWhile_imp hd)
  rw [(List.cons.inj h).2] at hlonger
  rw [List.cons_append, List.takeWhile_cons_of_pos (hdigits c List.mem_cons_self)]
  exact Nat.succ_le_succ hlonger.length_le

/-- A number that can be read is taken, unless something longer can be read too. -/
theorem valueAt?_of_numberAt? {v w : List Char × SettingValue} (hv : numberAt? radix cs = some v)
    (hw : valueAt? radix cs = some w) (hlength : byteLength w.1 ≤ byteLength v.1) : w = v := by
  have hlongest := List.find?_some hw
  have hvalues : valuesAt radix cs = v :: ((wordAt? cs).toList ++ (quotedAt? cs).toList) := by
    simp [valuesAt, hv]
  have hfirst : ((valuesAt radix cs).all fun v' => byteLength v'.1 ≤ byteLength v.1) = true :=
    List.all_eq_true.2 fun v' hv' => by
      have hle := List.all_eq_true.1 hlongest v' hv'
      simp only [decide_eq_true_eq] at hle ⊢
      omega
  rw [hvalues] at hfirst
  rw [valueAt?, hvalues] at hw
  simp only [List.find?_cons, hfirst] at hw
  exact (Option.some.inj hw).symm

/-- A word is taken instead of its digits only if they are no number. -/
theorem numberAt?_eq_none_of_word {word : String} (h : valueAt? radix cs = some (text, .word word))
    (hdigits : cs.takeWhile (isDigit radix) = text) : numberAt? radix cs = none := by
  refine Option.eq_none_iff_forall_ne_some.2 fun v hv => ?_
  have hnumber := hv
  obtain ⟨-, hv⟩ := Option.ite_none_left_eq_some.1 hv
  obtain ⟨n, -, rfl⟩ := Option.map_eq_some_iff.1 hv
  have hsame := valueAt?_of_numberAt? hnumber h (by rw [hdigits])
  cases congrArg Prod.snd hsame

/-- What a token of digits is stored as. -/
theorem value_of_digits (hradix : 1 ≤ radix) (h : valueAt? radix cs = some (text, value))
    (hdigits : ∀ c ∈ text, isDigit radix c = true) :
    if numeralValue radix text < UInt64.size then
      value = .number (UInt64.ofNat (numeralValue radix text))
    else value = .word (String.ofList text) ∧ ∀ c ∈ text.head?, c.isDigit = false := by
  have hread := readNumeral?_eq hradix hdigits
  have hmem := List.mem_of_find?_eq_some h
  simp only [valuesAt, List.mem_append, Option.mem_toList] at hmem
  rcases hmem with (hnumber | hword) | hquoted
  · obtain ⟨-, hnumber⟩ := Option.ite_none_left_eq_some.1 hnumber
    obtain ⟨n, hn, heq⟩ := Option.map_eq_some_iff.1 hnumber
    obtain ⟨rfl, rfl⟩ := Prod.mk.inj heq
    rw [hn] at hread
    split at hread
    · next hfits =>
      rw [if_pos hfits, Option.some.inj hread]
    · cases hread
  · obtain ⟨text', htext, heq⟩ := Option.map_eq_some_iff.1 hword
    obtain ⟨rfl, rfl⟩ := Prod.mk.inj heq
    have hall := takeWhile_of_identifierAt? htext hdigits
    have hne : text'.isEmpty ≠ true := by simpa using (identifierAt?_fronts htext).1
    have hnone := numberAt?_eq_none_of_word h hall
    rw [numberAt?, hall] at hnone
    rw [Option.map_eq_none_iff.1 ((if_neg hne).symm.trans hnone)] at hread
    split at hread
    · cases hread
    · next hlarge =>
      rw [if_neg hlarge]
      refine ⟨rfl, fun c hc => Bool.eq_false_iff.2 fun hdigit => ?_⟩
      obtain ⟨d, following, rfl, hstart, -⟩ := isIdentifier_of_identifierAt? htext
      obtain rfl : d = c := Option.some.inj hc
      rw [startsIdentifier_of_isDigit hdigit] at hstart
      cases hstart
  · obtain ⟨inner, rest, -, -, rfl, -⟩ := quotedAt?_eq_some_iff.1 hquoted
    have hquote : isDigit radix '"' = true := hdigits '"' (by simp)
    exact absurd hquote (by simp [isDigit, digit?, digitWeight?])

/-- Digits that are too large and begin with a decimal digit are no value of any kind. -/
theorem valueAt?_of_large (hradix : 1 ≤ radix) {c : Char} (hc : c.isDigit = true)
    (hlarge : UInt64.size ≤ numeralValue radix ((c :: cs).takeWhile (isDigit radix))) :
    valueAt? radix (c :: cs) = none := by
  have hnumber : numberAt? radix (c :: cs) = none := by
    have hdigits : ∀ d ∈ (c :: cs).takeWhile (isDigit radix), isDigit radix d = true :=
      fun d hd => List.mem_takeWhile_imp hd
    simp [numberAt?, readNumeral?_eq hradix hdigits, Nat.not_lt.2 hlarge]
  have hword : identifierAt? (c :: cs) = none :=
    identifierAt?_cons_of_not_start (startsIdentifier_of_isDigit hc) cs
  have hquoted : quotedAt? (c :: cs) = none :=
    quotedAt?_cons_of_ne (by rintro rfl; cases hc) cs
  simp [valueAt?, valuesAt, hnumber, wordAt?, hword, hquoted]

end Tokens

section Entries

variable {o : Options}

theorem isBlank_of_mem_blankPrefix {newlines : Bool} {cs : List Char} {c : Char}
    (h : c ∈ Primitive.blankPrefix newlines cs) : isBlank c = true := by
  have hboth := List.mem_takeWhile_imp (p := fun c => isBlank c && (newlines || c != '\n')) h
  exact (Bool.and_eq_true_iff.1 hboth).1

/-- An entry is its key, an equals sign between blanks, and a value; then there are more blanks. -/
theorem entryAt?_cases {offset : Nat} {cs text : List Char} {setting : Setting}
    (h : entryAt? o offset cs = some (text, setting)) :
    setting.offset = offset ∧ ∃ left right token rest,
      cs = setting.key.toList ++ left ++ equalsMark.chars ++ right ++ token ++ rest ∧
      (∀ c ∈ left ++ right, isBlank c = true) ∧
      valueAt? o.radix (token ++ rest) = some (token, setting.value) := by
  unfold entryAt? at h
  obtain ⟨key, hkey, h⟩ := Option.bind_eq_some_iff.1 h
  obtain ⟨found, hequals, h⟩ := Option.bind_eq_some_iff.1 h
  obtain ⟨⟨token, value⟩, hvalue, h⟩ := Option.bind_eq_some_iff.1 h
  obtain ⟨-, rfl⟩ := Prod.mk.inj (Option.some.inj h)
  -- each part is a front of what the parts before it have left
  have hkeyCut := List.prefix_iff_eq_append.1 (identifierAt?_fronts hkey).2
  have hleftCut := List.prefix_iff_eq_append.1
    (blankPrefix_isPrefix o.newlineIsBlank (cs.drop key.length))
  have hmark := Mark.after?_eq_some_iff.1 hequals
  have hrightCut := List.prefix_iff_eq_append.1 (blankPrefix_isPrefix o.newlineIsBlank found)
  obtain ⟨rest, hrest⟩ := (valueAt?_fronts hvalue).2
  rw [← hrest] at hvalue
  refine ⟨rfl, Primitive.blankPrefix o.newlineIsBlank (cs.drop key.length),
    Primitive.blankPrefix o.newlineIsBlank found, token, rest, ?_, ?_, hvalue⟩
  · simp only [String.toList_ofList, List.append_assoc]
    rw [hrest, hrightCut, ← hmark, hleftCut, hkeyCut]
  · intro c hc
    rcases List.mem_append.1 hc with hc | hc
    · exact isBlank_of_mem_blankPrefix hc
    · exact isBlank_of_mem_blankPrefix hc

/-- Every entry of a scan is one that can be read at the place that it tells. -/
theorem exists_entryAt?_of_mem_scan (offset : Nat) (cs : List Char) :
    ∀ setting ∈ (scan o offset cs).1, ∃ front rest text, cs = front ++ rest ∧
      entryAt? o (offset + byteLength front) rest = some (text, setting) := by
  fun_induction scan o offset cs with
  | case1 offset cs hnone => simp
  | case2 offset cs item hsome settings rest hscan ih =>
    rw [hscan] at ih
    intro setting hmem
    rcases List.mem_append.1 hmem with hentry | hlater
    · rcases itemAt?_cases hsome with ⟨_, -, rfl⟩ | ⟨-, ⟨_, -, rfl⟩ | ⟨-, ⟨_, -, rfl⟩ |
        ⟨-, text, found, hfound, rfl⟩⟩⟩
      · cases hentry
      · cases hentry
      · cases hentry
      · obtain rfl : setting = found := by simpa using hentry
        exact ⟨[], cs, text, rfl, hfound⟩
    · obtain ⟨front, rest', text, hcut, hentry⟩ := ih setting hlater
      obtain ⟨after, hafter⟩ := (itemAt?_fronts hsome).2
      rw [← hafter, List.drop_left] at hcut
      refine ⟨item.text ++ front, rest', text, ?_, ?_⟩
      · rw [← hafter, hcut, List.append_assoc]
      · rw [byteLength_append, ← Nat.add_assoc]
        exact hentry

/-- Where a setting comes from: at its offset there is its key, an equals sign between blanks, and a
token, which is what the parser of values takes there for its value. -/
def HasToken (radix : Radix) (source : Source) (s : Setting) (token : List Char) : Prop :=
  ∃ left right rest,
    let front := s.key.toList ++ left ++ equalsMark.chars ++ right
    source.At s.offset (front ++ token ++ rest) ∧ (∀ c ∈ left ++ right, isBlank c = true) ∧
      ∀ n settings,
        eval noCells (n + 2) source (value radix) (s.offset + byteLength front) settings =
          some (taken (s.offset + byteLength front) token (.custom s.value) settings)

/-- The parser of values takes a token just when the token is the value that the text there
starts with. -/
theorem hasToken_iff {radix : Radix} {source : Source} {s : Setting} {token : List Char} :
    HasToken radix source s token ↔ ∃ left right rest,
      source.At s.offset
          (s.key.toList ++ left ++ equalsMark.chars ++ right ++ token ++ rest) ∧
        (∀ c ∈ left ++ right, isBlank c = true) ∧
        valueAt? radix.base (token ++ rest) = some (token, s.value) := by
  constructor
  · rintro ⟨left, right, rest, hat, hblank, htakes⟩
    refine ⟨left, right, rest, hat, hblank, ?_⟩
    have hreads := value_reads (n := 0) [] hat.after_front radix
    have htaken := htakes 0 []
    cases hvalue : valueAt? radix.base (token ++ rest) with
    | none =>
      rw [hvalue] at hreads
      obtain ⟨failure, hfailed, heval⟩ := hreads
      have hsame := congrArg Outcome.result (Option.some.inj (htaken.symm.trans heval))
      exact absurd ((congrArg Result.failed hsame).trans hfailed) (taken_matched _ _ _ _)
    | some v =>
      rw [hvalue] at hreads
      have hsame := congrArg Outcome.result (Option.some.inj (htaken.symm.trans hreads))
      obtain ⟨htext, hcustom⟩ : String.ofList token = String.ofList v.1 ∧ s.value = v.2 := by
        simpa [taken] using hsame
      rw [String.ofList_inj.1 htext, hcustom]
  · rintro ⟨left, right, rest, hat, hblank, hvalue⟩
    refine ⟨left, right, rest, hat, hblank, fun n settings => ?_⟩
    have hreads := value_reads (n := n) settings hat.after_front radix
    rw [hvalue] at hreads
    exact hreads

theorem exists_hasToken {radix : Radix} (hradix : radix.base = o.radix) (source : Source)
    {s : Setting} (hs : s ∈ (scan o 0 source.chars).1) :
    ∃ token, HasToken radix source s token := by
  obtain ⟨before, cs, text, hcut, hentry⟩ := exists_entryAt?_of_mem_scan 0 source.chars s hs
  rw [Nat.zero_add] at hentry
  obtain ⟨hoffset, left, right, token, rest, rfl, hblank, hvalue⟩ := entryAt?_cases hentry
  rw [← hradix] at hvalue
  exact ⟨token, hasToken_iff.2 ⟨left, right, rest, ⟨before, hcut, hoffset.symm⟩, hblank, hvalue⟩⟩

end Entries

/-- In an accepted text every setting has a token for its value. If the token is made of digits, it
is stored as the number that it spells when that fits in a word, and otherwise, as it begins with a
letter then, as the word that it is. Larger digits that begin with a decimal one are refused. -/
theorem parse_digits (o : Options) (h : o.Valid) (source : Source) :
    ∃ radix comment, radix.base = o.radix ∧
      grammar o = .ok (file radix o.newlineIsBlank comment) ∧
      (∀ p, parse o source = .ok p → ∀ s ∈ p.settings, (∃ token, HasToken radix source s token) ∧
        ∀ token, HasToken radix source s token → (∀ c ∈ token, isDigit o.radix c = true) →
          if numeralValue o.radix token < UInt64.size then
            s.value = .number (UInt64.ofNat (numeralValue o.radix token))
          else s.value = .word (String.ofList token) ∧ ∀ c ∈ token.head?, c.isDigit = false) ∧
      ∀ offset c cs, source.At offset (c :: cs) → c.isDigit = true →
        UInt64.size ≤ numeralValue o.radix ((c :: cs).takeWhile (isDigit o.radix)) →
        ∀ n settings, Fails (eval noCells (n + 2) source) (value radix) offset settings := by
  have hbase : 1 ≤ o.radix := Nat.le_trans (by decide) h.1
  obtain ⟨radix, comment, hradix, -, hgrammar⟩ := h.grammar
  refine ⟨radix, comment, hradix, hgrammar, fun p hp s hs => ⟨?_, fun token htoken hdigits => ?_⟩,
    fun offset c cs hat hc hlarge n settings => ?_⟩
  · obtain ⟨-, rfl⟩ := (parse_ok_iff h).1 hp
    exact exists_hasToken hradix source hs
  · obtain ⟨-, -, rest, -, -, hvalue⟩ := hasToken_iff.1 htoken
    rw [hradix] at hvalue
    exact value_of_digits hbase hvalue hdigits
  · have hreads := value_reads (n := n) settings hat radix
    rw [hradix, valueAt?_of_large hbase hc hlarge] at hreads
    exact hreads

section Hexadecimal

def hexadecimal : Options := { radix := 16 }

/-- Digits that fit, digits in a comment that do not, and digits that do not fit and begin with a
letter. -/
def digits : Source := ⟨"digits", "a = Ff # 9fffffffffffffffff\nb = ffffffffffffffffff"⟩

def small : Setting := ⟨"a", .number 255, 0⟩

def large : Setting := ⟨"b", .word "ffffffffffffffffff", 28⟩

theorem parse_hexadecimal :
    ∃ p, parse hexadecimal digits = .ok p ∧ p.settings = [small, large] := by
  have hscan : scan hexadecimal 0 digits.chars = ([small, large], []) := by decide +kernel
  exact ⟨_, parse_of_scan (by decide) digits (congrArg Prod.snd hscan), congrArg Prod.fst hscan⟩

/-- The token stands where the source has it, and is the value that can be read there. -/
theorem small_hasToken {radix : Radix} (hradix : radix.base = 16) :
    HasToken radix digits small "Ff".toList :=
  hasToken_iff.2 ⟨[' '], [' '], " # 9fffffffffffffffff\nb = ffffffffffffffffff".toList,
    digits.at_zero, List.all_eq_true.1 (by decide), by rw [hradix]; decide +kernel⟩

theorem large_hasToken {radix : Radix} (hradix : radix.base = 16) :
    HasToken radix digits large "ffffffffffffffffff".toList :=
  hasToken_iff.2 ⟨[' '], [' '], [], ⟨"a = Ff # 9fffffffffffffffff\n".toList, rfl, rfl⟩,
    List.all_eq_true.1 (by decide), by rw [hradix]; decide +kernel⟩

theorem parse_digits_hexadecimal :
    ∃ radix : Radix, HasToken radix digits small "Ff".toList ∧
      small.value = .number (UInt64.ofNat (numeralValue 16 "Ff".toList)) ∧
      Fails (eval noCells 2 digits) (value radix) 9 [] := by
  obtain ⟨radix, comment, hradix, -, hstored, hrefused⟩ :=
    parse_digits hexadecimal (by decide) digits
  obtain ⟨p, hp, hsettings⟩ := parse_hexadecimal
  have htoken := small_hasToken hradix
  have hvalue := (hstored p hp small (by rw [hsettings]; exact List.mem_cons_self)).2 _ htoken
    (List.all_eq_true.1 (by decide))
  rw [if_pos (by decide)] at hvalue
  exact ⟨radix, htoken, hvalue, hrefused 9 '9' _
    ⟨"a = Ff # ".toList, rfl, rfl⟩ rfl (by decide +kernel) 0 []⟩

/-- What is too large for a number is not refused here, but stored as a text. -/
theorem large_stored_as_word :
    ∃ radix : Radix, radix.base = hexadecimal.radix ∧ ∃ p, parse hexadecimal digits = .ok p ∧
      ∃ s ∈ p.settings, ∃ token, HasToken radix digits s token ∧
        (∀ c ∈ token, isDigit hexadecimal.radix c = true) ∧
        UInt64.size ≤ numeralValue hexadecimal.radix token ∧
        s.value = .word (String.ofList token) := by
  obtain ⟨p, hp, hsettings⟩ := parse_hexadecimal
  exact ⟨⟨16, by decide, by decide⟩, rfl, p, hp, large, by simp [hsettings],
    "ffffffffffffffffff".toList, large_hasToken rfl, List.all_eq_true.1 (by decide),
    by decide +kernel, rfl⟩

end Hexadecimal

end Settings

end Descent
