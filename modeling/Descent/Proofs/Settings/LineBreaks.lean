import Descent.Proofs.Settings.Listing

/-!
# Line breaks around the equals sign

Where line breaks may stand in the gaps of an entry, the scan cuts a text into
other items: the gap after a value goes on over the ends of lines. It stops
where the blanks stop, and there the two scans meet again. So a text that is
accepted without such line breaks is accepted with them, and comes to the same.
-/
namespace Descent

/-- No digit of any base is blank. -/
theorem isBlank_of_isDigit_base {base : Nat} {c : Char} (h : isDigit base c = true) :
    isBlank c = false := by
  obtain ⟨d, hd⟩ := Option.isSome_iff_exists.1 h
  have hweight : digitWeight? c = some d := (Option.filter_eq_some_iff.1 hd).1
  simp only [digitWeight?] at hweight
  simp only [isBlank, Ranges.contains, blankRanges, Ranges.covers]
  grind

namespace Settings

section Gaps

variable {cs : List Char}

/-- A gap with line breaks is one without them and all the blanks that come after it. -/
theorem blankPrefix_newlines (cs : List Char) :
    Primitive.blankPrefix true cs = Primitive.blankPrefix false cs ++
      Primitive.blankPrefix true (cs.drop (Primitive.blankPrefix false cs).length) := by
  have hblank :
      ∀ c ∈ Primitive.blankPrefix false cs, (isBlank c && (true || c != '\n')) = true := by
    intro c hc
    have hboth := List.mem_takeWhile_imp (p := fun c => isBlank c && (false || c != '\n')) hc
    rw [Bool.and_eq_true] at hboth
    rw [hboth.1]
    rfl
  obtain ⟨rest, hrest⟩ := blankPrefix_isPrefix false cs
  generalize Primitive.blankPrefix false cs = front at hblank hrest ⊢
  obtain rfl := hrest
  rw [List.drop_left]
  exact List.takeWhile_append_of_pos hblank

theorem blankPrefix_of_head {c : Char} (h : cs.head? = some c) (hc : isBlank c = false) :
    Primitive.blankPrefix true cs = [] := by
  obtain ⟨rest, rfl⟩ := List.head?_eq_some_iff.1 h
  exact List.takeWhile_cons_of_neg (by simp [hc])

/-- Before something that is not blank, a gap ends in the same place with line breaks. -/
theorem blankPrefix_eq_of_head {c : Char}
    (h : (cs.drop (Primitive.blankPrefix false cs).length).head? = some c)
    (hc : isBlank c = false) : Primitive.blankPrefix true cs = Primitive.blankPrefix false cs := by
  rw [blankPrefix_newlines cs, blankPrefix_of_head h hc, List.append_nil]

theorem equals_head {rest : List Char} (h : equalsMark.after? cs = some rest) :
    cs.head? = some '=' := by
  obtain rfl := Mark.after?_eq_some_iff.1 h
  rfl

/-- No value starts with a blank. -/
theorem value_head {radix : Nat} {v : List Char × SettingValue} (h : valueAt? radix cs = some v) :
    ∃ c, cs.head? = some c ∧ isBlank c = false := by
  have hmem := List.mem_of_find?_eq_some h
  simp only [valuesAt, List.mem_append, Option.mem_toList] at hmem
  rcases hmem with (hnumber | hword) | hquoted
  · obtain ⟨hsome, -⟩ := Option.ite_none_left_eq_some.1 hnumber
    cases cs with
    | nil => exact absurd rfl hsome
    | cons c cs =>
      have hdigit : isDigit radix c = true := by
        by_contra hdigit
        rw [List.takeWhile_cons_of_neg hdigit] at hsome
        exact hsome rfl
      exact ⟨c, rfl, isBlank_of_isDigit_base hdigit⟩
  · obtain ⟨text, htext, -⟩ := Option.map_eq_some_iff.1 hword
    obtain ⟨c, text, rfl, hstart, -⟩ := isIdentifier_of_identifierAt? htext
    obtain ⟨rest, rfl⟩ := (identifierAt?_fronts htext).2
    exact ⟨c, rfl, isBlank_of_startsIdentifier hstart⟩
  · obtain ⟨inner, rest, rfl, -⟩ := quotedAt?_eq_some_iff.1 hquoted
    exact ⟨'"', rfl, by decide⟩

end Gaps

section Items

variable {radix offset : Nat} {comment : String} {cs : List Char}

/-- With line breaks an entry is the same, and takes all the blanks after it. -/
theorem entryAt?_newlines {text : List Char} {setting : Setting}
    (h : entryAt? ⟨radix, false, comment⟩ offset cs = some (text, setting)) :
    entryAt? ⟨radix, true, comment⟩ offset cs =
      some (text ++ Primitive.blankPrefix true (cs.drop text.length), setting) := by
  unfold entryAt? at h
  obtain ⟨key, hkey, h⟩ := Option.bind_eq_some_iff.1 h
  obtain ⟨rest, hequals, h⟩ := Option.bind_eq_some_iff.1 h
  obtain ⟨⟨valueText, value⟩, hvalue, h⟩ := Option.bind_eq_some_iff.1 h
  obtain ⟨rfl, rfl⟩ := Prod.mk.inj (Option.some.inj h)
  have hleft := blankPrefix_eq_of_head (equals_head hequals) (by decide)
  obtain ⟨c, hc, hblank⟩ := value_head hvalue
  have hright := blankPrefix_eq_of_head hc hblank
  have htail := blankPrefix_newlines
    ((rest.drop (Primitive.blankPrefix false rest).length).drop valueText.length)
  have hrest := (after?_drop hequals).2
  rw [entryAt?, hkey]
  simp only [Option.bind_eq_bind, Option.bind_some, hleft, hequals, hright, hvalue, htail]
  simp only [← hrest, List.length_append, List.drop_drop, List.append_assoc, Nat.add_assoc]
  rfl

/-- With line breaks an item is the same, but for the blanks that an entry takes after it. -/
theorem itemAt?_newlines {item : Item}
    (h : itemAt? ⟨radix, false, comment⟩ offset cs = some item) :
    ∃ blanks, itemAt? ⟨radix, true, comment⟩ offset cs =
        some { item with text := item.text ++ blanks } ∧
      (blanks = [] ∨ blanks = Primitive.blankPrefix true (cs.drop item.text.length)) := by
  rcases itemAt?_cases h with ⟨text, hblanks, rfl⟩ | ⟨hblanks, ⟨text, hline, rfl⟩ |
    ⟨hline, ⟨text, hblock, rfl⟩ | ⟨hblock, text, setting, hentry, rfl⟩⟩⟩
  · exact ⟨[], by simp [itemAt?, hblanks], Or.inl rfl⟩
  · exact ⟨[], by simp [itemAt?, hblanks, hline], Or.inl rfl⟩
  · exact ⟨[], by simp [itemAt?, hblanks, hline, hblock], Or.inl rfl⟩
  · have hlonger := entryAt?_newlines hentry
    exact ⟨_, by simp [itemAt?, hblanks, hline, hblock, hlonger], Or.inr rfl⟩

/-- Where the scan without line breaks reaches the end, the scan with them finds the same. -/
theorem scan_newlines (hend : (scan ⟨radix, false, comment⟩ offset cs).2 = []) :
    scan ⟨radix, true, comment⟩ offset cs = scan ⟨radix, false, comment⟩ offset cs := by
  fun_induction scan ⟨radix, false, comment⟩ offset cs with
  | case1 offset cs hnone =>
    obtain rfl : cs = [] := hend
    exact scan_none (itemAt?_nil _ _)
  | case2 offset cs item hsome settings rest hscan ih =>
    obtain ⟨blanks, hitem, hblanks⟩ := itemAt?_newlines hsome
    rw [hscan] at ih
    -- after the item the scans stand in different places, with nothing but blanks in between
    have hmeet : scan ⟨radix, true, comment⟩ (offset + byteLength (item.text ++ blanks))
        (cs.drop (item.text ++ blanks).length) = (settings, rest) := by
      rw [byteLength_append, ← Nat.add_assoc, List.length_append, ← List.drop_drop]
      rcases hblanks with rfl | rfl
      · exact ih hend
      · rw [← scan_blankPrefix]
        exact ih hend
    rw [scan_some hitem, hmeet]

end Items

/-- A text that is accepted where line breaks may not stand around the equals sign is accepted
where they may, with the same settings and the same warnings. -/
theorem parse_newlines (radix : Nat) (comment : String) (source : Source) (p : Parsed)
    (h : parse ⟨radix, false, comment⟩ source = .ok p) :
    parse ⟨radix, true, comment⟩ source = .ok p := by
  have hvalid : Options.Valid ⟨radix, false, comment⟩ := valid_of_parse h
  obtain ⟨hend, rfl⟩ := (parse_ok_iff hvalid).1 h
  have hscan := scan_newlines hend
  have hvalid' : Options.Valid ⟨radix, true, comment⟩ := hvalid
  rw [parse_of_scan hvalid' source (by rw [hscan]; exact hend), accepted, accepted, hscan]

/-- The gaps after the values go on over the ends of the lines, up to a comment, a key that comes
twice and the end of the text. -/
theorem parse_newlines_blocks :
    ∃ p, parse ⟨16, false, ";"⟩ ⟨"blocks", "a = ff\n\n ; one\nb = zig\n\t\na =\t\"é\" \n"⟩ = .ok p ∧
      parse ⟨16, true, ";"⟩ ⟨"blocks", "a = ff\n\n ; one\nb = zig\n\t\na =\t\"é\" \n"⟩ = .ok p ∧
      p.settings = [⟨"a", .number 255, 0⟩, ⟨"b", .word "zig", 15⟩, ⟨"a", .quoted "é", 25⟩] := by
  let source : Source := ⟨"blocks", "a = ff\n\n ; one\nb = zig\n\t\na =\t\"é\" \n"⟩
  have hscan : scan ⟨16, false, ";"⟩ 0 source.chars =
      ([⟨"a", .number 255, 0⟩, ⟨"b", .word "zig", 15⟩, ⟨"a", .quoted "é", 25⟩], []) := by
    decide +kernel
  have h := parse_of_scan (o := ⟨16, false, ";"⟩) (by decide) source (congrArg Prod.snd hscan)
  exact ⟨_, h, parse_newlines 16 ";" source _ h, congrArg Prod.fst hscan⟩

end Settings

end Descent
