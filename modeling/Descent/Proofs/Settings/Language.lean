import Descent.Proofs.Scanning
import Descent.Settings.Grammar

/-!
# The language of settings

What a settings text consists of, read off the text itself: blanks, comments
and entries, one item after the other, each the first that applies at its
place.
-/
namespace Descent

namespace Settings

/-- The digits at the front of a text, when there are some and their number fits. -/
def numberAt? (radix : Nat) (cs : List Char) : Option (List Char × SettingValue) :=
  let digits := cs.takeWhile (isDigit radix)
  if digits.isEmpty then none
  else (readNumeral? radix digits).map fun n => (digits, .number n)

def identifierAt? (cs : List Char) : Option (List Char) :=
  let text := Primitive.identifierPrefix "_" "_-." cs
  if text.isEmpty then none else some text

def wordAt? (cs : List Char) : Option (List Char × SettingValue) :=
  (identifierAt? cs).map fun text => (text, .word (String.ofList text))

/-- What may stand between quotes. -/
def isQuotable (c : Char) : Bool := c != '"' && c != '\n'

/-- The text between two quotes on one line. -/
def quotedAt? : List Char → Option (List Char × SettingValue)
  | '"' :: cs =>
    let inner := cs.takeWhile isQuotable
    if (cs.dropWhile isQuotable).head? = some '"' then
      some ('"' :: inner ++ ['"'], .quoted (String.ofList inner))
    else none
  | _ => none

/-- All the values that a text may start with. -/
def valuesAt (radix : Nat) (cs : List Char) : List (List Char × SettingValue) :=
  (numberAt? radix cs).toList ++ (wordAt? cs).toList ++ (quotedAt? cs).toList

/-- The longest of the values that a text may start with, the first of them on a tie. -/
def valueAt? (radix : Nat) (cs : List Char) : Option (List Char × SettingValue) :=
  let values := valuesAt radix cs
  values.find? fun v => values.all fun v' => byteLength v'.1 ≤ byteLength v.1

/-- A key, an equals sign and a value, with blanks between them and after them. -/
def entryAt? (o : Options) (offset : Nat) (cs : List Char) : Option (List Char × Setting) := do
  let blanks := Primitive.blankPrefix o.newlineIsBlank
  let key ← identifierAt? cs
  let cs := cs.drop key.length
  let left := blanks cs
  let cs ← equalsMark.after? (cs.drop left.length)
  let right := blanks cs
  let cs := cs.drop right.length
  let (text, value) ← valueAt? o.radix cs
  let tail := blanks (cs.drop text.length)
  return (key ++ left ++ equalsMark.chars ++ right ++ text ++ tail,
    ⟨String.ofList key, value, offset⟩)

def blanksAt? (cs : List Char) : Option (List Char) :=
  let text := Primitive.blankPrefix true cs
  if text.isEmpty then none else some text

def lineCommentAt? (comment : String) (cs : List Char) : Option (List Char) := do
  let mark ← Mark.ofString? comment
  let body ← mark.after? cs
  return mark.chars ++ firstLine body

/-- A block comment that is closed. -/
def blockCommentAt? (cs : List Char) : Option (List Char) := do
  let body ← openMark.after? cs
  let length ← Primitive.bodyLength? closeMark.chars .outside body
  let text ← takeBytes? length body
  return openMark.chars ++ text

/-- The text of an item, and the entry that it is. -/
structure Item where
  text : List Char
  entry : Option Setting := none

/-- The first item that applies at the front of a text, which stands at an offset. -/
def itemAt? (o : Options) (offset : Nat) (cs : List Char) : Option Item :=
  (blanksAt? cs).map ({ text := · }) <|>
  (lineCommentAt? o.comment cs).map ({ text := · }) <|>
  (blockCommentAt? cs).map ({ text := · }) <|>
  (entryAt? o offset cs).map fun (text, setting) => { text, entry := setting }

theorem itemAt?_eq_none_iff {o : Options} {offset : Nat} {cs : List Char} :
    itemAt? o offset cs = none ↔ blanksAt? cs = none ∧ lineCommentAt? o.comment cs = none ∧
      blockCommentAt? cs = none ∧ entryAt? o offset cs = none := by
  simp [itemAt?]

/-- An item is of the first kind that applies. -/
theorem itemAt?_cases {o : Options} {offset : Nat} {cs : List Char} {item : Item}
    (h : itemAt? o offset cs = some item) :
    (∃ text, blanksAt? cs = some text ∧ { text } = item) ∨
      blanksAt? cs = none ∧ ((∃ text, lineCommentAt? o.comment cs = some text ∧ { text } = item) ∨
        lineCommentAt? o.comment cs = none ∧
          ((∃ text, blockCommentAt? cs = some text ∧ { text } = item) ∨
            blockCommentAt? cs = none ∧
              ∃ text setting, entryAt? o offset cs = some (text, setting) ∧
                { text, entry := some setting } = item)) := by
  simpa [itemAt?, Option.or_eq_some_iff] using h

/-- Some characters at the front of a text. -/
def Fronts (front cs : List Char) : Prop := front ≠ [] ∧ front <+: cs

theorem append_isPrefix_of_drop {front cs : List Char} (hf : front <+: cs) (next : List Char)
    (hn : next <+: cs.drop front.length) : front ++ next <+: cs := by
  obtain ⟨rest, rfl⟩ := hf
  obtain ⟨rest', h⟩ := hn
  rw [List.drop_left] at h
  exact ⟨rest', by rw [← h, List.append_assoc]⟩

theorem Fronts.append {front cs : List Char} (hf : Fronts front cs) (next : List Char)
    (hn : next <+: cs.drop front.length) : Fronts (front ++ next) cs :=
  ⟨by simp [hf.1], append_isPrefix_of_drop hf.2 next hn⟩

theorem after?_drop {m : Mark} {cs rest : List Char} (h : m.after? cs = some rest) :
    m.chars <+: cs ∧ cs.drop m.chars.length = rest := by
  obtain rfl := Mark.after?_eq_some_iff.1 h
  exact ⟨List.prefix_append _ _, List.drop_left⟩

theorem numberAt?_fronts {radix : Nat} {cs text : List Char} {value : SettingValue}
    (h : numberAt? radix cs = some (text, value)) : Fronts text cs := by
  obtain ⟨hne, h⟩ := Option.ite_none_left_eq_some.1 h
  obtain ⟨n, -, heq⟩ := Option.map_eq_some_iff.1 h
  obtain ⟨rfl, -⟩ := Prod.mk.inj heq
  exact ⟨by simpa using hne, List.takeWhile_prefix _⟩

theorem identifierAt?_fronts {cs text : List Char} (h : identifierAt? cs = some text) :
    Fronts text cs := by
  obtain ⟨hne, h⟩ := Option.ite_none_left_eq_some.1 h
  obtain rfl := Option.some.inj h
  exact ⟨by simpa using hne, Primitive.identifierPrefix_isPrefix _ _ _⟩

theorem wordAt?_fronts {cs text : List Char} {value : SettingValue}
    (h : wordAt? cs = some (text, value)) : Fronts text cs := by
  obtain ⟨text', htext, heq⟩ := Option.map_eq_some_iff.1 h
  obtain ⟨rfl, -⟩ := Prod.mk.inj heq
  exact identifierAt?_fronts htext

theorem quotedAt?_cons_of_ne {c : Char} (hc : c ≠ '"') (cs : List Char) :
    quotedAt? (c :: cs) = none := by
  unfold quotedAt?
  split
  · next heq => exact absurd (List.cons.inj heq).1 hc
  · rfl

theorem quotedAt?_eq_some_iff {cs text : List Char} {value : SettingValue} :
    quotedAt? cs = some (text, value) ↔ ∃ inner rest, cs = '"' :: inner ++ '"' :: rest ∧
      (∀ c ∈ inner, isQuotable c = true) ∧ text = '"' :: inner ++ ['"'] ∧
      value = .quoted (String.ofList inner) := by
  constructor
  · intro h
    unfold quotedAt? at h
    split at h
    · next cs =>
      dsimp only at h
      split at h
      · next hquote =>
        obtain ⟨rfl, rfl⟩ := Prod.mk.inj (Option.some.inj h)
        obtain ⟨rest, hrest⟩ := List.head?_eq_some_iff.1 hquote
        refine ⟨cs.takeWhile isQuotable, rest, ?_, fun c hc => List.mem_takeWhile_imp hc, rfl, rfl⟩
        rw [← hrest, List.cons_append, List.takeWhile_append_dropWhile]
      · cases h
    · cases h
  · rintro ⟨inner, rest, rfl, hinner, rfl, rfl⟩
    have htake : (inner ++ '"' :: rest).takeWhile isQuotable = inner := by
      rw [List.takeWhile_append_of_pos hinner]
      simp [isQuotable]
    have hdrop : (inner ++ '"' :: rest).dropWhile isQuotable = '"' :: rest := by
      rw [List.dropWhile_append_of_pos hinner]
      simp [isQuotable]
    simp [quotedAt?, htake, hdrop]

theorem quotedAt?_fronts {cs text : List Char} {value : SettingValue}
    (h : quotedAt? cs = some (text, value)) : Fronts text cs := by
  obtain ⟨inner, rest, rfl, -, rfl, -⟩ := quotedAt?_eq_some_iff.1 h
  exact ⟨by simp, rest, by simp⟩

theorem valueAt?_fronts {radix : Nat} {cs text : List Char} {value : SettingValue}
    (h : valueAt? radix cs = some (text, value)) : Fronts text cs := by
  have hmem := List.mem_of_find?_eq_some h
  simp only [valuesAt, List.mem_append, Option.mem_toList] at hmem
  rcases hmem with (hmem | hmem) | hmem
  · exact numberAt?_fronts hmem
  · exact wordAt?_fronts hmem
  · exact quotedAt?_fronts hmem

theorem blankPrefix_isPrefix (newlines : Bool) (cs : List Char) :
    Primitive.blankPrefix newlines cs <+: cs := List.takeWhile_prefix _

theorem entryAt?_fronts {o : Options} {offset : Nat} {cs text : List Char} {setting : Setting}
    (h : entryAt? o offset cs = some (text, setting)) : Fronts text cs := by
  unfold entryAt? at h
  obtain ⟨key, hkey, h⟩ := Option.bind_eq_some_iff.1 h
  obtain ⟨rest, hrest, h⟩ := Option.bind_eq_some_iff.1 h
  obtain ⟨⟨valueText, value⟩, hvalue, h⟩ := Option.bind_eq_some_iff.1 h
  obtain ⟨rfl, -⟩ := Prod.mk.inj (Option.some.inj h)
  obtain ⟨hequals, rfl⟩ := after?_drop hrest
  have hblanks := blankPrefix_isPrefix o.newlineIsBlank
  have hleft := (identifierAt?_fronts hkey).append _ (hblanks _)
  have hequals := hleft.append equalsMark.chars
    (by simpa only [List.length_append, ← List.drop_drop] using hequals)
  have hright := hequals.append _ (hblanks _)
  simp only [List.length_append, ← List.drop_drop] at hright
  have hvalue := hright.append valueText
    (by simpa only [List.length_append, ← List.drop_drop] using (valueAt?_fronts hvalue).2)
  have htail := hvalue.append _ (hblanks _)
  simpa only [List.length_append, ← List.drop_drop] using htail

theorem blanksAt?_fronts {cs text : List Char} (h : blanksAt? cs = some text) :
    Fronts text cs := by
  obtain ⟨hne, h⟩ := Option.ite_none_left_eq_some.1 h
  obtain rfl := Option.some.inj h
  exact ⟨by simpa using hne, blankPrefix_isPrefix _ _⟩

theorem lineCommentAt?_fronts {comment : String} {cs text : List Char}
    (h : lineCommentAt? comment cs = some text) : Fronts text cs := by
  obtain ⟨mark, -, h⟩ := Option.bind_eq_some_iff.1 h
  obtain ⟨body, hbody, h⟩ := Option.bind_eq_some_iff.1 h
  obtain rfl := Option.some.inj h
  obtain ⟨hmark, rfl⟩ := after?_drop hbody
  exact Fronts.append ⟨mark.chars_ne_nil, hmark⟩ _ (List.takeWhile_prefix _)

theorem blockCommentAt?_fronts {cs text : List Char} (h : blockCommentAt? cs = some text) :
    Fronts text cs := by
  obtain ⟨body, hbody, h⟩ := Option.bind_eq_some_iff.1 h
  obtain ⟨length, -, h⟩ := Option.bind_eq_some_iff.1 h
  obtain ⟨front, hfront, h⟩ := Option.bind_eq_some_iff.1 h
  obtain rfl := Option.some.inj h
  obtain ⟨hmark, rfl⟩ := after?_drop hbody
  obtain ⟨rest, hrest, -⟩ := takeBytes?_eq_some_iff.1 hfront
  exact Fronts.append ⟨openMark.chars_ne_nil, hmark⟩ _ ⟨rest, hrest.symm⟩

/-- Every item takes something. -/
theorem itemAt?_fronts {o : Options} {offset : Nat} {cs : List Char} {item : Item}
    (h : itemAt? o offset cs = some item) : Fronts item.text cs := by
  rcases itemAt?_cases h with ⟨text, htext, rfl⟩ | ⟨-, ⟨text, htext, rfl⟩ | ⟨-, ⟨text, htext, rfl⟩ |
    ⟨-, text, setting, hentry, rfl⟩⟩⟩
  · exact blanksAt?_fronts htext
  · exact lineCommentAt?_fronts htext
  · exact blockCommentAt?_fronts htext
  · exact entryAt?_fronts hentry

/-- Nothing is an item at the end of a text. -/
theorem itemAt?_nil (o : Options) (offset : Nat) : itemAt? o offset [] = none := by
  refine Option.eq_none_iff_forall_ne_some.2 fun item h => ?_
  obtain ⟨hne, hprefix⟩ := itemAt?_fronts h
  exact hne (List.prefix_nil.1 hprefix)

/-- Takes items from a text at an offset as long as one applies: the entries among them, and
what is left of the text. -/
def scan (o : Options) (offset : Nat) (cs : List Char) : List Setting × List Char :=
  match _h : itemAt? o offset cs with
  | none => ([], cs)
  | some item =>
    let (settings, rest) :=
      scan o (offset + byteLength item.text) (cs.drop item.text.length)
    (item.entry.toList ++ settings, rest)
termination_by cs.length
decreasing_by
  obtain ⟨hne, rest, rfl⟩ := itemAt?_fronts _h
  have := List.length_pos_iff.2 hne
  simp only [List.drop_left, List.length_append]
  omega

section Scans

variable {o : Options} {offset : Nat} {cs : List Char}

theorem scan_none (h : itemAt? o offset cs = none) : scan o offset cs = ([], cs) := by
  unfold scan
  split
  · rfl
  · next hsome => cases h.symm.trans hsome

theorem scan_some {item : Item} (h : itemAt? o offset cs = some item) :
    scan o offset cs =
      (item.entry.toList ++
          (scan o (offset + byteLength item.text) (cs.drop item.text.length)).1,
        (scan o (offset + byteLength item.text) (cs.drop item.text.length)).2) := by
  conv_lhs => unfold scan
  split
  · next hnone => cases h.symm.trans hnone
  · next item' hsome =>
    obtain rfl := Option.some.inj (h.symm.trans hsome)
    rfl

end Scans

end Settings

end Descent
