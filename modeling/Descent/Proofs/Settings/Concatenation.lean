import Descent.Proofs.Settings.Acceptance

/-!
# Settings texts one after the other

Where more lines follow a text, its items are read as before. Only the blanks
at its end may go on into the lines that follow, and blanks make no entry. So
two accepted texts, with a newline between them, are accepted as one text, and
the entries of the second follow those of the first.
-/
namespace Descent

section Newlines

variable {p : Char → Bool} (cs more : List Char)

/-- A newline ends what does not take newlines. -/
theorem takeWhile_append_newline (hp : p '\n' = false) :
    (cs ++ '\n' :: more).takeWhile p = cs.takeWhile p := by
  have hnone : ('\n' :: more).takeWhile p = [] := List.takeWhile_cons_of_neg (by simp [hp])
  rw [List.takeWhile_append, hnone, List.append_nil]
  split
  · next hall => exact ((List.takeWhile_prefix p).eq_of_length hall).symm
  · rfl

theorem dropWhile_append_newline (hp : p '\n' = false) :
    (cs ++ '\n' :: more).dropWhile p = cs.dropWhile p ++ '\n' :: more := by
  have hsplit : (cs ++ '\n' :: more).takeWhile p ++ (cs ++ '\n' :: more).dropWhile p =
      cs.takeWhile p ++ (cs.dropWhile p ++ '\n' :: more) := by
    rw [← List.append_assoc]
    simp only [List.takeWhile_append_dropWhile]
  rw [takeWhile_append_newline cs more hp] at hsplit
  exact List.append_cancel_left hsplit

variable {cs more}

theorem isPrefix_of_append_newline {front : List Char} (hfront : '\n' ∉ front)
    (h : front <+: cs ++ '\n' :: more) : front <+: cs := by
  rcases List.prefix_or_prefix_of_prefix h (List.prefix_append cs ('\n' :: more)) with h' | h'
  · exact h'
  · obtain ⟨after, rfl⟩ := h'
    cases after with
    | nil => simp
    | cons c after =>
      obtain ⟨rest, hrest⟩ := (List.prefix_append_right_inj cs).1 h
      obtain ⟨rfl, -⟩ := List.cons.inj hrest
      simp at hfront

/-- A mark without newlines stands in front of the lines only where it stands in front of the
first of them. -/
theorem Mark.after?_append_newline (m : Mark) (hm : '\n' ∉ m.chars) :
    m.after? (cs ++ '\n' :: more) = (m.after? cs).map (· ++ '\n' :: more) := by
  cases hafter : m.after? cs with
  | some rest =>
    obtain rfl := after?_eq_some_iff.1 hafter
    exact after?_eq_some_iff.2 (List.append_assoc ..)
  | none =>
    refine Option.eq_none_iff_forall_ne_some.2 fun rest h => ?_
    obtain ⟨after, rfl⟩ := isPrefix_of_append_newline hm ⟨rest, (after?_eq_some_iff.1 h).symm⟩
    exact absurd (hafter.symm.trans (after?_eq_some_iff.2 rfl)) (by simp)

theorem Primitive.bodyLength?_append_newline (stop : List Char) (hstop : '\n' ∉ stop)
    (state : Quoting) (cs more : List Char) (n : Nat) (h : bodyLength? stop state cs = some n) :
    bodyLength? stop state (cs ++ '\n' :: more) = some n := by
  induction cs generalizing state n with
  | nil => cases h
  | cons c cs ih =>
    have hprefix : stop.isPrefixOf (c :: (cs ++ '\n' :: more)) = stop.isPrefixOf (c :: cs) := by
      rw [Bool.eq_iff_iff, List.isPrefixOf_iff_prefix, List.isPrefixOf_iff_prefix]
      exact ⟨fun h => isPrefix_of_append_newline hstop h,
        fun h => h.trans (List.prefix_append (c :: cs) ('\n' :: more))⟩
    rw [List.cons_append, bodyLength?, hprefix]
    rw [bodyLength?] at h
    split at h
    · next hends => rw [if_pos hends]; exact h
    · next hends =>
      obtain ⟨k, hk, rfl⟩ := Option.map_eq_some_iff.1 h
      rw [if_neg hends, ih _ _ hk]
      rfl

end Newlines

namespace Settings

/-- What is taken from the lines that follow a text: blanks, and only where a part takes all that is
left of the text. -/
structure Extra (text cs more extra : List Char) : Prop where
  isPrefix : extra <+: '\n' :: more
  blank : ∀ c ∈ extra, isBlank c = true
  atEnd : extra ≠ [] → text = cs

section Parts

variable (cs more : List Char)

theorem blankPrefix_append (newlines : Bool) :
    ∃ extra, Primitive.blankPrefix newlines (cs ++ '\n' :: more) =
        Primitive.blankPrefix newlines cs ++ extra ∧
      Extra (Primitive.blankPrefix newlines cs) cs more extra := by
  unfold Primitive.blankPrefix
  rw [List.takeWhile_append]
  split
  · next hall =>
    have hself := (List.takeWhile_prefix _).eq_of_length hall
    refine ⟨_, congrArg (· ++ _) hself.symm, List.takeWhile_prefix _, fun c hc => ?_,
      fun _ => hself⟩
    have hblank := List.mem_takeWhile_imp hc
    exact (Bool.and_eq_true_iff.1 hblank).1
  · exact ⟨[], (List.append_nil _).symm, List.nil_prefix, by simp, fun h => absurd rfl h⟩

/-- Blanks before the end of the text end as before. -/
theorem blankPrefix_append_of_left (newlines : Bool)
    (h : cs.drop (Primitive.blankPrefix newlines cs).length ≠ []) :
    Primitive.blankPrefix newlines (cs ++ '\n' :: more) = Primitive.blankPrefix newlines cs := by
  obtain ⟨extra, heq, hextra⟩ := blankPrefix_append cs more newlines
  by_cases hnil : extra = []
  · rw [heq, hnil, List.append_nil]
  · rw [hextra.atEnd hnil] at h
    exact absurd List.drop_length h

theorem identifierAt?_append : identifierAt? (cs ++ '\n' :: more) = identifierAt? cs := by
  have hprefix : Primitive.identifierPrefix "_" "_-." (cs ++ '\n' :: more) =
      Primitive.identifierPrefix "_" "_-." cs := by
    cases cs with
    | nil =>
      have hstart : ¬ Primitive.startsIdentifier "_" '\n' = true := by decide
      show Primitive.identifierPrefix "_" "_-." ('\n' :: more) = []
      simp only [Primitive.identifierPrefix, if_neg hstart]
    | cons c cs =>
      rw [List.cons_append, Primitive.identifierPrefix, Primitive.identifierPrefix,
        takeWhile_append_newline cs more (by decide)]
  rw [identifierAt?, hprefix]
  rfl

theorem numberAt?_append (radix : Nat) :
    numberAt? radix (cs ++ '\n' :: more) = numberAt? radix cs := by
  have hdigit : isDigit radix '\n' = false := by
    have hweight : digitWeight? '\n' = none := by decide
    rw [isDigit, digit?, hweight]
    rfl
  rw [numberAt?, takeWhile_append_newline cs more hdigit]
  rfl

theorem quotedAt?_append : quotedAt? (cs ++ '\n' :: more) = quotedAt? cs := by
  cases cs with
  | nil => rfl
  | cons c cs =>
    by_cases hc : c = '"'
    · obtain rfl := hc
      have hhead : ((cs ++ '\n' :: more).dropWhile isQuotable).head? = some '"' ↔
          (cs.dropWhile isQuotable).head? = some '"' := by
        rw [dropWhile_append_newline cs more (by decide)]
        cases cs.dropWhile isQuotable <;> simp
      simp only [List.cons_append, quotedAt?, takeWhile_append_newline cs more (p := isQuotable)
        (by decide), hhead]
    · rw [List.cons_append, quotedAt?_cons_of_ne hc, quotedAt?_cons_of_ne hc]

theorem valueAt?_append (radix : Nat) :
    valueAt? radix (cs ++ '\n' :: more) = valueAt? radix cs := by
  have hvalues : valuesAt radix (cs ++ '\n' :: more) = valuesAt radix cs := by
    rw [valuesAt, numberAt?_append, wordAt?, identifierAt?_append, quotedAt?_append]
    rfl
  rw [valueAt?, hvalues]
  rfl

theorem lineCommentAt?_append {comment : String} (hcomment : '\n' ∉ comment.toList) :
    lineCommentAt? comment (cs ++ '\n' :: more) = lineCommentAt? comment cs := by
  unfold lineCommentAt?
  cases hmark : Mark.ofString? comment with
  | none => rfl
  | some mark =>
    have htext : mark.chars = comment.toList := by
      obtain ⟨_, h⟩ := Option.dite_none_left_eq_some.1 hmark
      obtain rfl := Option.some.inj h
      rfl
    rw [Option.bind_eq_bind, Option.bind_some, Option.bind_some,
      mark.after?_append_newline (htext ▸ hcomment)]
    cases mark.after? cs with
    | none => rfl
    | some body => simp [firstLine, takeWhile_append_newline body more]

theorem blockCommentAt?_append {text : List Char} (h : blockCommentAt? cs = some text) :
    blockCommentAt? (cs ++ '\n' :: more) = some text := by
  obtain ⟨body, hbody, h⟩ := Option.bind_eq_some_iff.1 h
  obtain ⟨length, hlength, h⟩ := Option.bind_eq_some_iff.1 h
  obtain ⟨front, hfront, h⟩ := Option.bind_eq_some_iff.1 h
  obtain ⟨rest, rfl, rfl⟩ := takeBytes?_eq_some_iff.1 hfront
  have hlength' := Primitive.bodyLength?_append_newline closeMark.chars (by decide) .outside _ more
    _ hlength
  have hfront' : takeBytes? (byteLength front) (front ++ rest ++ '\n' :: more) = some front := by
    rw [List.append_assoc, takeBytes?_byteLength]
  rw [blockCommentAt?, openMark.after?_append_newline (by decide), hbody]
  simp only [Option.map_some, Option.bind_eq_bind, Option.bind_some, hlength', hfront']
  simpa [hfront] using h

end Parts

section Items

variable {o : Options} {offset : Nat} {cs : List Char} (more : List Char)

theorem drop_append_of_isPrefix {front : List Char} (h : front <+: cs) :
    (cs ++ '\n' :: more).drop front.length = cs.drop front.length ++ '\n' :: more :=
  List.drop_append_of_le_length h.length_le

/-- An entry is read as before, but for the gap after it. -/
theorem entryAt?_append {text : List Char} {setting : Setting}
    (h : entryAt? o offset cs = some (text, setting)) :
    ∃ extra, entryAt? o offset (cs ++ '\n' :: more) = some (text ++ extra, setting) ∧
      Extra text cs more extra := by
  have hfronts := (entryAt?_fronts h).2
  unfold entryAt? at h
  obtain ⟨key, hkey, h⟩ := Option.bind_eq_some_iff.1 h
  obtain ⟨rest, hequals, h⟩ := Option.bind_eq_some_iff.1 h
  obtain ⟨⟨valueText, value⟩, hvalue, h⟩ := Option.bind_eq_some_iff.1 h
  obtain ⟨rfl, rfl⟩ := Prod.mk.inj (Option.some.inj h)
  have hblanks := blankPrefix_isPrefix o.newlineIsBlank
  have hkeyFronts := (identifierAt?_fronts hkey).2
  have hvalueFronts := valueAt?_fronts hvalue
  obtain ⟨hmark, hrest⟩ := after?_drop hequals
  -- neither gap inside the entry is at the end, as something other than blanks comes after it
  have hleft := blankPrefix_append_of_left _ more o.newlineIsBlank
    fun hnil => equalsMark.chars_ne_nil (List.prefix_nil.1 (hnil ▸ hmark))
  have hright := blankPrefix_append_of_left rest more o.newlineIsBlank
    fun hnil => hvalueFronts.1 (List.prefix_nil.1 (hnil ▸ hvalueFronts.2))
  obtain ⟨extra, htail, hextra⟩ := blankPrefix_append
    ((rest.drop (Primitive.blankPrefix o.newlineIsBlank rest).length).drop valueText.length) more
    o.newlineIsBlank
  refine ⟨extra, ?_, hextra.isPrefix, hextra.blank, fun hne => ?_⟩
  · rw [entryAt?, identifierAt?_append, hkey]
    simp only [Option.bind_eq_bind, Option.bind_some]
    rw [drop_append_of_isPrefix more hkeyFronts, hleft, drop_append_of_isPrefix more (hblanks _),
      equalsMark.after?_append_newline (by decide), hequals]
    simp only [Option.map_some, Option.bind_some]
    rw [hright, drop_append_of_isPrefix more (hblanks _), valueAt?_append, hvalue]
    simp only [Option.bind_some]
    rw [drop_append_of_isPrefix more hvalueFronts.2, htail]
    simp
  · refine hfronts.eq_of_length_le ?_
    have hlength := congrArg List.length (hextra.atEnd hne)
    have hrestLength := congrArg List.length hrest
    simp only [List.length_append, List.length_drop] at hlength hrestLength ⊢
    omega

theorem blanksAt?_append_of_none (hne : cs ≠ []) (h : blanksAt? cs = none) :
    blanksAt? (cs ++ '\n' :: more) = none := by
  obtain ⟨c, cs, rfl⟩ := List.exists_cons_of_ne_nil hne
  cases hc : isBlank c with
  | true => simp [blanksAt?, Primitive.blankPrefix, hc] at h
  | false => simp [blanksAt?, Primitive.blankPrefix, hc]

/-- A mark that starts as no identifier does is not in front of one. -/
theorem after?_of_identifier {m : Mark} {c : Char} (hm : m.chars.head? = some c)
    (hc : Primitive.startsIdentifier "_" c = false) {key : List Char}
    (h : identifierAt? cs = some key) : m.after? cs = none := by
  refine Option.eq_none_iff_forall_ne_some.2 fun body hbody => ?_
  obtain rfl := Mark.after?_eq_some_iff.1 hbody
  obtain ⟨rest, hrest⟩ := List.head?_eq_some_iff.1 hm
  have hprefix : Primitive.identifierPrefix "_" "_-." (m.chars ++ body) = [] := by
    rw [hrest, List.cons_append, Primitive.identifierPrefix, hc]
    rfl
  rw [identifierAt?, hprefix] at h
  cases h

/-- An item is read as before, but for the blanks at its end. -/
theorem itemAt?_append (hcomment : '\n' ∉ o.comment.toList) {item : Item}
    (h : itemAt? o offset cs = some item) :
    ∃ extra, itemAt? o offset (cs ++ '\n' :: more) =
        some { item with text := item.text ++ extra } ∧ Extra item.text cs more extra := by
  have hne : cs ≠ [] := by
    rintro rfl
    cases h.symm.trans (itemAt?_nil o offset)
  have hsame : ∀ text, Extra text cs more [] := fun text =>
    ⟨List.nil_prefix, by simp, fun h => absurd rfl h⟩
  rcases itemAt?_cases h with ⟨text, htext, rfl⟩ | ⟨hblanks, hother⟩
  · obtain ⟨hempty, htext⟩ := Option.ite_none_left_eq_some.1 htext
    obtain rfl := Option.some.inj htext
    obtain ⟨extra, heq, hextra⟩ := blankPrefix_append cs more true
    have hnonempty : ¬ (Primitive.blankPrefix true cs ++ extra).isEmpty = true := by
      simp only [List.isEmpty_iff] at hempty ⊢
      simp [hempty]
    have hlonger : blanksAt? (cs ++ '\n' :: more) =
        some (Primitive.blankPrefix true cs ++ extra) := by
      rw [blanksAt?, heq]
      exact if_neg hnonempty
    exact ⟨extra, by simp [itemAt?, hlonger], hextra⟩
  have hblanks' := blanksAt?_append_of_none more hne hblanks
  rcases hother with ⟨text, htext, rfl⟩ | ⟨hline, hother⟩
  · have hline' := (lineCommentAt?_append cs more hcomment).trans htext
    exact ⟨[], by simp [itemAt?, hblanks', hline'], hsame text⟩
  have hline' := (lineCommentAt?_append cs more hcomment).trans hline
  rcases hother with ⟨text, htext, rfl⟩ | ⟨-, text, setting, hentry, rfl⟩
  · have hblock' := blockCommentAt?_append cs more htext
    exact ⟨[], by simp [itemAt?, hblanks', hline', hblock'], hsame text⟩
  · obtain ⟨key, hkey, -⟩ := Option.bind_eq_some_iff.1 hentry
    have hblock' : blockCommentAt? (cs ++ '\n' :: more) = none := by
      rw [blockCommentAt?, openMark.after?_append_newline (by decide),
        after?_of_identifier (c := '/') (by rfl) (by decide) hkey]
      rfl
    obtain ⟨extra, hlonger, hextra⟩ := entryAt?_append more hentry
    exact ⟨extra, by simp [itemAt?, hblanks', hline', hblock', hlonger], hextra⟩

end Items

section Scans

variable {o : Options} {offset : Nat} {cs : List Char}

/-- An entry further on in a text. -/
def later (n : Nat) (setting : Setting) : Setting := { setting with offset := setting.offset + n }

theorem entryAt?_later (o : Options) (offset n : Nat) (cs : List Char) :
    entryAt? o (offset + n) cs =
      (entryAt? o offset cs).map fun (text, setting) => (text, later n setting) := by
  unfold entryAt?
  cases identifierAt? cs with
  | none => rfl
  | some key =>
  simp only [Option.bind_eq_bind, Option.bind_some]
  cases equalsMark.after? ((cs.drop key.length).drop
      (Primitive.blankPrefix o.newlineIsBlank (cs.drop key.length)).length) with
  | none => rfl
  | some rest =>
  simp only [Option.bind_some]
  cases valueAt? o.radix
      (rest.drop (Primitive.blankPrefix o.newlineIsBlank rest).length) <;> rfl

theorem itemAt?_later (o : Options) (offset n : Nat) (cs : List Char) :
    itemAt? o (offset + n) cs =
      (itemAt? o offset cs).map fun item => { item with entry := item.entry.map (later n) } := by
  unfold itemAt?
  rw [entryAt?_later]
  cases blanksAt? cs with
  | some text => rfl
  | none =>
  cases lineCommentAt? o.comment cs with
  | some text => rfl
  | none =>
  cases blockCommentAt? cs with
  | some text => rfl
  | none => cases entryAt? o offset cs <;> rfl

/-- What is read does not depend on where the text stands, but for the offsets of the entries. -/
theorem scan_later (n : Nat) :
    scan o (offset + n) cs = ((scan o offset cs).1.map (later n), (scan o offset cs).2) := by
  fun_induction scan o offset cs with
  | case1 offset cs hnone =>
    have hlater := itemAt?_later o offset n cs
    rw [hnone] at hlater
    exact scan_none hlater
  | case2 offset cs item hsome entries rest hscan ih =>
    have hlater := itemAt?_later o offset n cs
    rw [hsome] at hlater
    rw [hscan] at ih
    rw [scan_some hlater, Nat.add_right_comm, ih]
    obtain ⟨text, _ | setting⟩ := item <;> rfl

/-- The blanks at the front of a text make no difference. -/
theorem scan_blankPrefix :
    scan o offset cs = scan o (offset + byteLength (Primitive.blankPrefix true cs))
      (cs.drop (Primitive.blankPrefix true cs).length) := by
  by_cases hempty : (Primitive.blankPrefix true cs).isEmpty = true
  · rw [List.isEmpty_iff.1 hempty]
    rfl
  · have hblanks : blanksAt? cs = some (Primitive.blankPrefix true cs) := if_neg hempty
    have hitem : itemAt? o offset cs = some { text := Primitive.blankPrefix true cs } := by
      simp [itemAt?, hblanks]
    exact scan_some hitem

/-- Blanks may be added in front of a text. -/
theorem scan_blanks (blanks : List Char) (h : ∀ c ∈ blanks, isBlank c = true) :
    scan o offset (blanks ++ cs) = scan o (offset + byteLength blanks) cs := by
  have hprefix : Primitive.blankPrefix true (blanks ++ cs) =
      blanks ++ Primitive.blankPrefix true cs := by
    apply List.takeWhile_append_of_pos
    intro c hc
    rw [h c hc]
    rfl
  rw [scan_blankPrefix, hprefix, byteLength_append, List.length_append, ← Nat.add_assoc,
    List.drop_length_add_append]
  exact scan_blankPrefix.symm

/-- Where a scan reaches the end of a text, it goes on with the lines that follow. -/
theorem scan_append (hcomment : '\n' ∉ o.comment.toList) (more : List Char)
    (hend : (scan o offset cs).2 = []) :
    scan o offset (cs ++ '\n' :: more) =
      ((scan o offset cs).1 ++ (scan o (offset + byteLength cs) ('\n' :: more)).1,
        (scan o (offset + byteLength cs) ('\n' :: more)).2) := by
  fun_induction scan o offset cs with
  | case1 offset cs hnone =>
    obtain rfl : cs = [] := hend
    rfl
  | case2 offset cs item hsome entries rest hscan ih =>
    obtain ⟨extra, hlonger, hextra⟩ := itemAt?_append more hcomment hsome
    have hprefix := (itemAt?_fronts hsome).2
    rw [scan_some hlonger]
    by_cases hnil : extra = []
    · obtain ⟨after, rfl⟩ := hprefix
      rw [List.drop_left] at hscan ih
      rw [hscan] at ih
      simp only [hnil, List.append_nil, List.append_assoc, List.drop_left, byteLength_append,
        ← Nat.add_assoc, ih hend]
    · have hall := hextra.atEnd hnil
      obtain ⟨after, hafter⟩ := hextra.isPrefix
      have hdone :
          scan o (offset + byteLength item.text) (cs.drop item.text.length) = ([], []) := by
        rw [hall, List.drop_length]
        exact scan_none (itemAt?_nil o _)
      obtain ⟨rfl, rfl⟩ := Prod.mk.inj (hscan.symm.trans hdone)
      simp only [hall, ← hafter, ← List.append_assoc, List.drop_left, byteLength_append,
        ← Nat.add_assoc, List.append_nil, scan_blanks extra hextra.blank]

/-- Two texts that are scanned to their ends are scanned to the end with a newline between them. -/
theorem scan_lines (hcomment : '\n' ∉ o.comment.toList) (cs more : List Char)
    (hend : (scan o 0 cs).2 = []) (hmore : (scan o 0 more).2 = []) :
    scan o 0 (cs ++ '\n' :: more) =
      ((scan o 0 cs).1 ++ (scan o 0 more).1.map (later (byteLength cs + 1)), []) := by
  have hnewline : scan o (byteLength cs) ('\n' :: more) = scan o (byteLength cs + 1) more :=
    scan_blanks ['\n'] (by simp [isBlank_newline])
  have hlater : scan o (byteLength cs + 1) more =
      ((scan o 0 more).1.map (later (byteLength cs + 1)), []) := by
    rw [← hmore, ← scan_later, Nat.zero_add]
  rw [scan_append hcomment more hend, Nat.zero_add, hnewline, hlater]

end Scans

/-- Two accepted texts, one after the other with a newline between them, are accepted, with the
settings of the first and then those of the second, which stand further on. -/
theorem parse_append (o : Options) (h : o.Valid) (hcomment : '\n' ∉ o.comment.toList)
    (name₁ name₂ name : String) (content₁ content₂ : String) (p₁ p₂ : Parsed)
    (h₁ : parse o ⟨name₁, content₁⟩ = .ok p₁) (h₂ : parse o ⟨name₂, content₂⟩ = .ok p₂) :
    ∃ p, parse o ⟨name, content₁ ++ "\n" ++ content₂⟩ = .ok p ∧
      p.settings = p₁.settings ++ p₂.settings.map fun setting =>
        { setting with offset := setting.offset + (content₁.utf8ByteSize + 1) } := by
  obtain ⟨hend₁, rfl⟩ := (parse_ok_iff h).1 h₁
  obtain ⟨hend₂, rfl⟩ := (parse_ok_iff h).1 h₂
  have hchars : (content₁ ++ "\n" ++ content₂).toList =
      content₁.toList ++ '\n' :: content₂.toList := by simp
  have hscan := scan_lines hcomment content₁.toList content₂.toList hend₁ hend₂
  rw [← hchars, byteLength_toList] at hscan
  exact ⟨accepted o ⟨name, content₁ ++ "\n" ++ content₂⟩,
    parse_of_scan h _ (congrArg Prod.snd hscan), congrArg Prod.fst hscan⟩

/-- The first text ends with an entry and blanks after it, and the blanks go on in the second. -/
theorem parse_append_gap :
    ∃ p, parse { newlineIsBlank := true } ⟨"both", "a = 1 " ++ "\n" ++ "  b = \"é\" # end"⟩ =
        .ok p ∧
      p.settings = [⟨"a", .number 1, 0⟩, ⟨"b", .quoted "é", 9⟩] := by
  have hscan₁ : scan { newlineIsBlank := true } 0 "a = 1 ".toList =
      ([⟨"a", .number 1, 0⟩], []) := by decide +kernel
  have hscan₂ : scan { newlineIsBlank := true } 0 "  b = \"é\" # end".toList =
      ([⟨"b", .quoted "é", 2⟩], []) := by decide +kernel
  have hvalid : Options.Valid { newlineIsBlank := true } := by decide
  have h₁ := parse_of_scan hvalid ⟨"first", "a = 1 "⟩ (congrArg Prod.snd hscan₁)
  have h₂ := parse_of_scan hvalid ⟨"second", "  b = \"é\" # end"⟩ (congrArg Prod.snd hscan₂)
  obtain ⟨p, hp, hsettings⟩ :=
    parse_append _ hvalid (by decide) "first" "second" "both" _ _ _ _ h₁ h₂
  refine ⟨p, hp, hsettings.trans ?_⟩
  have hfirst : (accepted { newlineIsBlank := true } ⟨"first", "a = 1 "⟩).settings =
      [⟨"a", .number 1, 0⟩] := congrArg Prod.fst hscan₁
  have hsecond : (accepted { newlineIsBlank := true } ⟨"second", "  b = \"é\" # end"⟩).settings =
      [⟨"b", .quoted "é", 2⟩] := congrArg Prod.fst hscan₂
  rw [hfirst, hsecond]
  rfl

end Settings

end Descent
