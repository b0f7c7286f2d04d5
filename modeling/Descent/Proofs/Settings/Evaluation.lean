import Descent.Proofs.Evaluation
import Descent.Proofs.Settings.Faults
import Descent.Proofs.Settings.Quoted

/-!
# Evaluating the settings grammar

Each parser of the grammar takes from the text what the language says, and
nothing when the language has nothing at that place. The hook of an entry adds
it to the context; no parser that fails leaves a trace there. A failure tells
what is missing.
-/
namespace Descent

namespace Settings

open Grammar (eval)

/-- Settings have no references, so nothing is bound to any cell. -/
abbrev noCells : Env SettingValue (List Setting) := fun _ => .dropped

/-- The match of some characters at an offset. -/
def taken (offset : Nat) (text : List Char) (value : Value SettingValue)
    (settings : List Setting) : Outcome SettingValue (List Setting) :=
  ⟨{ position := offset, text := String.ofList text, value }, offset + byteLength text, settings⟩

/-- The failure at an offset, for a fault and with the errors about it. -/
def missed (offset fault : Nat) (errors : List Feedback.Item) (settings : List Setting) :
    Outcome SettingValue (List Setting) :=
  ⟨{ position := offset, errorAt := some fault, feedback := errors }, offset, settings⟩

/-- The parser fails, and the settings are what they were. -/
def Fails (child : Evaluator SettingValue (List Setting)) (p : Parser) (offset : Nat)
    (settings : List Setting) : Prop :=
  ∃ failure : Result SettingValue, failure.failed = true ∧
    child p offset settings = some ⟨failure, offset, settings⟩

theorem taken_matched (offset : Nat) (text : List Char) (value : Value SettingValue)
    (settings : List Setting) : ¬ (taken offset text value settings).result.failed = true := by
  simp [taken, Result.failed]

variable {source : Source} {n offset : Nat} {cs : List Char} (settings : List Setting)
  {child : Evaluator SettingValue (List Setting)}

section Primitives

theorem eval_taken (p : Primitive) (hook : Hook) (hat : source.At offset cs) {text : List Char}
    {value : Value SettingValue} (ht : text <+: cs)
    (hscan : p.scan cs = .ok ⟨byteLength text, value⟩) :
    eval noCells (n + 1) source (.primitive p hook) offset settings =
      some (hook.effect source [] (taken offset text value settings)) := by
  rw [Grammar.eval_primitive_matched (by rw [hat.restFrom]; exact hscan), Source.span,
    hat.textBetween ht]
  rfl

theorem primitive_misses {p : Primitive} {hook : Hook} (hat : source.At offset cs) (miss : Miss)
    (hscan : (p.scan cs : Except Miss (Match SettingValue)) = .error miss) :
    eval noCells (n + 1) source (.primitive p hook) offset settings =
      some (missed offset (offset + miss.delta) [source.miss offset miss] settings) :=
  Grammar.eval_primitive_failed (by rw [hat.restFrom]; exact hscan)

theorem primitive_fails {p : Primitive} {hook : Hook} (hat : source.At offset cs) (miss : Miss)
    (hscan : (p.scan cs : Except Miss (Match SettingValue)) = .error miss) :
    Fails (eval noCells (n + 1) source) (.primitive p hook) offset settings :=
  ⟨_, rfl, primitive_misses settings hat miss hscan⟩

theorem eval_custom (p : Primitive) (f : Result SettingValue → Option SettingValue)
    (hat : source.At offset cs) {text : List Char} {value : Value SettingValue} (ht : text <+: cs)
    (hscan : p.scan cs = .ok ⟨byteLength text, value⟩) {custom : SettingValue}
    (hf : f (taken offset text value settings).result = some custom) :
    eval noCells (n + 1) source (.primitive p (valueHook f)) offset settings =
      some (taken offset text (.custom custom) settings) := by
  rw [eval_taken settings p (valueHook f) hat ht hscan]
  simp only [valueHook, Script.effect, hf]
  rfl

theorem nonemptyMatch_ok {found : List Char} (miss : Miss) (h : ¬ found.isEmpty = true) :
    (Primitive.nonemptyMatch found miss : Except Miss (Match SettingValue)) =
      .ok ⟨byteLength found, .none⟩ := if_neg h

theorem nonemptyMatch_error {found : List Char} (miss : Miss) (h : found.isEmpty = true) :
    (Primitive.nonemptyMatch found miss : Except Miss (Match SettingValue)) = .error miss :=
  if_pos h

theorem identifier_scan_some {text : List Char} (h : identifierAt? cs = some text) :
    ((Primitive.identifier "_" "_-.").scan cs : Except Miss (Match SettingValue)) =
      .ok ⟨byteLength text, .none⟩ := by
  obtain ⟨hne, h⟩ := Option.ite_none_left_eq_some.1 h
  obtain rfl := Option.some.inj h
  exact nonemptyMatch_ok _ hne

theorem identifier_scan_none (h : identifierAt? cs = none) :
    ((Primitive.identifier "_" "_-.").scan cs : Except Miss (Match SettingValue)) =
      .error .identifier := by
  unfold identifierAt? at h
  dsimp only at h
  split at h
  · next hempty => exact nonemptyMatch_error _ hempty
  · cases h

theorem key_eval (hat : source.At offset cs) {text : List Char}
    (h : identifierAt? cs = some text) :
    eval noCells (n + 1) source key offset settings = some (taken offset text .none settings) :=
  eval_taken settings _ _ hat (identifierAt?_fronts h).2 (identifier_scan_some h)

theorem key_misses (hat : source.At offset cs) (h : identifierAt? cs = none) :
    eval noCells (n + 1) source key offset settings =
      some (missed offset offset (Part.key.errors source offset) settings) :=
  primitive_misses settings hat .identifier (identifier_scan_none h)

/-- A gap always matches, if need be without taking anything. -/
theorem gap_eval (hat : source.At offset cs) (newlines : Bool) :
    eval noCells (n + 2) source (gap newlines) offset settings =
      some (taken offset (Primitive.blankPrefix newlines cs) .none settings) := by
  by_cases hempty : (Primitive.blankPrefix newlines cs).isEmpty = true
  · obtain ⟨failure, hfailed, heval⟩ : Fails (eval noCells (n + 1) source)
        (.primitive (.blanks newlines) .done) offset settings :=
      primitive_fails settings hat .blanks (nonemptyMatch_error .blanks hempty)
    rw [gap, Grammar.eval_optional_failed heval hfailed, List.isEmpty_iff.1 hempty]
    simp [Script.effect, Source.span, taken]
  · have heval := eval_taken (n := n) settings (.blanks newlines) .done hat
      (blankPrefix_isPrefix newlines cs) (nonemptyMatch_ok .blanks hempty)
    rw [gap, Grammar.eval_optional_matched heval (taken_matched _ _ _ _)]
    rfl

theorem equals_eval (hat : source.At offset cs) {rest : List Char}
    (h : equalsMark.after? cs = some rest) :
    eval noCells (n + 1) source (.primitive (.literal equalsMark) .done) offset settings =
      some (taken offset equalsMark.chars .none settings) :=
  eval_taken settings _ _ hat (after?_drop h).1 (if_pos (by rw [h]; rfl))

theorem equals_misses (hat : source.At offset cs) (h : equalsMark.after? cs = none) :
    eval noCells (n + 1) source (.primitive (.literal equalsMark) .done) offset settings =
      some (missed offset offset (Part.equals.errors source offset) settings) :=
  primitive_misses settings hat (.literal equalsMark.text) (if_neg (by rw [h]; simp))

end Primitives

section Values

/-- A parser of values takes what the language reads, and fails where it reads nothing. -/
def Reads (child : Evaluator SettingValue (List Setting)) (p : Parser) (offset : Nat)
    (settings : List Setting) : Option (List Char × SettingValue) → Prop
  | some (text, value) =>
    child p offset settings = some (taken offset text (.custom value) settings)
  | none => Fails child p offset settings

theorem number_misses (hat : source.At offset cs) (radix : Radix)
    (h : numberAt? radix.base cs = none) :
    eval noCells (n + 1) source (number radix) offset settings =
      some (missed offset offset
        [source.miss offset (.natural !(cs.takeWhile (isDigit radix.base)).isEmpty)] settings) := by
  refine primitive_misses settings hat
    (.natural !(cs.takeWhile (isDigit radix.base)).isEmpty) ?_
  by_cases hempty : (cs.takeWhile (isDigit radix.base)).isEmpty = true
  · rw [Primitive.scan, if_pos hempty, hempty]
    rfl
  · have hlarge : readNumeral? radix.base (cs.takeWhile (isDigit radix.base)) = none :=
      Option.map_eq_none_iff.1 ((if_neg hempty).symm.trans h)
    rw [Primitive.scan, if_neg hempty, hlarge, eq_false_of_ne_true hempty]
    rfl

theorem number_reads (hat : source.At offset cs) (radix : Radix) :
    Reads (eval noCells (n + 1) source) (number radix) offset settings
      (numberAt? radix.base cs) := by
  cases hnumber : numberAt? radix.base cs with
  | none => exact ⟨_, rfl, number_misses settings hat radix hnumber⟩
  | some v =>
    obtain ⟨hempty, h⟩ := Option.ite_none_left_eq_some.1 hnumber
    obtain ⟨number, hn, rfl⟩ := Option.map_eq_some_iff.1 h
    have hscan : ((Primitive.natural radix).scan cs : Except Miss (Match SettingValue)) =
        .ok ⟨byteLength (cs.takeWhile (isDigit radix.base)), .natural number⟩ := by
      rw [Primitive.scan, if_neg hempty, hn]
    exact eval_custom settings _ numberValue hat (List.takeWhile_prefix _) hscan rfl

theorem word_misses (hat : source.At offset cs) (h : wordAt? cs = none) :
    eval noCells (n + 1) source word offset settings =
      some (missed offset offset [source.miss offset .identifier] settings) :=
  primitive_misses settings hat .identifier (identifier_scan_none (Option.map_eq_none_iff.1 h))

theorem word_reads (hat : source.At offset cs) :
    Reads (eval noCells (n + 1) source) word offset settings (wordAt? cs) := by
  cases hword : wordAt? cs with
  | none => exact ⟨_, rfl, word_misses settings hat hword⟩
  | some v =>
    obtain ⟨text, htext, rfl⟩ := Option.map_eq_some_iff.1 hword
    exact eval_custom settings _ wordValue hat (identifierAt?_fronts htext).2
      (identifier_scan_some htext) rfl

theorem quoted_misses (hat : source.At offset cs) (h : quotedAt? cs = none) :
    eval noCells (n + 1) source quoted offset settings =
      some (missed offset offset [source.miss offset (.regexp quotedPattern)] settings) := by
  refine primitive_misses settings hat (.regexp quotedPattern) ?_
  rw [quotedPrimitive_eq, Primitive.scan, Regex.matcher_find, quotedRegex_find, h]
  rfl

theorem quoted_reads (hat : source.At offset cs) :
    Reads (eval noCells (n + 1) source) quoted offset settings (quotedAt? cs) := by
  cases hquoted : quotedAt? cs with
  | none => exact ⟨_, rfl, quoted_misses settings hat hquoted⟩
  | some v =>
    have hfind := quotedRegex_find cs
    obtain ⟨text, value⟩ := v
    obtain ⟨rest, hrest⟩ := (quotedAt?_fronts hquoted).2
    obtain ⟨inner, -, -, hinner, rfl, rfl⟩ := quotedAt?_eq_some_iff.1 hquoted
    rw [hquoted] at hfind
    have hscan : (quotedPrimitive.scan cs : Except Miss (Match SettingValue)) =
        .ok ⟨byteLength ('"' :: inner ++ ['"']),
          .text (String.ofList ('"' :: inner ++ ['"']))⟩ := by
      rw [quotedPrimitive_eq, Primitive.scan, Regex.matcher_find, hfind, ← hrest]
      simp only [Option.map_some, takeBytes?_byteLength, Option.getD_some]
    have hvalue : quotedValue (taken offset ('"' :: inner ++ ['"'])
        (.text (String.ofList ('"' :: inner ++ ['"']))) settings).result =
          some (.quoted (String.ofList inner)) := by
      simp only [quotedValue, taken, String.toList_ofList, unquote_quoted hinner]
    exact eval_custom settings _ quotedValue hat ⟨rest, hrest⟩ hscan hvalue

/-- Where no value can be read, all the parsers of values tell so. -/
theorem value_misses (hat : source.At offset cs) (radix : Radix)
    (h : valueAt? radix.base cs = none) :
    eval noCells (n + 2) source (value radix) offset settings =
      some (missed offset offset ((Part.value
        !(cs.takeWhile (isDigit radix.base)).isEmpty).errors source offset) settings) := by
  obtain ⟨hnumber, hword, hquoted⟩ := valueAt?_eq_none h
  have heach : (eval noCells (n + 1) source).each offset [number radix, word, quoted] settings =
      some _ :=
    Evaluator.each_cons (number_misses settings hat radix hnumber) _ _
      (Evaluator.each_cons (word_misses settings hat hword) _ _
        (Evaluator.each_cons (quoted_misses settings hat hquoted) [] settings rfl))
  have hmessage :
      s!"best subparser should match; all {[number radix, word, quoted].length} failed" =
      "best subparser should match; all 3 failed" := by
    simp only [List.length_cons, List.length_nil]
    rfl
  rw [value, Grammar.eval_best_failed heach rfl, hmessage]
  rfl

/-- The outcome of a parser that takes a value. -/
def read (offset : Nat) (settings : List Setting) (v : List Char × SettingValue) :
    Outcome SettingValue (List Setting) :=
  taken offset v.1 (.custom v.2) settings

/-- The parsers all start at one place, and their matches are the values that can be read
there. -/
def EachReads (child : Evaluator SettingValue (List Setting)) (ps : List Parser) (offset : Nat)
    (settings : List Setting) (values : List (List Char × SettingValue)) : Prop :=
  ∃ outcomes, child.each offset ps settings = some (outcomes, settings) ∧
    (outcomes.filter fun o => !o.result.failed) = values.map (read offset settings)

theorem eachReads_nil : EachReads child [] offset settings [] := ⟨[], rfl, rfl⟩

theorem EachReads.cons {p : Parser} {ps : List Parser} {v? : Option (List Char × SettingValue)}
    {values : List (List Char × SettingValue)} (hp : Reads child p offset settings v?)
    (hps : EachReads child ps offset settings values) :
    EachReads child (p :: ps) offset settings (v?.toList ++ values) := by
  obtain ⟨outcomes, heach, hfilter⟩ := hps
  cases v? with
  | none =>
    obtain ⟨failure, hfailed, heval⟩ := hp
    refine ⟨_, Evaluator.each_cons heval outcomes settings heach, ?_⟩
    rw [List.filter_cons_of_neg (by rw [hfailed]; simp), hfilter]
    rfl
  | some v =>
    have heval : child p offset settings = some (read offset settings v) := hp
    have hmatch : (!(read offset settings v).result.failed) = true := rfl
    refine ⟨_, Evaluator.each_cons heval outcomes settings heach, ?_⟩
    rw [List.filter_cons_of_pos (by exact hmatch), hfilter]
    rfl

theorem values_read (hat : source.At offset cs) (radix : Radix) :
    EachReads (eval noCells (n + 1) source) [number radix, word, quoted] offset settings
      (valuesAt radix.base cs) := by
  have h := EachReads.cons settings (number_reads (n := n) settings hat radix)
    (.cons settings (word_reads settings hat)
      (.cons settings (quoted_reads settings hat) (eachReads_nil settings)))
  simpa only [valuesAt, List.append_nil, List.append_assoc] using h

/-- Where an outcome stops tells how much it has taken. -/
theorem longest_read (outcomes : List (Outcome SettingValue (List Setting)))
    (values : List (List Char × SettingValue))
    (h : (outcomes.filter fun o => !o.result.failed) = values.map (read offset settings)) :
    Outcome.longest outcomes =
      (values.find? fun v => values.all fun v' => byteLength v'.1 ≤ byteLength v.1).map
        (read offset settings) := by
  unfold Outcome.longest
  simp only [h, List.find?_map, List.all_map]
  simp [Function.comp_def, read, taken]

theorem value_reads (hat : source.At offset cs) (radix : Radix) :
    Reads (eval noCells (n + 2) source) (value radix) offset settings (valueAt? radix.base cs) := by
  cases hvalue : valueAt? radix.base cs with
  | none => exact ⟨_, rfl, value_misses settings hat radix hvalue⟩
  | some v =>
    obtain ⟨outcomes, heach, hfilter⟩ := values_read settings hat radix
    have hlongest : Outcome.longest outcomes = some (read offset settings v) := by
      rw [longest_read settings outcomes _ hfilter]
      exact congrArg (Option.map _) hvalue
    exact Grammar.eval_best_matched heach hlongest

end Values

section Rows

variable {p : Parser} {ps : List Parser} {text : List Char} {value : Value SettingValue}

theorem row_taken {row : Row SettingValue (List Setting)}
    (hp : child p offset settings = some (taken offset text value settings))
    (hrow : child.row ps (offset + byteLength text) settings = some row) :
    child.row (p :: ps) offset settings =
      some (row.cons (taken offset text value settings).result) :=
  Evaluator.row_matched hp (taken_matched _ _ _ _) row hrow

/-- The first failure of a row is that of the sequence. -/
theorem row_missed {fault : Nat} {errors : List Feedback.Item}
    (hp : child p offset settings = some (missed offset fault errors settings)) :
    child.row (p :: ps) offset settings =
      some (.failed (missed offset fault errors settings).result settings) :=
  Evaluator.row_failed hp rfl

end Rows

section Entries

/-- The warning about a key that is known already. -/
def notice (source : Source) (before : List Setting) (setting : Setting) : List Feedback.Item :=
  if (get? before setting.key).isSome then
    [source.item .warning setting.offset s!"key '{setting.key}' is defined more than once" none]
  else []

theorem collectEntry_effect (subs : List (Result SettingValue)) (key : Result SettingValue)
    (value : SettingValue) (o : Outcome SettingValue (List Setting)) (hkey : subs[0]? = some key)
    (hvalue : subs[4]?.bind (·.value.custom?) = some value) :
    collectEntry.effect source subs o =
      ⟨{ o.result with
          value := .custom value
          feedback := o.result.feedback ++
            notice source o.context ⟨key.text, value, key.position⟩ },
        o.cursor, o.context ++ [⟨key.text, value, key.position⟩]⟩ := by
  simp only [collectEntry, Script.effect, hkey, hvalue, addEntry, notice]
  split <;> simp [Script.effect]

variable {o : Options} {radix : Radix}

theorem entry_eval (hat : source.At offset cs) (hradix : radix.base = o.radix)
    {text : List Char} {setting : Setting} (h : entryAt? o offset cs = some (text, setting)) :
    eval noCells (n + 3) source (entry radix o.newlineIsBlank) offset settings =
      some ⟨{ position := offset, text := String.ofList text, value := .custom setting.value
              feedback := notice source settings setting },
        offset + byteLength text, settings ++ [setting]⟩ := by
  have htext := hat.textBetween (entryAt?_fronts h).2
  unfold entryAt? at h
  obtain ⟨keyText, hkey, h⟩ := Option.bind_eq_some_iff.1 h
  obtain ⟨rest, hequals, h⟩ := Option.bind_eq_some_iff.1 h
  obtain ⟨⟨valueText, v⟩, hvalue, h⟩ := Option.bind_eq_some_iff.1 h
  obtain ⟨rfl, rfl⟩ := Prod.mk.inj (Option.some.inj h)
  have hblanks := blankPrefix_isPrefix o.newlineIsBlank
  -- the offset moves on with what each parser of the row takes
  have hleft := hat.drop (identifierAt?_fronts hkey).2
  have hmark := hleft.drop (hblanks _)
  have hright := hmark.drop (after?_drop hequals).1
  rw [(after?_drop hequals).2] at hright
  have hstart := hright.drop (hblanks _)
  have htail := hstart.drop (valueAt?_fronts hvalue).2
  have hreads := value_reads (n := n) settings hstart radix
  rw [hradix, hvalue] at hreads
  have hrow : (eval noCells (n + 2) source).row [_, _, _, _, _, _] offset settings = some _ :=
    row_taken settings (key_eval settings hat hkey)
      (row_taken settings (gap_eval settings hleft o.newlineIsBlank)
        (row_taken settings (equals_eval settings hmark hequals)
          (row_taken settings (gap_eval settings hright o.newlineIsBlank)
            (row_taken settings hreads
              (row_taken settings (gap_eval settings htail o.newlineIsBlank) rfl)))))
  rw [entry, Grammar.eval_all_matched hrow,
    collectEntry_effect _ (taken offset keyText .none settings).result v _ rfl rfl]
  simp only [byteLength_append, ← Nat.add_assoc] at htext ⊢
  simp only [Source.span, htext]
  simp [taken]

/-- Where no entry can be read, the errors are those about the part that is missing. -/
theorem entry_misses (hat : source.At offset cs) (hradix : radix.base = o.radix) {distance : Nat}
    {part : Part} (h : missing? o cs = some (distance, part)) :
    eval noCells (n + 3) source (entry radix o.newlineIsBlank) offset settings =
      some (missed offset (offset + distance) (part.errors source (offset + distance))
        settings) := by
  have hblanks := blankPrefix_isPrefix o.newlineIsBlank
  unfold missing? at h
  cases hkey : identifierAt? cs with
  | none =>
    rw [hkey] at h
    obtain ⟨rfl, rfl⟩ := Prod.mk.inj (Option.some.inj h)
    exact Grammar.eval_all_failed (row_missed settings (key_misses settings hat hkey))
  | some key =>
    have hleft := hat.drop (identifierAt?_fronts hkey).2
    have hmark := hleft.drop (hblanks _)
    simp only [hkey] at h
    cases hequals : equalsMark.after? ((cs.drop key.length).drop
        (Primitive.blankPrefix o.newlineIsBlank (cs.drop key.length)).length) with
    | none =>
      rw [hequals] at h
      obtain ⟨rfl, rfl⟩ := Prod.mk.inj (Option.some.inj h)
      rw [byteLength_append, ← Nat.add_assoc]
      exact Grammar.eval_all_failed (row_taken settings (key_eval settings hat hkey)
        (row_taken settings (gap_eval settings hleft o.newlineIsBlank)
          (row_missed settings (equals_misses settings hmark hequals))))
    | some rest =>
      have hright := hmark.drop (after?_drop hequals).1
      rw [(after?_drop hequals).2] at hright
      have hstart := hright.drop (hblanks _)
      simp only [hequals, ← hradix] at h
      cases hvalue : valueAt? radix.base
          (rest.drop (Primitive.blankPrefix o.newlineIsBlank rest).length) with
      | none =>
        rw [hvalue] at h
        obtain ⟨rfl, rfl⟩ := Prod.mk.inj (Option.some.inj h)
        simp only [byteLength_append, ← Nat.add_assoc]
        exact Grammar.eval_all_failed (row_taken settings (key_eval settings hat hkey)
          (row_taken settings (gap_eval settings hleft o.newlineIsBlank)
            (row_taken settings (equals_eval settings hmark hequals)
              (row_taken settings (gap_eval settings hright o.newlineIsBlank)
                (row_missed settings (value_misses settings hstart radix hvalue))))))
      | some v =>
        rw [hvalue] at h
        cases h

theorem entry_fails (hat : source.At offset cs) (hradix : radix.base = o.radix)
    (h : entryAt? o offset cs = none) :
    Fails (eval noCells (n + 3) source) (entry radix o.newlineIsBlank) offset settings := by
  obtain ⟨⟨distance, part⟩, hmissing⟩ := Option.isSome_iff_exists.1 (entryAt?_eq_none_iff.1 h)
  exact ⟨_, rfl, entry_misses settings hat hradix hmissing⟩

end Entries

section Items

variable {o : Options} {radix : Radix} {comment : Mark}

theorem blanks_eval (hat : source.At offset cs) {text : List Char} (h : blanksAt? cs = some text) :
    eval noCells (n + 1) source (.primitive (.blanks true) .done) offset settings =
      some (taken offset text .none settings) := by
  refine eval_taken settings _ _ hat (blanksAt?_fronts h).2 ?_
  obtain ⟨hne, h⟩ := Option.ite_none_left_eq_some.1 h
  obtain rfl := Option.some.inj h
  exact nonemptyMatch_ok _ hne

theorem blanks_fails (hat : source.At offset cs) (h : blanksAt? cs = none) :
    Fails (eval noCells (n + 1) source) (.primitive (.blanks true) .done) offset settings := by
  unfold blanksAt? at h
  dsimp only at h
  split at h
  · next hempty => exact primitive_fails settings hat .blanks (nonemptyMatch_error .blanks hempty)
  · cases h

theorem lineComment_eval (hat : source.At offset cs)
    (hmark : Mark.ofString? o.comment = some comment) {text : List Char}
    (h : lineCommentAt? o.comment cs = some text) :
    eval noCells (n + 1) source (.primitive (.lineComment comment) .done) offset settings =
      some (taken offset text (.text "") settings) := by
  refine eval_taken settings _ _ hat (lineCommentAt?_fronts h).2 ?_
  rw [lineCommentAt?, hmark, Option.bind_eq_bind, Option.bind_some] at h
  obtain ⟨body, hbody, h⟩ := Option.bind_eq_some_iff.1 h
  obtain rfl := Option.some.inj h
  rw [Primitive.scan, hbody, byteLength_append]
  rfl

theorem lineComment_fails (hat : source.At offset cs)
    (hmark : Mark.ofString? o.comment = some comment) (h : lineCommentAt? o.comment cs = none) :
    Fails (eval noCells (n + 1) source) (.primitive (.lineComment comment) .done) offset
      settings := by
  rw [lineCommentAt?, hmark, Option.bind_eq_bind, Option.bind_some] at h
  cases hbody : comment.after? cs with
  | none => exact primitive_fails settings hat .lineComment (by rw [Primitive.scan, hbody])
  | some body =>
    rw [hbody] at h
    cases h

theorem blockComment_eval (hat : source.At offset cs) {text : List Char}
    (h : blockCommentAt? cs = some text) :
    eval noCells (n + 1) source (.primitive (.blockComment openMark closeMark) .done) offset
        settings =
      some (taken offset text (.text "") settings) := by
  refine eval_taken settings _ _ hat (blockCommentAt?_fronts h).2 ?_
  obtain ⟨body, hbody, h⟩ := Option.bind_eq_some_iff.1 h
  obtain ⟨length, hlength, h⟩ := Option.bind_eq_some_iff.1 h
  obtain ⟨front, hfront, h⟩ := Option.bind_eq_some_iff.1 h
  obtain rfl := Option.some.inj h
  obtain ⟨-, -, rfl⟩ := takeBytes?_eq_some_iff.1 hfront
  rw [Primitive.scan, hbody]
  simp only [hlength, byteLength_append]
  rfl

theorem blockComment_fails (hat : source.At offset cs) (h : blockCommentAt? cs = none) :
    Fails (eval noCells (n + 1) source) (.primitive (.blockComment openMark closeMark) .done)
      offset settings := by
  cases hbody : openMark.after? cs with
  | none => exact primitive_fails settings hat _ (by rw [Primitive.scan, hbody])
  | some body =>
    cases hlength : Primitive.bodyLength? closeMark.chars .outside body with
    | none =>
      refine primitive_fails settings hat (.unclosedComment openMark closeMark) ?_
      rw [Primitive.scan, hbody]
      simp only [hlength]
    | some length =>
      obtain ⟨front, after, rfl, rfl⟩ := Primitive.bodyLength?_isBoundary _ _ _ _ hlength
      simp [blockCommentAt?, hbody, hlength] at h

end Items

section Choices

variable {p : Parser} {ps : List Parser}

theorem choice_later {winner : Outcome SettingValue (List Setting)}
    (hp : Fails child p offset settings)
    (h : child.choice offset ps settings = some (.won winner)) :
    child.choice offset (p :: ps) settings = some (.won winner) := by
  obtain ⟨failure, hfailed, heval⟩ := hp
  exact Evaluator.choice_failed heval hfailed _ h

/-- All the parsers fail, and the settings are what they were. -/
def ChoiceFails (child : Evaluator SettingValue (List Setting)) (ps : List Parser) (offset : Nat)
    (settings : List Setting) : Prop :=
  ∃ failures, child.choice offset ps settings = some (.lost failures settings)

theorem choiceFails_nil : ChoiceFails child [] offset settings := ⟨[], rfl⟩

theorem choiceFails_cons (hp : Fails child p offset settings)
    (h : ChoiceFails child ps offset settings) : ChoiceFails child (p :: ps) offset settings := by
  obtain ⟨failure, hfailed, heval⟩ := hp
  obtain ⟨failures, h⟩ := h
  exact ⟨_, Evaluator.choice_failed heval hfailed _ h⟩

theorem any_fails {hook : Hook} (h : ChoiceFails (eval noCells n source) ps offset settings) :
    Fails (eval noCells (n + 1) source) (.any ps hook) offset settings := by
  obtain ⟨failures, h⟩ := h
  exact ⟨_, rfl, Grammar.eval_any_lost h⟩

end Choices

section Items

variable {o : Options} {radix : Radix} {comment : Mark}

/-- The warnings about entries whose keys are known already when they are added. -/
def notices (source : Source) : List Setting → List Setting → List Feedback.Item
  | _, [] => []
  | before, setting :: rest =>
    notice source before setting ++ notices source (before ++ [setting]) rest

theorem notices_append (source : Source) (before xs ys : List Setting) :
    notices source before (xs ++ ys) =
      notices source before xs ++ notices source (before ++ xs) ys := by
  induction xs generalizing before with
  | nil => simp [notices]
  | cons x xs ih => simp [notices, ih]

/-- The match of an item, whatever its value. -/
def itemTaken (source : Source) (offset : Nat) (settings : List Setting) (found : Item)
    (value : Value SettingValue) : Outcome SettingValue (List Setting) :=
  ⟨{ position := offset, text := String.ofList found.text, value
     feedback := notices source settings found.entry.toList },
    offset + byteLength found.text, settings ++ found.entry.toList⟩

theorem itemTaken_matched (source : Source) (offset : Nat) (settings : List Setting)
    (found : Item) (value : Value SettingValue) :
    ¬ (itemTaken source offset settings found value).result.failed = true := by
  simp [itemTaken, Result.failed]

theorem itemTaken_text (source : Source) (offset : Nat) (settings : List Setting)
    (text : List Char) (value : Value SettingValue) :
    itemTaken source offset settings { text } value = taken offset text value settings := by
  simp [itemTaken, taken, notices]

theorem itemTaken_entry (source : Source) (offset : Nat) (settings : List Setting)
    (text : List Char) (setting : Setting) :
    itemTaken source offset settings { text, entry := setting } (.custom setting.value) =
      ⟨{ position := offset, text := String.ofList text, value := .custom setting.value
         feedback := notice source settings setting },
        offset + byteLength text, settings ++ [setting]⟩ := by
  simp [itemTaken, notices]

variable (hat : source.At offset cs) (hradix : radix.base = o.radix)
  (hmark : Mark.ofString? o.comment = some comment)

include hat hradix hmark

theorem item_eval {found : Item} (h : itemAt? o offset cs = some found) :
    ∃ value, eval noCells (n + 4) source (item radix o.newlineIsBlank comment) offset settings =
      some (itemTaken source offset settings found value) := by
  rcases itemAt?_cases h with ⟨text, htext, rfl⟩ | ⟨hblanks, hother⟩
  · have heval := blanks_eval (n := n + 2) settings hat htext
    rw [← itemTaken_text source] at heval
    exact ⟨_, Grammar.eval_any_won
      (Evaluator.choice_matched heval (itemTaken_matched _ _ _ _ _))⟩
  have hfail := blanks_fails (n := n + 2) settings hat hblanks
  rcases hother with ⟨text, htext, rfl⟩ | ⟨hline, hother⟩
  · have heval := lineComment_eval (n := n + 2) settings hat hmark htext
    rw [← itemTaken_text source] at heval
    exact ⟨_, Grammar.eval_any_won (choice_later settings hfail
      (Evaluator.choice_matched heval (itemTaken_matched _ _ _ _ _)))⟩
  have hfail' := lineComment_fails (n := n + 2) settings hat hmark hline
  rcases hother with ⟨text, htext, rfl⟩ | ⟨hblock, text, setting, hentry, rfl⟩
  · have heval := blockComment_eval (n := n + 2) settings hat htext
    rw [← itemTaken_text source] at heval
    exact ⟨_, Grammar.eval_any_won (choice_later settings hfail (choice_later settings hfail'
      (Evaluator.choice_matched heval (itemTaken_matched _ _ _ _ _))))⟩
  · have hfail'' := blockComment_fails (n := n + 2) settings hat hblock
    have heval := entry_eval (n := n) settings hat hradix hentry
    rw [← itemTaken_entry source] at heval
    exact ⟨_, Grammar.eval_any_won (choice_later settings hfail (choice_later settings hfail'
      (choice_later settings hfail''
        (Evaluator.choice_matched heval (itemTaken_matched _ _ _ _ _)))))⟩

theorem item_fails (h : itemAt? o offset cs = none) :
    entryAt? o offset cs = none ∧
      Fails (eval noCells (n + 4) source) (item radix o.newlineIsBlank comment) offset
        settings := by
  obtain ⟨hblanks, hline, hblock, hentry⟩ := itemAt?_eq_none_iff.1 h
  exact ⟨hentry, any_fails settings (choiceFails_cons settings (blanks_fails settings hat hblanks)
    (choiceFails_cons settings (lineComment_fails settings hat hmark hline)
      (choiceFails_cons settings (blockComment_fails settings hat hblock)
        (choiceFails_cons settings (entry_fails settings hat hradix hentry)
          (choiceFails_nil settings)))))⟩

end Items

section Files

variable {o : Options} {radix : Radix} {comment : Mark}

/-- Before the end of the text, the parsers that are tried last tell what is left. -/
theorem finish_misses (hat : source.At offset cs) (hradix : radix.base = o.radix) (hne : cs ≠ [])
    (hentry : entryAt? o offset cs = none) :
    eval noCells (n + 4) source (.any [.primitive .textEnd .done, entry radix o.newlineIsBlank]
        .done) offset settings =
      some (missed offset offset (leftover o source offset cs) settings) := by
  have hunfinished : eval noCells (n + 3) source (.primitive .textEnd .done) offset settings =
      some (missed offset offset [source.miss offset (.textEnd (byteLength cs))] settings) :=
    primitive_misses settings hat (.textEnd (byteLength cs)) (if_neg (by simpa using hne))
  obtain ⟨⟨distance, part⟩, hmissing⟩ := Option.isSome_iff_exists.1 (entryAt?_eq_none_iff.1 hentry)
  have hfailed : (eval noCells (n + 3) source).choice offset [entry radix o.newlineIsBlank]
      settings = some _ :=
    Evaluator.choice_failed (entry_misses settings hat hradix hmissing) rfl _ rfl
  have hmessage : s!"any subparser should match; all {[(.primitive .textEnd .done : Parser),
      entry radix o.newlineIsBlank].length} failed" =
      "any subparser should match; all 2 failed" := by
    simp only [List.length_cons, List.length_nil]
    rfl
  rw [Grammar.eval_any_lost (Evaluator.choice_failed hunfinished rfl _ hfailed), hmessage]
  simp only [Source.failureOf, missed, List.flatMap_cons, List.flatMap_nil, List.append_nil,
    leftover, hmissing]
  rfl

/-- The rounds over the items take what the scan takes, and stop where it stops. -/
theorem rounds_eval (hradix : radix.base = o.radix)
    (hmark : Mark.ofString? o.comment = some comment) (offset : Nat) (cs : List Char)
    (hat : source.At offset cs) (settings : List Setting) (limit count : Nat)
    (hlimit : byteLength cs < limit) :
    ∃ t, (eval noCells (n + 4) source).rounds (item radix o.newlineIsBlank comment) 0 none
        limit count offset settings = some t ∧
      source.At t.stop (scan o offset cs).2 ∧ itemAt? o t.stop (scan o offset cs).2 = none ∧
      t.context = settings ++ (scan o offset cs).1 ∧
      t.results.flatMap (·.feedback) = notices source settings (scan o offset cs).1 := by
  obtain ⟨limit, rfl⟩ : ∃ m, limit = m + 1 := ⟨limit - 1, by omega⟩
  fun_induction scan o offset cs generalizing settings limit count with
  | case1 offset cs hnone =>
    obtain ⟨-, failure, hfailed, heval⟩ :=
      item_fails settings hat hradix hmark hnone
    exact ⟨_, Evaluator.rounds_failed (by simp) heval hfailed, hat, hnone, by simp,
      by simp [notices]⟩
  | case2 offset cs found hsome entries rest hscan ih =>
    obtain ⟨hne, hprefix⟩ := itemAt?_fronts hsome
    have hlength : byteLength found.text ≠ 0 := fun h => hne (byteLength_eq_zero.1 h)
    have hshorter : byteLength (cs.drop found.text.length) < limit := by
      obtain ⟨after, rfl⟩ := hprefix
      rw [byteLength_append] at hlimit
      rw [List.drop_left]
      omega
    obtain ⟨limit, rfl⟩ : ∃ m, limit = m + 1 := ⟨limit - 1, by omega⟩
    obtain ⟨value, heval⟩ := item_eval (n := n) settings hat hradix hmark hsome
    rw [hscan] at ih
    obtain ⟨t, ht, hat', hnone, hcontext, hfeedback⟩ :=
      ih (hat.drop hprefix) (settings ++ found.entry.toList) (count + 1) limit hshorter
    have hbusy : ¬ ((itemTaken source offset settings found value).cursor = offset ∧
        0 ≤ count + 1) := by
      simp only [itemTaken]
      omega
    refine ⟨_, Evaluator.rounds_round (by simp) heval (itemTaken_matched _ _ _ _ _) hbusy t ht,
      hat', hnone, ?_, ?_⟩
    · rw [hcontext, List.append_assoc]
    · rw [List.flatMap_cons, hfeedback, notices_append]
      rfl

variable (hat : source.At offset cs) (hradix : radix.base = o.radix)
  (hmark : Mark.ofString? o.comment = some comment) (hn : byteLength cs ≤ n)

include hat hradix hmark hn

/-- The items match up to where the scan stops, and all the entries are in the context. -/
theorem items_eval :
    ∃ result stop, eval noCells (n + 5) source
        (.many0 (item radix o.newlineIsBlank comment) .done) offset settings =
        some ⟨result, stop, settings ++ (scan o offset cs).1⟩ ∧
      ¬ result.failed = true ∧
      result.feedback = notices source settings (scan o offset cs).1 ∧
      source.At stop (scan o offset cs).2 ∧ itemAt? o stop (scan o offset cs).2 = none := by
  obtain ⟨t, ht, hat', hnone, hcontext, hfeedback⟩ :=
    rounds_eval (n := n) hradix hmark offset cs hat settings (n + 4) 0 (by omega)
  rw [← hcontext, ← hfeedback]
  exact ⟨_, t.stop, Grammar.eval_repeated_matched ht (Nat.zero_le _),
    Source.span_failed _ _ _ _ _, rfl, hat', hnone⟩

/-- Where the scan reaches the end, the file matches up to there, with all the entries. -/
theorem file_reads (hend : (scan o offset cs).2 = []) :
    ∃ result stop, eval noCells (n + 6) source (file radix o.newlineIsBlank comment) offset
        settings = some ⟨result, stop, settings ++ (scan o offset cs).1⟩ ∧
      result.errorAt = none ∧
      result.feedback = notices source settings (scan o offset cs).1 ∧ source.At stop [] := by
  obtain ⟨items, stop, hitems, hmatch, hfeedback, hat', -⟩ :=
    items_eval settings hat hradix hmark hn
  rw [hend] at hat'
  have hfinish : eval noCells (n + 4) source (.primitive .textEnd .done) stop
      (settings ++ (scan o offset cs).1) =
        some (taken stop [] .none (settings ++ (scan o offset cs).1)) :=
    eval_taken _ .textEnd .done hat' List.prefix_rfl rfl
  have hany : eval noCells (n + 5) source (.any [.primitive .textEnd .done,
      entry radix o.newlineIsBlank] .done) stop (settings ++ (scan o offset cs).1) =
        some (taken stop [] .none (settings ++ (scan o offset cs).1)) :=
    Grammar.eval_any_won (Evaluator.choice_matched hfinish (taken_matched _ _ _ _))
  have hlast : (eval noCells (n + 5) source).row [_] stop (settings ++ (scan o offset cs).1) =
      some _ := row_taken _ hany rfl
  have hrow := Evaluator.row_matched hitems hmatch _ hlast
  exact ⟨_, stop, Grammar.eval_all_matched hrow, rfl, by simp [Source.span, taken, hfeedback],
    hat'⟩

theorem file_eval (hend : (scan o offset cs).2 = []) :
    ∃ result stop, eval noCells (n + 6) source (file radix o.newlineIsBlank comment) offset
        settings = some ⟨result, stop, settings ++ (scan o offset cs).1⟩ ∧
      result.errorAt = none ∧
      result.feedback = notices source settings (scan o offset cs).1 := by
  obtain ⟨result, stop, heval, hmatch, hfeedback, -⟩ := file_reads settings hat hradix hmark hn hend
  exact ⟨result, stop, heval, hmatch, hfeedback⟩

/-- Where the scan stops before the end, the file fails, but the entries stay in the context. The
errors are about what is left there, and nothing is left of the warnings about the entries. -/
theorem file_misses (hend : (scan o offset cs).2 ≠ []) :
    ∃ stop, source.At stop (scan o offset cs).2 ∧ itemAt? o stop (scan o offset cs).2 = none ∧
      eval noCells (n + 6) source (file radix o.newlineIsBlank comment) offset settings =
        some (missed offset stop (leftover o source stop (scan o offset cs).2)
          (settings ++ (scan o offset cs).1)) := by
  obtain ⟨items, stop, hitems, hmatch, -, hat', hnone⟩ :=
    items_eval settings hat hradix hmark hn
  refine ⟨stop, hat', hnone, ?_⟩
  have hentry := (item_fails (n := n) (settings ++ (scan o offset cs).1) hat' hradix hmark hnone).1
  have hlast :=
    finish_misses (n := n + 1) (settings ++ (scan o offset cs).1) hat' hradix hend hentry
  exact Grammar.eval_all_failed (Evaluator.row_matched hitems hmatch _ (row_missed _ hlast))

theorem file_fails (hend : (scan o offset cs).2 ≠ []) :
    ∃ failure : Result SettingValue, failure.failed = true ∧
      eval noCells (n + 6) source (file radix o.newlineIsBlank comment) offset settings =
        some ⟨failure, offset, settings ++ (scan o offset cs).1⟩ := by
  obtain ⟨stop, -, -, heval⟩ := file_misses settings hat hradix hmark hn hend
  exact ⟨_, rfl, heval⟩

end Files

end Settings

end Descent
