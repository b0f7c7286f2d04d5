import Descent.Grammar.Run
import Descent.Settings.Basic

/-!
# The grammar of settings

Blanks, comments and entries in any order up to the end of the text. The hook
of an entry adds it to the context, which is the list of the entries so far.
-/
namespace Descent

namespace Settings

abbrev Hook := Script SettingValue (List Setting)
abbrev Parser := Grammar SettingValue (List Setting)

/-- Sets the result's value from the result. -/
def valueHook (f : Result SettingValue → Option SettingValue) : Hook :=
  .look fun v _ =>
    match f v.result with
    | some value => .act (.setValue (.custom value)) .done
    | none => .done

/-- A text without the quotes at both ends. -/
def unquote (cs : List Char) : List Char :=
  ((cs.dropWhile (· == '"')).reverse.dropWhile (· == '"')).reverse

def numberValue (r : Result SettingValue) : Option SettingValue := r.value.natural?.map .number

def wordValue (r : Result SettingValue) : Option SettingValue := some (.word r.text)

def quotedValue (r : Result SettingValue) : Option SettingValue :=
  some (.quoted (String.ofList (unquote r.text.toList)))

/-- Adds the entry with the key and the value of a match, with a warning if the key is known. -/
def addEntry (key : Result SettingValue) (value : SettingValue) (settings : List Setting) : Hook :=
  let setting : Setting := ⟨key.text, value, key.position⟩
  let rest : Hook := .act (.setValue (.custom value)) (.setContext (settings ++ [setting]) .done)
  if (get? settings setting.key).isSome then
    .act (.note .warning setting.offset s!"key '{setting.key}' is defined more than once" none) rest
  else rest

def collectEntry : Hook :=
  .look fun v settings =>
    match v.subResults[0]?, v.subResults[4]?.bind (·.value.custom?) with
    | some key, some value => addEntry key value settings
    | _, _ => .done

def quotedPattern : String := "\"[^\"\\n]*\""

/-- The expression that the pattern of quoted values spells, at the start of a text. -/
def quotedRegex : Regex :=
  let quote := Regex.set (.single '"')
  let other := Regex.set (.compl (.union (.union .empty (.single '\n')) (.single '"')))
  .cat (.look .textStart) (.cat quote (.cat (other.star true) quote))

theorem regexp?_quotedPattern : Primitive.regexp? .standard quotedPattern =
    .ok (.regexp quotedPattern quotedRegex.matcher) := by
  have hinner : Primitive.unanchored quotedPattern = quotedPattern := by decide +kernel
  have hregex : Regex.ofPattern? (Primitive.anchored quotedPattern) = some quotedRegex := by
    decide +kernel
  have hne : quotedPattern ≠ "" := by decide
  rw [Primitive.regexp?, hinner, if_neg hne, Engine.standard, hregex]
  rfl

/-- What the pattern of quoted values is compiled to. -/
def quotedPrimitive : Primitive :=
  (Primitive.regexp? .standard quotedPattern).toOption.get (by rw [regexp?_quotedPattern]; rfl)

theorem quotedPrimitive_eq : quotedPrimitive = .regexp quotedPattern quotedRegex.matcher := by
  unfold quotedPrimitive
  simp only [regexp?_quotedPattern]
  rfl

def key : Parser := .primitive (.identifier "_" "_-.") .done

def gap (newlines : Bool) : Parser := .optional (.primitive (.blanks newlines) .done) .done

def number (radix : Radix) : Parser := .primitive (.natural radix) (valueHook numberValue)

def word : Parser := .primitive (.identifier "_" "_-.") (valueHook wordValue)

def quoted : Parser := .primitive quotedPrimitive (valueHook quotedValue)

def equalsMark : Mark := ⟨"=", by decide⟩
def openMark : Mark := ⟨"/*", by decide⟩
def closeMark : Mark := ⟨"*/", by decide⟩

def value (radix : Radix) : Parser := .best [number radix, word, quoted] .done

def entry (radix : Radix) (newlines : Bool) : Parser :=
  .all [key, gap newlines, .primitive (.literal equalsMark) .done, gap newlines, value radix,
    gap newlines] collectEntry

def item (radix : Radix) (newlines : Bool) (comment : Mark) : Parser :=
  .any [.primitive (.blanks true) .done, .primitive (.lineComment comment) .done,
    .primitive (.blockComment openMark closeMark) .done, entry radix newlines] .done

/-- At the end an entry is tried once more, to tell what is wrong with it. -/
def file (radix : Radix) (newlines : Bool) (comment : Mark) : Parser :=
  .all [.many0 (item radix newlines comment) .done,
    .any [.primitive .textEnd .done, entry radix newlines] .done] .done

/-- The grammar for some options; the radix is checked before the comment mark. -/
def grammar (o : Options) : Except ConfigError Parser :=
  match Radix.ofNat? o.radix, Mark.ofString? o.comment with
  | some radix, some comment => .ok (file radix o.newlineIsBlank comment)
  | none, _ => .error (.invalidRadix o.radix)
  | _, none => .error (.emptyDelimiter .lineCommentStart)

end Settings

end Descent
