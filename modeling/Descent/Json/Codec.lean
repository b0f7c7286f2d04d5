import Descent.Feedback
import Descent.Json.Reader
import Descent.Json.Writer
import Descent.Location
import Descent.Settings.Basic
import Descent.Value

/-!
# JSON forms

How values, settings, feedback and locations are written as JSON and read
back. Records are read from objects with their fields in any order, or from
arrays of their fields; unknown fields are passed over. Arrays and objects may
nest up to a fixed depth.
-/
namespace Descent

namespace Json

/-- How deep values may nest; whatever is passed over does not count. -/
def maxDepth : Nat := 127

/-- The room left inside of an array or an object. -/
def enter? : Nat → Option Nat
  | 0 => none
  | room + 1 => some room

def string? : Json → Option String
  | .string s => s
  | _ => none

def natural? : Json → Option UInt64
  | .number n => n
  | _ => none

/-- The values of some fields of an object; each has to be there exactly once. -/
def fieldsOf? (names : List String) (fields : List (Option String × Json)) : Option (List Json) :=
  if fields.all (fun f => f.1.isSome) then
    names.mapM fun name =>
      match fields.filter fun f => f.1 == some name with
      | [f] => some f.2
      | _ => none
  else none

/-- The fields of a record. -/
def record? (names : List String) : Json → Option (List Json)
  | .object fields => fieldsOf? names fields
  | .array items => if items.length = names.length then some items else none
  | _ => none

/-- A name on its own, or one that carries nothing. -/
def name? : Json → Option String
  | .string s => s
  | .object [(s, .null)] => s
  | _ => none

end Json

/-- A type with a JSON form. -/
class JsonForm (α : Type) where
  toJson : α → Json
  /-- Reads a value where arrays and objects may still nest so deep. -/
  ofJson? : Nat → Json → Option α

namespace Value

mutual

def toJson : Value String → Json
  | none => .text "None"
  | text s => .ofFields [("Text", .text s)]
  | natural n => .ofFields [("Natural", .natural n)]
  | list items => .ofFields [("List", .array (toJsonAll items))]
  | custom s => .ofFields [("Custom", .text s)]

def toJsonAll : List (Value String) → List Json
  | [] => []
  | v :: vs => toJson v :: toJsonAll vs

end

mutual

def ofJson? (room : Nat) : Json → Option (Value String)
  | .string (some "None") => some none
  | .object [(some tag, payload)] => do
    let room ← Json.enter? room
    match tag, payload with
    | "None", .null => some none
    | "Text", .string s => s.map text
    | "Natural", .number n => n.map natural
    | "List", .array items => do
      let room ← Json.enter? room
      return list (← ofJsonAll? room items)
    | "Custom", .string s => s.map custom
    | _, _ => Option.none
  | _ => Option.none

def ofJsonAll? (room : Nat) : List Json → Option (List (Value String))
  | [] => some []
  | j :: js => do
    let v ← ofJson? room j
    return v :: (← ofJsonAll? room js)

end

end Value

instance : JsonForm (Value String) := ⟨Value.toJson, Value.ofJson?⟩

namespace SettingValue

def toJson : SettingValue → Json
  | number n => .ofFields [("type", .text "number"), ("value", .natural n)]
  | word s => .ofFields [("type", .text "word"), ("value", .text s)]
  | quoted s => .ofFields [("type", .text "quoted"), ("value", .text s)]

def ofJson? (j : Json) : Option SettingValue := do
  match ← Json.record? ["type", "value"] j with
  | [tag, payload] =>
    match ← tag.name? with
    | "number" => payload.natural?.map number
    | "word" => payload.string?.map word
    | "quoted" => payload.string?.map quoted
    | _ => none
  | _ => none

end SettingValue

instance : JsonForm SettingValue := ⟨SettingValue.toJson, fun _ => SettingValue.ofJson?⟩

namespace Setting

def toJson (s : Setting) : Json :=
  .ofFields [("key", .text s.key), ("value", s.value.toJson), ("offset", .ofNat s.offset)]

def ofJson? (j : Json) : Option Setting := do
  match ← Json.record? ["key", "value", "offset"] j with
  | [key, value, offset] =>
    return ⟨← key.string?, ← SettingValue.ofJson? value, (← offset.natural?).toNat⟩
  | _ => none

end Setting

instance : JsonForm Setting := ⟨Setting.toJson, fun _ => Setting.ofJson?⟩

namespace Feedback

def Kind.name : Kind → String
  | .info => "Info"
  | .warning => "Warning"
  | .error => "Error"

def Kind.toJson (k : Kind) : Json := .text k.name

def Kind.ofJson? (j : Json) : Option Kind := do
  match ← j.name? with
  | "Info" => some .info
  | "Warning" => some .warning
  | "Error" => some .error
  | _ => none

def Item.toJson (i : Item) : Json :=
  .ofFields [("kind", i.kind.toJson), ("offset", .ofNat i.offset), ("message", .text i.message)]

def Item.ofJson? (j : Json) : Option Item := do
  match ← Json.record? ["kind", "offset", "message"] j with
  | [kind, offset, message] =>
    return ⟨← Kind.ofJson? kind, (← offset.natural?).toNat, ← message.string?⟩
  | _ => none

end Feedback

instance : JsonForm Feedback.Kind := ⟨Feedback.Kind.toJson, fun _ => Feedback.Kind.ofJson?⟩

instance : JsonForm Feedback.Item := ⟨Feedback.Item.toJson, fun _ => Feedback.Item.ofJson?⟩

namespace Location

def toJson (l : Location) : Json :=
  .ofFields [("line", .ofNat l.line), ("column", .ofNat l.column), ("line_text", .text l.lineText)]

def ofJson? (j : Json) : Option Location := do
  match ← Json.record? ["line", "column", "line_text"] j with
  | [line, column, text] =>
    return ⟨(← line.natural?).toNat, (← column.natural?).toNat, ← text.string?⟩
  | _ => none

end Location

instance : JsonForm Location := ⟨Location.toJson, fun _ => Location.ofJson?⟩

namespace JsonForm

/-- Reads a value from a JSON text. -/
def decode (α : Type) [JsonForm α] (text : String) : Option α :=
  (Json.parse? text).bind (ofJson? Json.maxDepth)

def encode {α : Type} [JsonForm α] (pretty : Bool) (a : α) : String :=
  if pretty then (toJson a).pretty else (toJson a).compact

/-- Reads a JSON text as a type and writes the value. -/
def reformatAs (α : Type) [JsonForm α] (pretty : Bool) (text : String) : Option String :=
  (decode α text).map (encode pretty)

end JsonForm

end Descent
