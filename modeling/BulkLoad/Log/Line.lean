import BulkLoad.Calendar
import BulkLoad.Json.Writer
import BulkLoad.Log.Event

/-!
Events as lines of a log: text for readers, or JSON.

A line of text has the level, the message and the fields. Characters in a message that would steer a
terminal are spelled out. An event in JSON is an object on one line with the time in front.
-/
namespace BulkLoad

inductive LogFormat where
  | pretty
  | compact
  | json
  deriving DecidableEq, Repr

def LogFormat.ofName? (name : String) : Option LogFormat :=
  match name with
  | "pretty" => some .pretty
  | "compact" => some .compact
  | "json" => some .json
  | _ => none

def FieldValue.toJson : FieldValue → Json
  | .text s => .string s
  | .number n => .nat n

namespace Event

def levelColumn (level : Level) : String :=
  match level with
  | .warn | .info => " " ++ level.name
  | level => level.name

/-- A character of a message, spelled out if it would steer a terminal. -/
def visibleChar (c : Char) : List Char :=
  let hex := [Json.hexDigit (c.toNat / 16), Json.hexDigit (c.toNat % 16)]
  if c ∈ ['\x1b', '\x07', '\x08', '\x0c', '\x7f'] then '\\' :: 'x' :: hex
  else if 0x80 ≤ c.toNat ∧ c.toNat ≤ 0x9F then '\\' :: 'u' :: '\x7b' :: (hex ++ ['\x7d'])
  else [c]

def line (e : Event) : String :=
  levelColumn e.level ++ " " ++ String.ofList (e.message.toList.flatMap visibleChar) ++
    String.join (e.fields.map fun (name, value) => " " ++ name ++ "=" ++ value.shown)

def toJson (time : String) (e : Event) : Json :=
  .object
    [("timestamp", .string time), ("level", .string e.level.name),
      ("fields", .object
        (("message", .string e.message) ::
          e.fields.map fun (name, value) => (name, value.toJson)))]

def text (format : LogFormat) (time : String) (e : Event) : String :=
  match format with
  | .json => (e.toJson time).compact
  | _ => e.line

end Event

end BulkLoad
