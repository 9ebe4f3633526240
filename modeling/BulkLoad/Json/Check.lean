import BulkLoad.Json.Writer

/-!
Checks of the shape of a JSON value.

A check lists everything that is wrong with a value, in a fixed order: in an object first the known
members, then the unknown ones, then the missing ones; in an array first the items, then their
number, then repetitions. A value of the wrong kind is wrong for that alone.
-/
namespace BulkLoad.Json

inductive Kind where
  | string
  | array
  | object
  deriving DecidableEq, Repr

def Kind.name : Kind → String
  | .string => "string"
  | .array => "array"
  | .object => "object"

inductive Violation where
  | wrongKind (value : Json) (expected : Kind)
  | noMatch (text pattern : String)
  | notOneOf (value : Json) (words : List String)
  | tooFew (value : Json)
  | repeated (value : Json)
  | unexpected (names : List String)
  | missing (name : String)
  deriving Repr

def quoted (s : String) : String := String.ofList (stringText s)

def orPhrase : List String → String
  | [] => ""
  | [a] => a
  | [a, b] => a ++ " or " ++ b
  | a :: rest => a ++ ", " ++ orPhrase rest

def Violation.message : Violation → String
  | .wrongKind value expected => value.compact ++ " is not of type \"" ++ expected.name ++ "\""
  | .noMatch text pattern => quoted text ++ " does not match \"" ++ pattern ++ "\""
  | .notOneOf value words => value.compact ++ " is not one of " ++ orPhrase (words.map quoted)
  | .tooFew value => value.compact ++ " has less than 1 item"
  | .repeated value => value.compact ++ " has non-unique elements"
  | .unexpected names =>
    "Additional properties are not allowed (" ++
      ", ".intercalate (names.map fun name => "'" ++ name ++ "'") ++
      (if names.length = 1 then " was" else " were") ++ " unexpected)"
  | .missing name => quoted name ++ " is a required property"

/-- A check of values: everything that is wrong with one. -/
abbrev Check := Json → List Violation

/-- A set of texts and the expression that describes it. -/
structure Pattern where
  text : String
  holds : String → Bool

namespace Check

def text (pattern : Pattern) : Check
  | .string s => if pattern.holds s then [] else [.noMatch s pattern.text]
  | v => [.wrongKind v .string]

def oneOf (words : List String) : Check
  | .string s => if words.contains s then [] else [.notOneOf (.string s) words]
  | v => [.notOneOf v words]

def items (check : Check) : Check
  | .array vs => vs.flatMap check
  | v => [.wrongKind v .array]

def someItems (check : Check) : Check
  | .array vs => vs.flatMap check ++ (if vs.isEmpty then [.tooFew (.array vs)] else [])
  | v => [.wrongKind v .array]

def distinctItems (check : Check) : Check
  | .array vs =>
    vs.flatMap check ++ (if allDistinct vs then [] else [.repeated (.array vs)])
  | v => [.wrongKind v .array]

def member (members : List (String × Json)) (field : String × Check) : List Violation :=
  match lookup field.1 members with
  | some v => field.2 v
  | none => []

/-- The names of the members that are not among the fields. -/
def unknownNames (fields : List (String × Check)) (members : List (String × Json)) :
    List String :=
  (members.map (·.1)).filter fun name => !fields.any (·.1 == name)

/-- An object with checked members and no others, some of which it must have. -/
def record (fields : List (String × Check)) (required : List String) : Check
  | .object members =>
    fields.flatMap (member members) ++
      (match unknownNames fields members with
        | [] => []
        | names => [.unexpected names]) ++
      (required.filter fun name => (lookup name members).isNone).map .missing
  | v => [.wrongKind v .object]

end Check

end BulkLoad.Json
