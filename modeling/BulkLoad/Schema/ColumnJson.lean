import BulkLoad.Json.Basic
import BulkLoad.Schema.Basic

/-!
Columns as JSON objects.

A column is written with its name, its type and, if it carries any, its constraints. Reading takes
the members in alphabetical order, so the first fault is that of the constraints, then that of the
type; what is missing comes last.
-/
namespace BulkLoad

inductive ColumnFault where
  | unknownConstraint (word : String)
  | badType (fault : SchemaFault)
  | missing (field : String)
  deriving DecidableEq, Repr

def ColumnFault.message : ColumnFault → String
  | .unknownConstraint word => "unknown variant `" ++ word ++ "`, expected `id` or `unique`"
  | .badType fault => fault.message
  | .missing field => "missing field `" ++ field ++ "`"

namespace Column

def toJson (c : Column) : Json :=
  .object
    ([("name", .string c.name), ("type", .string c.type.token)] ++
      if c.constraints.isEmpty then []
      else [("constraints", .array (c.constraints.map fun k => .string k.word))])

def textMember? (v : Json) (name : String) : Option String :=
  match v.get? name with
  | some (.string s) => some s
  | _ => none

def constraintsOf : List Json → Except ColumnFault (List Constraint)
  | [] => .ok []
  | .string word :: rest =>
    match Constraint.ofWord? word with
    | some k => (constraintsOf rest).map (k :: ·)
    | none => .error (.unknownConstraint word)
  | _ :: rest => constraintsOf rest

/-- The constraints of an object: none if it does not speak of them. -/
def constraintsMember (v : Json) : Except ColumnFault (List Constraint) :=
  match v.get? "constraints" with
  | some (.array words) => constraintsOf words
  | _ => .ok []

/-- The type of an object, if it names one. -/
def typeMember (v : Json) : Except ColumnFault (Option ColumnType) :=
  match textMember? v "type" with
  | none => .ok none
  | some text =>
    match ColumnType.ofText text with
    | .ok type => .ok (some type)
    | .error fault => .error (.badType fault)

def ofJson (v : Json) : Except ColumnFault Column := do
  let constraints ← constraintsMember v
  let type ← typeMember v
  match textMember? v "name", type with
  | none, _ => .error (.missing "name")
  | some _, none => .error (.missing "type")
  | some name, some type => .ok (withConstraints name type constraints)

end Column

end BulkLoad
