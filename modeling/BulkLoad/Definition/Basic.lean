import BulkLoad.Definition.Shape
import BulkLoad.Json.Reader
import BulkLoad.Schema.ColumnJson

/-!
Table definitions: a name and a schema, and their JSON text.

A text is read in four steps, each of which may fail: it is JSON, it has the shape of a definition,
its columns form a schema, and its name can name a table. Writing a definition gives a text that is
read as the same definition.
-/
namespace BulkLoad

structure Definition where
  name : String
  schema : Schema
  named : Identifier.fault? name = none
  deriving DecidableEq

inductive DefinitionFault where
  | invalid (fault : SchemaFault)
  | misshapen (violations : List Json.Violation)
  | unreadable (path cause : String)
  | notJson (fault : Json.Fault)
  | undecodable (fault : ColumnFault)
  deriving Repr

namespace DefinitionFault

def message : DefinitionFault → String
  | .invalid fault => fault.message
  | .misshapen violations =>
    "Invalid table definition: " ++ "; ".intercalate (violations.map (·.message))
  | .unreadable path cause => "Cannot read table definition '" ++ path ++ "': " ++ cause
  | .notJson fault => "Table definition JSON error: " ++ fault.message
  | .undecodable fault => "Table definition JSON error: " ++ fault.message

def cause? : DefinitionFault → Option String
  | .unreadable _ cause => some cause
  | .notJson fault => some fault.message
  | .undecodable fault => some fault.message
  | _ => none

end DefinitionFault

namespace Definition

def ofParts (name : String) (schema : Schema) : Except SchemaFault Definition :=
  match h : Identifier.fault? name with
  | none => .ok ⟨name, schema, h⟩
  | some fault => .error fault

def canonical : Definition where
  name := "estudiantes"
  schema := .canonical
  named := by decide

def renamed (d : Definition) (name : String) : Except SchemaFault Definition :=
  ofParts name d.schema

/-- Reads some columns; the first that cannot be read is the answer. -/
def columnsOf : List Json → Except ColumnFault (List Column)
  | [] => .ok []
  | v :: rest =>
    match Column.ofJson v with
    | .error fault => .error fault
    | .ok c => (columnsOf rest).map (c :: ·)

def ofShaped (v : Json) : Except DefinitionFault Definition :=
  let columns := match v.get? "columns" with
    | some (.array items) => items
    | _ => []
  match columnsOf columns with
  | .error fault => .error (.undecodable fault)
  | .ok columns =>
    match Schema.ofColumns columns with
    | .error fault => .error (.invalid fault)
    | .ok schema =>
      match ofParts ((Column.textMember? v "table").getD "") schema with
      | .error fault => .error (.invalid fault)
      | .ok d => .ok d

def ofJson (v : Json) : Except DefinitionFault Definition :=
  match violations v with
  | [] => ofShaped v
  | wrong => .error (.misshapen wrong)

def ofText (text : String) : Except DefinitionFault Definition :=
  match Json.parse text with
  | .error fault => .error (.notJson fault)
  | .ok v => ofJson v

def toJson (d : Definition) : Json :=
  .object [("table", .string d.name), ("columns", .array (d.schema.columns.map Column.toJson))]

def toText (d : Definition) : String := d.toJson.pretty

end Definition

end BulkLoad
