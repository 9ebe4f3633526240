import BulkLoad.Schema.Column
import BulkLoad.Schema.Identifier

/-!
Schemas: the checked column lists of tables.

The columns are checked in order, each against those before it; the first fault is the answer.
A schema carries the fact that its columns have no fault.
-/
namespace BulkLoad

inductive SchemaFault where
  | noColumns
  | duplicateColumn (name : String)
  | twoIdentities (first second : String)
  | invalidIdentifier (name : String)
  | reservedWord (word : String)
  | invalidType (text : String)
  deriving DecidableEq, Repr

namespace SchemaFault

def message : SchemaFault → String
  | .noColumns => "Schema has no columns"
  | .duplicateColumn name => "Duplicate column name: " ++ name
  | .twoIdentities first second =>
    "Columns '" ++ first ++ "' and '" ++ second ++ "' are both marked @id"
  | .invalidIdentifier name =>
    "Invalid identifier '" ++ name ++ "': use letters, digits and '_', not starting with a digit"
  | .reservedWord word => "'" ++ word ++ "' is a reserved word in the query language"
  | .invalidType text => "Invalid column type '" ++ text ++ "': expected int, bool or char(N)"

end SchemaFault

namespace Identifier

def fault? (s : String) : Option SchemaFault :=
  if !isWord s then some (.invalidIdentifier s)
  else if reservedWords.contains s then some (.reservedWord s)
  else none

/-- A text names a table or a column exactly when nothing keeps it from doing so. -/
theorem fault?_eq_none_iff (s : String) : fault? s = none ↔ isValid s = true := by
  unfold fault? isValid
  cases isWord s <;> cases reservedWords.contains s <;> simp

end Identifier

namespace ColumnType

def ofText (s : String) : Except SchemaFault ColumnType :=
  match ofText? s with
  | some t => .ok t
  | none => .error (.invalidType s)

end ColumnType

namespace Schema

def columnFault? (before : List Column) (c : Column) : Option SchemaFault :=
  match Identifier.fault? c.name with
  | some fault => some fault
  | none =>
    if before.any (·.name == c.name) then some (.duplicateColumn c.name)
    else if c.isIdentity then
      (before.find? (·.isIdentity)).map fun first => .twoIdentities first.name c.name
    else none

def faultAfter? (before : List Column) : List Column → Option SchemaFault
  | [] => none
  | c :: rest =>
    match columnFault? before c with
    | some fault => some fault
    | none => faultAfter? (before ++ [c]) rest

def fault? (columns : List Column) : Option SchemaFault :=
  if columns.isEmpty then some .noColumns else faultAfter? [] columns

end Schema

structure Schema where
  columns : List Column
  sound : Schema.fault? columns = none
  deriving DecidableEq

namespace Schema

def ofColumns (columns : List Column) : Except SchemaFault Schema :=
  match h : fault? columns with
  | none => .ok ⟨columns, h⟩
  | some fault => .error fault

def identity? (s : Schema) : Option Column := s.columns.find? (·.isIdentity)

/-- The columns that records fill: all but the identity. -/
def dataColumns (s : Schema) : List Column := s.columns.filter (!·.isIdentity)

/-- The column by which a record is named in reports: the first unique one that records fill. -/
def key? (s : Schema) : Option Column := s.dataColumns.find? (·.isUnique)

def canonical : Schema where
  columns :=
    [ ⟨"id", .int, true, false⟩,
      ⟨"codigo", .char 8, false, true⟩,
      .plain "nombre" (.char 255),
      .plain "tipo_documento" (.char 24),
      .plain "documento" (.char 13),
      .plain "creditos" .int,
      .plain "correo" (.char 255),
      .plain "es_tercio" .bool ]
  sound := by decide

end Schema

end BulkLoad
