import BulkLoad.Record
import BulkLoad.Schema.Basic
import BulkLoad.Value

/-!
Queries: how a schema and a record are written as statements of the query language.

A create query names the table and then each column with its type and marks, every clause ending in
a comma. A schema without an identity column gets one appended under a free name. An insert query
names each column that records fill with the record's value for it: texts in double quotes, numbers
and truth values bare. The language has no escapes, and reads an empty literal as nothing, so a text
that is empty or holds a double quote cannot be written.
-/
namespace BulkLoad

structure Query where
  text : String
  deriving DecidableEq, Repr

inductive QueryFault where
  | missingField (column : String)
  | unrepresentable (column value : String)
  | emptyValue (column : String)
  deriving DecidableEq, Repr

namespace QueryFault

def message : QueryFault → String
  | .missingField column => "Missing field: " ++ column
  | .unrepresentable column value =>
    "Value for '" ++ column ++ "' contains a double quote and cannot be quoted: " ++ value
  | .emptyValue column =>
    "Empty value for '" ++ column ++ "': the engine cannot parse an empty string literal"

end QueryFault

namespace Query

def joinWith (separator : String) (parts : List String) : String :=
  separator.intercalate parts

def clause (c : Column) : String :=
  c.name ++ " " ++ c.type.token ++
    String.join (c.constraints.map fun k => " " ++ k.marker) ++ ","

def identityName : String := "id"

/-- The names of an identity column that are tried by their number when the plain one is taken. -/
def numberedName (i : Nat) : String := identityName ++ "_" ++ Decimal.text i

/-- The first numbered name from `i` on that no column has; among as many names as there are
columns, and one more, one is free. -/
def firstFree (columns : List Column) (i : Nat) : Nat → String
  | 0 => numberedName i
  | tries + 1 =>
    if columns.any (·.name == numberedName i) then firstFree columns (i + 1) tries
    else numberedName i

def freshIdentity (columns : List Column) : String :=
  if columns.any (·.name == identityName) then firstFree columns 1 columns.length
  else identityName

/-- The columns of the table that is created: those of the schema, with an identity among them. -/
def createdColumns (s : Schema) : List Column :=
  if s.identity?.isSome then s.columns
  else s.columns ++ [⟨freshIdentity s.columns, .int, true, false⟩]

def create (s : Schema) (table : String) : Query :=
  ⟨"creame tabla " ++ table ++ " \x7b " ++ joinWith " " ((createdColumns s).map clause) ++
    " \x7d pe"⟩

def literal (column : String) : Value → Except QueryFault String
  | .integer n => .ok (Decimal.intText n)
  | .boolean b => .ok (if b then "true" else "false")
  | .text s =>
    if s.isEmpty then .error (.emptyValue column)
    else if s.toList.contains '"' then .error (.unrepresentable column s)
    else .ok ("\"" ++ s ++ "\"")

def pair (r : Record) (c : Column) : Except QueryFault String :=
  match r.get? c.name with
  | none => .error (.missingField c.name)
  | some raw => (literal c.name (.ofRaw c.type raw)).map fun v => c.name ++ ": " ++ v

/-- What a record contributes to each of some columns, or the first thing that it cannot. -/
def pairs (r : Record) : List Column → Except QueryFault (List String)
  | [] => .ok []
  | c :: rest =>
    match pair r c with
    | .error fault => .error fault
    | .ok p => (pairs r rest).map (p :: ·)

def insert (s : Schema) (table : String) (r : Record) : Except QueryFault Query :=
  (pairs r s.dataColumns).map fun ps =>
    ⟨"mete \x7b " ++ joinWith ", " ps ++ " \x7d en " ++ table ++ " pe"⟩

end Query

end BulkLoad
