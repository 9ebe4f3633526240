import BulkLoad.Schema.ColumnType

/-!
Columns of a table and their constraints.
-/
namespace BulkLoad

inductive Constraint where
  /-- The column identifies its row; the engine fills it. -/
  | identity
  | unique
  deriving DecidableEq, Repr

namespace Constraint

def marker : Constraint → String
  | .identity => "@id"
  | .unique => "@unique"

def word : Constraint → String
  | .identity => "id"
  | .unique => "unique"

def ofWord? : String → Option Constraint
  | "id" => some .identity
  | "unique" => some .unique
  | _ => none

end Constraint

structure Column where
  name : String
  type : ColumnType
  isIdentity : Bool
  isUnique : Bool
  deriving DecidableEq, Repr

namespace Column

def plain (name : String) (type : ColumnType) : Column := ⟨name, type, false, false⟩

def constraints (c : Column) : List Constraint :=
  (if c.isIdentity then [.identity] else []) ++ (if c.isUnique then [.unique] else [])

def withConstraints (name : String) (type : ColumnType) (cs : List Constraint) : Column :=
  ⟨name, type, cs.contains .identity, cs.contains .unique⟩

theorem withConstraints_constraints (c : Column) :
    withConstraints c.name c.type c.constraints = c := by
  obtain ⟨name, type, i, u⟩ := c
  cases i <;> cases u <;> rfl

end Column

end BulkLoad
