import BulkLoad.Decimal.Basic
import BulkLoad.Text.Blank

/-!
Types of columns and their spelling in queries and definitions.

A type is read without regard to case and to blanks around it or around the width of a text type.
A width is a positive number of 64 bits, with an optional plus sign. `token` is the spelling that
is written.
-/
namespace BulkLoad

inductive ColumnType where
  | int
  | char (width : Nat)
  | bool
  deriving DecidableEq, Repr

namespace ColumnType

def token : ColumnType → String
  | .int => "int"
  | .char width => "char(" ++ Decimal.text width ++ ")"
  | .bool => "bool"

/-- Reads a width: a positive number that 64 bits hold. -/
def width? (cs : List Char) : Option Nat :=
  match Decimal.unsigned? (Text.trimBoth Text.isBlank cs) with
  | some n => if 0 < n ∧ n < Decimal.wordBound then some n else none
  | none => none

def ofToken? : List Char → Option ColumnType
  | ['i', 'n', 't'] => some .int
  | ['b', 'o', 'o', 'l'] => some .bool
  | 'c' :: 'h' :: 'a' :: 'r' :: '(' :: rest =>
    if rest.getLast? = some ')' then (width? rest.dropLast).map .char else none
  | _ => none

def ofText? (s : String) : Option ColumnType :=
  ofToken? ((Text.trimBoth Text.isBlank s.toList).map Char.toLower)

example : ofText? " CHAR( +08 )\n" = some (.char 8) := by decide
example : ofText? "char(0)" = none ∧ ofText? "char(" = none := by decide

end ColumnType

end BulkLoad
