import BulkLoad.Decimal.Basic
import BulkLoad.Schema.Column
import BulkLoad.Text.Blank

/-!
Values of columns, and the raw text of a field as a value of its column's type.

Reading a value never fails: a text that is no whole number of 64 bits counts as zero, and any text
but one counts as false.
-/
namespace BulkLoad

inductive Value where
  | integer (n : Int)
  | text (s : String)
  | boolean (b : Bool)
  deriving DecidableEq, Repr

namespace Value

/-- The one text that a truth column takes for true. -/
def trueText : String := "SI"

def fitsInt64 (z : Int) : Bool := -(Decimal.signedBound : Int) ≤ z && z < Decimal.signedBound

/-- The whole number that a text denotes, blanks around it aside; zero if it denotes none or one
that 64 bits do not hold. -/
def integerOf (raw : String) : Int :=
  match Decimal.signed? (Text.trimBoth Text.isBlank raw.toList) with
  | some z => if fitsInt64 z then z else 0
  | none => 0

def ofRaw (type : ColumnType) (raw : String) : Value :=
  match type with
  | .int => .integer (integerOf raw)
  | .char _ => .text raw
  | .bool => .boolean (raw == trueText)

example : integerOf " -9223372036854775808 " = -9223372036854775808 := by decide
example : integerOf "9223372036854775808" = 0 ∧ integerOf "+" = 0 := by decide

end Value

end BulkLoad
