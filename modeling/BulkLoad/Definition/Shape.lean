import BulkLoad.Decimal.Basic
import BulkLoad.Json.Check
import BulkLoad.Schema.Identifier

/-!
The shape of a table definition in JSON: what is checked before the columns are looked at as a
whole.

A width is any run of digits without leading zeros here, and reserved words pass as names; both are
judged later.
-/
namespace BulkLoad.Definition

open Json (Pattern Check)

def wordPattern : Pattern where
  text := "^[A-Za-z_][A-Za-z0-9_]*$"
  holds := Identifier.isWord

/-- Whether characters are a positive number without leading zeros. -/
def isWidth : List Char → Bool
  | [] => false
  | c :: rest => Decimal.isDigit c && c != '0' && rest.all Decimal.isDigit

def isTypeToken : List Char → Bool
  | ['i', 'n', 't'] => true
  | ['b', 'o', 'o', 'l'] => true
  | 'c' :: 'h' :: 'a' :: 'r' :: '(' :: rest => rest.getLast? == some ')' && isWidth rest.dropLast
  | _ => false

def typePattern : Pattern where
  text := "^(int|bool|char\\([1-9][0-9]*\\))$"
  holds s := isTypeToken s.toList

def columnShape : Check :=
  .record
    [("constraints", .distinctItems (.oneOf ["id", "unique"])),
      ("name", .text wordPattern),
      ("type", .text typePattern)]
    ["name", "type"]

def shape : Check :=
  .record [("columns", .someItems columnShape), ("table", .text wordPattern)]
    ["table", "columns"]

def violations (v : Json) : List Json.Violation := shape v

end BulkLoad.Definition
