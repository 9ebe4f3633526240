import BulkLoad.Decimal.Binary64

/-!
JSON values.

An object is a list of members in the order in which it is written. A value that was read has its
keys in ascending order and each of them once, the last one read; `insertMember` keeps it so.
-/
namespace BulkLoad

/-- A JSON number: a whole number of 64 bits, signed or not, or else a double. -/
inductive Json.Number where
  | whole (value : Int)
  | real (value : Binary64)
  deriving DecidableEq, Repr

inductive Json where
  | null
  | bool (value : Bool)
  | number (value : Json.Number)
  | string (value : String)
  | array (items : List Json)
  | object (members : List (String × Json))
  deriving Repr

namespace Json

def nat (n : Nat) : Json := .number (.whole n)

def optional : Option String → Json
  | none => .null
  | some s => .string s

/-- Puts a member in its place among ascending keys, over an earlier one with its key. -/
def insertMember (key : String) (value : Json) : List (String × Json) → List (String × Json)
  | [] => [(key, value)]
  | (k, v) :: rest =>
    if key = k then (key, value) :: rest
    else if key < k then (key, value) :: (k, v) :: rest
    else (k, v) :: insertMember key value rest

def lookup (key : String) (members : List (String × Json)) : Option Json :=
  (members.find? (·.1 = key)).map (·.2)

def get? (key : String) : Json → Option Json
  | .object members => lookup key members
  | _ => none

def Number.same : Number → Number → Bool
  | .whole a, .whole b => a == b
  | .whole a, .real b => b.equalsInt a
  | .real a, .whole b => a.equalsInt b
  | .real a, .real b => a.sameValue b

def Number.isNegativeZero : Number → Bool
  | .whole _ => false
  | .real x => x.negative && x.significand == 0

/-- Whether two numbers have one value and one sign, that of a zero included. -/
def Number.sameSigned (a b : Number) : Bool :=
  a.same b && a.isNegativeZero == b.isNegativeZero

mutual

/-- Whether two values are equal, their numbers in a given sense. -/
def alike (number : Number → Number → Bool) : Json → Json → Bool
  | .null, .null => true
  | .bool a, .bool b => a == b
  | .number a, .number b => number a b
  | .string a, .string b => a == b
  | .array a, .array b => alikeItems number a b
  | .object a, .object b => alikeMembers number a b
  | _, _ => false

def alikeItems (number : Number → Number → Bool) : List Json → List Json → Bool
  | [], [] => true
  | a :: as, b :: bs => alike number a b && alikeItems number as bs
  | _, _ => false

def alikeMembers (number : Number → Number → Bool) :
    List (String × Json) → List (String × Json) → Bool
  | [], [] => true
  | (k, a) :: as, (l, b) :: bs => k == l && alike number a b && alikeMembers number as bs
  | _, _ => false

end

def unrelated (related : Json → Json → Bool) : List Json → Bool
  | [] => true
  | item :: rest => !rest.any (related item) && unrelated related rest

def shortLength : Nat := 15

/-- Whether no two items are equal, numbers by value. In a list that is not short the two zeros are
different numbers. -/
def allDistinct (items : List Json) : Bool :=
  if items.length ≤ shortLength then unrelated (alike Number.same) items
  else unrelated (alike Number.sameSigned) items

end Json

end BulkLoad
