/-!
Tables written as rows of hexadecimal digits.
-/
namespace BulkLoad.Charset

def digitOf (c : Char) : Nat :=
  if c.toNat < 0x3A then c.toNat - 0x30 else c.toNat - 0x57

def digitTable (rows : List String) : Array Nat :=
  (rows.flatMap fun row => row.toList.map digitOf).toArray

def pairEntries : List Char → List Nat
  | a :: b :: rest => (16 * digitOf a + digitOf b) :: pairEntries rest
  | _ => []

def pairTable (rows : List String) : Array Nat :=
  (rows.flatMap fun row => pairEntries row.toList).toArray

def bitsOf (d : Nat) : List Bool :=
  [d / 8 % 2 == 1, d / 4 % 2 == 1, d / 2 % 2 == 1, d % 2 == 1]

def bitTable (rows : List String) : Array Bool :=
  (rows.flatMap fun row => row.toList.flatMap fun c => bitsOf (digitOf c)).toArray

end BulkLoad.Charset
