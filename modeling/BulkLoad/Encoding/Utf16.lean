import BulkLoad.Encoding.Utf8

/-!
UTF-16 in both byte orders, read byte by byte.

Two bytes make a code unit; a high surrogate waits for the unit after it. A surrogate without its
partner is one replacement character, and the unit after it is read afresh. Whatever the input cuts
off, half a unit or a waiting surrogate or both, is one replacement character together.
-/
namespace BulkLoad.Encoding

inductive ByteOrder where
  | littleEndian
  | bigEndian
  deriving DecidableEq, Repr

namespace Utf16

structure State where
  /-- The first byte of a unit whose second is still to come. -/
  half : Option UInt8
  /-- A high surrogate whose partner is still to come. -/
  high : Option Nat
  deriving DecidableEq, Repr

def unit : ByteOrder → UInt8 → UInt8 → Nat
  | .littleEndian, a, b => a.toNat + 0x100 * b.toNat
  | .bigEndian, a, b => 0x100 * a.toNat + b.toNat

def isHigh (u : Nat) : Bool := 0xD800 ≤ u && u < 0xDC00

def isLow (u : Nat) : Bool := 0xDC00 ≤ u && u < 0xE000

def lead (u : Nat) : State × List Char :=
  if isHigh u then (⟨none, some u⟩, [])
  else if isLow u then (⟨none, none⟩, [replacementChar])
  else (⟨none, none⟩, [Char.ofNat u])

def takeUnit : Option Nat → Nat → State × List Char
  | none, u => lead u
  | some high, u =>
    if isLow u then
      (⟨none, none⟩, [Char.ofNat (0x10000 + 0x400 * (high - 0xD800) + (u - 0xDC00))])
    else ((lead u).1, replacementChar :: (lead u).2)

def step (order : ByteOrder) (s : State) (b : UInt8) : State × List Char :=
  match s.half with
  | none => (⟨some b, s.high⟩, [])
  | some a => takeUnit s.high (unit order a b)

/-- Whatever the input cuts off is one replacement character. -/
def finish (s : State) : List Char :=
  if s.half.isSome || s.high.isSome then [replacementChar] else []

def machine (order : ByteOrder) : Machine where
  State := State
  start := ⟨none, none⟩
  step := step order
  finish := finish

example : (machine .littleEndian).decode [0x3D, 0xD8, 0x00, 0xDE, 0xF1] = ['😀', '\ufffd'] := by
  decide
example : (machine .bigEndian).decode [0xD8, 0x3D, 0x00, 0x61] = ['\ufffd', 'a'] := by decide

end Utf16

end BulkLoad.Encoding
