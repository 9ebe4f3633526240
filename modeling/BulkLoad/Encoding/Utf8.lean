import BulkLoad.Encoding.Machine

/-!
UTF-8: writing text as bytes, and reading bytes as text with one replacement character for each
maximal part of an ill-formed sequence.

A sequence is read through the range that its next byte must lie in: the lead byte fixes how many
bytes follow and, to rule out overlong forms, surrogates and values past the last code point, a
narrower range for the second byte. A byte outside the range ends the sequence with a replacement
character and is then read afresh, so no valid character is lost after a broken one.
-/
namespace BulkLoad.Encoding

/-- U+FFFD, which stands for bytes that are no text. -/
def replacementChar : Char := '\ufffd'

namespace Utf8

def encodeChar (c : Char) : List UInt8 :=
  let n := c.toNat
  if n < 0x80 then [n.toUInt8]
  else if n < 0x800 then [(0xC0 + n / 0x40).toUInt8, (0x80 + n % 0x40).toUInt8]
  else if n < 0x10000 then
    [(0xE0 + n / 0x1000).toUInt8, (0x80 + n / 0x40 % 0x40).toUInt8, (0x80 + n % 0x40).toUInt8]
  else
    [(0xF0 + n / 0x40000).toUInt8, (0x80 + n / 0x1000 % 0x40).toUInt8,
      (0x80 + n / 0x40 % 0x40).toUInt8, (0x80 + n % 0x40).toUInt8]

def encode (cs : List Char) : List UInt8 :=
  cs.flatMap encodeChar

def encodeText (s : String) : List UInt8 :=
  encode s.toList

inductive State where
  | ready
  /-- Inside a sequence that owes `more + 1` bytes, the next one between `low` and `high`; `value`
  holds the bits read so far. -/
  | within (more : Nat) (low high : UInt8) (value : Nat)
  deriving DecidableEq, Repr

def lead (b : UInt8) : State × List Char :=
  if b < 0x80 then (.ready, [Char.ofNat b.toNat])
  else if b < 0xC2 then (.ready, [replacementChar])
  else if b < 0xE0 then (.within 0 0x80 0xBF (b.toNat - 0xC0), [])
  else if b < 0xF0 then
    (.within 1 (if b = 0xE0 then 0xA0 else 0x80) (if b = 0xED then 0x9F else 0xBF)
      (b.toNat - 0xE0), [])
  else if b < 0xF5 then
    (.within 2 (if b = 0xF0 then 0x90 else 0x80) (if b = 0xF4 then 0x8F else 0xBF)
      (b.toNat - 0xF0), [])
  else (.ready, [replacementChar])

def step : State → UInt8 → State × List Char
  | .ready, b => lead b
  | .within more low high value, b =>
    if low ≤ b ∧ b ≤ high then
      match more with
      | 0 => (.ready, [Char.ofNat (value * 0x40 + (b.toNat - 0x80))])
      | more + 1 => (.within more 0x80 0xBF (value * 0x40 + (b.toNat - 0x80)), [])
    else ((lead b).1, replacementChar :: (lead b).2)

/-- A sequence that the input cuts off is one replacement character. -/
def finish : State → List Char
  | .ready => []
  | .within .. => [replacementChar]

def machine : Machine where
  State := State
  start := .ready
  step := step
  finish := finish

def decode (bytes : List UInt8) : List Char :=
  machine.decode bytes

def decodeText (bytes : List UInt8) : String :=
  String.ofList (decode bytes)

/-- The text of the bytes, if they are well-formed: then and only then writing the text gives the
bytes back. -/
def ofBytes? (bytes : List UInt8) : Option String :=
  if encode (decode bytes) = bytes then some (decodeText bytes) else none

example : decode [0x61, 0xFF, 0x62, 0xC3] = ['a', '\ufffd', 'b', '\ufffd'] := by decide
example : decode [0xE0, 0x80, 0xF0, 0x9F, 0x98, 0x80] = ['\ufffd', '\ufffd', '😀'] := by decide
example : ofBytes? [0xFF, 0x7B] = none := by decide

end Utf8

end BulkLoad.Encoding
