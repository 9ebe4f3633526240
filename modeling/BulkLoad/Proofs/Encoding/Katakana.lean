import BulkLoad.Encoding.Decoder

/-!
Shift_JIS as far as it goes without tables: ASCII, the katakana of half width, and those of row 5,
which stand in order. Every other pair of bytes is one replacement character.

With it the decoders that are left open have an instance on which their properties can be seen.
-/
namespace BulkLoad.Encoding.Katakana

def isLead (b : UInt8) : Bool := (0x81 ≤ b && b ≤ 0x9F) || (0xE0 ≤ b && b ≤ 0xFC)

/-- The place of a second byte in its row. The byte 0x7F is left out. -/
def column (b : UInt8) : Nat := b.toNat - if b < 0x7F then 0x40 else 0x41

def lead (b : UInt8) : Option UInt8 × List Char :=
  if b ≤ 0x80 then (none, [Char.ofNat b.toNat])
  else if 0xA1 ≤ b && b ≤ 0xDF then (none, [Char.ofNat (0xFF61 + (b.toNat - 0xA1))])
  else if isLead b then (some b, [])
  else (none, [replacementChar])

/-- A broken pair gives an ASCII character back. -/
def step : Option UInt8 → UInt8 → Option UInt8 × List Char
  | none, b => lead b
  | some first, b =>
    if first = 0x83 ∧ 0x40 ≤ b ∧ b ≤ 0x96 ∧ b ≠ 0x7F then
      (none, [Char.ofNat (0x30A1 + column b)])
    else (none, replacementChar :: if b < 0x80 then [Char.ofNat b.toNat] else [])

def machine : Machine where
  State := Option UInt8
  start := none
  step := step
  finish state := if state.isSome then [replacementChar] else []

example : machine.decode [0x83, 0x7C, 0x41, 0xB1, 0x83, 0x80, 0x83] =
    ['ポ', 'A', 'ｱ', 'ム', '\ufffd'] := by decide

/-- Decoders for which every East Asian encoding is this part of Shift_JIS. -/
@[reducible]
def decoders : EastAsian.Decoders where
  machine _ := machine
  finish_start _ := rfl
  finish_cases _ state := by
    cases state with
    | none => exact .inl rfl
    | some first => exact .inr (.inl rfl)

end BulkLoad.Encoding.Katakana
