import BulkLoad.Charset.Automaton
import BulkLoad.Charset.Frequency.Table

/-!
How many of the two-byte characters of a sample are common ones.

The characters of an encoding are numbered along its rows, and a set of numbers holds those that
are common in its language. The confidence compares the common ones among the characters found with
the share that is typical of the language.
-/
namespace BulkLoad.Charset

/-- The numbering of an encoding's characters and the set of common ones. -/
structure Frequency where
  number? : Nat → Nat → Option Nat
  common : Array Bool
  /-- How many common characters are typical for each other one, in hundredths. -/
  typical : Nat

namespace Frequency

def place? (n : Int) : Option Nat := if 0 ≤ n then some n.toNat else none

/-- Numbers along rows of 94 characters; the first row has a lead byte, the first column 0xA1. -/
def rows94 (lead first second : Nat) : Option Nat :=
  if lead ≤ first then place? (94 * ((first : Int) - lead) + second - 0xA1) else none

/-- Numbers of the rows from 0xA4 with 63 characters before 0x7F and 94 from 0xA1 on. -/
def splitRows (first second : Nat) : Option Nat :=
  if first < 0xA4 then none
  else if 0xA1 ≤ second then some (157 * (first - 0xA4) + second - 0xA1 + 63)
  else place? (157 * ((first : Int) - 0xA4) + second - 0x40)

/-- Numbers of the rows with 188 characters, of which only the first part of a row counts. -/
def halfRows (first second : Nat) : Option Nat :=
  if 0x7F < second then none
  else if 0x81 ≤ first ∧ first ≤ 0x9F then place? (188 * ((first : Int) - 0x81) + second - 0x40)
  else if 0xE0 ≤ first ∧ first ≤ 0xEF then
    place? (188 * ((first : Int) - 0xE0 + 31) + second - 0x40)
  else none

def eucTw : Frequency := ⟨rows94 0xC4, Table.taiwan, 75⟩

def eucKr : Frequency := ⟨rows94 0xB0, Table.korea, 600⟩

def gb2312 : Frequency where
  number? first second := if 0xA1 ≤ second then rows94 0xB0 first second else none
  common := Table.china
  typical := 90

def big5 : Frequency := ⟨splitRows, Table.big5, 75⟩

def shiftJis : Frequency := ⟨halfRows, Table.japan, 300⟩

def eucJp : Frequency where
  number? first second :=
    if 0xA0 ≤ first then place? (94 * ((first : Int) - 0xA1) + second - 0xA1) else none
  common := Table.japan
  typical := 300

structure Tally where
  counted : Nat
  common : Nat

def count (f : Frequency) (t : Tally) (c : Automaton.Character) : Tally :=
  if c.length = 2 then
    match f.number? ((c.before.map UInt8.toNat).getD 0) c.last.toNat with
    | none => t
    | some n => ⟨t.counted + 1, if f.common.getD n false then t.common + 1 else t.common⟩
  else t

def tally (f : Frequency) (cs : List Automaton.Character) : Tally :=
  cs.foldl f.count ⟨0, 0⟩

/-- The confidence that a tally gives: next to none from three common characters or fewer. -/
def confidence (f : Frequency) (t : Tally) : Confidence :=
  if t.common ≤ 3 then percent 1
  else if t.counted = t.common then percent 99
  else min (percent 99) (t.common * whole * 100 / ((t.counted - t.common) * f.typical))

def enough : Nat := 1024

end Frequency

end BulkLoad.Charset
