import BulkLoad.Charset.Automaton
import BulkLoad.Charset.Kana.Table

/-!
How often the hiragana of a sample follow each other as they do in Japanese.

The signs are looked for in the bytes that end each character. A sign that would reach past those
bytes leaves a rest to be skipped, and the rest is skipped at every later character too, as nothing
but another sign that reaches too far changes it.
-/
namespace BulkLoad.Charset.Kana

/-- What stands at the start of some bytes: the number of a hiragana, the length of the sign, and
whether the sign is one of those that were added later. -/
structure Sign where
  number? : Option Nat
  length : Nat
  added : Bool

def shiftJisSign : List UInt8 → Sign
  | [] => ⟨none, 1, false⟩
  | first :: rest =>
    let double := (0x81 ≤ first && first ≤ 0x9F) || (0xE0 ≤ first && first ≤ 0xFC)
    let number? := match rest with
      | second :: _ =>
        if first == 0x82 && 0x9F ≤ second && second ≤ 0xF1 then some (second.toNat - 0x9F)
        else none
      | [] => none
    ⟨number?, if double then 2 else 1,
      double && (first == 0x87 || (0xFA ≤ first && first ≤ 0xFC))⟩

def eucSign : List UInt8 → Sign
  | [] => ⟨none, 1, false⟩
  | first :: rest =>
    let length :=
      if first == 0x8E || (0xA1 ≤ first && first ≤ 0xFE) then 2
      else if first == 0x8F then 3
      else 1
    let number? := match rest with
      | second :: _ =>
        if first == 0xA4 && 0xA1 ≤ second && second ≤ 0xF3 then some (second.toNat - 0xA1)
        else none
      | [] => none
    ⟨number?, length, false⟩

def shiftJisWindow (c : Automaton.Character) : List UInt8 :=
  match c.length, c.before with
  | 1, none => [c.last]
  | 1, some _ => c.last :: c.after.toList
  | _, before => [before.getD 0, c.last]

def eucWindow (c : Automaton.Character) : List UInt8 := [c.before.getD 0, c.last]

structure Tally where
  skip : Nat
  /-- The hiragana that was seen last, if it was the last sign. -/
  last : Option Nat
  pairs : Nat
  strange : Nat
  full : Bool
  added : Bool

def maxPairs : Nat := 1000

/-- Looks at the signs of a window from a place up to the character's length. Every sign has a
length, so as many steps as the length suffice. -/
def look (sign : List UInt8 → Sign) (window : List UInt8) (length : Nat) :
    Nat → Nat → Tally → Tally
  | 0, _, t => t
  | steps + 1, i, t =>
    if length ≤ i then t
    else
      let s := sign (window.drop i)
      let i := i + s.length
      let t := { t with added := t.added || s.added }
      if length < i then { t with skip := i - length, last := none }
      else
        match t.last, s.number? with
        | some a, some b =>
          if maxPairs ≤ t.pairs then { t with pairs := t.pairs + 1, full := true }
          else
            let strange := if Table.follows a b then t.strange else t.strange + 1
            look sign window length steps i
              { t with pairs := t.pairs + 1, strange := strange, last := some b }
        | _, number? => look sign window length steps i { t with last := number? }

def count (sign : List UInt8 → Sign) (window : Automaton.Character → List UInt8) (t : Tally)
    (c : Automaton.Character) : Tally :=
  if t.full then t else look sign (window c) c.length (c.length + 1) t.skip t

def tally (sign : List UInt8 → Sign) (window : Automaton.Character → List UInt8)
    (cs : List Automaton.Character) : Tally :=
  cs.foldl (count sign window) ⟨0, none, 0, 0, false, false⟩

/-- The confidence that a tally gives: none from four pairs or fewer. -/
def confidence (t : Tally) : Confidence :=
  if t.pairs ≤ 4 then 0 else (t.pairs - t.strange) * whole / t.pairs

def enough : Nat := 100

end BulkLoad.Charset.Kana
