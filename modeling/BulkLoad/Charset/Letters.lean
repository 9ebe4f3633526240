import BulkLoad.Charset.Candidate
import BulkLoad.Charset.Table
import BulkLoad.Charset.Words

/-!
Candidates with one byte a character, judged by which letters follow each other.

The letters of a language are numbered by how common they are, and a matrix tells how usual each
pair of the 64 most common ones is. A set is the more likely the larger the share of usual pairs,
and of common letters among all signs.
-/
namespace BulkLoad.Charset

structure Letters where
  name : String
  /-- The number of the letter that a byte stands for; from `signs` on it is none. -/
  numbers : Array Nat
  /-- How usual the pairs of common letters are, from 0 to 3. -/
  pairs : Array Nat
  /-- The share of usual pairs that is typical of the language, in millionths. -/
  typical : Nat
  backwards : Bool
  withAscii : Bool

namespace Letters

def commonLetters : Nat := 64

/-- The number from which bytes stand for control characters. -/
def signs : Nat := 251

structure Tally where
  last : Nat
  counted : Nat
  common : Nat
  pairs : Nat
  usual : Nat

def isUsual (l : Letters) (first second : Nat) : Bool :=
  let place := if l.backwards then second * commonLetters + first
    else first * commonLetters + second
  l.pairs.getD place 0 == 3

def count (l : Letters) (t : Tally) (b : UInt8) : Tally :=
  let n := l.numbers.getD b.toNat 255
  let counted := if n < signs then t.counted + 1 else t.counted
  if n < commonLetters then
    if t.last < commonLetters then
      ⟨n, counted, t.common + 1, t.pairs + 1,
        if l.isUsual t.last n then t.usual + 1 else t.usual⟩
    else ⟨n, counted, t.common + 1, t.pairs, t.usual⟩
  else ⟨n, counted, t.common, t.pairs, t.usual⟩

def tally (l : Letters) (sample : List UInt8) : Tally :=
  (if l.withAscii then sample else Words.foreign sample).foldl l.count ⟨255, 0, 0, 0, 0⟩

def confidence (l : Letters) (t : Tally) : Confidence :=
  if t.pairs = 0 then percent 1
  else
    let share := t.usual * t.common * whole * 1000000 / (t.pairs * t.counted * l.typical)
    if whole ≤ share then percent 99 else share

def enough : Nat := 1024

def examine (l : Letters) (sample : List UInt8) : Candidate :=
  let t := l.tally sample
  let c := l.confidence t
  ⟨l.name, enough < t.pairs && percent 95 < c, c⟩

end Letters

end BulkLoad.Charset
