import BulkLoad.Charset.Letters
import BulkLoad.Charset.Letters.Hebrew

/-!
The candidates for Hebrew, which is stored in reading order or in the order of display.

Five letters have a form of their own at the end of a word. Such a form at the end of words speaks
for reading order, at their start for display order, and an ordinary form of four of them at the
end speaks for display order as well. If that leaves it open, the better fit of the letter pairs
decides.
-/
namespace BulkLoad.Charset.Hebrew

def finals : List UInt8 := [0xEA, 0xED, 0xEF, 0xF3, 0xF5]

def ordinary : List UInt8 := [0xEB, 0xEE, 0xF0, 0xF4]

/-- The two bytes before the current one and the votes for each order. -/
structure Votes where
  before : UInt8
  last : UInt8
  reading : Nat
  display : Nat

def vote (v : Votes) (b : UInt8) : Votes :=
  let w := { v with before := v.last, last := b }
  if b == Words.space then
    if v.before == Words.space then w
    else if finals.contains v.last then { w with reading := v.reading + 1 }
    else if ordinary.contains v.last then { w with display := v.display + 1 }
    else w
  else if v.before == Words.space && finals.contains v.last then
    { w with display := v.display + 1 }
  else w

def votes (sample : List UInt8) : Votes :=
  (Words.foreignOnly sample).foldl vote ⟨Words.space, Words.space, 0, 0⟩

def majority : Nat := 5

def margin : Confidence := percent 1

def readingName : String := "windows-1255"

def displayName : String := "iso-8859-8"

def nameOf (v : Votes) (reading display : Confidence) : String :=
  if v.display + majority ≤ v.reading then readingName
  else if v.reading + majority ≤ v.display then displayName
  else if display + margin < reading then readingName
  else if reading + margin < display then displayName
  else if v.reading < v.display then displayName
  else readingName

def readingOrder : Letters := Letters.hebrew false

def displayOrder : Letters := Letters.hebrew true

/-- The name that both candidates have after a sample. When reading order settles it, display order
is not examined. -/
def name (sample : List UInt8) : String :=
  let reading := readingOrder.examine sample
  let display := if reading.settled then percent 1 else (displayOrder.examine sample).confidence
  nameOf (votes sample) reading.confidence display

def examine (order : Letters) (sample : List UInt8) : Candidate :=
  { order.examine sample with name := name sample }

end BulkLoad.Charset.Hebrew
