import BulkLoad.Charset.Automaton.Table
import BulkLoad.Charset.Frequency
import BulkLoad.Charset.Kana

/-!
Candidates with several bytes a character.

UTF-8 is the more likely the more sequences it explains. The other encodings are judged by how
common their characters are in the language, Japanese also by how its syllables follow each other.
-/
namespace BulkLoad.Charset.Multibyte

def sure : Confidence := percent 95

/-- Whether the matter is settled: the automaton says so, or it leaves it open and there is enough
data with a high confidence. -/
def settles (outcome : Automaton.Outcome) (enough : Bool) (confidence : Confidence) : Bool :=
  match outcome with
  | .recognised => true
  | .failed => false
  | .undecided => enough && sure < confidence

/-- UTF-8: each sequence of two or more bytes halves the doubt, up to six of them. -/
def utf8 (sample : List UInt8) : Candidate :=
  let (characters, outcome) := Automaton.utf8.characters sample
  let n := (characters.filter fun c => 2 ≤ c.length).length
  let confidence := if n < 6 then whole - percent 99 / Nat.pow 2 n else percent 99
  ⟨"utf-8", settles outcome true confidence, confidence⟩

def byFrequency (name : String) (automaton : Automaton) (frequency : Frequency)
    (sample : List UInt8) : Candidate :=
  let (characters, outcome) := automaton.characters sample
  let tally := frequency.tally characters
  let confidence := frequency.confidence tally
  ⟨name, settles outcome (Frequency.enough < tally.counted) confidence, confidence⟩

/-- An encoding of Japanese, with the name it has when one of the added signs occurs. -/
def japanese (name addedName : String) (automaton : Automaton) (frequency : Frequency)
    (sign : List UInt8 → Kana.Sign) (window : Automaton.Character → List UInt8)
    (sample : List UInt8) : Candidate :=
  let (characters, outcome) := automaton.characters sample
  let tally := Kana.tally sign window characters
  let confidence := max (Kana.confidence tally) (frequency.confidence (frequency.tally characters))
  ⟨if tally.added then addedName else name,
    settles outcome (Kana.enough < tally.pairs) confidence, confidence⟩

def candidates : List (List UInt8 → Candidate) :=
  [utf8,
    japanese "shift_jis" "cp932" .shiftJis .shiftJis Kana.shiftJisSign Kana.shiftJisWindow,
    japanese "euc-jp" "euc-jp" .eucJp .eucJp Kana.eucSign Kana.eucWindow,
    byFrequency "gb2312" .gb2312 .gb2312,
    byFrequency "euc-kr" .eucKr .eucKr,
    byFrequency "cp949" .cp949 .eucKr,
    byFrequency "big5" .big5 .big5,
    byFrequency "euc-tw" .eucTw .eucTw]

end BulkLoad.Charset.Multibyte
