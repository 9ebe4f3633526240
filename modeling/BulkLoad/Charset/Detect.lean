import BulkLoad.Charset.Escapes
import BulkLoad.Charset.Hebrew
import BulkLoad.Charset.Letters.Bulgarian
import BulkLoad.Charset.Letters.Greek
import BulkLoad.Charset.Letters.Russian
import BulkLoad.Charset.Letters.Thai
import BulkLoad.Charset.Letters.Turkish
import BulkLoad.Charset.Multibyte
import BulkLoad.Charset.Western

/-!
The label of the encoding that a sample of bytes is probably in.

A byte-order mark decides. A sample of ASCII bytes and no-break spaces is searched for escape
sequences. Any other is examined for every candidate, and the one that settles the matter, or the
best of those above a threshold, gives its name. Nothing found, and anything that is ASCII or UTF-8,
is called `utf-8`.
-/
namespace BulkLoad.Charset

/-- The byte-order marks, longer ones first, and what they are called. -/
def markNames : List (List UInt8 × String) :=
  [([0xEF, 0xBB, 0xBF], "utf-8-sig"), ([0xFF, 0xFE, 0x00, 0x00], "utf-32le"),
    ([0x00, 0x00, 0xFE, 0xFF], "utf-32be"), ([0xFE, 0xFF, 0x00, 0x00], "x-iso-10646-ucs-4-3412"),
    ([0x00, 0x00, 0xFF, 0xFE], "x-iso-100646-ucs-4-2143"), ([0xFF, 0xFE], "utf-16le"),
    ([0xFE, 0xFF], "utf-16be")]

def singleByte : List (List UInt8 → Candidate) :=
  (Letters.russian ++ Letters.greek ++ Letters.bulgarian ++ [Letters.thai, Letters.turkish]).map
      Letters.examine ++
    [Hebrew.examine Hebrew.readingOrder, Hebrew.examine Hebrew.displayOrder]

def candidates : List (List UInt8 → Candidate) :=
  Multibyte.candidates ++ singleByte ++ [Western.examine]

def threshold : Confidence := percent 20

def find? (sample : List UInt8) : Option String :=
  match markNames.find? fun mark => mark.1.isPrefixOf sample with
  | some mark => some mark.2
  | none =>
    if sample.any Words.isTelling then
      match examineAll sample candidates with
      | .error settled => some settled.name
      | .ok all => ((best? all).filter fun c => threshold < c.confidence).map (·.name)
    else if Escapes.present sample then Escapes.detect? sample
    else none

/-- The label for what was found; the kinds of UTF-8 have one label. -/
def labelOf : Option String → String
  | none => "utf-8"
  | some "utf-8-sig" => "utf-8"
  | some name => name

def detect (sample : List UInt8) : String := labelOf (find? sample)

end BulkLoad.Charset
