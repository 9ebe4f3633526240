import BulkLoad.Encoding.Basic
import BulkLoad.Encoding.CodePage.Table

/-!
The decoder of each encoding, and the byte-order mark.

A byte-order mark at the start of the input is dropped and decides the encoding, whatever was asked
for. Bytes that may still become a mark are held back until that is settled.

The East Asian encodings go by tables of the Encoding Standard that are not part of this library:
their decoders are left open, but for what comes of an input that ends.
-/
namespace BulkLoad.Encoding

/-- A decoder that looks at one byte at a time and remembers nothing. -/
def Machine.bytewise (charOf : UInt8 → Char) : Machine where
  State := Unit
  start := ()
  step _ b := ((), [charOf b])
  finish _ := []

/-- One replacement character for an input that is not empty; the state says whether it is out. -/
def Machine.refusing : Machine where
  State := Bool
  start := false
  step out _ := (true, if out then [] else [replacementChar])
  finish _ := []

/-- The decoders of the East Asian encodings, and what is known of the end of an input in them. -/
class EastAsian.Decoders where
  machine : EastAsian → Machine
  finish_start (set : EastAsian) : (machine set).finish (machine set).start = []
  /-- What the input cuts off is one replacement character. ISO-2022-JP alone reads the byte behind
  a cut-off escape once more, for a character of its own. -/
  finish_cases (set : EastAsian) (state : (machine set).State) :
    (machine set).finish state = [] ∨ (machine set).finish state = [replacementChar] ∨
      set = .iso2022Jp ∧ ∃ c, (machine set).finish state = [replacementChar, c]

variable [EastAsian.Decoders]

def machine : Encoding → Machine
  | .utf8 => Utf8.machine
  | .utf16 order => Utf16.machine order
  | .codePage page => Machine.bytewise (CodePage.charOf page.upperTable)
  | .eastAsian set => EastAsian.Decoders.machine set
  | .replacement => Machine.refusing
  | .userDefined =>
    Machine.bytewise fun b =>
      if b < 0x80 then Char.ofNat b.toNat else Char.ofNat (0xF700 + b.toNat)

/-- The byte-order marks and the encodings that they announce. -/
def marks : List (List UInt8 × Encoding) :=
  [([0xEF, 0xBB, 0xBF], .utf8), ([0xFF, 0xFE], .utf16 .littleEndian),
    ([0xFE, 0xFF], .utf16 .bigEndian)]

/-- Whether more bytes could turn these into a byte-order mark. -/
def mayBecomeMark (bytes : List UInt8) : Bool :=
  marks.any fun mark => bytes.isPrefixOf mark.1

inductive Sniffing where
  /-- It is open whether the input starts with a mark; these bytes may begin one. -/
  | undecided (held : List UInt8)
  | decided (encoding : Encoding) (state : encoding.machine.State)

namespace Sniffing

def release (encoding : Encoding) (held : List UInt8) : Sniffing × List Char :=
  let (state, text) := encoding.machine.feed encoding.machine.start held
  (.decided encoding state, text)

/-- Reads one byte of an input that is in `encoding` unless a mark says otherwise. -/
def step (encoding : Encoding) : Sniffing → UInt8 → Sniffing × List Char
  | .undecided held, b =>
    match marks.find? (·.1 == held ++ [b]) with
    | some mark => (.decided mark.2 mark.2.machine.start, [])
    | none =>
      if mayBecomeMark (held ++ [b]) then (.undecided (held ++ [b]), [])
      else release encoding (held ++ [b])
  | .decided actual state, b =>
    let (state, text) := actual.machine.step state b
    (.decided actual state, text)

def finish (encoding : Encoding) : Sniffing → List Char
  | .undecided held => encoding.machine.decode held
  | .decided actual state => actual.machine.finish state

end Sniffing

def decoder (encoding : Encoding) : Machine where
  State := Sniffing
  start := .undecided []
  step := Sniffing.step encoding
  finish := Sniffing.finish encoding

def decode (encoding : Encoding) (bytes : List UInt8) : List Char :=
  encoding.decoder.decode bytes

end BulkLoad.Encoding
