import BulkLoad.Stream.Reader
import BulkLoad.Text.Blank

/-!
Rows of delimited text, byte by byte.

Carriage returns and line feeds end rows, and rows without any byte are no rows. A field that starts
with a quote runs to the closing one, delimiters and line ends included, and a quote inside is
written twice; what follows the closing quote up to the delimiter belongs to the field as it stands.
A row is found on the line after those that were complete when the row before it ended.
-/
namespace BulkLoad.Delimited

def lineFeed : UInt8 := 0x0A

def carriageReturn : UInt8 := 0x0D

def quote : UInt8 := 0x22

def endsRow (b : UInt8) : Bool := b == lineFeed || b == carriageReturn

/-- A row: the line it was found on and its fields, blanks around them removed. -/
structure Row where
  line : Nat
  fields : List (List UInt8)
  deriving DecidableEq, Repr

/-- Where a reader of rows stands between two bytes. -/
inductive Phase where
  | outside
  | afterReturn
  | fieldStart
  /-- Inside a field without quotes, or after the closing quote. -/
  | plain
  | quoted
  /-- After a quote that closes a field or is the first of two. -/
  | afterQuote
  deriving DecidableEq, Repr

structure RowState where
  phase : Phase
  /-- The current field, backwards. -/
  field : List UInt8
  fields : List (List UInt8)
  lineFeeds : Nat
  /-- The line on which the current row was found. -/
  line : Nat
  deriving DecidableEq, Repr

namespace RowState

def start : RowState := ⟨.outside, [], [], 0, 1⟩

def push (s : RowState) (phase : Phase) (b : UInt8) : RowState :=
  { s with phase := phase, field := b :: s.field }

def endField (s : RowState) : RowState :=
  { s with phase := .fieldStart, field := [], fields := s.field.reverse :: s.fields }

def row (s : RowState) : Row :=
  ⟨s.line,
    (s.field.reverse :: s.fields).reverse.map (Text.trimBoth Text.isFieldBlank)⟩

def endRow (s : RowState) (phase : Phase) : RowState × Option Row :=
  (⟨phase, [], [], s.lineFeeds, s.lineFeeds + 1⟩, some s.row)

def afterText (delimiter : UInt8) (s : RowState) (b : UInt8) : RowState × Option Row :=
  if b == delimiter then (s.endField, none)
  else if b == lineFeed then s.endRow .outside
  else if b == carriageReturn then s.endRow .afterReturn
  else (s.push .plain b, none)

def startField (delimiter : UInt8) (s : RowState) (b : UInt8) : RowState × Option Row :=
  if b == quote then ({ s with phase := .quoted }, none) else afterText delimiter s b

def react (delimiter : UInt8) (s : RowState) (b : UInt8) : RowState × Option Row :=
  match s.phase with
  | .outside =>
    if endsRow b then (s, none) else startField delimiter s b
  | .afterReturn =>
    if endsRow b then ({ s with phase := .outside }, none) else startField delimiter s b
  | .fieldStart => startField delimiter s b
  | .plain => afterText delimiter s b
  | .quoted =>
    if b == quote then ({ s with phase := .afterQuote }, none) else (s.push .quoted b, none)
  | .afterQuote =>
    if b == quote then (s.push .quoted b, none) else afterText delimiter s b

/-- Reads a byte: the state after it, and the row that it ends. -/
def step (delimiter : UInt8) (s : RowState) (b : UInt8) : RowState × Option Row :=
  react delimiter { s with lineFeeds := s.lineFeeds + if b == lineFeed then 1 else 0 } b

/-- The row that the end of the input ends. -/
def finish (s : RowState) : Option Row :=
  match s.phase with
  | .outside | .afterReturn => none
  | _ => some s.row

/-- Reads bytes: the state after them, and before `done` the rows that they end, last one first. -/
def feedOnto (delimiter : UInt8) (s : RowState) (done : List Row) :
    List UInt8 → RowState × List Row
  | [] => (s, done)
  | b :: rest =>
    let (s, row?) := s.step delimiter b
    feedOnto delimiter s (row?.toList ++ done) rest

end RowState

def mark : List UInt8 := [0xEF, 0xBB, 0xBF]

/-- A first piece without the mark, if it holds the mark whole. -/
def unmark (first : List UInt8) : List UInt8 :=
  if mark.isPrefixOf first then first.drop mark.length else first

def unmarked : List (List UInt8) → List UInt8
  | [] => []
  | first :: rest => unmark first ++ rest.flatten

/-- A feed as it is read: a first piece that is the mark and nothing else is taken for the end. -/
def asRead (feed : Stream.Feed) : Stream.Feed :=
  match feed.pieces with
  | first :: _ => if first = mark then ⟨[], none⟩ else feed
  | [] => feed

/-- The rows of bytes. The last one counts if the input came to its end. -/
def rowsOf (delimiter : UInt8) (bytes : List UInt8) (complete : Bool) : List Row :=
  let (s, rows) := RowState.start.feedOnto delimiter [] bytes
  ((if complete then s.finish.toList else []) ++ rows).reverse

/-- The rows of a feed; what a failure cuts off is no row. -/
def rows (delimiter : UInt8) (feed : Stream.Feed) : List Row :=
  rowsOf delimiter (unmarked feed.pieces) feed.failure.isNone

end BulkLoad.Delimited
