import BulkLoad.Charset.Detect
import BulkLoad.Delimited.Delimiter
import BulkLoad.Delimited.Rows
import BulkLoad.Encoding.Label
import BulkLoad.Record
import BulkLoad.Schema.Basic
import BulkLoad.Stream.Transcoder

/-!
Sources: delimited text with a header row, read as records.

The first piece that arrives is the sample from which encoding and delimiter are found, unless
they are given. Fields beyond the header get names by their position. The records come in order; a
failure of the stream comes after the rows that were complete before it.
-/
namespace BulkLoad

/-- Why an input cannot be read. -/
inductive SourceFault where
  | unopened (path cause : String)
  | unreadable (line : Nat) (message : String)
  | noHeaders
  | badDelimiter (c : Char)
  deriving DecidableEq, Repr

namespace SourceFault

def message : SourceFault → String
  | .unopened path cause => "Cannot open input '" ++ path ++ "': " ++ cause
  | .unreadable line message =>
    "Failed to read input at line " ++ Decimal.text line ++ ": " ++ message
  | .noHeaders => "Input has no header row"
  | .badDelimiter c =>
    "Delimiter must be a single ASCII character, got '" ++ String.singleton c ++ "'"

def cause? : SourceFault → Option String
  | .unopened _ cause => some cause
  | _ => none

end SourceFault

/-- How to read an input; what is not given is found out. -/
structure SourceOptions where
  delimiter : Option Char
  encoding : Option String
  deriving Repr

structure SourceInfo where
  encoding : String
  delimiter : Char
  headers : List String
  deriving DecidableEq, Repr

/-- The columns that records fill and the header row does not name. -/
def SourceInfo.missingColumns (i : SourceInfo) (schema : Schema) : List String :=
  (schema.dataColumns.map (·.name)).filter fun name => !i.headers.contains name

structure Source where
  info : SourceInfo
  rows : List Delimited.Row
  /-- How the stream failed after the rows, if it did. -/
  failure : Option String
  deriving DecidableEq, Repr

namespace Source

variable [Encoding.EastAsian.Decoders]

def sampleSize : Nat := 65536

def labelOf (options : SourceOptions) (sample : List UInt8) : String :=
  options.encoding.getD (Charset.detect sample)

/-- The delimiter of a sample: the one given, or the one found on the first line. -/
def delimiterOf (options : SourceOptions) (encoding : Encoding) (sample : List UInt8) : Char :=
  options.delimiter.getD (Delimited.detectDelimiter (Text.firstLine (encoding.decode sample)))

def delimiterByte? (c : Char) : Option UInt8 :=
  if c.toNat < 0x80 then some c.toNat.toUInt8 else none

def markChar : Char := '\ufeff'

def headerName (field : List UInt8) : String :=
  String.ofList
    (Text.trimBoth Text.isBlank ((Encoding.Utf8.decode field).dropWhile (· == markChar)))

/-- The name of the field at a place beyond the header, counted from zero. -/
def extraName (place : Nat) : String := "_" ++ Decimal.text (place + 1)

def textFeed (encoding : Encoding) (feed : Stream.Feed) : Stream.Feed :=
  Delimited.asRead
    (match encoding with
      | .utf8 => feed
      | _ => feed.transcode encoding)

structure Manner where
  encoding : Encoding
  delimiter : Char
  byte : UInt8

/-- How a sample is to be read, as far as that is given, and else found out. -/
def manner (options : SourceOptions) (sample : List UInt8) : Except SourceFault Manner :=
  let encoding := Encoding.ofLabel (labelOf options sample)
  let delimiter := delimiterOf options encoding sample
  match delimiterByte? delimiter with
  | none => .error (.badDelimiter delimiter)
  | some byte => .ok ⟨encoding, delimiter, byte⟩

/-- What the first rows say about an input: the header, and the rows after it. -/
def ofFirstRows (m : Manner) (rows : List Delimited.Row) (failure : Option String) :
    Except SourceFault Source :=
  let open? (headers : List String) (rows : List Delimited.Row) : Except SourceFault Source :=
    if headers.all (·.isEmpty) then .error .noHeaders
    else .ok ⟨⟨m.encoding.name.map Char.toLower, m.delimiter, headers⟩, rows, failure⟩
  match rows, failure with
  | [], some message => .error (.unreadable 0 message)
  | [], none => open? [] []
  | header :: rows, _ => open? (header.fields.map headerName) rows

def ofFeed (options : SourceOptions) (feed : Stream.Feed) : Except SourceFault Source :=
  match feed.pieces, feed.failure with
  | [], some message => .error (.unreadable 1 message)
  | [], none => .error .noHeaders
  | sample :: _, _ =>
    match manner options sample with
    | .error fault => .error fault
    | .ok m =>
      let text := textFeed m.encoding feed
      ofFirstRows m (Delimited.rows m.byte text) text.failure

def ofReader (options : SourceOptions) (reader : Stream.Reader) : Except SourceFault Source :=
  ofFeed options (reader.feed sampleSize)

def missingColumns (s : Source) (schema : Schema) : List String := s.info.missingColumns schema

def nameFields (place : Nat) : List String → List (List UInt8) → List (String × String)
  | _, [] => []
  | [], field :: fields =>
    (extraName place, Encoding.Utf8.decodeText field) :: nameFields (place + 1) [] fields
  | header :: headers, field :: fields =>
    (header, Encoding.Utf8.decodeText field) :: nameFields (place + 1) headers fields

def recordUnder (headers : List String) (row : Delimited.Row) : Record :=
  ⟨row.line, nameFields 0 headers row.fields⟩

def records (s : Source) : List Record := s.rows.map (recordUnder s.info.headers)

def faultOf (failure : Option String) : Option SourceFault := failure.map (.unreadable 0)

def fault? (s : Source) : Option SourceFault := faultOf s.failure

def items (s : Source) : List (Except SourceFault Record) :=
  s.records.map .ok ++ (s.fault?.map .error).toList

end Source

end BulkLoad
