import BulkLoad.Source.Basic

/-!
Sources that are read while their records are used.

The input is read in blocks, and a block is asked for only when the rows of those before it are used
up. So whoever changes the input meanwhile changes the later records. An input may go on for ever:
every wait is for so many reads, and has no result if the input goes on after them.
-/
namespace BulkLoad

variable [Encoding.EastAsian.Decoders]

inductive Inflow where
  | running
  | ended
  | failed (message : String)
  deriving DecidableEq, Repr

structure Intake where
  encoding : Encoding
  delimiter : UInt8
  /-- Where the decoder stands, unless the input is UTF-8 and needs none. -/
  decoder : Encoding.Sniffing
  begun : Bool
  row : Delimited.RowState
  position : Nat
  inflow : Inflow

namespace Intake

def start (m : Source.Manner) : Intake :=
  ⟨m.encoding, m.byte, .undecided [], false, .start, 0, .running⟩

/-- Reads text: the rows that it completes. -/
def takeText (i : Intake) (text : List UInt8) : Intake × List Delimited.Row :=
  if text.isEmpty then (i, [])
  else if !i.begun && text == Delimited.mark then ({ i with inflow := .ended }, [])
  else
    let text := if i.begun then text else Delimited.unmark text
    let (row, rows) := i.row.feedOnto i.delimiter [] text
    ({ i with row := row, begun := true }, rows.reverse)

def close (i : Intake) : Intake × List Delimited.Row :=
  match i.inflow with
  | .running => ({ i with inflow := .ended }, i.row.finish.toList)
  | _ => (i, [])

def takeBlock (i : Intake) (block : List UInt8) : Intake × List Delimited.Row :=
  let i := { i with position := i.position + block.length }
  match i.encoding with
  | .utf8 => i.takeText block
  | encoding =>
    let (decoder, text) := encoding.decoder.feed i.decoder block
    { i with decoder := decoder }.takeText (Encoding.Utf8.encode text)

def takeEnd (i : Intake) : Intake × List Delimited.Row :=
  match i.encoding with
  | .utf8 => i.close
  | encoding =>
    let (i, rows) := i.takeText (Encoding.Utf8.encode (Encoding.Sniffing.finish encoding i.decoder))
    let (i, last) := i.close
    (i, rows ++ last)

def take (i : Intake) : Stream.Answer → Intake × List Delimited.Row
  | .error message => ({ i with inflow := .failed message }, [])
  | .ok [] => i.takeEnd
  | .ok block => i.takeBlock block

def failure? (i : Intake) : Option String :=
  match i.inflow with
  | .failed message => some message
  | _ => none

def isRunning (i : Intake) : Bool :=
  match i.inflow with
  | .running => true
  | _ => false

/-- Reads blocks until a row is complete or none can be; `read` answers at a position. -/
def await (read : Nat → Stream.Answer) : Nat → Intake → Option (Intake × List Delimited.Row)
  | reads, i =>
    if i.isRunning then
      match reads with
      | 0 => none
      | reads + 1 =>
        match i.take (read i.position) with
        | (i, []) => await read reads i
        | (i, rows) => some (i, rows)
    else some (i, [])

end Intake

/-- An opened source whose input is still being read: the rows that are there, and the input. -/
structure OpenSource where
  info : SourceInfo
  rows : List Delimited.Row
  intake : Intake

namespace OpenSource

def ofFirstRows (m : Source.Manner) (first : Intake × List Delimited.Row) :
    Except SourceFault OpenSource :=
  match Source.ofFirstRows m first.2 first.1.failure? with
  | .error fault => .error fault
  | .ok s => .ok ⟨s.info, s.rows, first.1⟩

def ofReads (options : SourceOptions) (read : Nat → Stream.Answer) (reads : Nat) :
    Option (Except SourceFault OpenSource) :=
  match read 0 with
  | .error message => some (.error (.unreadable 1 message))
  | .ok [] => some (.error .noHeaders)
  | .ok sample =>
    match Source.manner options sample with
    | .error fault => some (.error fault)
    | .ok m =>
      match (Intake.start m).takeBlock sample with
      | (i, []) => (i.await read reads).map (ofFirstRows m)
      | first => some (ofFirstRows m first)

/-- What the rows that are there give: records, and the fault of the stream after them. -/
def items (s : OpenSource) : List (Except SourceFault Record) :=
  s.rows.map (fun row => .ok (Source.recordUnder s.info.headers row)) ++
    ((Source.faultOf s.intake.failure?).map .error).toList

/-- Goes on with the next block, after the rows that are there were used. -/
def advance (s : OpenSource) (answer : Stream.Answer) : OpenSource :=
  let (i, rows) := s.intake.take answer
  { s with rows := rows, intake := i }

/-- The source with all of its rows, if nobody changes the input meanwhile. -/
def readOut (read : Nat → Stream.Answer) :
    Nat → OpenSource → List (List Delimited.Row) → Option Source
  | reads, s, done =>
    if s.intake.isRunning then
      match reads with
      | 0 => none
      | reads + 1 => readOut read reads (s.advance (read s.intake.position)) (s.rows :: done)
    else some ⟨s.info, (s.rows :: done).reverse.flatten, s.intake.failure?⟩

def missingColumns (s : OpenSource) (schema : Schema) : List String :=
  s.info.missingColumns schema

end OpenSource

end BulkLoad
