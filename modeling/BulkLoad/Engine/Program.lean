import BulkLoad.Encoding.Utf8
import BulkLoad.Engine.Basic
import BulkLoad.Text.Search

/-!
The engine that runs a program for each query, with the database and the query as its arguments.

How programs run is left open: a launcher gives what a program prints and how it ends, or why it
does not start, and may change a state that programs share. A text in what the program prints can
mark a failure that its exit status does not show.
-/
namespace BulkLoad

/-- The end of a program: its exit status unless a signal ended it, and what it printed. -/
structure Finished where
  exitCode : Option Int
  output : List UInt8
  errors : List UInt8
  deriving DecidableEq, Repr

/-- Runs the named program with arguments, or says why it does not start. -/
abbrev Launcher (σ : Type) := String → List String → σ → Except String Finished × σ

structure ProgramEngine where
  binary : String
  marker : Option String
  deriving DecidableEq, Repr

namespace ProgramEngine

def defaultBinary : String := "elena"

/-- The program that an environment variable names, unless it is blank. -/
def binaryOf (named : Option String) : String :=
  match named with
  | some name => if Text.allBlank name then defaultBinary else name
  | none => defaultBinary

/-- The same program with a marker of failures; an empty text marks none. -/
def withMarker (e : ProgramEngine) (marker : String) : ProgramEngine :=
  { e with marker := if marker.isEmpty then none else some marker }

def marks (e : ProgramEngine) (text : String) : Bool :=
  match e.marker with
  | some marker => Text.contains text marker
  | none => false

def invocation (e : ProgramEngine) (f : Finished) : Invocation :=
  let output := Encoding.Utf8.decodeText f.output
  let errors := Encoding.Utf8.decodeText f.errors
  ⟨f.exitCode, output, errors, e.marks output || e.marks errors⟩

def hasNul (text : String) : Bool := text.toList.contains '\x00'

def nulCause : String := "nul byte found in provided data"

def run {σ : Type} (e : ProgramEngine) (launch : Launcher σ) (database : String) (query : Query)
    (state : σ) : Except EngineFault Invocation × σ :=
  if [e.binary, database, query.text].any hasNul then (.error (.launch e.binary nulCause), state)
  else
    match launch e.binary [database, query.text] state with
    | (.error cause, state) => (.error (.launch e.binary cause), state)
    | (.ok finished, state) => (.ok (e.invocation finished), state)

def engine {σ : Type} (e : ProgramEngine) (launch : Launcher σ) : Engine σ where
  invoke := e.run launch
  finish state := (.ok [], state)

end ProgramEngine

end BulkLoad
