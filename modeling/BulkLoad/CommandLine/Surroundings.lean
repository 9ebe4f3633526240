import BulkLoad.Calendar
import BulkLoad.CommandLine.Request
import BulkLoad.Engine.Program
import BulkLoad.Environment.Basic
import BulkLoad.Load.Files

/-!
What a command finds around it and what it leaves behind.
-/
namespace BulkLoad.CommandLine

structure Surroundings where
  /-- The files, and what comes from the standard input. -/
  files : Workspace
  environment : Environment
  launch : Environment → Launcher Workspace
  startedAt : Instant
  finishedAt : Instant
  runId : String

inductive Told where
  | event (e : Event)
  /-- What went there by way of the stream's device. -/
  | text (bytes : List UInt8)

/-- What the error stream was given by way of its device between two states of the files. -/
def Told.between (before after : Workspace) : Told :=
  .text (after.errors.drop before.errors.length)

structure Ending where
  status : Nat
  output : String
  told : List Told
  files : Workspace

namespace Ending

def success : Nat := 0

def failure : Nat := 1

def partially : Nat := 2

def failed (fault : LoadFault) (output : String) (told : List Told) (files : Workspace) : Ending :=
  ⟨failure, output, told ++ [.event (.failure fault.chain)], files⟩

end Ending

def TargetChoice.chosen (t : TargetChoice) (files : Workspace) :
    Except DefinitionFault Definition :=
  match t.definition with
  | some path => Definition.ofFile files path
  | none => .ok .canonical

/-- The files after the definition that was chosen was read: the standard input gives its bytes only
once. -/
def TargetChoice.filesAfter (t : TargetChoice) (files : Workspace) : Workspace :=
  match t.definition.map files.openFile with
  | some (.ok (.device .input)) => { files with input := [] }
  | _ => files

/-- The definition that was chosen, under the name that was chosen for it. -/
def TargetChoice.resolve (t : TargetChoice) (files : Workspace) : Except LoadFault Definition :=
  match t.chosen files with
  | .error fault => .error (.definition fault)
  | .ok d =>
    match t.table with
    | none => .ok d
    | some name =>
      match d.renamed name with
      | .error fault => .error (.definition (.invalid fault))
      | .ok d => .ok d

namespace Input

def opening : Input → Event
  | .standard => .info "📖 Reading stdin"
  | .file path => .info ("📖 Reading " ++ path)

def openHandle (i : Input) (files : Workspace) : Except SourceFault Handle :=
  match i with
  | .standard => .ok (.device .input)
  | .file path => SourceFault.opening files path

variable [Encoding.EastAsian.Decoders]

/-- Opens an input as a source, within so many reads. -/
def openSource (i : Input) (options : SourceOptions) (files : Workspace) (reads : Nat) :
    Option (Except SourceFault (Handle × OpenSource)) :=
  match i.openHandle files with
  | .error fault => some (.error fault)
  | .ok handle =>
    (OpenSource.ofReads options (files.block handle) reads).map fun opened =>
      match opened with
      | .error fault => .error fault
      | .ok source => .ok (handle, source)

def found (info : SourceInfo) : Event :=
  .success (Decimal.text info.headers.length ++ " columns, encoding " ++ info.encoding ++
    ", delimiter '" ++ Delimited.showDelimiter info.delimiter ++ "'")

def path? : Input → Option String
  | .standard => none
  | .file path => some path

end Input

end BulkLoad.CommandLine
