import BulkLoad.Engine.ScriptFile
import BulkLoad.Load.Run
import BulkLoad.Load.Summary

/-!
The files of a load: the definition and the input that it reads, the script and the report that it
writes.
-/
namespace BulkLoad

def Definition.ofFile (files : Workspace) (path : String) : Except DefinitionFault Definition :=
  match files.readText path with
  | .error fault => .error (.unreadable path fault.message)
  | .ok text => Definition.ofText text

def Stream.answerOf (r : Except FileFault (List UInt8)) : Stream.Answer :=
  match r with
  | .error fault => .error fault.message
  | .ok bytes => .ok bytes

/-- The answer to a read of an opened file at a position: a block. -/
def Workspace.block (w : Workspace) (file : Handle) (position : Nat) : Stream.Answer :=
  Stream.answerOf (w.readAt file position Source.sampleSize)

def ScriptFile.block (files : Workspace) (file : Handle) (s : ScriptFile) (position : Nat) :
    Stream.Answer :=
  Stream.answerOf (s.readAt files file position Source.sampleSize)

def SourceFault.opening (files : Workspace) (path : String) : Except SourceFault Handle :=
  match files.openFile path with
  | .error fault => .error (.unopened path fault.message)
  | .ok file => .ok file

def Report.save (r : Report) (files : Workspace) (path : String) : Except LoadFault Workspace :=
  match files.write path (Encoding.Utf8.encodeText r.text) with
  | .error fault => .error (.report path fault.message)
  | .ok files => .ok files

namespace Job

variable [Encoding.EastAsian.Decoders]

/-- Opens a file and loads it into a script, which is there already, within so many reads. -/
def loadFile (job : Job) (options : SourceOptions) (files : Workspace) (path : String)
    (script : ScriptFile) (reads : Nat) : Option (Run ScriptFile) :=
  let opening := Event.info ("📖 Reading " ++ path)
  let failed (fault : SourceFault) : Run ScriptFile :=
    ⟨.error (.source fault), [opening], ⟨script, .schemaPending⟩⟩
  match SourceFault.opening files path with
  | .error fault => some (failed fault)
  | .ok file =>
    match OpenSource.ofReads options (files.block file) reads with
    | none => none
    | some (.error fault) => some (failed fault)
    | some (.ok source) =>
      let found := Event.success ("Encoding: " ++ source.info.encoding ++ ", delimiter: '" ++
        Delimited.showDelimiter source.info.delimiter ++ "'")
      let run := job.loadOpen ScriptFile.engine script (ScriptFile.block files file) reads source
      run.map fun r => { r with events := opening :: found :: r.events }

end Job

end BulkLoad
