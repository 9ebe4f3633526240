import BulkLoad.Engine.Script
import BulkLoad.Workspace.Handle

/-!
The engine that writes a script into a file.

What is written is held back until there is enough of it, or until the script is closed. Text that
is as long as all that may be held back goes into the file at once.
-/
namespace BulkLoad

structure ScriptFile where
  label : String
  file : Handle
  written : List (List UInt8)
  /-- What is held back, the last part first, and its length. -/
  held : List (List UInt8)
  heldLength : Nat
  count : Nat
  deriving DecidableEq, Repr

namespace ScriptFile

def empty (label : String) (file : Handle) : ScriptFile := ⟨label, file, [], [], 0, 0⟩

/-- How many bytes may be held back. -/
def capacity : Nat := 8192

def emit (s : ScriptFile) (bytes : List UInt8) : Except FileFault ScriptFile :=
  match s.file with
  | .device .full => if bytes.isEmpty then .ok s else .error .noSpace
  | _ => .ok { s with written := bytes :: s.written }

def flush (s : ScriptFile) : Except FileFault ScriptFile :=
  { s with held := [], heldLength := 0 }.emit s.held.reverse.flatten

def hold (s : ScriptFile) (bytes : List UInt8) : ScriptFile :=
  { s with held := bytes :: s.held, heldLength := s.heldLength + bytes.length }

/-- Takes bytes: they are held back if there is room for them, after a flush if need be. -/
def accept (s : ScriptFile) (bytes : List UInt8) : Except FileFault ScriptFile :=
  let room := capacity - s.heldLength
  if bytes.length ≤ room && bytes.length < capacity then .ok (s.hold bytes)
  else
    match if room < bytes.length then s.flush else .ok s with
    | .error fault => .error fault
    | .ok s => if capacity ≤ bytes.length then s.emit bytes else .ok (s.hold bytes)

def refused (s : ScriptFile) (fault : FileFault) : EngineFault := .script s.label fault.message

def write (query : Query) (s : ScriptFile) : Except EngineFault Invocation × ScriptFile :=
  if Script.hasBreak query.text then (.ok Script.refusal, s)
  else
    match s.accept (Encoding.Utf8.encodeText query.text) with
    | .error fault => (.error (s.refused fault), s)
    | .ok s =>
      match s.accept [0x0A] with
      | .error fault => (.error (s.refused fault), s)
      | .ok s => (.ok (.ok ""), { s with count := s.count + 1 })

def close (s : ScriptFile) : Except EngineFault (List Event) × ScriptFile :=
  match s.flush with
  | .error fault => (.error (s.refused fault), s)
  | .ok s => (.ok [Script.closing s.label s.count], s)

def engine : Engine ScriptFile where
  invoke _ query s := s.write query
  finish s := s.close

def bytes (s : ScriptFile) : List UInt8 := s.written.reverse.flatten

/-- The bytes of an opened file from a position on, if this is the script's file or another. -/
def readAt (s : ScriptFile) (files : Workspace) (file : Handle) (position room : Nat) :
    Except FileFault (List UInt8) :=
  match file with
  | .file _ =>
    if file = s.file then .ok ((s.bytes.drop position).take room)
    else files.readAt file position room
  | _ => files.readAt file position room

/-- The files after the script was left behind; what is held back is written if it can be. -/
def leave (s : ScriptFile) (files : Workspace) : Workspace :=
  let s := match s.flush with
    | .ok s => s
    | .error _ => s
  match files.writeAt s.file 0 s.bytes with
  | .ok files => files
  | .error _ => files

def create (files : Workspace) (path : String) : Except EngineFault (ScriptFile × Workspace) :=
  match files.create path with
  | .error fault => .error (.script path fault.message)
  | .ok (file, files) => .ok (empty path file, files.truncate file)

end ScriptFile

end BulkLoad
