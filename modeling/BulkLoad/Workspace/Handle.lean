import BulkLoad.Workspace.Basic

/-!
Opened files: reading and writing at a position, and whole files at once.

A handle stays with the file that it was opened for; what others do to the file shows in the next
read.
-/
namespace BulkLoad

namespace Workspace

variable (w : Workspace)

def handleAt? (place : List String) : Option Handle :=
  match deviceAt? place with
  | some d => some (.device d)
  | none =>
    if w.isDirectory place then some (.directory place)
    else (w.bytesAt? place).map fun _ => .file place

def openFile (path : String) : Except FileFault Handle :=
  match w.locate path with
  | .error fault => .error fault
  | .ok l =>
    match w.handleAt? l.place with
    | none => .error .notFound
    | some (.directory place) => .ok (.directory place)
    | some h => if l.directory then .error .notDirectory else .ok h

def create (path : String) : Except FileFault (Handle × Workspace) :=
  match w.locate path with
  | .error fault => .error fault
  | .ok l =>
    match w.handleAt? l.place with
    | some (.directory _) => .error .isDirectory
    | some h => if l.directory then .error .notDirectory else .ok (h, w)
    | none => if l.directory then .error .isDirectory else .ok (.file l.place, w.put l.place [])

def truncate : Handle → Workspace
  | .file place => w.put place []
  | _ => w

def breakOf? (h : Handle) : Option (Nat × FileFault) := (w.breaks.find? (·.1 == h)).map (·.2)

/-- What a read gives of a stream at a position: the rest of the piece in which it lies, as much as
there is room for. -/
def pieceAt (position room : Nat) : List (List UInt8) → List UInt8
  | [] => []
  | piece :: rest =>
    if position < piece.length then (piece.drop position).take room
    else pieceAt (position - piece.length) room rest

def heldAt (h : Handle) (position room : Nat) : Except FileFault (List UInt8) :=
  match h with
  | .file place => .ok ((((w.bytesAt? place).getD []).drop position).take room)
  | .device .input => .ok (pieceAt position room w.input)
  | .device _ => .ok []
  | .directory _ => .error .isDirectory

/-- Reads once from an opened file at a position, into so much room. No read goes over a break. -/
def readAt (h : Handle) (position room : Nat) : Except FileFault (List UInt8) :=
  match w.breakOf? h with
  | some (after, fault) =>
    if after ≤ position then .error fault else w.heldAt h position (min room (after - position))
  | none => w.heldAt h position room

def held : Handle → Except FileFault (List UInt8)
  | .file place => .ok ((w.bytesAt? place).getD [])
  | .device .input => .ok w.input.flatten
  | .device _ => .ok []
  | .directory _ => .error .isDirectory

def readAll (h : Handle) : Except FileFault (List UInt8) :=
  match w.held h, w.breakOf? h with
  | .ok bytes, some (after, fault) => if after ≤ bytes.length then .error fault else .ok bytes
  | answer, _ => answer

/-- Writes bytes into an opened file at a position; zeros fill the space before it. -/
def writeAt (h : Handle) (position : Nat) (bytes : List UInt8) : Except FileFault Workspace :=
  match h with
  | .file place =>
    let old := (w.bytesAt? place).getD []
    let front := old.take position
    let gap := List.replicate (position - front.length) 0
    .ok (w.put place (front ++ gap ++ bytes ++ old.drop (position + bytes.length)))
  | .device .full => if bytes.isEmpty then .ok w else .error .noSpace
  | .device .output => .ok { w with output := w.output ++ bytes }
  | .device .errors => .ok { w with errors := w.errors ++ bytes }
  | .device _ => .ok w
  | .directory _ => .error .isDirectory

def read (path : String) : Except FileFault (List UInt8) :=
  match w.openFile path with
  | .error fault => .error fault
  | .ok h => w.readAll h

def readText (path : String) : Except FileFault String :=
  match w.read path with
  | .error fault => .error fault
  | .ok bytes =>
    match Encoding.Utf8.ofBytes? bytes with
    | some text => .ok text
    | none => .error .notText

def write (path : String) (bytes : List UInt8) : Except FileFault Workspace :=
  match w.create path with
  | .error fault => .error fault
  | .ok (h, w) => (w.truncate h).writeAt h 0 bytes

end Workspace

end BulkLoad
