import BulkLoad.Decimal.Basic
import BulkLoad.Encoding.Utf8

/-!
The files that a load may touch, a directory with files by name and the devices of the system, and
what can be wrong with one of them, as the system words it.

A path is followed part by part, as a file system does: every part but the last must be a
directory. The directories above the workspace exist, and so do the root and the best known ones
under it.
-/
namespace BulkLoad

inductive FileFault where
  | notFound
  | broken
  | denied
  | notDirectory
  | isDirectory
  | noSpace
  | nameTooLong
  | nulInPath
  | notText
  deriving DecidableEq, Repr

namespace FileFault

def words : FileFault → String
  | .notFound => "No such file or directory"
  | .broken => "Input/output error"
  | .denied => "Permission denied"
  | .notDirectory => "Not a directory"
  | .isDirectory => "Is a directory"
  | .noSpace => "No space left on device"
  | .nameTooLong => "File name too long"
  | .nulInPath => "file name contained an unexpected NUL byte"
  | .notText => "stream did not contain valid UTF-8"

def number? : FileFault → Option Nat
  | .notFound => some 2
  | .broken => some 5
  | .denied => some 13
  | .notDirectory => some 20
  | .isDirectory => some 21
  | .noSpace => some 28
  | .nameTooLong => some 36
  | .nulInPath => none
  | .notText => none

/-- The wording of a fault: the system's words and number. -/
def message (f : FileFault) : String :=
  match f.number? with
  | some n => f.words ++ " (os error " ++ Decimal.text n ++ ")"
  | none => f.words

end FileFault

inductive Device where
  | null
  | full
  | input
  | output
  | errors
  deriving DecidableEq, Repr

inductive Handle where
  | file (place : List String)
  | device (d : Device)
  | directory (place : List String)
  deriving DecidableEq, Repr

/-- A directory: each file's path from it, part by part, with its bytes. A path from the root has
the part `/` in front. -/
structure Workspace where
  files : List (List String × List UInt8)
  /-- Directories, apart from those that are there because a file lies under them. -/
  directories : List (List String) := []
  input : List (List UInt8) := []
  output : List UInt8 := []
  errors : List UInt8 := []
  /-- Where the directory lies itself, from the root. -/
  home : List String := ["/", "workspace"]
  /-- Where reading breaks off, if it does: in what, after how many bytes, and with which fault. -/
  breaks : List (Handle × Nat × FileFault) := []
  deriving DecidableEq, Repr

namespace Workspace

def split (path : List Char) : List (List Char) :=
  match path with
  | [] => [[]]
  | c :: rest =>
    match split rest with
    | [] => [[]]
    | part :: parts => if c = '/' then [] :: part :: parts else (c :: part) :: parts

def parts (path : String) : List String := (split path.toList).map String.ofList

variable (w : Workspace)

def above (place : List String) : List String :=
  let place := if place = [] then w.home else place
  if place = ["/"] then place else place.dropLast

/-- The one name of a place: the workspace's directory has no path of its own. -/
def named (place : List String) : List String := if place = w.home then [] else place

def enter (here : List String) (part : String) : List String :=
  if part = "" ∨ part = "." then here
  else w.named (if part = ".." then w.above here else here ++ [part])

def origin (path : String) : List String :=
  if path.toList.head? = some '/' then w.named ["/"] else []

def placeOf (path : String) : List String := (parts path).foldl w.enter (w.origin path)

def ofFiles (files : List (String × List UInt8)) : Workspace where
  files := files.map fun (name, bytes) => (placeOf { files := [] } name, bytes)

def bytesAt? (place : List String) : Option (List UInt8) :=
  (w.files.find? (·.1 == place)).map (·.2)

def systemDirectories : List (List String) :=
  [["/"], ["/", "bin"], ["/", "dev"], ["/", "dev", "fd"], ["/", "etc"], ["/", "home"],
    ["/", "proc"], ["/", "proc", "self"], ["/", "proc", "self", "fd"], ["/", "root"],
    ["/", "sbin"], ["/", "tmp"], ["/", "usr"], ["/", "usr", "bin"], ["/", "usr", "local"],
    ["/", "usr", "local", "bin"], ["/", "usr", "sbin"], ["/", "var"], ["/", "var", "tmp"]]

/-- Whether a place is a directory: the workspace or one above it, one of the system, or whatever
files lie under. -/
def isDirectory (place : List String) : Bool :=
  place.isPrefixOf w.home || systemDirectories.contains place || w.directories.contains place ||
    w.files.any fun file => place.isPrefixOf file.1 && place != file.1

def deviceAt? (place : List String) : Option Device :=
  match place with
  | ["/", "dev", "null"] => some .null
  | ["/", "dev", "full"] => some .full
  | ["/", "dev", "stdin"] | ["/", "dev", "fd", "0"] | ["/", "proc", "self", "fd", "0"] =>
    some .input
  | ["/", "dev", "stdout"] | ["/", "dev", "fd", "1"] | ["/", "proc", "self", "fd", "1"] =>
    some .output
  | ["/", "dev", "stderr"] | ["/", "dev", "fd", "2"] | ["/", "proc", "self", "fd", "2"] =>
    some .errors
  | _ => none

/-- Where a path leads: a place, and whether the path says that it is a directory. -/
structure Located where
  place : List String
  directory : Bool
  deriving DecidableEq, Repr

def maxName : Nat := 255

def pathBound : Nat := 4096

/-- Follows the parts of a path from a place; the last part need not exist. -/
def follow (here : List String) : List String → Except FileFault Located
  | [] => .ok ⟨here, false⟩
  | part :: rest =>
    let next := w.enter here part
    if part = "" ∨ part = "." ∨ part = ".." then
      if rest = [] then .ok ⟨next, true⟩ else follow next rest
    else if maxName < part.utf8ByteSize then .error .nameTooLong
    else if rest = [] then .ok ⟨next, false⟩
    else if w.isDirectory next then follow next rest
    else if rest.all (· = "") then .ok ⟨next, true⟩
    else if (w.bytesAt? next).isSome || (deviceAt? next).isSome then .error .notDirectory
    else .error .notFound

def locate (path : String) : Except FileFault Located :=
  if path.toList.contains '\x00' then .error .nulInPath
  else if path = "" then .error .notFound
  else if pathBound ≤ path.utf8ByteSize then .error .nameTooLong
  else w.follow (w.origin path) (parts path)

def put (place : List String) (bytes : List UInt8) : Workspace :=
  if (w.bytesAt? place).isSome then
    { w with files := w.files.map fun file => if file.1 == place then (place, bytes) else file }
  else { w with files := w.files ++ [(place, bytes)] }

end Workspace

end BulkLoad
