import BulkLoad.Encoding.Utf8
import BulkLoad.Engine.Basic

/-!
The engine that writes queries to a script instead of running them, one on each line.

A query with a line break would not be one line; it fails and is not written.
-/
namespace BulkLoad

structure Script where
  label : String
  /-- The lines so far, the last one first. -/
  written : List String
  count : Nat
  fault : Option String
  deriving DecidableEq, Repr

namespace Script

def empty (label : String) : Script := ⟨label, [], 0, none⟩

def text (s : Script) : String := String.join (s.written.reverse.map (· ++ "\n"))

def hasBreak (text : String) : Bool := text.toList.any fun c => c == '\n' || c == '\r'

def refusal : Invocation :=
  ⟨some 1, "", "query contains a line break and cannot be written as one script line", false⟩

def write (query : Query) (s : Script) : Except EngineFault Invocation × Script :=
  if hasBreak query.text then (.ok refusal, s)
  else
    match s.fault with
    | some cause => (.error (.script s.label cause), s)
    | none => (.ok (.ok ""), { s with written := query.text :: s.written, count := s.count + 1 })

def closing (label : String) (count : Nat) : Event :=
  ⟨.debug, "query script written", [("path", .text label), ("queries", .number count)]⟩

def close (s : Script) : Except EngineFault (List Event) × Script :=
  match s.fault with
  | some cause => (.error (.script s.label cause), s)
  | none => (.ok [closing s.label s.count], s)

/-- The engine that writes a script; it does not care for the database. -/
def engine : Engine Script where
  invoke _ query s := s.write query
  finish s := s.close

end Script

end BulkLoad
