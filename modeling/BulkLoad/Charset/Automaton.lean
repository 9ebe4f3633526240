import BulkLoad.Charset.Candidate
import BulkLoad.Charset.Table

/-!
Automata that tell whether bytes are text in an encoding with several bytes a character.

A byte belongs to a class, and class and state give the next state. Three states are fixed: between
characters, failed, and recognised beyond doubt. `characters` cuts a sample into the characters that
the automaton completes.
-/
namespace BulkLoad.Charset

/-- A table-driven automaton over bytes. -/
structure Automaton where
  classes : Array Nat
  width : Nat
  /-- The next state for each state and class, a row for each state. -/
  next : Array Nat
  lengths : Array Nat

namespace Automaton

def ready : Nat := 0

def failed : Nat := 1

/-- The state after bytes that can only be text in the encoding. -/
def recognised : Nat := 2

def classOf (a : Automaton) (b : UInt8) : Nat := a.classes.getD b.toNat 0

def step (a : Automaton) (state : Nat) (b : UInt8) : Nat :=
  a.next.getD (state * a.width + a.classOf b) failed

structure Character where
  before : Option UInt8
  last : UInt8
  after : Option UInt8
  length : Nat

/-- How an automaton leaves a sample: at its end, or at a byte that decides against or for the
encoding. -/
inductive Outcome where
  | undecided
  | failed
  | recognised
  deriving DecidableEq, Repr

/-- The characters of the bytes after `before`, in a state and inside a character of a length; those
found so far are in `done`, backwards. -/
def charactersFrom (a : Automaton) (state length : Nat) (before : Option UInt8)
    (done : List Character) : List UInt8 → List Character × Outcome
  | [] => (done.reverse, .undecided)
  | b :: rest =>
    let length := if state = ready then a.lengths.getD (a.classOf b) 0 else length
    let next := a.step state b
    if next = failed then (done.reverse, .failed)
    else if next = recognised then (done.reverse, .recognised)
    else if next = ready then
      charactersFrom a next length (some b) (⟨before, b, rest.head?, length⟩ :: done) rest
    else charactersFrom a next length (some b) done rest

def characters (a : Automaton) (sample : List UInt8) : List Character × Outcome :=
  charactersFrom a ready 0 none [] sample

end Automaton

end BulkLoad.Charset
