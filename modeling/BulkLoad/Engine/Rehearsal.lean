import BulkLoad.Engine.Basic
import BulkLoad.Text.Search

/-!
An engine for rehearsals: it answers by rules and remembers what it was asked.

The first rule that applies to a query gives the answer. Without one the query succeeds.
-/
namespace BulkLoad.Rehearsal

inductive Occasion where
  | holds (part : String)
  | repeated
  deriving DecidableEq, Repr

inductive Answer where
  | result (i : Invocation)
  | refusal (cause : String)
  deriving DecidableEq, Repr

structure Rule where
  occasion : Occasion
  answer : Answer
  deriving DecidableEq, Repr

structure Stage where
  rules : List Rule
  finishFault : Option String
  /-- The databases and queries so far, the last one first. -/
  calls : List (String × Query)
  finished : Nat
  deriving DecidableEq, Repr

namespace Stage

def ready (rules : List Rule) (finishFault : Option String) : Stage := ⟨rules, finishFault, [], 0⟩

def applies (s : Stage) (query : Query) (rule : Rule) : Bool :=
  match rule.occasion with
  | .holds part => Text.contains query.text part
  | .repeated => s.calls.any (·.2 == query)

def binary : String := "elena"

def applause : Invocation := .ok "1 row(s)"

def invoke (database : String) (query : Query) (s : Stage) :
    Except EngineFault Invocation × Stage :=
  let answer := match s.rules.find? (s.applies query) with
    | none => Except.ok applause
    | some ⟨_, .result i⟩ => .ok i
    | some ⟨_, .refusal cause⟩ => .error (.launch binary cause)
  (answer, { s with calls := (database, query) :: s.calls })

def finish (s : Stage) : Except EngineFault (List Event) × Stage :=
  let answer := match s.finishFault with
    | none => Except.ok []
    | some cause => .error (.script "double" cause)
  (answer, { s with finished := s.finished + 1 })

end Stage

def engine : Engine Stage where
  invoke := Stage.invoke
  finish := Stage.finish

end BulkLoad.Rehearsal
