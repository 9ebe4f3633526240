import BulkLoad.Decimal.Basic

/-!
Events: what a load tells about its progress.

An event has a level, a message and named fields. Messages meant for a reader carry a sign in front
that tells how things stand.
-/
namespace BulkLoad

/-- How much an event matters, the gravest first. -/
inductive Level where
  | error
  | warn
  | info
  | debug
  | trace
  deriving DecidableEq, Repr

namespace Level

def name : Level → String
  | .error => "ERROR"
  | .warn => "WARN"
  | .info => "INFO"
  | .debug => "DEBUG"
  | .trace => "TRACE"

def rank : Level → Nat
  | .error => 0
  | .warn => 1
  | .info => 2
  | .debug => 3
  | .trace => 4

def within (level bound : Level) : Bool := level.rank ≤ bound.rank

end Level

inductive FieldValue where
  | text (s : String)
  | number (n : Nat)
  deriving DecidableEq, Repr

def FieldValue.shown : FieldValue → String
  | .text s => s
  | .number n => Decimal.text n

structure Event where
  level : Level
  message : String
  fields : List (String × FieldValue)
  deriving DecidableEq, Repr

namespace Event

def info (message : String) : Event := ⟨.info, message, []⟩

def success (message : String) : Event := ⟨.info, "✓ " ++ message, []⟩

def warning (message : String) : Event := ⟨.warn, "⚠️  " ++ message, []⟩

def failure (message : String) : Event := ⟨.error, "❌ " ++ message, []⟩

def visible (bound : Level) (events : List Event) : List Event :=
  events.filter (·.level.within bound)

end Event

end BulkLoad
