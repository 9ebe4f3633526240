import BulkLoad.Log.Event
import BulkLoad.Text.Alphanumeric
import BulkLoad.Text.Blank

/-!
Filters of events: which of them are shown.

A filter is read from directives between commas. A directive may name an origin, fields that an
event must have, and a bound; without a bound all events are shown that it is about. The closest
directive decides on an event: the one with the longest origin, then the one with the most fields,
and of two alike the later. A directive about a span or about the value of a field shows no event,
as no event lies in a span. A filter with a directive that cannot be read is none, and one without
directives shows nothing.
-/
namespace BulkLoad

/-- Where an event comes from: those without fields speak to a reader, those with fields are of the
load or of a script. -/
def Event.origin (e : Event) : String :=
  if e.fields.isEmpty then "elena_load::logging"
  else if (e.fields.lookup "path").isSome then "elena_load::engine::script"
  else "elena_load::driver"

def Event.hasField (e : Event) (name : String) : Bool :=
  name = "message" || (e.fields.lookup name).isSome

/-- A bound for the events of an origin with some fields; without a bound none is shown. -/
structure Directive where
  origin : Option String
  fields : List String
  bound : Option Level
  deriving DecidableEq, Repr

namespace Directive

def covers (d : Directive) (e : Event) : Bool :=
  (match d.origin with
    | some origin => origin.toList.isPrefixOf e.origin.toList
    | none => true) &&
  d.fields.all e.hasField

def shows (d : Directive) (e : Event) : Bool :=
  match d.bound with
  | some bound => e.level.within bound
  | none => false

/-- How closely a directive describes the events that it is about: first by its origin. -/
def originRank (d : Directive) : Nat := (d.origin.map fun o => o.utf8ByteSize + 1).getD 0

def atLeast (d other : Directive) : Bool :=
  if d.originRank ≠ other.originRank then other.originRank < d.originRank
  else if d.fields.length ≠ other.fields.length then other.fields.length < d.fields.length
  else !decide (d.fields < other.fields)

def bounds : List (Option Level) :=
  [none, some .error, some .warn, some .info, some .debug, some .trace]

def boundOfWord? (word : List Char) : Option (Option Level) :=
  let names := ["off", "error", "warn", "info", "debug", "trace"].map String.toList
  ((names.zip bounds).find? (·.1 == word.map Char.toLower)).map (·.2)

def bound? (word : List Char) : Option (Option Level) :=
  match Decimal.unsigned? word with
  | some n => bounds[n]?
  | none => boundOfWord? word

def isStart (c : Char) : Bool := Text.isAlphanumeric c || c == '-' || c == ':' || c == '_'

def stretch (text : List Char) (first after : Nat) : List Char :=
  match text with
  | [] => []
  | c :: rest =>
    if after = 0 then []
    else
      let rest := stretch rest (first - c.utf8Size) (after - c.utf8Size)
      if first = 0 then c :: rest else rest

structure Draft where
  origin : Option String
  inSpan : Bool
  fields : List (List Char)

/-- Where the reading of a directive stands, with the place at which its present part began. -/
inductive Stage where
  | start
  | word (first : Nat)
  | span (first : Nat)
  | field (first : Nat)
  | fieldsEnd
  | bracketEnd
  | bound (first : Nat)

def step? (text : List Char) (d : Draft) (stage : Stage) (place : Nat) (c : Char) :
    Option (Draft × Stage) :=
  let part (first : Nat) : List Char := stretch text first place
  match stage with
  | .start =>
    if c = '[' then some (d, .span (place + 1))
    else if isStart c then some (d, .word place)
    else none
  | .word first =>
    let named := { d with origin := some (String.ofList (part first)) }
    if c = '=' then some (named, .bound (place + 1))
    else if c = '[' then some (named, .span (place + 1))
    else some (d, stage)
  | .span first =>
    if c = ']' then some ({ d with inSpan := true }, .bracketEnd)
    else if c = '\x7b' then
      some ({ d with inSpan := !(part first).isEmpty }, .field (place + 1))
    else some (d, stage)
  | .field first =>
    if c = '\x7d' then
      if (part first).isEmpty then none
      else some ({ d with fields := part first :: d.fields }, .fieldsEnd)
    else some (d, stage)
  | .fieldsEnd => if c = ']' then some (d, .bracketEnd) else none
  | .bracketEnd => if c = '=' then some (d, .bound (place + 1)) else none
  | .bound _ => some (d, stage)

def readFrom? (text : List Char) (d : Draft) (stage : Stage) (place : Nat) :
    List Char → Option (Draft × Stage)
  | [] => some (d, stage)
  | c :: rest =>
    match step? text d stage place c with
    | some (d, stage) => readFrom? text d stage (place + c.utf8Size) rest
    | none => none

/-- The directive that a draft makes with a bound, unless it is one that shows no event. -/
def Draft.close (d : Draft) (bound : Option Level) : List Directive :=
  if d.inSpan || d.fields.any (·.contains '=') then []
  else [⟨d.origin, d.fields.reverse.map String.ofList, bound⟩]

/-- Reads a directive; one that shows no event is none that matters. Blanks around it are not read,
but the places of its parts are counted from the first of them. -/
def read? (text : List Char) : Option (List Directive) :=
  match readFrom? text ⟨none, false, []⟩ .start 0 (Text.trimBoth Text.isBlank text) with
  | some (d, .word first) =>
    let word := stretch text first (String.ofList text).utf8ByteSize
    match bound? word with
    | some bound => some (d.close bound)
    | none => some ({ d with origin := some (String.ofList word) }.close (some .trace))
  | some (d, .bound first) =>
    let word := stretch text first (String.ofList text).utf8ByteSize
    if word.isEmpty then some (d.close (some .trace)) else (bound? word).map d.close
  | some (d, .bracketEnd) => some (d.close (some .trace))
  | _ => none

end Directive

structure Filter where
  directives : List Directive
  deriving DecidableEq, Repr

namespace Filter

/-- The closer of two directives, the later of two alike. -/
def closer (best : Option Directive) (d : Directive) : Option Directive :=
  match best with
  | some b => if d.atLeast b then some d else some b
  | none => some d

def deciding? (f : Filter) (e : Event) : Option Directive :=
  (f.directives.filter (·.covers e)).foldl closer none

def shows (f : Filter) (e : Event) : Bool :=
  match f.deciding? e with
  | some d => d.shows e
  | none => false

def pieces : List Char → List (List Char)
  | [] => [[]]
  | c :: rest =>
    match pieces rest with
    | [] => [[]]
    | piece :: later => if c = ',' then [] :: piece :: later else (c :: piece) :: later

def ofText? (text : String) : Option Filter :=
  (((pieces text.toList).filter (!·.isEmpty)).mapM Directive.read?).map fun ds => ⟨ds.flatten⟩

/-- The filter of the program's own events up to a level, with the warnings of all others. -/
def upTo (bound : Level) : Filter :=
  ⟨[⟨none, [], some .warn⟩, ⟨some "elena_load", [], some bound⟩]⟩

/-- The filter that a variable asks for, or else that of a level. -/
def ofVariable (named : Option String) (bound : Level) : Filter :=
  ((named.bind ofText?)).getD (upTo bound)

end Filter

end BulkLoad
