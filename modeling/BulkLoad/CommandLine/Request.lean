import BulkLoad.CommandLine.Arguments
import BulkLoad.Decimal.Basic
import BulkLoad.Log.Line
import BulkLoad.Source.Basic
import BulkLoad.Workspace.Basic

/-!
Requests: what a command line asks for.

There are three commands: records are loaded, or rendered as queries, or a table is shown. How
much is told, and how, may be said before the word of the command or after it; what is said after
it counts.
-/
namespace BulkLoad.CommandLine

/-- Which table: a file with its definition unless the built-in one is meant, and another name. -/
structure TargetChoice where
  definition : Option String
  table : Option String
  deriving DecidableEq, Repr

inductive Input where
  | standard
  | file (path : String)
  deriving DecidableEq, Repr

/-- The input of an operand: a lone hyphen, with or without slashes after it, is the standard
input. -/
def Input.ofOperand (path : String) : Input :=
  match (Workspace.split path.toList).map String.ofList with
  | "-" :: rest => if rest.all fun part => part = "" ∨ part = "." then .standard else .file path
  | _ => .file path

inductive EngineChoice where
  | script (path : String)
  /-- A program runs them; its failures may have a marker. -/
  | program (binary marker : Option String)
  deriving DecidableEq, Repr

structure LoadRequest where
  database : String
  input : Input
  target : TargetChoice
  source : SourceOptions
  engine : EngineChoice
  createTable : Bool
  limit : Option Nat
  maxFailures : Nat
  report : Option String
  strict : Bool

structure RenderRequest where
  input : Input
  target : TargetChoice
  source : SourceOptions
  createTable : Bool

inductive Command where
  | load (r : LoadRequest)
  | render (r : RenderRequest)
  | schema (target : TargetChoice)

structure Request where
  verbosity : Nat
  quiet : Bool
  format : LogFormat
  command : Command

/-! The options. -/

def anyText (_ : String) : Bool := true

def isPath (s : String) : Bool := !s.isEmpty

def count? (s : String) : Option Nat :=
  match Decimal.unsigned? s.toList with
  | some n => if n < Decimal.wordBound then some n else none
  | none => none

def isChar (s : String) : Bool := s.toList.length == 1

def sharedOptions : List OptionRule :=
  [⟨"verbose", some 'v', .repeats⟩, ⟨"quiet", some 'q', .nothing⟩,
    ⟨"log-format", none, .value fun s => (LogFormat.ofName? s).isSome⟩,
    ⟨"help", some 'h', .stops .help⟩]

def targetOptions : List OptionRule :=
  [⟨"schema", some 's', .value isPath⟩, ⟨"table", some 't', .value anyText⟩]

def sourceOptions : List OptionRule :=
  [⟨"delimiter", some 'd', .value isChar⟩, ⟨"encoding", none, .value anyText⟩]

def noCreateOption : OptionRule := ⟨"no-create", none, .nothing⟩

def mainGrammar : Grammar :=
  ⟨⟨"version", some 'V', .stops .version⟩ :: sharedOptions, [],
    ["load", "render", "schema", "help"]⟩

def loadGrammar : Grammar :=
  ⟨[⟨"engine", some 'e', .value isPath⟩, ⟨"failure-marker", none, .value anyText⟩,
      ⟨"script", none, .value isPath⟩, noCreateOption,
      ⟨"limit", some 'l', .value fun s => (count? s).isSome⟩,
      ⟨"max-failures", none, .value fun s => (count? s).isSome⟩,
      ⟨"report", none, .value isPath⟩, ⟨"strict", none, .nothing⟩] ++
      targetOptions ++ sourceOptions ++ sharedOptions,
    [anyText, isPath], []⟩

def renderGrammar : Grammar :=
  ⟨noCreateOption :: targetOptions ++ sourceOptions ++ sharedOptions, [isPath], []⟩

def schemaGrammar : Grammar := ⟨targetOptions ++ sharedOptions, [], []⟩

/-! The requests. -/

def Found.target (f : Found) : TargetChoice := ⟨f.value? "schema", f.value? "table"⟩

def Found.source (f : Found) : SourceOptions :=
  ⟨(f.value? "delimiter").bind (·.toList.head?), f.value? "encoding"⟩

/-- The engine that was chosen; a script excludes a program and its marker. -/
def Found.engine (f : Found) : Except Stop EngineChoice :=
  match f.value? "script", f.value? "engine", f.value? "failure-marker" with
  | none, binary, marker => .ok (.program binary marker)
  | some path, none, none => .ok (.script path)
  | _, _, _ => .error .misuse

def Found.load (f : Found) : Except Stop Command :=
  match f.operands with
  | [input, database] => do
    return .load {
      database
      input := .ofOperand input
      target := f.target
      source := f.source
      engine := ← f.engine
      createTable := !f.has "no-create"
      limit := (f.value? "limit").bind count?
      maxFailures := ((f.value? "max-failures").bind count?).getD 50
      report := f.value? "report"
      strict := f.has "strict" }
  | _ => .error .misuse

def Found.render (f : Found) : Except Stop Command :=
  match f.operands with
  | [input] => .ok (.render ⟨.ofOperand input, f.target, f.source, !f.has "no-create"⟩)
  | _ => .error .misuse

/-- Silence and detail exclude each other where they are said. -/
def Found.checkShared (f : Found) : Except Stop Unit :=
  if f.has "quiet" && f.has "verbose" then .error .misuse else .ok ()

def readAll (g : Grammar) (args : List String) : Except Stop Found := do
  let (f, _) ← Found.start.scan g args
  let f ← f.settle
  f.checkShared
  return f

def readCommand (word : String) (args : List String) : Except Stop (Found × Command) :=
  match word with
  | "load" => do
    let f ← readAll loadGrammar args
    return (f, ← f.load)
  | "render" => do
    let f ← readAll renderGrammar args
    return (f, ← f.render)
  | "schema" => do
    let f ← readAll schemaGrammar args
    return (f, .schema f.target)
  | _ =>
    match args with
    | [] => .error .help
    | [word] => .error (if mainGrammar.commands.contains word then .help else .misuse)
    | _ => .error .misuse

def Request.ofFound (before after : Found) (command : Command) : Request where
  verbosity := if after.has "verbose" then after.count "verbose" else before.count "verbose"
  quiet := before.has "quiet" || after.has "quiet"
  format := (((after.value? "log-format").or (before.value? "log-format")).bind
    LogFormat.ofName?).getD .pretty
  command

def Request.ofArguments (args : List String) : Except Stop Request := do
  let (before, rest) ← Found.start.scan mainGrammar args
  match rest with
  | none => .error .misuse
  | some (word, args) =>
    let (after, command) ← readCommand word args
    let before ← before.settle
    before.checkShared
    return .ofFound before after command

end BulkLoad.CommandLine
