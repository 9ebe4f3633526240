/-!
Arguments of a command line, sorted into options and operands.

An argument that starts with a hyphen holds options: one by its name after two hyphens, or several
by their letters after one. A value follows an equals sign, or right after the letter, or as the
next argument, unless that starts with a hyphen itself. After two hyphens alone everything is an
operand. Whatever is wrong is noticed in the order of the arguments, a value when the next option
or operand comes.
-/
namespace BulkLoad.CommandLine

inductive Stop where
  | help
  | version
  | misuse
  deriving DecidableEq, Repr

/-- What an option takes, and what it does. -/
inductive Taking where
  | nothing
  | repeats
  | value (accepts : String → Bool)
  /-- Nothing; it ends the reading. -/
  | stops (why : Stop)

structure OptionRule where
  name : String
  letter : Option Char
  taking : Taking

structure Grammar where
  options : List OptionRule
  operands : List (String → Bool)
  /-- The words that begin the arguments of a command. -/
  commands : List String

namespace Grammar

def byName? (g : Grammar) (name : List Char) : Option OptionRule :=
  g.options.find? (·.name.toList == name)

def byLetter? (g : Grammar) (c : Char) : Option OptionRule :=
  g.options.find? (·.letter == some c)

end Grammar

structure Found where
  options : List (String × String)
  operands : List String
  /-- The option whose value is read from arguments of its own, and the value once it was read. -/
  pending : Option (OptionRule × Option String)
  operandsOnly : Bool

namespace Found

def start : Found := ⟨[], [], none, false⟩

def has (f : Found) (name : String) : Bool := f.options.any (·.1 == name)

def count (f : Found) (name : String) : Nat := f.options.countP (·.1 == name)

def value? (f : Found) (name : String) : Option String := f.options.lookup name

def add (f : Found) (rule : OptionRule) (value : String) : Except Stop Found :=
  let added := { f with options := (rule.name, value) :: f.options }
  match rule.taking with
  | .stops why => .error why
  | .repeats => .ok added
  | .nothing => if f.has rule.name then .error .misuse else .ok added
  | .value accepts => if f.has rule.name || !accepts value then .error .misuse else .ok added

def settle (f : Found) : Except Stop Found :=
  match f.pending with
  | none => .ok f
  | some (_, none) => .error .misuse
  | some (rule, some value) => { f with pending := none }.add rule value

/-- Takes an option after what was pending. -/
def next (f : Found) (rule : OptionRule) (value : String) : Except Stop Found := do
  (← f.settle).add rule value

def await (f : Found) (rule : OptionRule) : Except Stop Found := do
  let f ← f.settle
  return { f with pending := some (rule, none) }

def operand (g : Grammar) (f : Found) (arg : String) : Except Stop Found := do
  let f ← f.settle
  match g.operands[f.operands.length]? with
  | none => .error .misuse
  | some accepts =>
    if accepts arg then .ok { f with operands := arg :: f.operands } else .error .misuse

def attached : List Char → String
  | '=' :: rest => String.ofList rest
  | rest => String.ofList rest

def letters (g : Grammar) (f : Found) : List Char → Except Stop Found
  | [] => .ok f
  | c :: rest =>
    match g.byLetter? c with
    | none => .error .misuse
    | some rule =>
      match rule.taking with
      | .value _ => if rest.isEmpty then f.await rule else f.next rule (attached rest)
      | _ =>
        match f.next rule "" with
        | .error stop => .error stop
        | .ok f => letters g f rest

/-- Takes an option by its name, which an equals sign and a value may follow. -/
def named (g : Grammar) (f : Found) (text : List Char) : Except Stop Found :=
  let name := text.takeWhile (· != '=')
  match g.byName? name, text.drop name.length with
  | none, _ => .error .misuse
  | some rule, [] =>
    match rule.taking with
    | .value _ => f.await rule
    | _ => f.next rule ""
  | some rule, _ :: value =>
    match rule.taking with
    | .value _ => f.next rule (String.ofList value)
    | _ => .error .misuse

def take (g : Grammar) (f : Found) (arg : String) : Except Stop Found :=
  if f.operandsOnly then f.operand g arg
  else
    match arg.toList, f.pending with
    | ['-', '-'], _ => .ok { f with operandsOnly := true }
    | '-' :: '-' :: text, _ => f.named g text
    | '-' :: c :: text, _ => f.letters g (c :: text)
    | _, some (rule, none) => .ok { f with pending := some (rule, some arg) }
    | _, _ => f.operand g arg

def awaits (f : Found) : Bool :=
  match f.pending with
  | some (_, none) => true
  | _ => false

/-- Takes arguments up to the word of a command, and gives that word and what follows it. -/
def scan (g : Grammar) (f : Found) :
    List String → Except Stop (Found × Option (String × List String))
  | [] => .ok (f, none)
  | arg :: rest =>
    if !f.operandsOnly && !f.awaits && g.commands.contains arg then .ok (f, some (arg, rest))
    else
      match f.take g arg with
      | .error stop => .error stop
      | .ok f => scan g f rest

end Found

end BulkLoad.CommandLine
