import BulkLoad.CommandLine.Loading
import BulkLoad.CommandLine.Rendering
import BulkLoad.Environment.Settings
import BulkLoad.Log.Filter

/-!
A whole run from its arguments: the settings file is read, the arguments are understood, the
command is carried out, and what it told is written as a log.
-/
namespace BulkLoad.CommandLine

def Command.run [Encoding.EastAsian.Decoders] (c : Command) (s : Surroundings) (reads : Nat) :
    Option Ending :=
  match c with
  | .load r => r.run s reads
  | .render r => r.run s reads
  | .schema target => some (target.show s)

def Request.level (r : Request) : Level :=
  if r.quiet then .warn
  else
    match r.verbosity with
    | 0 => .info
    | 1 => .debug
    | _ => .trace

def settingsFile : String := ".env"

def filterVariable : String := "RUST_LOG"

/-- The places where the settings file may stand, in the order in which they are tried: in the
workspace and in the directories above it. -/
def settingsPlaces (files : Workspace) : List (List String) :=
  let above := (List.range files.home.length).reverse.filter (· ≠ 0)
  ([] :: above.map files.home.take).map (· ++ [settingsFile])

/-- The bytes of the settings file. If reading it breaks off they end with the last whole line. -/
def settings (files : Workspace) : List UInt8 :=
  match (settingsPlaces files).find? fun place => files.handleAt? place == some (.file place) with
  | none => []
  | some place =>
    let bytes := (files.bytesAt? place).getD []
    match files.breakOf? (.file place) with
    | some (after, _) =>
      if after ≤ bytes.length then
        ((bytes.take after).reverse.dropWhile (· ≠ 0x0A)).reverse
      else bytes
    | none => bytes

def Surroundings.supplied (s : Surroundings) : Surroundings :=
  { s with environment := s.environment.supplyFile (settings s.files) }

/-- The text of what was told: each message that the filter shows is a line of the log. -/
def Request.toldText (r : Request) (s : Surroundings) (told : List Told) : String :=
  let filter := Filter.ofVariable (s.environment.get? filterVariable) r.level
  String.join (told.map fun
    | .event e => if filter.shows e then e.text r.format s.finishedAt.stamp ++ "\n" else ""
    | .text bytes => Encoding.Utf8.decodeText bytes)

structure Answer where
  status : Nat
  output : String
  errors : String
  files : Workspace

def versionText : String := "elena-load 0.1.0\n"

def usageText : String := "Usage: elena-load [OPTIONS] <load|render|schema> [ARGUMENTS]"

def misused : Nat := 2

def Stop.answer (stop : Stop) (files : Workspace) : Answer :=
  match stop with
  | .help => ⟨Ending.success, usageText ++ "\n", "", files⟩
  | .version => ⟨Ending.success, versionText, "", files⟩
  | .misuse => ⟨misused, "", "error: wrong arguments\n" ++ usageText ++ "\n", files⟩

def Request.answer (r : Request) (s : Surroundings) (e : Ending) : Answer :=
  ⟨e.status, e.output ++ Encoding.Utf8.decodeText e.files.output, r.toldText s e.told, e.files⟩

/-- Runs a command line, within so many reads of its input; there is no answer if the input goes on
after them. -/
def run [Encoding.EastAsian.Decoders] (args : List String) (s : Surroundings) (reads : Nat) :
    Option Answer :=
  match Request.ofArguments args with
  | .error stop => some (stop.answer s.files)
  | .ok request => (request.command.run s.supplied reads).map (request.answer s.supplied)

end BulkLoad.CommandLine
