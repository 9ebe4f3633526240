import BulkLoad.Charset.Automaton.Table

/-!
Encodings that switch between character sets by escape sequences of ASCII bytes.
-/
namespace BulkLoad.Charset.Escapes

def automata : List (String × Automaton) :=
  [("hz-gb-2312", .hz), ("iso-2022-cn", .iso2022Cn), ("iso-2022-jp", .iso2022Jp),
    ("iso-2022-kr", .iso2022Kr)]

def present (sample : List UInt8) : Bool := sample.contains 0x1B

structure Run where
  name : String
  automaton : Automaton
  state : Nat

/-- Shows a byte to each automaton: the first that recognises its encoding ends the search, and one
that fails is dropped. -/
def advance (b : UInt8) : List Run → Except String (List Run)
  | [] => .ok []
  | run :: rest =>
    let state := run.automaton.step run.state b
    if state = Automaton.recognised then .error run.name
    else
      match advance b rest with
      | .error name => .error name
      | .ok rest =>
        if state = Automaton.failed then .ok rest else .ok ({ run with state := state } :: rest)

def search (runs : List Run) : List UInt8 → Option String
  | [] => none
  | b :: rest =>
    match advance b runs with
    | .error name => some name
    | .ok [] => none
    | .ok runs => search runs rest

def detect? (sample : List UInt8) : Option String :=
  search (automata.map fun (name, automaton) => ⟨name, automaton, Automaton.ready⟩) sample

end BulkLoad.Charset.Escapes
