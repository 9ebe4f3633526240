/-!
Candidates for the character set of a sample.

Each examination of a sample ends with a confidence between nothing and certainty, counted in parts
of a whole; it may also say that the matter is settled. Candidates are examined in a fixed order,
and the first that settles the matter wins. Without one the most confident candidate wins, the
earlier of two equals; a candidate that the sample contradicts keeps the confidence it had up to
that place.
-/
namespace BulkLoad.Charset

/-- How sure an examination is, as a number of parts of `whole`. -/
abbrev Confidence := Nat

def whole : Confidence := 1000000000000

def percent (n : Nat) : Confidence := n * 10000000000

/-- A character set and how well a sample fits it. -/
structure Candidate where
  name : String
  settled : Bool
  confidence : Confidence
  deriving Repr

/-- Examines a sample: the first candidate that settles the matter, or else all candidates. -/
def examineAll (sample : List UInt8) :
    List (List UInt8 → Candidate) → Except Candidate (List Candidate)
  | [] => .ok []
  | examine :: rest =>
    let candidate := examine sample
    if candidate.settled then .error candidate
    else (examineAll sample rest).map (candidate :: ·)

def best? : List Candidate → Option Candidate
  | [] => none
  | candidate :: rest =>
    match best? rest with
    | some other => if candidate.confidence < other.confidence then some other else some candidate
    | none => some candidate

end BulkLoad.Charset
