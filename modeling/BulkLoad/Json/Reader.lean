import BulkLoad.Encoding.Utf8
import BulkLoad.Json.Basic

/-!
A strict reader of JSON text (RFC 8259).

A text that cannot be read either ends too early, so that more text could still complete it, or is
malformed where it stands. Arrays and objects may be nested up to a given depth. Escapes of
surrogates must come in pairs, and a number must lie in the range of doubles.
-/
namespace BulkLoad.Json

inductive Fault where
  | cutOff
  /-- The text is wrong whatever may follow. -/
  | malformed
  deriving DecidableEq, Repr

def Fault.message : Fault → String
  | .cutOff => "unexpected end of the text"
  | .malformed => "malformed text"

def isSpace (c : Char) : Bool := c = ' ' || c = '\t' || c = '\n' || c = '\r'

def skipSpace (cs : List Char) : List Char := cs.dropWhile isSpace

def keyword (value : Json) : List Char → List Char → Except Fault (Json × List Char)
  | [], cs => .ok (value, cs)
  | _ :: _, [] => .error .cutOff
  | k :: ks, c :: cs => if k = c then keyword value ks cs else .error .malformed

def hexValue? (c : Char) : Option Nat :=
  let n := c.toNat
  if 0x30 ≤ n ∧ n ≤ 0x39 then some (n - 0x30)
  else if 0x61 ≤ n ∧ n ≤ 0x66 then some (n - 0x61 + 10)
  else if 0x41 ≤ n ∧ n ≤ 0x46 then some (n - 0x41 + 10)
  else none

def hexNumber? (cs : List Char) : Option Nat :=
  cs.foldl (fun n c => do return 16 * (← n) + (← hexValue? c)) (some 0)

/-- Reads the four digits of an escape. Four bytes must be left, of whatever characters. -/
def escapeCode : List Char → Except Fault (Nat × List Char)
  | a :: b :: c :: d :: rest =>
    match hexNumber? [a, b, c, d] with
    | some n => .ok (n, rest)
    | none => .error .malformed
  | cs => if (Encoding.Utf8.encode cs).length < 4 then .error .cutOff else .error .malformed

/-- Reads what follows a backslash and a `u`: one code unit, or a pair of surrogates. -/
def unicodeEscape (cs : List Char) : Except Fault (Char × List Char) := do
  let (first, cs) ← escapeCode cs
  if 0xDC00 ≤ first ∧ first ≤ 0xDFFF then .error .malformed
  else if first < 0xD800 ∨ 0xDBFF < first then return (Char.ofNat first, cs)
  else
    match cs with
    | [] => .error .cutOff
    | '\\' :: [] => .error .cutOff
    | '\\' :: 'u' :: cs =>
      let (second, cs) ← escapeCode cs
      if 0xDC00 ≤ second ∧ second ≤ 0xDFFF then
        return (Char.ofNat (0x10000 + 0x400 * (first - 0xD800) + (second - 0xDC00)), cs)
      else .error .malformed
    | _ => .error .malformed

def shortEscape? : Char → Option Char
  | '"' => some '"'
  | '\\' => some '\\'
  | '/' => some '/'
  | 'b' => some '\x08'
  | 'f' => some '\x0c'
  | 'n' => some '\n'
  | 'r' => some '\r'
  | 't' => some '\t'
  | _ => none

/-- Reads a string after its opening quote; `done` holds what was read, backwards. Each step takes
at least one character, so `fuel` as long as the text suffices. -/
def stringBody (fuel : Nat) (done cs : List Char) : Except Fault (String × List Char) :=
  match fuel, cs with
  | 0, _ => .error .cutOff
  | _, [] => .error .cutOff
  | _ + 1, '"' :: rest => .ok (String.ofList done.reverse, rest)
  | fuel + 1, '\\' :: 'u' :: rest =>
    match unicodeEscape rest with
    | .ok (c, rest) => stringBody fuel (c :: done) rest
    | .error e => .error e
  | _ + 1, '\\' :: [] => .error .cutOff
  | fuel + 1, '\\' :: c :: rest =>
    match shortEscape? c with
    | some c => stringBody fuel (c :: done) rest
    | none => .error .malformed
  | fuel + 1, c :: rest =>
    if c.toNat < 0x20 then .error .malformed else stringBody fuel (c :: done) rest

def digitRun (cs : List Char) : Except Fault (List Char × List Char) :=
  match cs.takeWhile Decimal.isDigit, cs.dropWhile Decimal.isDigit with
  | [], [] => .error .cutOff
  | [], _ :: _ => .error .malformed
  | ds, rest => .ok (ds, rest)

def wholeDigits : List Char → Except Fault (List Char × List Char)
  | '0' :: c :: rest => if Decimal.isDigit c then .error .malformed else .ok (['0'], c :: rest)
  | cs => digitRun cs

def fractionDigits : List Char → Except Fault (Option (List Char) × List Char)
  | '.' :: cs => do
    let (ds, cs) ← digitRun cs
    return (some ds, cs)
  | cs => .ok (none, cs)

def exponentPart : List Char → Except Fault (Option Int × List Char)
  | c :: cs =>
    if c = 'e' ∨ c = 'E' then do
      let (negative, cs) := match cs with
        | '+' :: cs => (false, cs)
        | '-' :: cs => (true, cs)
        | cs => (false, cs)
      let (ds, cs) ← digitRun cs
      let n : Int := Decimal.valueOf ds
      return (some (if negative then -n else n), cs)
    else .ok (none, c :: cs)
  | [] => .ok (none, [])

/-- The value of a numeral. Without point and exponent it is a whole number if 64 bits hold it;
minus zero is a double. -/
def numeral (negative : Bool) (whole : List Char) (fraction : Option (List Char))
    (exponent : Option Int) : Except Fault Number :=
  let n := Decimal.valueOf whole
  let fits := if negative then 0 < n && n ≤ Decimal.signedBound else n < Decimal.wordBound
  if fraction.isNone && exponent.isNone && fits then
    .ok (.whole (if negative then -(n : Int) else n))
  else
    match Binary64.ofNumeral? negative whole (fraction.getD []) (exponent.getD 0) with
    | some x => .ok (.real x)
    | none => .error .malformed

def readNumber (cs : List Char) : Except Fault (Json × List Char) := do
  let (negative, cs) := match cs with
    | '-' :: cs => (true, cs)
    | cs => (false, cs)
  let (whole, cs) ← wholeDigits cs
  let (fraction, cs) ← fractionDigits cs
  let (exponent, cs) ← exponentPart cs
  let n ← numeral negative whole fraction exponent
  return (.number n, cs)

mutual

/-- Reads a value in which arrays and objects may still be nested `depth` times. Every call takes a
character or goes on to the first part of a value, so `fuel` of twice the text's length and more
suffices. -/
def readValue (fuel depth : Nat) (cs : List Char) : Except Fault (Json × List Char) :=
  match fuel with
  | 0 => .error .malformed
  | fuel + 1 =>
    match skipSpace cs with
    | [] => .error .cutOff
    | 'n' :: rest => keyword .null ['u', 'l', 'l'] rest
    | 't' :: rest => keyword (.bool true) ['r', 'u', 'e'] rest
    | 'f' :: rest => keyword (.bool false) ['a', 'l', 's', 'e'] rest
    | '"' :: rest => do
      let (s, rest) ← stringBody fuel [] rest
      return (.string s, rest)
    | '[' :: rest =>
      match depth with
      | 0 => .error .malformed
      | depth + 1 =>
        match skipSpace rest with
        | [] => .error .cutOff
        | ']' :: rest => .ok (.array [], rest)
        | rest => readItems fuel depth [] rest
    | '{' :: rest =>
      match depth with
      | 0 => .error .malformed
      | depth + 1 =>
        match skipSpace rest with
        | [] => .error .cutOff
        | '}' :: rest => .ok (.object [], rest)
        | rest => readMembers fuel depth [] rest
    | c :: rest =>
      if c = '-' ∨ Decimal.isDigit c then readNumber (c :: rest) else .error .malformed

/-- Reads the items of an array from one of them on; `done` holds the earlier ones, backwards. -/
def readItems (fuel depth : Nat) (done : List Json) (cs : List Char) :
    Except Fault (Json × List Char) :=
  match fuel with
  | 0 => .error .malformed
  | fuel + 1 =>
    match readValue fuel depth cs with
    | .error e => .error e
    | .ok (item, cs) =>
      match skipSpace cs with
      | [] => .error .cutOff
      | ']' :: rest => .ok (.array (item :: done).reverse, rest)
      | ',' :: rest => readItems fuel depth (item :: done) rest
      | _ => .error .malformed

def readMembers (fuel depth : Nat) (done : List (String × Json)) (cs : List Char) :
    Except Fault (Json × List Char) :=
  match fuel with
  | 0 => .error .malformed
  | fuel + 1 =>
    match skipSpace cs with
    | [] => .error .cutOff
    | '"' :: rest =>
      match stringBody fuel [] rest with
      | .error e => .error e
      | .ok (key, rest) =>
        match skipSpace rest with
        | [] => .error .cutOff
        | ':' :: rest =>
          match readValue fuel depth rest with
          | .error e => .error e
          | .ok (value, rest) =>
            match skipSpace rest with
            | [] => .error .cutOff
            | '}' :: rest => .ok (.object (insertMember key value done), rest)
            | ',' :: rest => readMembers fuel depth (insertMember key value done) rest
            | _ => .error .malformed
        | _ => .error .malformed
    | _ => .error .malformed

end

def maxDepth : Nat := 127

def parseWithin (depth : Nat) (text : String) : Except Fault Json := do
  let cs := text.toList
  let (v, rest) ← readValue (2 * cs.length + 2) depth cs
  if skipSpace rest = [] then return v else .error .malformed

def parse (text : String) : Except Fault Json := parseWithin maxDepth text

end BulkLoad.Json
