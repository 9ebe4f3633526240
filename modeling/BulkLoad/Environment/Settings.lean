import BulkLoad.Encoding.Utf8
import BulkLoad.Environment.Basic
import BulkLoad.Text.Alphanumeric
import BulkLoad.Text.Blank

/-!
Settings files: lines `NAME=value` that supply variables.

A value ends at a blank; single quotes keep everything, double quotes keep blanks, and a quoted
value may go on over several lines. A backslash keeps one character, and a dollar sign puts in the
value of a variable: that of the environment, or else of an earlier line. Reading stops at the
first line that cannot be read; what stood before it holds.
-/
namespace BulkLoad.Settings

/-- How far the reading of a line has come, as far as its end depends on it. -/
inductive Extent where
  | plain
  | blank
  | escape
  | strong
  | strongEscape
  | weak
  | weakEscape
  deriving DecidableEq, Repr

def Extent.ofPlain (c : Char) : Extent :=
  if c = '\\' then .escape
  else if c = '"' then .weak
  else if c = '\'' then .strong
  else if Text.isBlank c && c != '\n' && c != '\r' then .blank
  else .plain

def Extent.step (e : Extent) (c : Char) : Extent :=
  match e with
  | .plain => ofPlain c
  | .blank => if Text.isBlank c then .plain else ofPlain c
  | .escape => .plain
  | .weak => if c = '\\' then .weakEscape else if c = '"' then .plain else .weak
  | .weakEscape => .weak
  | .strong => if c = '\\' then .strongEscape else if c = '\'' then .plain else .strong
  | .strongEscape => .strong

/-- The pieces of a file that end with a line feed, and the rest after the last. -/
def splitLines (collected : List UInt8) : List UInt8 → List (List UInt8)
  | [] => if collected.isEmpty then [] else [collected.reverse]
  | b :: rest =>
    if b = 0x0A then (b :: collected).reverse :: splitLines [] rest
    else splitLines (b :: collected) rest

def textsOf : List (List UInt8) → List (List Char)
  | [] => []
  | line :: rest =>
    match Encoding.Utf8.ofBytes? line with
    | some text => text.toList :: textsOf rest
    | none => []

def withoutBreak (line : List Char) : List Char :=
  match line.reverse with
  | '\n' :: '\r' :: earlier => earlier.reverse
  | '\n' :: earlier => earlier.reverse
  | _ => line

/-- Follows a line from an extent: the extent at its end, or the part before a comment. -/
def follow (e : Extent) (passed : List Char) : List Char → Extent ⊕ List Char
  | [] => .inl e
  | c :: rest =>
    if e = .blank ∧ c = '#' then .inr passed.reverse
    else follow (e.step c) (c :: passed) rest

/-- Joins lines to settings, each with the lines that its quotes take in. What is open at the end of
the text is no setting. -/
def joinLines (e : Extent) (before : List Char) : List (List Char) → List (List Char)
  | [] => []
  | line :: rest =>
    let whole := before ++ line
    if (whole.dropWhile Text.isBlank).head? = some '#' then [] :: joinLines .plain [] rest
    else
      match follow e [] line with
      | .inr kept => (before ++ kept) :: joinLines .plain [] rest
      | .inl .plain => withoutBreak whole :: joinLines .plain [] rest
      | .inl e => joinLines e whole rest

def isNameStart (c : Char) : Bool := c.isAlpha || c == '_'

def isNamePart (c : Char) : Bool := c.isAlphanum || c == '_' || c == '.'

def name? (cs : List Char) : Option (String × List Char) :=
  match cs with
  | c :: _ =>
    if isNameStart c then some (String.ofList (cs.takeWhile isNamePart), cs.dropWhile isNamePart)
    else none
  | [] => none

inductive Stage where
  | plain
  | weak
  | strong
  | escape (quoted : Bool)
  /-- In a name after a dollar sign, read backwards. -/
  | reference (quoted : Bool) (name : List Char)
  | braced (quoted : Bool) (name : List Char)
  | ended
  deriving DecidableEq, Repr

def Stage.inside (quoted : Bool) : Stage := if quoted then .weak else .plain

def unescape? (c : Char) : Option Char :=
  if c = 'n' then some '\n'
  else if c = '\\' ∨ c = '\'' ∨ c = '"' ∨ c = '$' ∨ c = ' ' then some c
  else none

def Stage.ofPlain? (c : Char) : Option Stage :=
  if c = '$' then some (.reference false [])
  else if c = '\'' then some .strong
  else if c = '"' then some .weak
  else if c = '\\' then some (.escape false)
  else if c = ' ' ∨ c = '\t' then some .ended
  else none

def Stage.ofWeak? (c : Char) : Option Stage :=
  if c = '$' then some (.reference true [])
  else if c = '"' then some .plain
  else if c = '\\' then some (.escape true)
  else none

def valueFrom (look : String → String) (stage : Stage) (read : List Char) :
    List Char → Option (List Char)
  | [] =>
    match stage with
    | .plain | .ended | .escape false => some read.reverse
    | .reference false name =>
      some (read.reverse ++ (look (String.ofList name.reverse)).toList)
    | _ => none
  | c :: rest =>
    match stage with
    | .ended =>
      if c = ' ' ∨ c = '\t' then valueFrom look .ended read rest
      else if c = '#' then some read.reverse
      else none
    | .escape quoted =>
      match unescape? c with
      | some d => valueFrom look (.inside quoted) (d :: read) rest
      | none => none
    | .strong =>
      if c = '\'' then valueFrom look .plain read rest else valueFrom look .strong (c :: read) rest
    | .reference quoted name =>
      if Text.isAlphanumeric c then valueFrom look (.reference quoted (c :: name)) read rest
      else if c = '\x7b' ∧ name = [] then valueFrom look (.braced quoted []) read rest
      else
        let read := (look (String.ofList name.reverse)).toList.reverse ++ read
        if c = '$' then valueFrom look (.reference quoted []) read rest
        else valueFrom look (.inside quoted) (c :: read) rest
    | .braced quoted name =>
      if c = '\x7d' then
        valueFrom look (.inside quoted) ((look (String.ofList name.reverse)).toList.reverse ++ read)
          rest
      else valueFrom look (.braced quoted (c :: name)) read rest
    | .weak =>
      match Stage.ofWeak? c with
      | some stage => valueFrom look stage read rest
      | none => valueFrom look .weak (c :: read) rest
    | .plain =>
      match Stage.ofPlain? c with
      | some stage => valueFrom look stage read rest
      | none => valueFrom look .plain (c :: read) rest

def afterEqual? (cs : List Char) : Option (List Char) :=
  match cs.dropWhile Text.isBlank with
  | '=' :: rest => some (rest.dropWhile Text.isBlank)
  | _ => none

inductive Line where
  | nothing
  | setting (name : String) (text : List Char)
  deriving DecidableEq, Repr

/-- Reads a line. The word `export` may stand before the name. -/
def line? (cs : List Char) : Option Line :=
  match (Text.dropEndWhile Text.isBlank cs).dropWhile Text.isBlank with
  | [] => some .nothing
  | '#' :: _ => some .nothing
  | cs =>
    match name? cs with
    | none => none
    | some (name, rest) =>
      match afterEqual? rest with
      | some text => some (.setting name text)
      | none =>
        if name = "export" then
          match name? (rest.dropWhile Text.isBlank) with
          | some (name, rest) => (afterEqual? rest).map (.setting name)
          | none => none
        else none

def value? (look : String → String) (text : List Char) : Option String :=
  match text with
  | [] => some ""
  | '#' :: _ => some ""
  | text => (valueFrom look .plain [] text).map String.ofList

/-- Supplies the settings of lines; those set so far are kept for what refers to them. -/
def supplyLines (e set : Environment) : List (List Char) → Environment
  | [] => e
  | cs :: rest =>
    match line? cs with
    | none => e
    | some .nothing => supplyLines e set rest
    | some (.setting name text) =>
      let look (name : String) := ((e.get? name).orElse fun _ => set.get? name).getD ""
      match value? look text with
      | none => e
      | some value => supplyLines (e.supply name value) ⟨(name, value) :: set.bindings⟩ rest

def mark : List UInt8 := [0xEF, 0xBB, 0xBF]

def textLines (bytes : List UInt8) : List (List Char) :=
  textsOf (splitLines [] (if mark.isPrefixOf bytes then bytes.drop mark.length else bytes))

end Settings

def Environment.supplyFile (e : Environment) (bytes : List UInt8) : Environment :=
  Settings.supplyLines e ⟨[]⟩ (Settings.joinLines .plain [] (Settings.textLines bytes))

end BulkLoad
