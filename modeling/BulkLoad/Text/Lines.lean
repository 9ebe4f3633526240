/-!
Lines of a text.

A line ends at a line feed, which does not belong to it, and neither does one carriage return
right before that line feed. A last line without a line feed counts if it is not empty.
-/
namespace BulkLoad.Text

/-- A line that was collected backwards, less the carriage return that stood before its end. -/
def closeLine : List Char → List Char
  | '\r' :: earlier => earlier.reverse
  | collected => collected.reverse

/-- The lines of what follows, when `collected` holds the current line backwards. -/
def linesFrom (collected : List Char) : List Char → List (List Char)
  | [] => if collected.isEmpty then [] else [collected.reverse]
  | c :: rest =>
    if c = '\n' then closeLine collected :: linesFrom [] rest
    else linesFrom (c :: collected) rest

def lines (s : String) : List String :=
  (linesFrom [] s.toList).map String.ofList

def firstLine (cs : List Char) : List Char :=
  cs.takeWhile (· ≠ '\n')

example : lines "a\r\nb\n\nc\r" = ["a", "b", "", "c\r"] := by decide
example : lines "" = [] := by decide

end BulkLoad.Text
