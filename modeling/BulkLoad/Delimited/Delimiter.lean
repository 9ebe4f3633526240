import BulkLoad.Text.Lines

/-!
The delimiter of a header line: of four candidates the one that occurs most often.
-/
namespace BulkLoad.Delimited

/-- The characters that may delimit fields; of equals the earlier one is preferred. -/
def delimiters : List Char := [';', ',', '\t', '|']

/-- The better of two candidates for a line: the later one must occur more often. -/
def prefer (line : List Char) (best candidate : Char) : Char :=
  if line.count best < line.count candidate then candidate else best

def detectDelimiter (line : List Char) : Char :=
  delimiters.foldl (prefer line) ';'

def showDelimiter (c : Char) : String :=
  if c = '\t' then "TAB" else String.singleton c

end BulkLoad.Delimited
