/-!
Blank characters and the removal of blanks around a text.

Two sets of blanks are in use. Names, numbers and messages are trimmed of every character that
Unicode calls `White_Space`; the fields of a delimited row only of the five ASCII blanks, as they
are trimmed while still bytes. The trimming functions take the set as an argument, so their laws
are stated once.
-/
namespace BulkLoad.Text

/-- The characters of Unicode's `White_Space` property. -/
def isBlank (c : Char) : Bool :=
  let n := c.toNat
  (0x09 ≤ n && n ≤ 0x0D) || n == 0x20 || n == 0x85 || n == 0xA0 || n == 0x1680 ||
    (0x2000 ≤ n && n ≤ 0x200A) || n == 0x2028 || n == 0x2029 || n == 0x202F || n == 0x205F ||
    n == 0x3000

/-- The blanks of a delimited field: space, tab, line feed, form feed and carriage return. -/
def isFieldBlank (b : UInt8) : Bool :=
  b == 0x20 || b == 0x09 || b == 0x0A || b == 0x0C || b == 0x0D

def dropEndWhile {α : Type} (p : α → Bool) (xs : List α) : List α :=
  (xs.reverse.dropWhile p).reverse

def trimBoth {α : Type} (p : α → Bool) (xs : List α) : List α :=
  dropEndWhile p (xs.dropWhile p)

def trim (s : String) : String :=
  String.ofList (trimBoth isBlank s.toList)

def trimEnd (s : String) : String :=
  String.ofList (dropEndWhile isBlank s.toList)

def allBlank (s : String) : Bool :=
  s.toList.all isBlank

/-- The last member that is kept does not satisfy the predicate. -/
theorem getLast_dropEndWhile {α : Type} (p : α → Bool) (xs : List α)
    (h : dropEndWhile p xs ≠ []) : p ((dropEndWhile p xs).getLast h) = false := by
  have hd : xs.reverse.dropWhile p ≠ [] := by
    intro e
    exact h (by simp [dropEndWhile, e])
  have := List.head_dropWhile_not p hd
  simpa [dropEndWhile, List.getLast_reverse] using this

example : trim " \t x y\u00a0" = "x y" := by decide
example : trimBoth isFieldBlank [0x20, 0x61, 0x0B, 0x0D] = [0x61, 0x0B] := by decide

end BulkLoad.Text
