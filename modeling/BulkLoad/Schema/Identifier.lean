/-!
Names of tables and columns.

A name is a word of the query language: ASCII letters, digits and underscores, with no digit in
front. The words that the language keeps for itself are no names.
-/
namespace BulkLoad.Identifier

def reservedWords : List String := ["int", "float", "bool", "char", "fkey", "de", "pe"]

def isStart (c : Char) : Bool :=
  ('A' ≤ c && c ≤ 'Z') || ('a' ≤ c && c ≤ 'z') || c == '_'

def isPart (c : Char) : Bool :=
  isStart c || ('0' ≤ c && c ≤ '9')

def isWordChars : List Char → Bool
  | [] => false
  | c :: rest => isStart c && rest.all isPart

def isWord (s : String) : Bool := isWordChars s.toList

def isValid (s : String) : Bool := isWord s && !reservedWords.contains s

example : isWord "_x1" ∧ ¬ isWord "1x" ∧ ¬ isWord "ok\n" ∧ ¬ isWord "" := by decide

end BulkLoad.Identifier
