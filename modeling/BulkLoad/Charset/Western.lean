import BulkLoad.Charset.Candidate
import BulkLoad.Charset.Table
import BulkLoad.Charset.Words

/-!
The candidate for the languages of western Europe.

Letters fall into classes (capital or small, plain or accented, vowel or not), and a table tells how
likely each class is after each other.
-/
namespace BulkLoad.Charset.Western

/-- The class of each byte: 0 for none, 1 for signs, 2 and 3 for plain capital and small letters, 4
to 7 for accented ones. -/
def classes : Array Nat :=
  digitTable
    ["1111111111111111111111111111111111111111111111111111111111111111",
      "1222222222222222222222222221111113333333333333333333333333311111",
      "1017111111515050011111111171707511111111111111111111111111111111",
      "4444445544444444554444414444455566666677666666667766666166666777"]

/-- How likely a class is after another: 0 for never, 1 for hardly, 2 for sometimes, 3 for often. -/
def likelihoods : Array Nat :=
  digitTable
    ["00000000",
      "03333333",
      "03333333",
      "03331133",
      "03331212",
      "03333333",
      "03131113",
      "03131133"]

structure Tally where
  last : Nat
  hardly : Nat
  sometimes : Nat
  often : Nat

/-- Looks at bytes; `none` if two of them never follow each other. -/
def tallyFrom (t : Tally) : List UInt8 → Option Tally
  | [] => some t
  | b :: rest =>
    let c := classes.getD b.toNat 1
    match likelihoods.getD (8 * t.last + c) 0 with
    | 0 => none
    | 1 => tallyFrom ⟨c, t.hardly + 1, t.sometimes, t.often⟩ rest
    | 2 => tallyFrom ⟨c, t.hardly, t.sometimes + 1, t.often⟩ rest
    | _ => tallyFrom ⟨c, t.hardly, t.sometimes, t.often + 1⟩ rest

/-- The confidence that a tally gives: never more than 73 hundredths, as the set fits most texts. -/
def confidence (t : Tally) : Confidence :=
  let all := t.hardly + t.sometimes + t.often
  if all = 0 then 0 else (t.often - 20 * t.hardly) * percent 73 / all

def examine (sample : List UInt8) : Candidate :=
  match tallyFrom ⟨1, 0, 0, 0⟩ (Words.untagged sample) with
  | none => ⟨"iso-8859-1", false, percent 1⟩
  | some t => ⟨"iso-8859-1", false, confidence t⟩

end BulkLoad.Charset.Western
