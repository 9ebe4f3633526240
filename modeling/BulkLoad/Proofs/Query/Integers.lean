import BulkLoad.Proofs.Decimal.Numerals
import BulkLoad.Proofs.Text.Spans
import BulkLoad.Query

/-!
Whole numbers of 64 bits in the fields of records.

A field is taken for the number that it denotes if 64 bits hold it, whatever blanks stand around it
and however many zeros in front, and for zero in every other case. So what a query says for a field
is taken for the same number again.
-/
namespace BulkLoad

theorem Decimal.isBlank_of_mem_numeral {cs : List Char} {z : Int} (h : Denotes cs z) {c : Char}
    (hc : c ∈ cs) : Text.isBlank c = false := by
  rcases h.mem hc with hdigit | rfl | rfl
  · exact isBlank_of_isDigit hdigit
  · rfl
  · rfl

namespace Value

def Spells (raw : String) (z : Int) : Prop :=
  ∃ core, Text.Trims Text.isBlank raw.toList core ∧ Decimal.Denotes core z

theorem fitsInt64_iff {z : Int} : fitsInt64 z = true ↔ -2 ^ 63 ≤ z ∧ z ≤ 2 ^ 63 - 1 := by
  have hbound : (Decimal.signedBound : Int) = 2 ^ 63 := rfl
  rw [fitsInt64, hbound, Bool.and_eq_true, decide_eq_true_eq, decide_eq_true_eq]
  omega

theorem signed?_trimmed {raw : String} {z : Int} :
    Decimal.signed? (Text.trimBoth Text.isBlank raw.toList) = some z ↔ Spells raw z := by
  rw [Decimal.signed?_eq_some_iff]
  constructor
  · exact fun h => ⟨_, Text.trims_trimBoth _ _, h⟩
  · rintro ⟨core, htrims, h⟩
    rwa [Text.trimBoth_of_trims htrims]

theorem integerOf_of_spells {raw : String} {z : Int} (h : Spells raw z) :
    integerOf raw = if fitsInt64 z then z else 0 := by
  rw [integerOf, signed?_trimmed.mpr h]

/-- A field counts as a number that it spells, or it spells none of 64 bits and counts as zero. -/
theorem integerOf_cases (raw : String) :
    (Spells raw (integerOf raw) ∧ fitsInt64 (integerOf raw) = true) ∨
      (integerOf raw = 0 ∧ ∀ z, Spells raw z → fitsInt64 z = false) := by
  cases hread : Decimal.signed? (Text.trimBoth Text.isBlank raw.toList) with
  | none =>
      right
      refine ⟨by rw [integerOf, hread], ?_⟩
      intro z hz
      cases hread.symm.trans (signed?_trimmed.mpr hz)
  | some y =>
      have hy := signed?_trimmed.mp hread
      have hvalue := integerOf_of_spells hy
      cases hfits : fitsInt64 y with
      | true =>
          rw [hfits, if_pos rfl] at hvalue
          rw [hvalue]
          exact .inl ⟨hy, hfits⟩
      | false =>
          rw [hfits] at hvalue
          refine .inr ⟨hvalue, ?_⟩
          intro z hz
          cases hread.symm.trans (signed?_trimmed.mpr hz)
          exact hfits

theorem fitsInt64_integerOf (raw : String) : fitsInt64 (integerOf raw) = true := by
  rcases integerOf_cases raw with ⟨-, hfits⟩ | ⟨hzero, -⟩
  · exact hfits
  · rw [hzero]
    decide

/-- What is written for a number spells it. -/
theorem spells_intText (z : Int) : Spells (Decimal.intText z) z := by
  have h := Decimal.denotes_intText z
  have htrimmed : Text.trimBoth Text.isBlank (Decimal.intText z).toList =
      (Decimal.intText z).toList :=
    Text.trimBoth_of_plain fun c hc => Decimal.isBlank_of_mem_numeral h hc
  exact ⟨_, Text.trimBoth_eq_iff.mp htrimmed, h⟩

theorem integerOf_intText {z : Int} (h : fitsInt64 z = true) :
    integerOf (Decimal.intText z) = z := by
  rw [integerOf_of_spells (spells_intText z), if_pos h]

/-- **Which number a field counts as.** A field that spells a whole number from -2^63 to 2^63 - 1
counts as this number, and any other field as zero. The text of such a number spells it and counts
as it again; so does, for a column of numbers, what the query of a record says for its field. -/
theorem ofRaw_int_exact (raw : String) :
    (∀ z, Spells raw z → -2 ^ 63 ≤ z → z ≤ 2 ^ 63 - 1 → ofRaw .int raw = .integer z) ∧
      ((∀ z, Spells raw z → z < -2 ^ 63 ∨ 2 ^ 63 - 1 < z) → ofRaw .int raw = .integer 0) ∧
      (∀ (column : String) (v : Int), -2 ^ 63 ≤ v → v ≤ 2 ^ 63 - 1 →
        ∃ text, Query.literal column (.integer v) = .ok text ∧ Decimal.Denotes text.toList v ∧
          ofRaw .int text = .integer v) ∧
      ∀ (c : Column) (r : Record), c.type = .int → r.get? c.name = some raw →
        ∃ text, Query.pair r c = .ok (c.name ++ ": " ++ text) ∧
          ofRaw c.type text = ofRaw c.type raw := by
  refine ⟨?_, ?_, ?_, ?_⟩
  · intro z hz hlow hhigh
    rw [ofRaw, integerOf_of_spells hz, if_pos (fitsInt64_iff.mpr ⟨hlow, hhigh⟩)]
  · intro hnone
    rcases integerOf_cases raw with ⟨hspells, hfits⟩ | ⟨hzero, -⟩
    · have hrange := fitsInt64_iff.mp hfits
      have hout := hnone _ hspells
      omega
    · rw [ofRaw, hzero]
  · intro column v hlow hhigh
    refine ⟨_, rfl, Decimal.denotes_intText v, ?_⟩
    rw [ofRaw, integerOf_intText (fitsInt64_iff.mpr ⟨hlow, hhigh⟩)]
  · intro c r htype hraw
    refine ⟨Decimal.intText (integerOf raw), ?_, ?_⟩
    · rw [Query.pair, hraw, htype]
      rfl
    · rw [htype, ofRaw, ofRaw, integerOf_intText (fitsInt64_integerOf raw)]

end Value

end BulkLoad
