import BulkLoad.Decimal.Basic
import BulkLoad.Text.Blank
import Mathlib.Data.List.Basic
import Mathlib.Data.List.Induction
import Mathlib.Data.Nat.Digits.Defs

/-!
What the readers of numerals accept, and which number they make of it.

The number that digits denote is told by their places, apart from the way in which it is added up
from the left. Zeros in front change nothing, so one number has many numerals; the one that is
written has no zero in front and is read back as the number. Digits without a zero in front are
exactly those that are written for the numbers from one on.
-/
namespace BulkLoad.Decimal

theorem digitChar_digitValue {c : Char} (h : isDigit c = true) : digitChar (digitValue c) = c := by
  simp only [isDigit, Bool.and_eq_true, decide_eq_true_eq] at h
  have hback : 0x30 + (c.toNat - 0x30) = c.toNat := by omega
  rw [digitChar, digitValue, hback, Char.ofNat_toNat]

theorem digitValue_lt {c : Char} (h : isDigit c = true) : digitValue c < 10 := by
  simp only [isDigit, Bool.and_eq_true, decide_eq_true_eq] at h
  rw [digitValue]
  omega

theorem digits_of_lt {n : Nat} (h : n < 10) : digits n = [digitChar n] := by
  rw [digits, if_pos h]

theorem digits_of_ge {n : Nat} (h : 10 ≤ n) :
    digits n = digits (n / 10) ++ [digitChar (n % 10)] := by
  rw [digits, if_neg (Nat.not_lt.mpr h)]

theorem digits_zero : digits 0 = ['0'] := digits_of_lt (by decide)

theorem head?_digits {n : Nat} (h : n ≠ 0) : (digits n).head? ≠ some '0' := by
  fun_induction digits n with
  | case1 n hn =>
      intro hzero
      have hchar : digitChar n = '0' := by simpa using hzero
      have hvalue := digitValue_digitChar hn
      rw [hchar] at hvalue
      exact h hvalue.symm
  | case2 n hn ih =>
      rw [List.head?_append_of_ne_nil _ (digits_ne_nil _)]
      exact ih (by omega)

/-- Digits without a zero in front are those of their value. -/
theorem digits_valueOf {ds : List Char} (hne : ds ≠ []) (hdigits : ∀ c ∈ ds, isDigit c = true)
    (hfront : ds.head? ≠ some '0') : digits (valueOf ds) = ds := by
  induction ds using List.reverseRecOn with
  | nil => exact absurd rfl hne
  | append_singleton front c ih =>
      have hc := hdigits c (by simp)
      have hlt := digitValue_lt hc
      rw [valueOf_append_digit]
      by_cases hnil : front = []
      · subst hnil
        rw [show valueOf [] = 0 from rfl, Nat.mul_zero, Nat.zero_add, digits_of_lt hlt,
          digitChar_digitValue hc, List.nil_append]
      · rw [List.head?_append_of_ne_nil _ hnil] at hfront
        have hback := ih hnil (fun d hd => hdigits d (List.mem_append_left _ hd)) hfront
        have hpos : valueOf front ≠ 0 := by
          intro hzero
          rw [hzero, digits_zero] at hback
          rw [← hback] at hfront
          exact hfront rfl
        have hdiv : (10 * valueOf front + digitValue c) / 10 = valueOf front := by omega
        have hmod : (10 * valueOf front + digitValue c) % 10 = digitValue c := by omega
        rw [digits_of_ge (by omega), hdiv, hmod, hback, digitChar_digitValue hc]

def IsNumeral (ds : List Char) : Prop := ds ≠ [] ∧ ∀ c ∈ ds, c.isDigit = true

def placeValue (ds : List Char) : Nat :=
  Nat.ofDigits 10 (ds.reverse.map fun c => c.toNat - '0'.toNat)

inductive Denotes : List Char → Int → Prop
  | plain {ds : List Char} (h : IsNumeral ds) : Denotes ds (placeValue ds)
  | plus {ds : List Char} (h : IsNumeral ds) : Denotes ('+' :: ds) (placeValue ds)
  | minus {ds : List Char} (h : IsNumeral ds) : Denotes ('-' :: ds) (-placeValue ds)

theorem isDigit_eq (c : Char) : isDigit c = c.isDigit := by
  have hword : c.isDigit = (decide (48 ≤ c.val) && decide (c.val ≤ 57)) := by
    simp [Char.isDigit]
  rw [hword]
  rfl

theorem eq_digitChar {c : Char} (h : c.isDigit = true) : ∃ d : Fin 10, c = digitChar d := by
  rw [← isDigit_eq] at h
  exact ⟨⟨digitValue c, digitValue_lt h⟩, (digitChar_digitValue h).symm⟩

theorem isBlank_of_isDigit {c : Char} (h : c.isDigit = true) : Text.isBlank c = false := by
  have hall : ∀ d : Fin 10, Text.isBlank (digitChar d) = false := by decide
  obtain ⟨d, rfl⟩ := eq_digitChar h
  exact hall d

theorem toLower_of_isDigit {c : Char} (h : c.isDigit = true) : c.toLower = c := by
  have hall : ∀ d : Fin 10, (digitChar d).toLower = digitChar d := by decide
  obtain ⟨d, rfl⟩ := eq_digitChar h
  exact hall d

theorem valueOf_eq (ds : List Char) : valueOf ds = placeValue ds := by
  induction ds using List.reverseRecOn with
  | nil => rfl
  | append_singleton front c ih =>
      rw [valueOf_append_digit, ih, placeValue, placeValue, List.reverse_append]
      simp only [List.reverse_singleton, List.singleton_append, List.map_cons, Nat.ofDigits_cons]
      exact Nat.add_comm _ _

theorem ofDigits?_eq_some_iff {ds : List Char} {n : Nat} :
    ofDigits? ds = some n ↔ IsNumeral ds ∧ placeValue ds = n := by
  simp only [ofDigits?, IsNumeral, valueOf_eq, List.all_eq_true, isDigit_eq,
    Option.ite_none_right_eq_some, Option.some.injEq]

theorem IsNumeral.head_ne {ds : List Char} (h : IsNumeral ds) {mark : Char}
    (hmark : mark.isDigit = false) (rest : List Char) : ds ≠ mark :: rest := by
  rintro rfl
  rw [h.2 mark List.mem_cons_self] at hmark
  cases hmark

theorem isNumeral_digits (n : Nat) : IsNumeral (digits n) := by
  refine ⟨digits_ne_nil n, ?_⟩
  intro c hc
  rw [← isDigit_eq]
  exact List.all_eq_true.mp (all_isDigit_digits n) c hc

theorem placeValue_digits (n : Nat) : placeValue (digits n) = n := by
  rw [← valueOf_eq, valueOf_digits]

/-- A number without a sign is read after a plus sign or none. -/
theorem unsigned?_eq_some_iff {cs : List Char} {n : Nat} :
    unsigned? cs = some n ↔
      ∃ sign ds, cs = sign ++ ds ∧ (sign = [] ∨ sign = ['+']) ∧ IsNumeral ds ∧
        placeValue ds = n := by
  constructor
  · intro h
    unfold unsigned? at h
    split at h
    · exact ⟨['+'], _, rfl, .inr rfl, ofDigits?_eq_some_iff.mp h⟩
    · exact ⟨[], cs, rfl, .inl rfl, ofDigits?_eq_some_iff.mp h⟩
  · rintro ⟨sign, ds, rfl, rfl | rfl, hds⟩
    · rw [List.nil_append, unsigned?]
      · exact ofDigits?_eq_some_iff.mpr hds
      · exact hds.1.head_ne rfl
    · exact ofDigits?_eq_some_iff.mpr hds

theorem unsigned?_digits (n : Nat) : unsigned? (digits n) = some n :=
  unsigned?_eq_some_iff.mpr
    ⟨[], digits n, rfl, .inl rfl, isNumeral_digits n, placeValue_digits n⟩

theorem signed?_eq_some_iff {cs : List Char} {z : Int} :
    signed? cs = some z ↔ Denotes cs z := by
  constructor
  · intro h
    unfold signed? at h
    split at h <;> obtain ⟨n, hn, rfl⟩ := Option.map_eq_some_iff.mp h <;>
      obtain ⟨hds, rfl⟩ := ofDigits?_eq_some_iff.mp hn
    · exact .plus hds
    · exact .minus hds
    · exact .plain hds
  · intro h
    cases h with
    | plain hds =>
        rw [signed?, ofDigits?_eq_some_iff.mpr ⟨hds, rfl⟩]
        · rfl
        · exact hds.head_ne rfl
        · exact hds.head_ne rfl
    | plus hds | minus hds =>
        rw [signed?, ofDigits?_eq_some_iff.mpr ⟨hds, rfl⟩]
        rfl

/-- What is written for a whole number denotes it. -/
theorem denotes_intText (z : Int) : Denotes (intText z).toList z := by
  cases z with
  | ofNat n =>
      have h := Denotes.plain (isNumeral_digits n)
      rw [placeValue_digits] at h
      simpa [intText, text] using h
  | negSucc n =>
      have h := Denotes.minus (isNumeral_digits (n + 1))
      have hchars : (intText (.negSucc n)).toList = '-' :: digits (n + 1) := by
        simp [intText, text]
      rw [placeValue_digits] at h
      rw [hchars]
      exact h

theorem intText_injective {y z : Int} (h : intText y = intText z) : y = z := by
  have hy := signed?_eq_some_iff.mpr (denotes_intText y)
  rw [h, signed?_eq_some_iff.mpr (denotes_intText z), Option.some.injEq] at hy
  exact hy.symm

theorem Denotes.mem {cs : List Char} {z : Int} (h : Denotes cs z) {c : Char} (hc : c ∈ cs) :
    c.isDigit = true ∨ c = '+' ∨ c = '-' := by
  cases h with
  | plain hds => exact .inl (hds.2 c hc)
  | plus hds | minus hds =>
      rcases List.mem_cons.mp hc with rfl | hc
      · simp
      · exact .inl (hds.2 c hc)

end BulkLoad.Decimal
