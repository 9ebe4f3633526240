import BulkLoad.Json.Reader
import BulkLoad.Json.Writer
import BulkLoad.Proofs.Decimal.Numerals
import BulkLoad.Proofs.Text.Spans

/-!
Strings and whole numbers of JSON read back.

A string is read character by character: what is written for a character, escaped or not, is read
as that character in one step. A number is read up to something that cannot go on it.
-/
namespace BulkLoad.Json

open Decimal (isDigit digits)
open Text (Stops span_append)

section Strings

theorem hexValue?_hexDigit {d : Nat} (h : d < 16) : hexValue? (hexDigit d) = some d := by
  have hall : ∀ d : Fin 16, hexValue? (hexDigit d) = some d.val := by decide
  exact hall ⟨d, h⟩

theorem unicodeEscape_of_control {c : Char} (h : c.toNat < 0x20) (rest : List Char) :
    unicodeEscape ('0' :: '0' :: hexDigit (c.toNat / 16) :: hexDigit (c.toNat % 16) :: rest) =
      .ok (c, rest) := by
  have hhigh := hexValue?_hexDigit (show c.toNat / 16 < 16 by omega)
  have hlow := hexValue?_hexDigit (show c.toNat % 16 < 16 by omega)
  have hnumber : hexNumber? ['0', '0', hexDigit (c.toNat / 16), hexDigit (c.toNat % 16)] =
      some c.toNat := by
    have hzero : hexValue? '0' = some 0 := rfl
    simp only [hexNumber?, List.foldl_cons, List.foldl_nil, hzero, hhigh, hlow, bind, pure,
      Option.bind_some, Option.some.injEq]
    omega
  have hplain : c.toNat < 0xD800 ∨ 0xDBFF < c.toNat := .inl (by omega)
  have hfirst : ¬ (0xDC00 ≤ c.toNat ∧ c.toNat ≤ 0xDFFF) := by omega
  simp only [unicodeEscape, escapeCode, hnumber, bind, Except.bind, if_neg hfirst, if_pos hplain,
    pure, Except.pure, Char.ofNat_toNat]

/-- What is written for a character is read as that character. -/
theorem stringBody_escapeChar (fuel : Nat) (done : List Char) (c : Char) (rest : List Char) :
    stringBody (fuel + 1) done (escapeChar c ++ rest) = stringBody fuel (c :: done) rest := by
  unfold escapeChar
  split_ifs with _ _ _ _ _ _ _ hcontrol
  -- The seven characters with an escape of their own are read back by computation.
  iterate 7 case pos => subst_vars; rfl
  case pos =>
      simp only [List.cons_append, List.nil_append, stringBody, unicodeEscape_of_control hcontrol]
  case neg =>
      simp only [List.cons_append, List.nil_append]
      rw [stringBody]
      · rw [if_neg hcontrol]
      all_goals simp_all

theorem stringBody_flatMap (cs : List Char) {fuel : Nat} (hfuel : cs.length < fuel)
    (done rest : List Char) :
    stringBody fuel done (cs.flatMap escapeChar ++ '"' :: rest) =
      .ok (String.ofList (done.reverse ++ cs), rest) := by
  induction cs generalizing fuel done with
  | nil =>
      obtain ⟨fuel, rfl⟩ := Nat.exists_eq_succ_of_ne_zero (Nat.ne_of_gt hfuel)
      rw [List.append_nil]
      rfl
  | cons c cs ih =>
      rw [List.length_cons] at hfuel
      obtain ⟨fuel, rfl⟩ : ∃ n, fuel = n + 1 := ⟨fuel - 1, by omega⟩
      rw [List.flatMap_cons, List.append_assoc, stringBody_escapeChar, ih (by omega),
        List.reverse_cons, List.append_assoc, List.singleton_append]

theorem length_le_escaped (cs : List Char) : cs.length ≤ (cs.flatMap escapeChar).length := by
  induction cs with
  | nil => exact Nat.le_refl _
  | cons c cs ih =>
      have hpos : 0 < (escapeChar c).length := by
        unfold escapeChar
        split_ifs <;> exact Nat.succ_pos _
      rw [List.flatMap_cons, List.length_append, List.length_cons]
      omega

theorem length_stringText (s : String) :
    s.toList.length + 2 ≤ (stringText s).length := by
  have hbody := length_le_escaped s.toList
  simp only [stringText, List.length_cons, List.length_append, List.length_nil]
  omega

/-- A string literal without its opening quote. -/
theorem stringBody_stringText (s : String) {fuel : Nat} (hfuel : (stringText s).length ≤ fuel)
    (rest : List Char) :
    stringBody fuel [] (s.toList.flatMap escapeChar ++ '"' :: rest) = .ok (s, rest) := by
  have hlength := length_stringText s
  rw [stringBody_flatMap s.toList (by omega), List.reverse_nil, List.nil_append,
    String.ofList_toList]

theorem stringText_append (s : String) (rest : List Char) :
    stringText s ++ rest = '"' :: (s.toList.flatMap escapeChar ++ '"' :: rest) := by
  rw [stringText, List.cons_append, List.append_assoc, List.singleton_append]

end Strings

section Numbers

def extendsNumber (c : Char) : Bool := isDigit c || c == '.' || c == 'e' || c == 'E'

variable {rest : List Char}

theorem stops_digits (h : Stops extendsNumber rest) : Stops isDigit rest := by
  intro c hc
  have hnot := h c hc
  simp only [extendsNumber, Bool.or_eq_false_iff] at hnot
  exact hnot.1.1.1

theorem digitRun_digits (n : Nat) (h : Stops isDigit rest) :
    digitRun (digits n ++ rest) = .ok (digits n, rest) := by
  have hall : ∀ c ∈ digits n, isDigit c = true :=
    List.all_eq_true.mp (Decimal.all_isDigit_digits n)
  obtain ⟨htake, hdrop⟩ := span_append hall h
  obtain ⟨c, cs, hdigits⟩ := List.exists_cons_of_ne_nil (Decimal.digits_ne_nil n)
  rw [digitRun, htake, hdrop, hdigits]

theorem wholeDigits_digits (n : Nat) (h : Stops isDigit rest) :
    wholeDigits (digits n ++ rest) = .ok (digits n, rest) := by
  by_cases hn : n = 0
  · have hrun := digitRun_digits 0 h
    rw [Decimal.digits_zero] at hrun
    rw [hn, Decimal.digits_zero]
    cases rest with
    | nil => exact hrun
    | cons c rest =>
        have hc : isDigit c = false := h c rfl
        simp only [wholeDigits, List.cons_append, List.nil_append, hc, Bool.false_eq_true, if_false]
  · obtain ⟨c, cs, hdigits⟩ := List.exists_cons_of_ne_nil (Decimal.digits_ne_nil n)
    have hc : c ≠ '0' := by
      rintro rfl
      exact Decimal.head?_digits hn (by rw [hdigits]; rfl)
    have hrun := digitRun_digits n h
    rw [hdigits, List.cons_append] at hrun ⊢
    rw [wholeDigits]
    · exact hrun
    · intro d more heq
      exact absurd (List.cons.inj heq).1 hc

theorem fractionDigits_none (h : Stops extendsNumber rest) :
    fractionDigits rest = .ok (none, rest) := by
  cases rest with
  | nil => rfl
  | cons c rest =>
      have hc : c ≠ '.' := by
        rintro rfl
        exact absurd (h '.' rfl) (by decide)
      rw [fractionDigits]
      intro more heq
      exact absurd (List.cons.inj heq).1 hc

theorem exponentPart_none (h : Stops extendsNumber rest) :
    exponentPart rest = .ok (none, rest) := by
  cases rest with
  | nil => rfl
  | cons c rest =>
      have hc : ¬ (c = 'e' ∨ c = 'E') := by
        rintro (rfl | rfl) <;> exact absurd (h _ rfl) (by decide)
      simp only [exponentPart, if_neg hc]

def IsWord (z : Int) : Prop := -Decimal.signedBound ≤ z ∧ z < Decimal.wordBound

theorem numeral_digits (negative : Bool) {n : Nat}
    (h : if negative then 0 < n ∧ n ≤ Decimal.signedBound else n < Decimal.wordBound) :
    numeral negative (digits n) none none =
      .ok (.whole (if negative then -(n : Int) else n)) := by
  simp only [numeral, Decimal.valueOf_digits]
  cases negative <;> simp_all

/-- A whole number is read up to something that does not go on it. -/
theorem readNumber_intText {z : Int} (hz : IsWord z) (h : Stops extendsNumber rest) :
    readNumber ((Decimal.intText z).toList ++ rest) = .ok (.number (.whole z), rest) := by
  obtain ⟨hlow, hhigh⟩ := hz
  have hwhole (n : Nat) := wholeDigits_digits n (stops_digits h)
  cases z with
  | ofNat n =>
      have hfits : n < Decimal.wordBound := by simpa using hhigh
      have hnumeral := numeral_digits false (n := n) (by simpa using hfits)
      obtain ⟨c, cs, hdigits⟩ := List.exists_cons_of_ne_nil (Decimal.digits_ne_nil n)
      have hc : c ≠ '-' := by
        have hdigit := List.all_eq_true.mp (Decimal.all_isDigit_digits n) c (by simp [hdigits])
        rintro rfl
        exact absurd hdigit (by decide)
      simp only [Decimal.intText, Decimal.text, String.toList_ofList]
      have hread := hwhole n
      rw [hdigits, List.cons_append] at hread ⊢
      unfold readNumber
      split
      rename_i hsign
      split at hsign
      · rename_i heq
        exact absurd (List.cons.inj heq).1 hc
      · cases hsign
        simp only [hread, bind, Except.bind, fractionDigits_none h, exponentPart_none h]
        rw [← hdigits, hnumeral]
        rfl
  | negSucc n =>
      have hfits : n + 1 ≤ Decimal.signedBound := by omega
      have hnumeral := numeral_digits true (n := n + 1)
        (by simpa using hfits)
      simp only [Decimal.intText, Decimal.text, String.toList_append, String.toList_ofList]
      change readNumber ('-' :: (digits (n + 1) ++ rest)) = _
      simp only [readNumber, hwhole, bind, Except.bind, fractionDigits_none h, exponentPart_none h,
        hnumeral]
      rfl

end Numbers

end BulkLoad.Json
