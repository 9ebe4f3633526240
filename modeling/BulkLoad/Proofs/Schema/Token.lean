import BulkLoad.Proofs.Decimal.Numerals
import BulkLoad.Proofs.Text.Spans
import BulkLoad.Schema.Basic

/-!
The spelling of a type read back.

A spelling has no blanks and no capitals, so it is read as it stands. What can go wrong is the
width: it must be positive and fit 64 bits.
-/
namespace BulkLoad

namespace ColumnType

def Positive (t : ColumnType) : Prop := ∀ w, t = .char w → 1 ≤ w

theorem positive_int : Positive .int := by
  intro w hw
  cases hw

theorem positive_bool : Positive .bool := by
  intro w hw
  cases hw

theorem positive_char {w : Nat} : Positive (.char w) ↔ 1 ≤ w := by
  simp [Positive]

def isTooWide : ColumnType → Bool
  | .char width => Decimal.wordBound ≤ width
  | _ => false

theorem isTooWide_eq_false_iff (t : ColumnType) :
    t.isTooWide = false ↔ ∀ w, t = .char w → w < Decimal.wordBound := by
  cases t <;> simp [isTooWide]

theorem token_char (w : Nat) :
    (token (.char w)).toList = 'c' :: 'h' :: 'a' :: 'r' :: '(' :: (Decimal.digits w ++ [')']) := by
  simp [token, Decimal.text]

theorem trimBoth_token (t : ColumnType) :
    Text.trimBoth Text.isBlank t.token.toList = t.token.toList := by
  cases t with
  | int | bool => decide
  | char w =>
      rw [Text.trimBoth_eq_self_iff, token_char]
      constructor
      · intro c hc
        cases hc
        rfl
      · intro c hc
        simp only [← List.cons_append, List.getLast?_append, List.getLast?_singleton,
          Option.some_or, Option.some.injEq] at hc
        rw [← hc]
        rfl

theorem toLower_token (t : ColumnType) : t.token.toList.map Char.toLower = t.token.toList := by
  cases t with
  | int | bool => decide
  | char w =>
      have hdigits : (Decimal.digits w).map Char.toLower = Decimal.digits w :=
        List.map_congr_left (g := id) (fun c hc => Decimal.toLower_of_isDigit
          ((Decimal.isNumeral_digits w).2 c hc)) |>.trans (List.map_id _)
      rw [token_char]
      simp only [List.map_cons, List.map_append, hdigits, List.map_nil]
      rfl

theorem width?_digits (w : Nat) :
    width? (Decimal.digits w) = if 0 < w ∧ w < Decimal.wordBound then some w else none := by
  have htrim : Text.trimBoth Text.isBlank (Decimal.digits w) = Decimal.digits w :=
    Text.trimBoth_of_plain fun c hc =>
      Decimal.isBlank_of_isDigit ((Decimal.isNumeral_digits w).2 c hc)
  rw [width?, htrim, Decimal.unsigned?_digits]

/-- The spelling of a type is read back unless its width is none for a type. -/
theorem ofText_token {t : ColumnType} (h : t.Positive) :
    ofText t.token = if t.isTooWide then .error (.invalidType t.token) else .ok t := by
  have hread : ofText? t.token = if t.isTooWide then none else some t := by
    rw [ofText?, trimBoth_token, toLower_token]
    cases t with
    | int | bool => decide
    | char w =>
        have hpos : 0 < w := positive_char.mp h
        rw [token_char]
        simp only [ofToken?, List.getLast?_concat, List.dropLast_concat, if_true, width?_digits,
          hpos, true_and, isTooWide, decide_eq_true_eq]
        by_cases hw : w < Decimal.wordBound
        · rw [if_pos hw, if_neg (Nat.not_le.mpr hw), Option.map_some]
        · rw [if_neg hw, if_pos (Nat.not_lt.mp hw), Option.map_none]
  rw [ofText, hread]
  cases t.isTooWide <;> rfl

theorem token_injective {t u : ColumnType} (h : t.token = u.token) : t = u := by
  have hchars : t.token.toList = u.token.toList := congrArg String.toList h
  have hint : token .int = "int" := rfl
  have hbool : token .bool = "bool" := rfl
  cases t <;> cases u <;> simp [token_char, hint, hbool] at hchars ⊢
  case char.char w w' =>
      have hvalue := congrArg Decimal.valueOf hchars
      rwa [Decimal.valueOf_digits, Decimal.valueOf_digits] at hvalue

end ColumnType

end BulkLoad
