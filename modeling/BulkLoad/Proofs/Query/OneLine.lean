import BulkLoad.Engine.Script
import BulkLoad.Proofs.Query.Completion
import BulkLoad.Proofs.Query.Pieces

/-!
Statements that fit on one line.

A create statement is made of names, types and marks, none of which has a line break; so it always
fits. Only the values of an insert statement can keep it from being one line.
-/
namespace BulkLoad

namespace Script

theorem hasBreak_append (a b : String) : hasBreak (a ++ b) = (hasBreak a || hasBreak b) := by
  rw [hasBreak, String.toList_append, List.any_append]
  rfl

theorem hasBreak_ofList (cs : List Char) :
    hasBreak (String.ofList cs) = false ↔ ∀ c ∈ cs, c ≠ '\n' ∧ c ≠ '\r' := by
  simp [hasBreak]

theorem hasBreak_join (parts : List String) :
    hasBreak (String.join parts) = parts.any hasBreak := by
  induction parts with
  | nil => rfl
  | cons part rest ih => rw [String.join_cons, hasBreak_append, ih, List.any_cons]

theorem hasBreak_intercalate {separator : String} (hseparator : hasBreak separator = false)
    {parts : List String} (h : ∀ part ∈ parts, hasBreak part = false) :
    hasBreak (separator.intercalate parts) = false := by
  induction parts with
  | nil => rfl
  | cons part rest ih =>
      have hpart := h part List.mem_cons_self
      have hrest := ih fun other hother => h other (List.mem_cons_of_mem part hother)
      cases rest with
      | nil => rwa [String.intercalate_singleton]
      | cons next rest =>
          rw [String.intercalate_cons_cons, hasBreak_append, hasBreak_append, hpart, hseparator,
            hrest]
          rfl

theorem hasBreak_text (n : Nat) : hasBreak (Decimal.text n) = false := by
  rw [Decimal.text, hasBreak_ofList]
  intro c hc
  have hdigit := (Statement.digits_form_number n).2 c hc
  constructor <;> rintro rfl <;> cases hdigit

theorem hasBreak_of_isValid {name : String} (h : Identifier.isValid name = true) :
    hasBreak name = false := by
  have hparts := (Statement.isPart_of_isWordChars (Statement.isWord_of_isValid h)).2
  rw [← String.ofList_toList (s := name), hasBreak_ofList]
  intro c hc
  have hpart := hparts c hc
  constructor <;> rintro rfl <;> cases hpart

end Script

namespace Query

open Script

theorem hasBreak_clause {c : Column} (h : Identifier.isValid c.name = true) :
    hasBreak (clause c) = false := by
  have htype : hasBreak c.type.token = false := by
    cases c.type with
    | int | bool => rfl
    | char width =>
        rw [ColumnType.token, hasBreak_append, hasBreak_append, hasBreak_text]
        rfl
  have hmarks : hasBreak (String.join (c.constraints.map fun k => " " ++ k.marker)) = false := by
    rw [hasBreak_join, List.any_map, List.any_eq_false]
    intro k _
    cases k <;> decide
  rw [clause, hasBreak_append, hasBreak_append, hasBreak_append, hasBreak_append,
    hasBreak_of_isValid h, htype, hmarks]
  rfl

/-- A create statement fits on one line. -/
theorem hasBreak_create (s : Schema) {table : String} (h : Identifier.isValid table = true) :
    hasBreak (create s table).text = false := by
  have hclauses : hasBreak (joinWith " " ((createdColumns s).map clause)) = false := by
    apply hasBreak_intercalate rfl
    intro part hpart
    obtain ⟨c, hc, rfl⟩ := List.mem_map.mp hpart
    exact hasBreak_clause ((createdColumns_sound s).1.named c hc)
  change hasBreak ("creame tabla " ++ table ++ " \x7b " ++
    joinWith " " ((createdColumns s).map clause) ++ " \x7d pe") = false
  rw [hasBreak_append, hasBreak_append, hasBreak_append, hasBreak_append, hasBreak_of_isValid h,
    hclauses]
  rfl

end Query

end BulkLoad
