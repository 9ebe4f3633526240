import BulkLoad.Definition.Shape
import BulkLoad.Proofs.Decimal.Numerals
import BulkLoad.Proofs.Json.Check
import BulkLoad.Proofs.Schema.FirstFault

/-!
The format of table definitions, and what is said of values that are not in it.

The format is told here without the checks that look for faults: which keys there are, and which
texts stand under them. The checks say nothing of a value exactly when it is in the format. Of the
columns they say one after the other what is wrong with each, so that the faults of one column
neither hide nor add any fault elsewhere. Reserved words and widths beyond 64 bits are in the
format.
-/
namespace BulkLoad

open Json (Check)

namespace Definition

/-- The types of the format: two words, and `char` with a number that has no zero in front. -/
inductive TypeName : List Char → Prop
  | int : TypeName "int".toList
  | bool : TypeName "bool".toList
  | char {first : Char} {rest : List Char} (hfirst : first.isDigit = true) (hzero : first ≠ '0')
      (hrest : ∀ c ∈ rest, c.isDigit = true) :
      TypeName ("char(".toList ++ first :: rest ++ [')'])

structure ColumnInFormat (v : Json) : Prop where
  keys : ∃ members, v = .object members ∧
    ∀ member ∈ members, member.1 = "name" ∨ member.1 = "type" ∨ member.1 = "constraints"
  name : ∃ name, v.get? "name" = some (.string name) ∧ Identifier.Spells name.toList
  type : ∃ type, v.get? "type" = some (.string type) ∧ TypeName type.toList
  constraints : ∀ w, v.get? "constraints" = some w →
    ∃ words : List String, w = .array (words.map .string) ∧ words.Nodup ∧
      ∀ word ∈ words, word = "id" ∨ word = "unique"

structure InFormat (v : Json) : Prop where
  keys : ∃ members, v = .object members ∧
    ∀ member ∈ members, member.1 = "table" ∨ member.1 = "columns"
  table : ∃ name, v.get? "table" = some (.string name) ∧ Identifier.Spells name.toList
  columns : ∃ items, v.get? "columns" = some (.array items) ∧ items ≠ [] ∧
    ∀ item ∈ items, ColumnInFormat item

theorem isWidth_iff_digits {cs : List Char} :
    isWidth cs = true ↔
      ∃ first rest, cs = first :: rest ∧ first.isDigit = true ∧ first ≠ '0' ∧
        ∀ c ∈ rest, c.isDigit = true := by
  cases cs with
  | nil => simp [isWidth]
  | cons first rest => simp [isWidth, Decimal.isDigit_eq, and_assoc]

theorem char_opening (rest : List Char) :
    "char(".toList ++ rest = 'c' :: 'h' :: 'a' :: 'r' :: '(' :: rest := rfl

theorem isTypeToken_iff_name {cs : List Char} : isTypeToken cs = true ↔ TypeName cs := by
  constructor
  · intro h
    unfold isTypeToken at h
    split at h
    · exact .int
    · exact .bool
    · rename_i rest
      rw [Bool.and_eq_true, beq_iff_eq] at h
      obtain ⟨first, others, hwidth, hfirst, hzero, hothers⟩ := isWidth_iff_digits.mp h.2
      have hname := TypeName.char hfirst hzero hothers
      rw [← hwidth, List.append_assoc, List.dropLast_append_getLast? _ h.1] at hname
      exact hname
    · cases h
  · intro h
    cases h with
    | int | bool => rfl
    | @char first rest hfirst hzero hrest =>
        have hwidth : isWidth (first :: rest) = true :=
          isWidth_iff_digits.mpr ⟨first, rest, rfl, hfirst, hzero, hrest⟩
        rw [List.append_assoc, char_opening, isTypeToken, List.getLast?_concat,
          List.dropLast_concat, hwidth]
        rfl

theorem wordPattern_holds_iff (s : String) :
    wordPattern.holds s = true ↔ Identifier.Spells s.toList := Identifier.isWord_iff s

theorem typePattern_holds_iff (s : String) : typePattern.holds s = true ↔ TypeName s.toList :=
  isTypeToken_iff_name

/-- A member that must be there and be a text in a set. -/
theorem textMember_iff (v : Json) (name : String) {pattern : Json.Pattern} {Holds : String → Prop}
    (hpattern : ∀ s, pattern.holds s = true ↔ Holds s) :
    ((∀ w, v.get? name = some w → Check.text pattern w = []) ∧ v.get? name ≠ none) ↔
      ∃ s, v.get? name = some (.string s) ∧ Holds s := by
  simp only [Check.text_eq_nil_iff, hpattern]
  cases v.get? name with
  | none => simp
  | some w => simp

theorem columnShape_eq_nil_iff_format {v : Json} : columnShape v = [] ↔ ColumnInFormat v := by
  have hname := textMember_iff v "name" wordPattern_holds_iff
  have htype := textMember_iff v "type" typePattern_holds_iff
  have hwords (word : String) : word ∈ ["id", "unique"] ↔ word = "id" ∨ word = "unique" := by simp
  have hkeys (key : String) : key ∈ ["constraints", "name", "type"] ↔
      key = "name" ∨ key = "type" ∨ key = "constraints" := by
    simp
    tauto
  rw [columnShape, Check.record_eq_nil_iff]
  simp only [List.forall_mem_cons, List.not_mem_nil, false_implies, implies_true, and_true,
    List.map_cons, List.map_nil, Check.distinctWords_eq_nil_iff, hkeys, hwords]
  constructor
  · rintro ⟨members, hobject, hknown, ⟨hconstraints, hnames, htypes⟩, hnamed, htyped⟩
    exact ⟨⟨members, hobject, hknown⟩, hname.mp ⟨hnames, hnamed⟩, htype.mp ⟨htypes, htyped⟩,
      hconstraints⟩
  · rintro ⟨⟨members, hobject, hknown⟩, hnamed, htyped, hconstraints⟩
    obtain ⟨hnames, hnamed⟩ := hname.mpr hnamed
    obtain ⟨htypes, htyped⟩ := htype.mpr htyped
    exact ⟨members, hobject, hknown, ⟨hconstraints, hnames, htypes⟩, hnamed, htyped⟩

theorem violations_eq_nil_iff_format {v : Json} : violations v = [] ↔ InFormat v := by
  have htable := textMember_iff v "table" wordPattern_holds_iff
  have hkeys (key : String) : key ∈ ["columns", "table"] ↔ key = "table" ∨ key = "columns" := by
    simp
    tauto
  rw [violations, shape, Check.record_eq_nil_iff]
  simp only [List.forall_mem_cons, List.not_mem_nil, false_implies, implies_true, and_true,
    List.map_cons, List.map_nil, Check.someItems_eq_nil_iff, columnShape_eq_nil_iff_format, hkeys]
  constructor
  · rintro ⟨members, hobject, hknown, ⟨hcolumns, htables⟩, hnamed, hlisted⟩
    obtain ⟨w, hw⟩ := Option.ne_none_iff_exists'.mp hlisted
    obtain ⟨items, rfl, hne, hitems⟩ := hcolumns w hw
    exact ⟨⟨members, hobject, hknown⟩, htable.mp ⟨htables, hnamed⟩, items, hw, hne, hitems⟩
  · rintro ⟨⟨members, hobject, hknown⟩, hnamed, items, hw, hne, hitems⟩
    obtain ⟨htables, hnamed⟩ := htable.mpr hnamed
    refine ⟨members, hobject, hknown, ⟨?_, htables⟩, hnamed, ?_⟩
    · intro w hw'
      cases hw.symm.trans hw'
      exact ⟨items, rfl, hne, hitems⟩
    · rw [hw]
      exact Option.some_ne_none _

def messages (v : Json) : List String := (violations v).map (·.message)

def columnMessages (v : Json) : List String := (columnShape v).map (·.message)

theorem columnMessages_eq_nil_iff {v : Json} : columnMessages v = [] ↔ ColumnInFormat v := by
  rw [columnMessages, List.map_eq_nil_iff, columnShape_eq_nil_iff_format]

theorem someItems_of_ne_nil {items : List Json} (h : items ≠ []) :
    Check.someItems columnShape (.array items) = items.flatMap columnShape := by
  simp [Check.someItems, h]

/-- What is told of the columns is what is told of each, in order; what is told besides has nothing
to do with them. -/
theorem messages_of_columns {v : Json} {items : List Json}
    (h : v.get? "columns" = some (.array items)) (hne : items ≠ []) :
    ∃ before after, messages v = before ++ items.flatMap columnMessages ++ after ∧
      ∀ others, others ≠ [] →
        messages (v.replaced "columns" (.array others)) =
          before ++ others.flatMap columnMessages ++ after := by
  -- The columns are the first of the two members that are checked.
  have hfields : ∀ field ∈ [] ++ [("table", Check.text wordPattern)], field.1 ≠ "columns" := by
    simp
  obtain ⟨before, after, hv, hreplaced⟩ :=
    Check.record_replaced (.someItems columnShape) ["table", "columns"] hfields h
  have htold (others : List Json) : (others.flatMap columnShape).map (·.message) =
      others.flatMap columnMessages := List.map_flatMap
  refine ⟨before.map (·.message), after.map (·.message), ?_, ?_⟩
  · rw [messages, violations, shape, ← List.nil_append [_, _], hv, someItems_of_ne_nil hne,
      List.map_append, List.map_append, htold]
  · intro others hothers
    rw [messages, violations, shape, ← List.nil_append [_, _], hreplaced,
      someItems_of_ne_nil hothers, List.map_append, List.map_append, htold]

/-- **What is said of definitions.** Nothing is wrong with a value exactly when it is in the format,
and with a column exactly when it is in the format of columns. Where there are columns, what is told
of the value is told column by column, and what is told besides is the same for any columns: so
another column in the place of one, itself in the format, takes away what was told of that one and
leaves all else as it was. -/
theorem violations_of_format (v : Json) :
    (violations v = [] ↔ InFormat v) ∧
      (∀ item, columnMessages item = [] ↔ ColumnInFormat item) ∧
      ∀ items, v.get? "columns" = some (.array items) → items ≠ [] →
        (∃ before after, messages v = before ++ items.flatMap columnMessages ++ after ∧
          ∀ others, others ≠ [] →
            messages (v.replaced "columns" (.array others)) =
              before ++ others.flatMap columnMessages ++ after) ∧
        ∀ left item right other, items = left ++ item :: right → ColumnInFormat other →
          ∃ front back, messages v = front ++ columnMessages item ++ back ∧
            messages (v.replaced "columns" (.array (left ++ other :: right))) = front ++ back := by
  refine ⟨violations_eq_nil_iff_format, fun _ => columnMessages_eq_nil_iff, ?_⟩
  intro items hcolumns hne
  refine ⟨messages_of_columns hcolumns hne, ?_⟩
  intro left item right other hitems hother
  obtain ⟨before, after, hv, hreplaced⟩ := messages_of_columns hcolumns hne
  refine ⟨before ++ left.flatMap columnMessages, right.flatMap columnMessages ++ after, ?_, ?_⟩
  · simp only [hv, hitems, List.flatMap_append, List.flatMap_cons, List.append_assoc]
  · rw [hreplaced _ (by simp), List.flatMap_append, List.flatMap_cons,
      columnMessages_eq_nil_iff.mpr hother, List.nil_append]
    simp only [List.append_assoc]

example :
    messages (.object [("columns", .array [
        .object [("name", .string "1a"), ("type", .string "int")],
        .object [("name", .string "b"), ("type", .string "char(08)")]]), ("size", .null)]) =
      ["\"1a\" does not match \"^[A-Za-z_][A-Za-z0-9_]*$\"",
        "\"char(08)\" does not match \"^(int|bool|char\\([1-9][0-9]*\\))$\"",
        "Additional properties are not allowed ('size' was unexpected)",
        "\"table\" is a required property"] := by decide +kernel

end Definition

end BulkLoad
