import BulkLoad.Definition.Basic
import BulkLoad.Proofs.Definition.Format
import BulkLoad.Proofs.Schema.Token
import Mathlib.Data.List.Forall2

/-!
Values that describe a table.

The shape check lets through exactly the values that spell out a name and one or more columns, each
with a name, a type and a set of constraints, where the names are words and no width is zero. What
such a value describes is one name and one list of columns.
-/
namespace BulkLoad

/-- A column spelled out in a value. Constraints that are not mentioned are none. -/
structure Column.WrittenAs (c : Column) (v : Json) : Prop where
  known : ∃ members, v = .object members ∧
    ∀ member ∈ members, member.1 ∈ ["constraints", "name", "type"]
  name : v.get? "name" = some (.string c.name)
  type : v.get? "type" = some (.string c.type.token)
  constraints : ∃ listed : List Constraint,
    (v.get? "constraints").getD (.array []) = .array (listed.map fun k => .string k.word) ∧
      listed.Nodup ∧ ∀ k, k ∈ listed ↔ k ∈ c.constraints

structure Definition.Describes (v : Json) (name : String) (columns : List Column) : Prop where
  known : ∃ members, v = .object members ∧ ∀ member ∈ members, member.1 ∈ ["columns", "table"]
  table : v.get? "table" = some (.string name)
  columns : ∃ items, v.get? "columns" = some (.array items) ∧
    List.Forall₂ Column.WrittenAs columns items

def Column.IsPlain (c : Column) : Prop := Identifier.isWord c.name = true ∧ c.type.Positive

namespace Constraint

theorem word_injective : Function.Injective word := by
  intro k l h
  cases k <;> cases l <;> first | rfl | exact absurd h (by decide)

theorem ofWord?_word (k : Constraint) : ofWord? k.word = some k := by
  cases k <;> rfl

theorem exists_word_iff {s : String} : (∃ k, word k = s) ↔ s = "id" ∨ s = "unique" := by
  constructor
  · rintro ⟨k, rfl⟩
    cases k <;> decide
  · rintro (rfl | rfl)
    · exact ⟨.identity, rfl⟩
    · exact ⟨.unique, rfl⟩

/-- Different words for constraints are different constraints. -/
theorem exists_listed_iff {v : Json} :
    (∃ words : List String, v = .array (words.map .string) ∧ words.Nodup ∧
        ∀ word ∈ words, word = "id" ∨ word = "unique") ↔
      ∃ listed : List Constraint, v = .array (listed.map fun k => .string k.word) ∧
        listed.Nodup := by
  have hmap (listed : List Constraint) :
      (listed.map word).map Json.string = listed.map fun k => .string k.word := by
    rw [List.map_map]
    rfl
  have hnodup (listed : List Constraint) : (listed.map word).Nodup ↔ listed.Nodup :=
    List.nodup_map_iff word_injective
  constructor
  · rintro ⟨words, rfl, hdistinct, hwords⟩
    obtain ⟨listed, rfl⟩ : words ∈ Set.range (List.map word) := by
      rw [Set.range_list_map]
      exact fun w hw => exists_word_iff.mpr (hwords w hw)
    exact ⟨listed, congrArg Json.array (hmap listed), (hnodup listed).mp hdistinct⟩
  · rintro ⟨listed, rfl, hdistinct⟩
    refine ⟨listed.map word, congrArg Json.array (hmap listed).symm,
      (hnodup listed).mpr hdistinct, ?_⟩
    intro w hw
    obtain ⟨k, -, rfl⟩ := List.mem_map.mp hw
    exact exists_word_iff.mp ⟨k, rfl⟩

end Constraint

namespace Column

theorem mem_constraints_withConstraints {name : String} {type : ColumnType}
    {listed : List Constraint} {k : Constraint} :
    k ∈ (withConstraints name type listed).constraints ↔ k ∈ listed := by
  cases k <;> simp [constraints, withConstraints]

theorem withConstraints_of_mem {c : Column} {listed : List Constraint}
    (h : ∀ k, k ∈ listed ↔ k ∈ c.constraints) : withConstraints c.name c.type listed = c := by
  obtain ⟨name, type, identity, unique⟩ := c
  have hidentity := h .identity
  have hunique := h .unique
  cases identity <;> cases unique <;> simp_all [withConstraints, constraints]

end Column

namespace Definition

/-- A number without a zero in front is the text of a positive number. -/
theorem exists_digits_iff {cs : List Char} :
    (∃ w, 1 ≤ w ∧ Decimal.digits w = cs) ↔ Decimal.IsNumeral cs ∧ cs.head? ≠ some '0' := by
  constructor
  · rintro ⟨w, hw, rfl⟩
    exact ⟨Decimal.isNumeral_digits w, Decimal.head?_digits (Nat.one_le_iff_ne_zero.mp hw)⟩
  · rintro ⟨⟨hne, hdigits⟩, hfront⟩
    have hback := Decimal.digits_valueOf hne
      (fun c hc => (Decimal.isDigit_eq c).trans (hdigits c hc)) hfront
    refine ⟨Decimal.valueOf cs, ?_, hback⟩
    rw [Nat.one_le_iff_ne_zero]
    intro hzero
    rw [hzero, Decimal.digits_zero] at hback
    rw [← hback] at hfront
    exact hfront rfl

/-- The types of the format are the tokens of the types that have no width of zero. -/
theorem typeName_iff {s : String} :
    TypeName s.toList ↔ ∃ t : ColumnType, t.Positive ∧ t.token = s := by
  constructor
  · intro h
    generalize hchars : s.toList = cs at h
    cases h with
    | int => exact ⟨.int, ColumnType.positive_int, String.toList_inj.mp hchars.symm⟩
    | bool => exact ⟨.bool, ColumnType.positive_bool, String.toList_inj.mp hchars.symm⟩
    | @char first rest hfirst hzero hrest =>
        have hnumeral : Decimal.IsNumeral (first :: rest) :=
          ⟨List.cons_ne_nil _ _, List.forall_mem_cons.mpr ⟨hfirst, hrest⟩⟩
        obtain ⟨w, hw, hdigits⟩ := exists_digits_iff.mpr ⟨hnumeral, by simpa using hzero⟩
        refine ⟨.char w, ColumnType.positive_char.mpr hw, ?_⟩
        rw [← String.toList_inj, ColumnType.token_char, hdigits, hchars]
        rfl
  · rintro ⟨t, hpositive, rfl⟩
    cases t with
    | int => exact .int
    | bool => exact .bool
    | char w =>
        obtain ⟨⟨hne, hdigits⟩, hfront⟩ :=
          exists_digits_iff.mp ⟨w, ColumnType.positive_char.mp hpositive, rfl⟩
        obtain ⟨first, rest, hw⟩ := List.exists_cons_of_ne_nil hne
        rw [hw] at hdigits hfront
        obtain ⟨hfirst, hrest⟩ := List.forall_mem_cons.mp hdigits
        rw [ColumnType.token_char, hw]
        exact .char hfirst (by simpa using hfront) hrest

/-- A value is in the format of columns if it spells one out. -/
theorem columnInFormat_iff {v : Json} :
    ColumnInFormat v ↔ ∃ c : Column, c.WrittenAs v ∧ c.IsPlain := by
  constructor
  · rintro ⟨⟨members, hobject, hkeys⟩, ⟨name, hname, hword⟩, ⟨token, htoken, htype⟩, hlisted⟩
    obtain ⟨type, hpositive, rfl⟩ := typeName_iff.mp htype
    obtain ⟨listed, hlist, hnodup⟩ : ∃ listed : List Constraint,
        (v.get? "constraints").getD (.array []) = .array (listed.map fun k => .string k.word) ∧
          listed.Nodup := by
      cases hmember : v.get? "constraints" with
      | none => exact ⟨[], rfl, List.nodup_nil⟩
      | some w => exact Constraint.exists_listed_iff.mp (hlisted w hmember)
    refine ⟨Column.withConstraints name type listed,
      ⟨⟨members, hobject, ?_⟩, hname, htoken, listed, hlist, hnodup,
        fun _ => Column.mem_constraints_withConstraints.symm⟩,
      (Identifier.isWord_iff name).mpr hword, hpositive⟩
    intro member hmember
    rcases hkeys member hmember with h | h | h <;> simp [h]
  · rintro ⟨c, hc, hword, hpositive⟩
    obtain ⟨members, hobject, hknown⟩ := hc.known
    obtain ⟨listed, hlist, hnodup, -⟩ := hc.constraints
    refine ⟨⟨members, hobject, ?_⟩, ⟨_, hc.name, (Identifier.isWord_iff c.name).mp hword⟩,
      ⟨_, hc.type, typeName_iff.mpr ⟨c.type, hpositive, rfl⟩⟩, ?_⟩
    · intro member hmember
      have hkey := hknown member hmember
      simp only [List.mem_cons, List.not_mem_nil, or_false] at hkey
      tauto
    · intro w hw
      rw [hw, Option.getD_some] at hlist
      exact Constraint.exists_listed_iff.mpr ⟨listed, hlist, hnodup⟩

theorem exists_forall₂_iff {α β : Type} {related : α → β → Prop} {ys : List β} :
    (∃ xs, List.Forall₂ related xs ys) ↔ ∀ y ∈ ys, ∃ x, related x y := by
  induction ys with
  | nil => simp
  | cons y ys ih =>
      rw [List.forall_mem_cons, ← ih]
      constructor
      · rintro ⟨xs, h⟩
        cases h with
        | cons hx hxs => exact ⟨⟨_, hx⟩, _, hxs⟩
      · rintro ⟨⟨x, hx⟩, xs, hxs⟩
        exact ⟨x :: xs, .cons hx hxs⟩

/-- A value has the shape of a definition if it describes a table. -/
theorem violations_eq_nil_iff {v : Json} :
    violations v = [] ↔
      ∃ name columns, Describes v name columns ∧ columns ≠ [] ∧ Identifier.isWord name = true ∧
        ∀ c ∈ columns, c.IsPlain := by
  rw [violations_eq_nil_iff_format]
  constructor
  · rintro ⟨⟨members, hobject, hkeys⟩, ⟨name, hname, hword⟩, items, hlist, hne, hitems⟩
    obtain ⟨columns, hboth⟩ : ∃ columns : List Column,
        List.Forall₂ (fun c item => c.IsPlain ∧ c.WrittenAs item) columns items :=
      exists_forall₂_iff.mpr fun item hmem =>
        (columnInFormat_iff.mp (hitems item hmem)).imp fun _ => And.symm
    obtain ⟨hplain, hwritten⟩ := (List.forall₂_and_left _ _).mp hboth
    refine ⟨name, columns, ⟨⟨members, hobject, ?_⟩, hname, items, hlist, hwritten⟩, ?_,
      (Identifier.isWord_iff name).mpr hword, hplain⟩
    · intro member hmember
      rcases hkeys member hmember with h | h <;> simp [h]
    · rintro rfl
      cases hwritten
      exact hne rfl
  · rintro ⟨name, columns, hv, hne, hword, hplain⟩
    obtain ⟨members, hobject, hknown⟩ := hv.known
    obtain ⟨items, hlist, hwritten⟩ := hv.columns
    refine ⟨⟨members, hobject, ?_⟩, ⟨name, hv.table, (Identifier.isWord_iff name).mp hword⟩,
      items, hlist, ?_, ?_⟩
    · intro member hmember
      have hkey := hknown member hmember
      simp only [List.mem_cons, List.not_mem_nil, or_false] at hkey
      exact hkey.symm
    · rintro rfl
      cases hwritten
      exact hne rfl
    · intro item hmem
      have hboth := (List.forall₂_and_left _ _).mpr ⟨hplain, hwritten⟩
      exact columnInFormat_iff.mpr
        ((exists_forall₂_iff.mp ⟨columns, hboth⟩ item hmem).imp fun _ => And.symm)

end Definition

end BulkLoad
