import BulkLoad.Proofs.Definition.Described
import BulkLoad.Proofs.Json.Pretty

/-!
What is written for a table describes that table.

This holds of any name and any columns, whether or not they form a definition, so the text of a
table is always read up to the point where names, widths and columns are judged.
-/
namespace BulkLoad

open Json (Readable ordered)

namespace Column

theorem readable_toJson (c : Column) (depth : Nat) : Readable (depth + 2) c.toJson := by
  have hlisted : Readable (depth + 1) (.array (c.constraints.map fun k => .string k.word)) := by
    apply Readable.array
    intro item hmem
    obtain ⟨k, -, rfl⟩ := List.mem_map.mp hmem
    exact .string depth k.word
  apply Readable.object
  intro member hmem
  rcases List.mem_append.mp hmem with hplain | hmarked
  · simp only [List.mem_cons, List.not_mem_nil, or_false] at hplain
    rcases hplain with rfl | rfl <;> exact .string _ _
  · split_ifs at hmarked
    · cases hmarked
    · rw [List.mem_singleton.mp hmarked]
      exact hlisted

/-- The members of a column in the order of their keys. -/
theorem ordered_toJson (c : Column) :
    c.toJson.ordered =
      .object ((if c.constraints.isEmpty then []
        else [("constraints", .array (c.constraints.map fun k => .string k.word))]) ++
          [("name", .string c.name), ("type", .string c.type.token)]) := by
  obtain ⟨name, type, identity, unique⟩ := c
  cases identity <;> cases unique <;> rfl

theorem writtenAs_toJson (c : Column) : c.WrittenAs c.toJson.ordered := by
  have hname : c.toJson.ordered.get? "name" = some (.string c.name) := by
    rw [ordered_toJson]
    split_ifs <;> rfl
  have htype : c.toJson.ordered.get? "type" = some (.string c.type.token) := by
    rw [ordered_toJson]
    split_ifs <;> rfl
  have hlisted : (c.toJson.ordered.get? "constraints").getD (.array []) =
      .array (c.constraints.map fun k => .string k.word) := by
    rw [ordered_toJson]
    split_ifs with hnone
    · rw [List.isEmpty_iff.mp hnone]
      rfl
    · rfl
  have hnodup : c.constraints.Nodup := by
    obtain ⟨name, type, identity, unique⟩ := c
    cases identity <;> cases unique <;> simp [constraints]
  refine ⟨⟨_, ordered_toJson c, ?_⟩, hname, htype, c.constraints, hlisted, hnodup, fun _ => .rfl⟩
  intro member hmem
  rcases List.mem_append.mp hmem with hmarked | hplain
  · split_ifs at hmarked
    · cases hmarked
    · rw [List.mem_singleton.mp hmarked]
      exact List.mem_cons_self
  · simp only [List.mem_cons, List.not_mem_nil, or_false] at hplain
    rcases hplain with rfl | rfl <;> simp

end Column

namespace Definition

def written (name : String) (columns : List Column) : Json :=
  .object [("table", .string name), ("columns", .array (columns.map Column.toJson))]

theorem toText_eq (d : Definition) : d.toText = (written d.name d.schema.columns).pretty := rfl

theorem parse_written (name : String) (columns : List Column) :
    Json.parse (written name columns).pretty = .ok (written name columns).ordered := by
  have hcolumns : Readable 126 (.array (columns.map Column.toJson)) := by
    apply Readable.array
    intro item hmem
    obtain ⟨c, -, rfl⟩ := List.mem_map.mp hmem
    exact c.readable_toJson 123
  have hreadable : Readable Json.maxDepth (written name columns) := by
    apply Readable.object
    intro member hmem
    simp only [List.mem_cons, List.not_mem_nil, or_false] at hmem
    rcases hmem with rfl | rfl
    · exact .string _ _
    · exact hcolumns
  exact Json.parse_pretty hreadable

theorem describes_written (name : String) (columns : List Column) :
    Describes (written name columns).ordered name columns := by
  have hordered : (written name columns).ordered =
      .object [("columns", .array ((columns.map Column.toJson).map ordered)),
        ("table", .string name)] := by
    rw [← Json.orderedItems_eq_map]
    rfl
  rw [hordered]
  refine ⟨⟨_, rfl, ?_⟩, rfl, _, rfl, ?_⟩
  · intro member hmem
    simp only [List.mem_cons, List.not_mem_nil, or_false] at hmem
    rcases hmem with rfl | rfl <;> simp
  · rw [List.map_map, List.forall₂_map_right_iff, List.forall₂_same]
    exact fun c _ => c.writtenAs_toJson

end Definition

end BulkLoad
