import BulkLoad.Proofs.Query.Completion
import BulkLoad.Proofs.Query.Pieces

/-!
Create statements read back.

As with insert statements, the grammar is given by its trees and reading is exact
(`readCreate_eq_some_iff`). The tree of a created table tells its columns, and among them exactly
one identity.
-/
namespace BulkLoad.Statement

open Text (stops_mark)

inductive TypeWord where
  | int
  | bool
  | char (digits : List Char)
  deriving DecidableEq, Repr

namespace TypeWord

def chars : TypeWord → List Char
  | .int => "int".toList
  | .bool => "bool".toList
  | .char ds => "char(".toList ++ (ds ++ ")".toList)

def IsValid : TypeWord → Prop
  | .int | .bool => True
  | .char ds => (ds ≠ [] ∧ ∀ c ∈ ds, Decimal.isDigit c = true) ∧ 1 ≤ Decimal.valueOf ds

def type : TypeWord → ColumnType
  | .int => .int
  | .bool => .bool
  | .char ds => .char (Decimal.valueOf ds)

def ofType : ColumnType → TypeWord
  | .int => .int
  | .bool => .bool
  | .char width => .char (Decimal.digits width)

theorem type_ofType (t : ColumnType) : (ofType t).type = t := by
  cases t with
  | int | bool => rfl
  | char width => rw [ofType, type, Decimal.valueOf_digits]

theorem ofType_chars (t : ColumnType) : (ofType t).chars = t.token.toList := by
  cases t with
  | int | bool => rfl
  | char width =>
      have hdigits : (Decimal.text width).toList = Decimal.digits width := String.toList_ofList
      rw [ColumnType.token, String.toList_append, String.toList_append, List.append_assoc, hdigits]
      rfl

theorem ofType_isValid {t : ColumnType} (h : ∀ width, t = .char width → 1 ≤ width) :
    (ofType t).IsValid := by
  cases t with
  | int | bool => trivial
  | char width =>
      refine ⟨digits_form_number width, ?_⟩
      rw [Decimal.valueOf_digits]
      exact h width rfl

end TypeWord

def charType (cs : List Char) : Option (TypeWord × List Char) := do
  let (ds, rest) ← run Decimal.isDigit cs
  let rest ← expect ")" rest
  if 1 ≤ Decimal.valueOf ds then some (.char ds, rest) else none

def typeWord : List Char → Option (TypeWord × List Char)
  | [] => none
  | c :: cs =>
      if c = 'i' then (expect "nt" cs).map (.int, ·)
      else if c = 'b' then (expect "ool" cs).map (.bool, ·)
      else if c = 'c' then (expect "har(" cs).bind charType
      else none

theorem charType_append {ds : List Char} (h : (TypeWord.char ds).IsValid) (rest : List Char) :
    charType (ds ++ (")".toList ++ rest)) = some (.char ds, rest) := by
  have hrun := (run_reads _).back ds (")".toList ++ rest) h.1 (stops_mark rfl rest)
  unfold charType
  simp only [Option.bind_eq_bind]
  rw [hrun, Option.bind_some]
  dsimp only
  rw [expect_append, Option.bind_some, if_pos h.2]

theorem charType_sound {cs rest : List Char} {t : TypeWord} (h : charType cs = some (t, rest)) :
    t.IsValid ∧ "char(".toList ++ cs = t.chars ++ rest := by
  simp only [charType, Option.bind_eq_bind, Option.bind_eq_some_iff] at h
  obtain ⟨⟨ds, left⟩, hrun, next, hmark, h⟩ := h
  obtain ⟨hds, hcs⟩ := (run_reads _).sound cs ds left hrun
  rw [expect_eq_some_iff] at hmark
  dsimp only at hmark h
  split_ifs at h with hpos
  cases h
  refine ⟨⟨hds, hpos⟩, ?_⟩
  unfold TypeWord.chars
  rw [hcs, hmark, List.append_assoc, List.append_assoc]

theorem typeWord_reads :
    Reads typeWord TypeWord.chars TypeWord.IsValid (fun _ => True) where
  back t rest ht _ := by
    cases t with
    | int =>
        have hread : typeWord (TypeWord.int.chars ++ rest) =
            (expect "nt" ("nt".toList ++ rest)).map (.int, ·) := rfl
        rw [hread, expect_append, Option.map_some]
    | bool =>
        have hread : typeWord (TypeWord.bool.chars ++ rest) =
            (expect "ool" ("ool".toList ++ rest)).map (.bool, ·) := rfl
        rw [hread, expect_append, Option.map_some]
    | char ds =>
        have hread : ∀ next, typeWord ("char(".toList ++ next) =
            (expect "har(" ("har(".toList ++ next)).bind charType := fun _ => rfl
        unfold TypeWord.chars
        rw [List.append_assoc, List.append_assoc, hread, expect_append, Option.bind_some,
          charType_append ht]
  sound cs t rest h := by
    cases cs with
    | nil => cases h
    | cons c cs =>
        rw [typeWord] at h
        split_ifs at h with hint hbool hchar
        · obtain ⟨left, hmark, heq⟩ := Option.map_eq_some_iff.mp h
          cases heq
          exact ⟨trivial, by rw [hint, (expect_eq_some_iff _ _ _).mp hmark]; rfl⟩
        · obtain ⟨left, hmark, heq⟩ := Option.map_eq_some_iff.mp h
          cases heq
          exact ⟨trivial, by rw [hbool, (expect_eq_some_iff _ _ _).mp hmark]; rfl⟩
        · obtain ⟨left, hmark, hread⟩ := Option.bind_eq_some_iff.mp h
          obtain ⟨hvalid, hleft⟩ := charType_sound hread
          refine ⟨hvalid, ?_⟩
          rw [← hleft, hchar, (expect_eq_some_iff _ _ _).mp hmark]
          rfl

def markChars (k : Constraint) : List Char := (" " ++ k.marker).toList

def mark (cs : List Char) : Option (Constraint × List Char) :=
  match expect " @id" cs with
  | some rest => some (.identity, rest)
  | none => (expect " @unique" cs).map (.unique, ·)

theorem mark_reads : Reads mark markChars (fun _ => True) (fun _ => True) where
  back k rest _ _ := by
    cases k with
    | identity =>
        have hid : expect " @id" (markChars .identity ++ rest) = some rest :=
          expect_append " @id" rest
        simp [mark, hid]
    | unique =>
        have hid : expect " @id" (markChars .unique ++ rest) = none := rfl
        have hunique : expect " @unique" (markChars .unique ++ rest) = some rest :=
          expect_append " @unique" rest
        simp [mark, hid, hunique]
  sound cs k rest h := by
    unfold mark at h
    refine ⟨trivial, ?_⟩
    cases hid : expect " @id" cs with
    | some left =>
        simp only [hid] at h
        cases h
        exact (expect_eq_some_iff _ _ _).mp hid
    | none =>
        simp only [hid] at h
        obtain ⟨left, hmark, heq⟩ := Option.map_eq_some_iff.mp h
        cases heq
        exact (expect_eq_some_iff _ _ _).mp hmark

theorem intercalate_empty (pieces : List (List Char)) :
    "".toList.intercalate pieces = pieces.flatten := by
  induction pieces with
  | nil => rfl
  | cons piece others ih =>
      cases others with
      | nil => simp
      | cons other others =>
          rw [List.intercalate_cons_cons, ih]
          simp

def marks (cs : List Char) : Option (List Constraint × List Char) :=
  some (listed mark "" cs.length cs)

theorem marks_reads :
    Reads marks (fun ks => "".toList.intercalate (ks.map markChars)) (fun ks => ∀ k ∈ ks, True)
      (fun rest => True ∧ Ends mark "" rest) :=
  listed_reads mark_reads (fun k _ => by cases k <;> simp [markChars]) (fun _ => trivial)

theorem marks_end (rest : List Char) : Ends mark "" (",".toList ++ rest) where
  here := rfl
  beyond next h := by
    have hnext : next = ",".toList ++ rest := h.symm
    rw [hnext]
    rfl

structure Clause where
  column : String
  type : TypeWord
  marks : List Constraint
  deriving DecidableEq, Repr

namespace Clause

def chars (k : Clause) : List Char :=
  k.column.toList ++ (" ".toList ++ (k.type.chars ++
    ("".toList.intercalate (k.marks.map markChars) ++ ",".toList)))

structure IsValid (k : Clause) : Prop where
  column : Identifier.isWord k.column = true
  type : k.type.IsValid

def toColumn (k : Clause) : Column := .withConstraints k.column k.type.type k.marks

def ofColumn (c : Column) : Clause := ⟨c.name, .ofType c.type, c.constraints⟩

theorem toColumn_ofColumn (c : Column) : (ofColumn c).toColumn = c := by
  rw [toColumn, ofColumn, TypeWord.type_ofType]
  exact Column.withConstraints_constraints c

theorem ofColumn_chars (c : Column) : (Query.clause c).toList = (ofColumn c).chars := by
  have hmarks : (String.join (c.constraints.map fun k => " " ++ k.marker)).toList =
      "".toList.intercalate (c.constraints.map markChars) := by
    rw [String.toList_join, List.flatMap_map, intercalate_empty, List.flatMap_def]
    rfl
  unfold Query.clause chars
  rw [String.toList_append, String.toList_append, String.toList_append, String.toList_append,
    hmarks, ← TypeWord.ofType_chars]
  simp only [List.append_assoc]
  rfl

theorem chars_ne_nil (k : Clause) : k.chars ≠ [] := by
  simp [chars]

end Clause

def clause (cs : List Char) : Option (Clause × List Char) := do
  let (column, rest) ← word cs
  let rest ← expect " " rest
  let (type, rest) ← typeWord rest
  let (found, rest) ← marks rest
  let rest ← expect "," rest
  return (⟨column, type, found⟩, rest)

theorem clause_reads : Reads clause Clause.chars Clause.IsValid (fun _ => True) where
  back k rest hk _ := by
    have hword := word_reads.back k.column (" ".toList ++ (k.type.chars ++
      ("".toList.intercalate (k.marks.map markChars) ++ (",".toList ++ rest)))) hk.column
      (stops_mark rfl _)
    have htype := typeWord_reads.back k.type
      ("".toList.intercalate (k.marks.map markChars) ++ (",".toList ++ rest)) hk.type trivial
    have hmarks := marks_reads.back k.marks (",".toList ++ rest) (fun _ _ => trivial)
      ⟨trivial, marks_end rest⟩
    unfold clause Clause.chars
    simp only [Option.bind_eq_bind, List.append_assoc]
    rw [hword, Option.bind_some]
    dsimp only
    rw [expect_append, Option.bind_some, htype, Option.bind_some]
    dsimp only
    rw [hmarks, Option.bind_some]
    dsimp only
    rw [expect_append, Option.bind_some]
    rfl
  sound cs k rest h := by
    simp only [clause, Option.bind_eq_bind, Option.bind_eq_some_iff] at h
    obtain ⟨⟨column, gap⟩, hword, typed, hgap, ⟨type, marked⟩, htype, ⟨found, comma⟩, hmarks, left,
      hcomma, heq⟩ := h
    obtain ⟨hcolumn, hcs⟩ := word_reads.sound cs column gap hword
    obtain ⟨hvalid, htyped⟩ := typeWord_reads.sound typed type marked htype
    have hmarked := (marks_reads.sound marked found comma hmarks).2
    rw [expect_eq_some_iff] at hgap hcomma
    cases heq
    refine ⟨⟨hcolumn, hvalid⟩, ?_⟩
    dsimp only at hgap hcomma ⊢
    rw [hcs, hgap, htyped, hmarked, hcomma]
    simp only [Clause.chars, List.append_assoc]

structure CreateText where
  table : String
  clauses : List Clause
  deriving DecidableEq, Repr

namespace CreateText

def chars (t : CreateText) : List Char :=
  "creame tabla ".toList ++ (t.table.toList ++ (" \x7b ".toList ++
    (" ".toList.intercalate (t.clauses.map Clause.chars) ++ " \x7d pe".toList)))

structure IsValid (t : CreateText) : Prop where
  table : Identifier.isWord t.table = true
  clauses : ∀ k ∈ t.clauses, k.IsValid

end CreateText

def clauseList (cs : List Char) : Option (List Clause × List Char) :=
  some (listed clause " " cs.length cs)

theorem clauseList_reads :
    Reads clauseList (fun ks => " ".toList.intercalate (ks.map Clause.chars))
      (fun ks => ∀ k ∈ ks, k.IsValid) (fun rest => True ∧ Ends clause " " rest) :=
  listed_reads clause_reads (fun k _ => k.chars_ne_nil) (fun _ => trivial)

/-- What follows the clauses of a statement ends the list: the space in front of the brace leads to
no clause. -/
theorem clauses_end : Ends clause " " " \x7d pe".toList where
  here := rfl
  beyond next h := by
    have hnext : next = "\x7d pe".toList := by simpa using h.symm
    rw [hnext]
    rfl

def readCreate (cs : List Char) : Option CreateText := do
  let rest ← expect "creame tabla " cs
  let (table, rest) ← word rest
  let rest ← expect " \x7b " rest
  let (clauses, rest) ← clauseList rest
  let rest ← expect " \x7d pe" rest
  if rest.isEmpty then some ⟨table, clauses⟩ else none

theorem readCreate_chars {t : CreateText} (h : t.IsValid) : readCreate t.chars = some t := by
  have htable := word_reads.back t.table (" \x7b ".toList ++
    (" ".toList.intercalate (t.clauses.map Clause.chars) ++ " \x7d pe".toList)) h.table
    (stops_mark rfl _)
  have hclauses := clauseList_reads.back t.clauses " \x7d pe".toList h.clauses
    ⟨trivial, clauses_end⟩
  have hclose := expect_append " \x7d pe" []
  rw [List.append_nil] at hclose
  unfold readCreate CreateText.chars
  simp only [Option.bind_eq_bind]
  rw [expect_append, Option.bind_some, htable, Option.bind_some]
  dsimp only
  rw [expect_append, Option.bind_some, hclauses, Option.bind_some]
  dsimp only
  rw [hclose, Option.bind_some]
  rfl

theorem readCreate_sound {cs : List Char} {t : CreateText} (h : readCreate cs = some t) :
    t.IsValid ∧ t.chars = cs := by
  simp only [readCreate, Option.bind_eq_bind, Option.bind_eq_some_iff] at h
  obtain ⟨named, hopen, ⟨table, brace⟩, hword, body, hbrace, ⟨clauses, close⟩, hlist, rest, hclose,
    h⟩ := h
  obtain ⟨htable, hnamed⟩ := word_reads.sound named table brace hword
  obtain ⟨hclauses, hbody⟩ := clauseList_reads.sound body clauses close hlist
  rw [expect_eq_some_iff] at hopen hbrace hclose
  split_ifs at h with hrest
  cases h
  rw [List.isEmpty_iff] at hrest
  refine ⟨⟨htable, hclauses⟩, ?_⟩
  dsimp only at hbrace hclose
  rw [hrest, List.append_nil] at hclose
  rw [hopen, hnamed, hbrace, hbody, hclose]
  rfl

/-- A text is read as a create statement exactly when it is the text of that statement. -/
theorem readCreate_eq_some_iff (cs : List Char) (t : CreateText) :
    readCreate cs = some t ↔ t.IsValid ∧ t.chars = cs := by
  constructor
  · exact readCreate_sound
  · rintro ⟨hvalid, rfl⟩
    exact readCreate_chars hvalid

end BulkLoad.Statement

namespace BulkLoad.Query
open Statement

def createTree (s : Schema) (table : String) : CreateText :=
  ⟨table, (createdColumns s).map Clause.ofColumn⟩

theorem createTree_chars (s : Schema) (table : String) :
    (createTree s table).chars = (create s table).text.toList := by
  have hclauses : ((createdColumns s).map clause).map String.toList =
      ((createdColumns s).map Clause.ofColumn).map Clause.chars := by
    rw [List.map_map, List.map_map]
    exact List.map_congr_left fun c _ => Clause.ofColumn_chars c
  unfold CreateText.chars create joinWith
  simp only [String.toList_append, String.toList_intercalate, hclauses, List.append_assoc]
  rfl

theorem createTree_isValid {s : Schema} {table : String}
    (htable : Identifier.isValid table = true)
    (hwidths : ∀ c ∈ s.columns, ∀ width, c.type = .char width → 1 ≤ width) :
    (createTree s table).IsValid where
  table := isWord_of_isValid htable
  clauses k hk := by
    obtain ⟨c, hc, rfl⟩ := List.mem_map.mp hk
    refine ⟨isWord_of_isValid ((createdColumns_sound s).1.named c hc), ?_⟩
    apply TypeWord.ofType_isValid
    rcases createdColumns_cases s with ⟨-, heq⟩ | ⟨-, name, -, -, heq⟩
    · rw [heq] at hc
      exact hwidths c hc
    · rw [heq, List.mem_append, List.mem_singleton] at hc
      rcases hc with hc | rfl
      · exact hwidths c hc
      · intro width h
        cases h

/-- A create statement is read back in exactly one way, as its table and the columns of a schema
with exactly one identity: the given one, completed where it has none. That schema has the same
statement. -/
theorem create_read_back (s : Schema) (table : String)
    (htable : Identifier.isValid table = true)
    (hwidths : ∀ c ∈ s.columns, ∀ width, c.type = .char width → 1 ≤ width) :
    ∃ t completed, readCreate (create s table).text.toList = some t ∧
      (∀ u : CreateText, u.IsValid ∧ u.chars = (create s table).text.toList ↔ u = t) ∧
      t.table = table ∧ t.clauses.map Clause.toColumn = completed.columns ∧
      t.clauses.map Clause.marks = completed.columns.map Column.constraints ∧
      (((∃ c ∈ s.columns, c.isIdentity = true) ∧ completed.columns = s.columns) ∨
        ((∀ c ∈ s.columns, c.isIdentity = false) ∧
          ∃ name, Identifier.isValid name = true ∧ (∀ c ∈ s.columns, c.name ≠ name) ∧
            completed.columns = s.columns ++ [⟨name, .int, true, false⟩])) ∧
      Schema.ofColumns (t.clauses.map Clause.toColumn) = .ok completed ∧
      completed.columns.countP (·.isIdentity) = 1 ∧ create completed table = create s table := by
  obtain ⟨completed, hok, hcolumns, hagain⟩ := createdColumns_idempotent s
  have hmeant : (createTree s table).clauses.map Clause.toColumn = createdColumns s := by
    rw [createTree, List.map_map]
    conv_rhs => rw [← List.map_id (createdColumns s)]
    exact List.map_congr_left fun c _ => Clause.toColumn_ofColumn c
  have hread := (readCreate_eq_some_iff _ _).mpr
    ⟨createTree_isValid htable hwidths, createTree_chars s table⟩
  refine ⟨createTree s table, completed, hread, only_tree readCreate_eq_some_iff hread, rfl, ?_⟩
  rw [hmeant, hcolumns]
  refine ⟨rfl, ?_, createdColumns_cases s, hok, (createdColumns_sound s).2, ?_⟩
  · rw [createTree, List.map_map]
    rfl
  · unfold create
    rw [hagain]

def crowdedSchema : Schema where
  columns := [.plain "id" .int, ⟨"id_1", .char 8, false, true⟩]
  sound := by decide

theorem create_read_back_crowded :
    (create crowdedSchema "t").text =
        "creame tabla t \x7b id int, id_1 char(8) @unique, id_2 int @id, \x7d pe" ∧
      ∃ t completed, readCreate (create crowdedSchema "t").text.toList = some t ∧
        t.clauses.map Clause.toColumn = completed.columns ∧
        completed.columns.countP (·.isIdentity) = 1 ∧
        create completed "t" = create crowdedSchema "t" := by
  have hwidths : ∀ c ∈ crowdedSchema.columns, ∀ width, c.type = .char width → 1 ≤ width := by
    intro c hc width h
    simp only [crowdedSchema, Column.plain, List.mem_cons, List.not_mem_nil, or_false] at hc
    rcases hc with rfl | rfl
    · cases h
    · cases h
      decide
  obtain ⟨t, completed, hread, -, -, hcolumns, -, -, -, hone, hagain⟩ :=
    create_read_back crowdedSchema "t" (by decide) hwidths
  exact ⟨by decide +kernel, t, completed, hread, hcolumns, hone, hagain⟩

end BulkLoad.Query
