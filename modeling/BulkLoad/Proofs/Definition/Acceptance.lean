import BulkLoad.Proofs.Definition.Written
import BulkLoad.Proofs.Schema.Offence

/-!
Which values of the right shape are definitions.

The shape leaves four things open: widths beyond 64 bits, reserved words, names that are taken and
second identities. Widths are looked at while the columns are read, so a width that is too large is
told before anything else; the name of the table comes last.
-/
namespace BulkLoad

namespace Column.WrittenAs

variable {c : Column} {v : Json}

/-- A column that is spelled out is read, unless its width is too large. -/
theorem ofJson (h : c.WrittenAs v) (hplain : c.IsPlain) :
    Column.ofJson v =
      if c.type.isTooWide then .error (.badType (.invalidType c.type.token)) else .ok c := by
  obtain ⟨listed, hlist, -, hmem⟩ := h.constraints
  have hconstraints : constraintsMember v = .ok listed := by
    have hread (listed : List Constraint) :
        constraintsOf (listed.map fun k => .string k.word) = .ok listed := by
      induction listed with
      | nil => rfl
      | cons k rest ih =>
          simp only [List.map_cons, constraintsOf, Constraint.ofWord?_word, ih]
          rfl
    unfold constraintsMember
    cases hmember : v.get? "constraints" with
    | none =>
        rw [hmember, Option.getD_none, Json.array.injEq, List.nil_eq, List.map_eq_nil_iff] at hlist
        rw [hlist]
    | some w =>
        rw [hmember, Option.getD_some] at hlist
        rw [hlist]
        exact hread listed
  have htype : typeMember v =
      if c.type.isTooWide then .error (.badType (.invalidType c.type.token))
      else .ok (some c.type) := by
    simp only [typeMember, textMember?, h.type, ColumnType.ofText_token hplain.2]
    cases c.type.isTooWide <;> rfl
  have hname : textMember? v "name" = some c.name := by rw [textMember?, h.name]
  simp only [Column.ofJson, hconstraints, htype, hname, bind, Except.bind]
  cases c.type.isTooWide with
  | true => rfl
  | false => exact congrArg Except.ok (withConstraints_of_mem hmem)

theorem unique {d : Column} (h : c.WrittenAs v) (h' : d.WrittenAs v) : c = d := by
  obtain ⟨listed, hlist, -, hmem⟩ := h.constraints
  obtain ⟨listed', hlist', -, hmem'⟩ := h'.constraints
  have hname : c.name = d.name := by simpa [h.name] using h'.name
  have htype : c.type = d.type := ColumnType.token_injective (by simpa [h.type] using h'.type)
  have hsame : listed = listed' := by
    rw [hlist, Json.array.injEq] at hlist'
    have hinjective : Function.Injective fun k : Constraint => Json.string k.word :=
      fun k l heq => Constraint.word_injective (Json.string.inj heq)
    exact hinjective.list_map hlist'
  rw [← withConstraints_of_mem hmem, ← withConstraints_of_mem hmem', hname, htype, hsame]

end Column.WrittenAs

namespace Definition

theorem columnsOf_of_written {columns : List Column} {items : List Json}
    (h : List.Forall₂ Column.WrittenAs columns items) (hplain : ∀ c ∈ columns, c.IsPlain) :
    columnsOf items =
      match columns.find? (·.type.isTooWide) with
      | some c => .error (.badType (.invalidType c.type.token))
      | none => .ok columns := by
  induction h with
  | nil => rfl
  | @cons c item columns items hc hrest ih =>
      obtain ⟨hfirst, hothers⟩ := List.forall_mem_cons.mp hplain
      rw [columnsOf, hc.ofJson hfirst, List.find?_cons]
      cases c.type.isTooWide with
      | true => rfl
      | false =>
          simp only [Bool.false_eq_true, if_false, ih hothers]
          cases columns.find? (·.type.isTooWide) <;> rfl

namespace Describes

variable {v : Json} {name : String} {columns : List Column}

/-- A value describes one table at most. -/
theorem unique (h : Describes v name columns) {name' : String} {columns' : List Column}
    (h' : Describes v name' columns') : name' = name ∧ columns' = columns := by
  obtain ⟨items, hitems, hwritten⟩ := h.columns
  obtain ⟨items', hitems', hwritten'⟩ := h'.columns
  have hname : name' = name := by simpa [h.table] using h'.table.symm
  have hsame : items' = items := by simpa [hitems] using hitems'.symm
  have hleft : Relator.LeftUnique Column.WrittenAs := fun _ _ _ h h' => h.unique h'
  subst hsame
  exact ⟨hname, List.left_unique_forall₂' hleft hwritten' hwritten⟩

theorem ofShaped (h : Describes v name columns) (hplain : ∀ c ∈ columns, c.IsPlain) :
    Definition.ofShaped v =
      match columns.find? (·.type.isTooWide) with
      | some c => .error (.undecodable (.badType (.invalidType c.type.token)))
      | none =>
        match Schema.ofColumns columns with
        | .error fault => .error (.invalid fault)
        | .ok schema =>
          match ofParts name schema with
          | .error fault => .error (.invalid fault)
          | .ok d => .ok d := by
  obtain ⟨items, hitems, hwritten⟩ := h.columns
  simp only [Definition.ofShaped, hitems, columnsOf_of_written hwritten hplain,
    Column.textMember?, h.table, Option.getD_some]
  cases columns.find? (·.type.isTooWide) <;> rfl

end Describes

theorem ofParts_eq_ok {name : String} (schema : Schema) (h : Identifier.fault? name = none) :
    ofParts name schema = .ok ⟨name, schema, h⟩ := by
  unfold ofParts
  split
  · rfl
  · rename_i fault hfault
    rw [h] at hfault
    cases hfault

theorem ofParts_eq_error {name : String} {fault : SchemaFault} (schema : Schema)
    (h : Identifier.fault? name = some fault) : ofParts name schema = .error fault := by
  unfold ofParts
  split
  · rename_i hnone
    rw [h] at hnone
    cases hnone
  · rename_i other hother
    rw [h] at hother
    cases hother
    rfl

/-- Why a described table is no definition, the first reason that is found. -/
inductive Refused (name : String) (columns : List Column) : DefinitionFault → Prop where
  | tooWide {front back : List Column} {c : Column} (hsplit : columns = front ++ c :: back)
      (hfront : ∀ d ∈ front, d.type.isTooWide = false) (hwide : c.type.isTooWide = true) :
      Refused name columns (.undecodable (.badType (.invalidType c.type.token)))
  | column {front back : List Column} {c : Column} {fault : SchemaFault}
      (hfit : ∀ d ∈ columns, d.type.isTooWide = false) (hsplit : columns = front ++ c :: back)
      (hfront : Schema.Sound front) (hc : Schema.Offends front c fault) :
      Refused name columns (.invalid fault)
  | name (hfit : ∀ d ∈ columns, d.type.isTooWide = false) (hsound : Schema.Sound columns)
      (hreserved : name ∈ Identifier.reservedWords) :
      Refused name columns (.invalid (.reservedWord name))

section Shaped

variable {v : Json} {name : String} {columns : List Column}

theorem ofText_of_shape {text : String} (hparse : Json.parse text = .ok v)
    (hshape : violations v = []) : ofText text = ofShaped v := by
  simp only [ofText, hparse, ofJson, hshape]

theorem ofShaped_of_fault (h : Describes v name columns) (hplain : ∀ c ∈ columns, c.IsPlain)
    (hfit : columns.find? (·.type.isTooWide) = none) {fault : SchemaFault}
    (hfault : Schema.fault? columns = some fault) : ofShaped v = .error (.invalid fault) := by
  rw [h.ofShaped hplain, hfit, Schema.ofColumns_eq_error hfault]

/-- A described table is a definition, or it is refused for the first reason there is. -/
theorem ofShaped_cases (h : Describes v name columns) (hne : columns ≠ [])
    (hword : Identifier.isWord name = true) (hplain : ∀ c ∈ columns, c.IsPlain) :
    (∃ d, ofShaped v = .ok d ∧ d.name = name ∧ d.schema.columns = columns ∧
        (∀ c ∈ columns, c.type.isTooWide = false) ∧ Schema.Sound columns ∧
        name ∉ Identifier.reservedWords) ∨
      ∃ fault, ofShaped v = .error fault ∧ Refused name columns fault := by
  cases hwide : columns.find? (·.type.isTooWide) with
  | some c =>
      right
      rw [h.ofShaped hplain, hwide]
      obtain ⟨hc, front, back, hsplit, hfront⟩ := List.find?_eq_some_iff_append.mp hwide
      exact ⟨_, rfl, .tooWide hsplit (by simpa using hfront) hc⟩
  | none =>
      have hfit : ∀ c ∈ columns, c.type.isTooWide = false := by
        simpa using List.find?_eq_none.mp hwide
      cases hfault : Schema.fault? columns with
      | some fault =>
          right
          rw [ofShaped_of_fault h hplain hwide hfault]
          rcases Schema.fault?_eq_some_iff.mp hfault with
            ⟨hnil, -⟩ | ⟨front, c, back, hsplit, hs, hc⟩
          · exact absurd hnil hne
          · exact ⟨_, rfl, .column hfit hsplit hs hc⟩
      | none =>
          obtain ⟨-, hsound⟩ := (Schema.fault?_eq_none_iff columns).mp hfault
          rw [h.ofShaped hplain, hwide, Schema.ofColumns_eq_ok hfault]
          cases hname : Identifier.fault? name with
          | some fault =>
              right
              simp only [ofParts_eq_error _ hname]
              rcases Identifier.fault?_eq_some_iff.mp hname with ⟨hnot, -⟩ | ⟨-, hreserved, rfl⟩
              · rw [hword] at hnot
                cases hnot
              · exact ⟨_, rfl, .name hfit hsound hreserved⟩
          | none =>
              left
              simp only [ofParts_eq_ok _ hname]
              have hvalid := (Identifier.fault?_eq_none_iff name).mp hname
              exact ⟨_, rfl, rfl, rfl, hfit, hsound, (Identifier.isValid_iff.mp hvalid).2⟩

theorem not_refused {fault : DefinitionFault} (hfit : ∀ c ∈ columns, c.type.isTooWide = false)
    (hsound : Schema.Sound columns) (hname : name ∉ Identifier.reservedWords) :
    ¬ Refused name columns fault := by
  intro h
  cases h with
  | tooWide hsplit _ hwide =>
      have hnot := hfit _ (hsplit ▸ List.mem_append_right _ List.mem_cons_self)
      rw [hwide] at hnot
      cases hnot
  | @column front back c _ _ hsplit hfront hc =>
      have hboth : Schema.Sound (front ++ [c]) := by
        rw [hsplit, List.append_cons] at hsound
        exact hsound.of_append
      rw [← Schema.columnFault?_eq_none_iff hfront, Schema.columnFault?_eq_some_iff.mpr hc] at hboth
      cases hboth
  | name _ _ hreserved => exact hname hreserved

theorem Refused.kinds {fault : DefinitionFault} (h : Refused name columns fault)
    (hplain : ∀ c ∈ columns, c.IsPlain) :
    (∃ token, fault = .undecodable (.badType (.invalidType token))) ∨
      (∃ word, fault = .invalid (.reservedWord word)) ∨
      (∃ taken, fault = .invalid (.duplicateColumn taken)) ∨
      ∃ first second, fault = .invalid (.twoIdentities first second) := by
  cases h with
  | tooWide => exact .inl ⟨_, rfl⟩
  | column _ hsplit _ hc =>
      cases hc with
      | misnamed hnot =>
          have hword := (hplain _ (hsplit ▸ List.mem_append_right _ List.mem_cons_self)).1
          rw [hnot] at hword
          cases hword
      | reserved => exact .inr (.inl ⟨_, rfl⟩)
      | repeated => exact .inr (.inr (.inl ⟨_, rfl⟩))
      | secondIdentity => exact .inr (.inr (.inr ⟨_, _, rfl⟩))
  | name => exact .inr (.inl ⟨_, rfl⟩)

end Shaped

theorem sound_iff_of_plain {columns : List Column} (hplain : ∀ c ∈ columns, c.IsPlain) :
    Schema.Sound columns ↔
      (∀ c ∈ columns, c.name ∉ Identifier.reservedWords) ∧ (columns.map (·.name)).Nodup ∧
        columns.countP (·.isIdentity) ≤ 1 := by
  constructor
  · intro h
    exact ⟨fun c hc => (Identifier.isValid_iff.mp (h.named c hc)).2, h.distinct, h.identities⟩
  · rintro ⟨hfree, hdistinct, hidentities⟩
    exact ⟨fun c hc => Identifier.isValid_iff.mpr ⟨(hplain c hc).1, hfree c hc⟩, hdistinct,
      hidentities⟩

/-- **Shape and schema agree.** A text whose value has the right shape describes one table. It is
that definition if every width fits 64 bits, no name is reserved, no column name is used twice and
one column at most is an identity; else it is refused for the first reason there is, and
never for one that the shape rules out. -/
theorem ofText_of_shaped {text : String} {v : Json} (hparse : Json.parse text = .ok v)
    (hshape : violations v = []) :
    ∃ name columns, Describes v name columns ∧
      (∀ name' columns', Describes v name' columns' → name' = name ∧ columns' = columns) ∧
      ((∃ d, ofText text = .ok d) ↔
        (∀ c ∈ columns, ∀ w, c.type = .char w → w < Decimal.wordBound) ∧
          name ∉ Identifier.reservedWords ∧
          (∀ c ∈ columns, c.name ∉ Identifier.reservedWords) ∧
          (columns.map (·.name)).Nodup ∧ columns.countP (·.isIdentity) ≤ 1) ∧
      (∀ d, ofText text = .ok d → d.name = name ∧ d.schema.columns = columns) ∧
      ∀ fault, ofText text = .error fault → Refused name columns fault ∧
        ((∃ token, fault = .undecodable (.badType (.invalidType token))) ∨
          (∃ word, fault = .invalid (.reservedWord word)) ∨
          (∃ taken, fault = .invalid (.duplicateColumn taken)) ∨
          ∃ first second, fault = .invalid (.twoIdentities first second)) := by
  obtain ⟨name, columns, hv, hne, hword, hplain⟩ := violations_eq_nil_iff.mp hshape
  have htext := ofText_of_shape hparse hshape
  refine ⟨name, columns, hv, fun _ _ => hv.unique, ?_, ?_, ?_⟩
  · rw [htext, ← sound_iff_of_plain hplain]
    simp only [← ColumnType.isTooWide_eq_false_iff]
    rcases ofShaped_cases hv hne hword hplain with ⟨d, hd, -, -, hfit, hsound, hname⟩ | ⟨f, hf, hr⟩
    · exact iff_of_true ⟨d, hd⟩ ⟨hfit, hname, hsound⟩
    · refine iff_of_false ?_ ?_
      · rintro ⟨d, hd⟩
        rw [hf] at hd
        cases hd
      · rintro ⟨hfit, hname, hsound⟩
        exact not_refused hfit hsound hname hr
  · intro d hd
    rw [htext] at hd
    rcases ofShaped_cases hv hne hword hplain with ⟨d', hd', hname, hcolumns, -⟩ | ⟨f, hf, -⟩
    · rw [hd', Except.ok.injEq] at hd
      exact hd ▸ ⟨hname, hcolumns⟩
    · rw [hf] at hd
      cases hd
  · intro fault hfault
    rw [htext] at hfault
    rcases ofShaped_cases hv hne hword hplain with ⟨d, hd, -⟩ | ⟨f, hf, hr⟩
    · rw [hd] at hfault
      cases hfault
    · rw [hf, Except.error.injEq] at hfault
      exact hfault ▸ ⟨hr, hr.kinds hplain⟩

/-- A reserved table name, a name that is taken and a second identity at once. -/
def tangledColumns : List Column := [⟨"a", .int, true, false⟩, ⟨"a", .char 7, true, true⟩]

theorem ofText_of_tangledColumns :
    let v := (written "de" tangledColumns).ordered
    Json.parse (written "de" tangledColumns).pretty = .ok v ∧ violations v = [] ∧
      ∃ name columns, Describes v name columns ∧ name = "de" ∧ columns = tangledColumns ∧
        Refused name columns (.invalid (.duplicateColumn "a")) := by
  intro v
  have hparse : Json.parse (written "de" tangledColumns).pretty = .ok v := parse_written _ _
  have hv : Describes v "de" tangledColumns := describes_written _ _
  have hplain : ∀ c ∈ tangledColumns, c.IsPlain := by
    simp only [tangledColumns, List.forall_mem_cons, List.not_mem_nil, false_implies,
      implies_true, and_true]
    exact ⟨⟨by decide, ColumnType.positive_int⟩, by decide,
      ColumnType.positive_char.mpr (by decide)⟩
  have hshape : violations v = [] :=
    violations_eq_nil_iff.mpr ⟨_, _, hv, List.cons_ne_nil _ _, by decide, hplain⟩
  have hfault : ofText (written "de" tangledColumns).pretty =
      .error (.invalid (.duplicateColumn "a")) :=
    (ofText_of_shape hparse hshape).trans
      (ofShaped_of_fault hv hplain (by decide) (by decide))
  obtain ⟨name, columns, hdescribed, honly, -, -, hrefused⟩ := ofText_of_shaped hparse hshape
  obtain ⟨hname, hcolumns⟩ := honly _ _ hv
  exact ⟨hparse, hshape, name, columns, hdescribed, hname.symm, hcolumns.symm,
    (hrefused _ hfault).1⟩

/-! Definitions survive being written and read. Only widths that are no widths of a type stand in
the way; a schema does not rule them out. -/

section RoundTrip

theorem isWord_name (d : Definition) : Identifier.isWord d.name = true :=
  (Identifier.isValid_iff.mp ((Identifier.fault?_eq_none_iff d.name).mp d.named)).1

theorem columns_ne_nil (d : Definition) : d.schema.columns ≠ [] :=
  ((Schema.fault?_eq_none_iff _).mp d.schema.sound).1

theorem isPlain_of_positive {d : Definition} (h : ∀ c ∈ d.schema.columns, c.type.Positive) :
    ∀ c ∈ d.schema.columns, c.IsPlain := by
  intro c hc
  have hvalid := (Schema.columns_sound d.schema).named c hc
  exact ⟨(Identifier.isValid_iff.mp hvalid).1, h c hc⟩

/-- **Definitions survive their text.** The text of a definition whose widths are positive and fit
64 bits has the right shape and is read as that definition. -/
theorem ofText_toText (d : Definition)
    (hwidths : ∀ c ∈ d.schema.columns, ∀ w, c.type = .char w → 1 ≤ w ∧ w < Decimal.wordBound) :
    (∃ v, Json.parse d.toText = .ok v ∧ violations v = []) ∧ ofText d.toText = .ok d := by
  have hplain : ∀ c ∈ d.schema.columns, c.IsPlain :=
    isPlain_of_positive fun c hc w hw => (hwidths c hc w hw).1
  have hfit : d.schema.columns.find? (·.type.isTooWide) = none := by
    rw [List.find?_eq_none]
    intro c hc
    rw [Bool.not_eq_true, ColumnType.isTooWide_eq_false_iff]
    exact fun w hw => (hwidths c hc w hw).2
  have hv := describes_written d.name d.schema.columns
  have hparse : Json.parse d.toText = .ok (written d.name d.schema.columns).ordered := by
    rw [toText_eq, parse_written]
  have hshape := violations_eq_nil_iff.mpr ⟨_, _, hv, d.columns_ne_nil, d.isWord_name, hplain⟩
  refine ⟨⟨_, hparse, hshape⟩, ?_⟩
  rw [ofText_of_shape hparse hshape, hv.ofShaped hplain, hfit,
    Schema.ofColumns_eq_ok d.schema.sound]
  simp only [ofParts_eq_ok _ d.named]

def extremes : Definition where
  name := "extremos"
  schema :=
    { columns :=
        [ ⟨"a", .char 1, true, true⟩, ⟨"b", .char 18446744073709551615, false, true⟩,
          .plain "c" .bool ]
      sound := by decide }
  named := by decide

theorem ofText_toText_extremes :
    (∀ c ∈ extremes.schema.columns, ∀ w, c.type = .char w → 1 ≤ w ∧ w < Decimal.wordBound) ∧
      ofText extremes.toText = .ok extremes := by
  have hwidths :
      ∀ c ∈ extremes.schema.columns, ∀ w, c.type = .char w → 1 ≤ w ∧ w < Decimal.wordBound := by
    simp [extremes, Column.plain, Decimal.wordBound]
  exact ⟨hwidths, (ofText_toText extremes hwidths).2⟩

end RoundTrip

end Definition

end BulkLoad
