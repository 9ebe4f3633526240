import BulkLoad.Proofs.Schema.Sound
import BulkLoad.Query

/-!
Records that cannot be written as a query, and why.

Each column that records fill asks for a value, and a text column for one that is not empty and has
no double quote. The first column in the order of the schema that does not get what it asks for is
the one that is named; what the record holds under other names has no part in it.
-/
namespace BulkLoad

namespace Record

/-- The value of a name is that of the first field which has the name. -/
def Holds (r : Record) (name value : String) : Prop :=
  ∃ front back, r.fields = front ++ (name, value) :: back ∧ ∀ field ∈ front, field.1 ≠ name

def Lacks (r : Record) (name : String) : Prop := ∀ field ∈ r.fields, field.1 ≠ name

theorem get?_eq_some_iff {r : Record} {name value : String} :
    r.get? name = some value ↔ r.Holds name value := by
  have hne (front : List (String × String)) :
      (∀ field ∈ front, (!(field.1 == name)) = true) ↔ ∀ field ∈ front, field.1 ≠ name := by
    simp
  rw [get?, Option.map_eq_some_iff]
  constructor
  · rintro ⟨⟨key, held⟩, hfind, rfl⟩
    obtain ⟨hkey, front, back, hfields, hfront⟩ := List.find?_eq_some_iff_append.mp hfind
    rw [beq_iff_eq] at hkey
    exact ⟨front, back, hkey ▸ hfields, (hne front).mp hfront⟩
  · rintro ⟨front, back, hfields, hfront⟩
    refine ⟨(name, value), List.find?_eq_some_iff_append.mpr ?_, rfl⟩
    exact ⟨beq_self_eq_true name, front, back, hfields, (hne front).mpr hfront⟩

theorem get?_eq_none_iff {r : Record} {name : String} : r.get? name = none ↔ r.Lacks name := by
  rw [get?, Option.map_eq_none_iff, List.find?_eq_none]
  simp only [beq_iff_eq]
  rfl

def without (r : Record) (name : String) : Record :=
  { r with fields := r.fields.filter (·.1 != name) }

theorem lacks_without (r : Record) (name : String) : (r.without name).Lacks name := by
  intro field hfield
  simpa using (List.mem_filter.mp hfield).2

theorem get?_without (r : Record) {name other : String} (h : other ≠ name) :
    (r.without name).get? other = r.get? other := by
  unfold get? without
  rw [List.find?_filter]
  congr 2
  funext field
  by_cases hfield : field.1 = other
  · simp [hfield, h]
  · simp [hfield]

end Record

namespace Query

/-- What a column asks of a record: a value, and of a text that it can stand between quotes. -/
def Writable (r : Record) (c : Column) : Prop :=
  ∃ value, r.Holds c.name value ∧
    ∀ width, c.type = .char width → value ≠ "" ∧ '"' ∉ value.toList

inductive Hinders (r : Record) (c : Column) : QueryFault → Prop
  | absent (habsent : r.Lacks c.name) : Hinders r c (.missingField c.name)
  | empty {width : Nat} (htype : c.type = .char width) (hvalue : r.Holds c.name "") :
      Hinders r c (.emptyValue c.name)
  | quoted {width : Nat} {value : String} (htype : c.type = .char width)
      (hvalue : r.Holds c.name value) (hquote : '"' ∈ value.toList) :
      Hinders r c (.unrepresentable c.name value)

variable {r : Record} {c : Column} {columns : List Column} {fault : QueryFault}

theorem pair_of_absent (h : r.Lacks c.name) : pair r c = .error (.missingField c.name) := by
  rw [pair, Record.get?_eq_none_iff.mpr h]

theorem pair_of_holds {value : String} (h : r.Holds c.name value) :
    pair r c = (literal c.name (.ofRaw c.type value)).map fun v => c.name ++ ": " ++ v := by
  rw [pair, Record.get?_eq_some_iff.mpr h]

theorem pair_cases (r : Record) (c : Column) :
    (∃ text, pair r c = .ok text ∧ Writable r c) ∨
      ∃ fault, pair r c = .error fault ∧ Hinders r c fault := by
  cases hraw : r.get? c.name with
  | none =>
      have habsent := Record.get?_eq_none_iff.mp hraw
      exact .inr ⟨_, pair_of_absent habsent, .absent habsent⟩
  | some value =>
      have hvalue := Record.get?_eq_some_iff.mp hraw
      have hpair := pair_of_holds hvalue
      cases htype : c.type with
      | int | bool =>
          rw [htype] at hpair
          exact .inl ⟨_, hpair, value, hvalue, by simp [htype]⟩
      | char width =>
          rw [htype, Value.ofRaw, literal] at hpair
          split_ifs at hpair with hempty hquote
          · rw [String.isEmpty_iff] at hempty
            exact .inr ⟨_, hpair, .empty htype (hempty ▸ hvalue)⟩
          · rw [List.contains_iff_mem] at hquote
            exact .inr ⟨_, hpair, .quoted htype hvalue hquote⟩
          · rw [String.isEmpty_iff] at hempty
            rw [List.contains_iff_mem] at hquote
            exact .inl ⟨_, hpair, value, hvalue, fun _ _ => ⟨hempty, hquote⟩⟩

theorem pair_of_writable (h : Writable r c) : ∃ text, pair r c = .ok text := by
  obtain ⟨value, hvalue, hchar⟩ := h
  rw [pair_of_holds hvalue]
  cases htype : c.type with
  | int | bool => exact ⟨_, rfl⟩
  | char width =>
      obtain ⟨hempty, hquote⟩ := hchar width htype
      simp [Value.ofRaw, literal, hempty, hquote, Except.map]

theorem pair_of_hinders (h : Hinders r c fault) : pair r c = .error fault := by
  cases h with
  | absent habsent => exact pair_of_absent habsent
  | empty htype hvalue =>
      rw [pair_of_holds hvalue, htype]
      rfl
  | @quoted _ value htype hvalue hquote =>
      have hempty : value ≠ "" := by
        rintro rfl
        cases hquote
      simp [pair_of_holds hvalue, htype, Value.ofRaw, literal, hempty, hquote, Except.map]

theorem pairs_of_culprit {front back : List Column} (hfront : ∀ d ∈ front, Writable r d)
    (hc : Hinders r c fault) : pairs r (front ++ c :: back) = .error fault := by
  induction front with
  | nil => rw [List.nil_append, pairs, pair_of_hinders hc]
  | cons d front ih =>
      obtain ⟨hd, hrest⟩ := List.forall_mem_cons.mp hfront
      obtain ⟨text, htext⟩ := pair_of_writable hd
      rw [List.cons_append, pairs, htext, ih hrest]
      rfl

/-- Either all columns can be written, or the first that cannot is the culprit. -/
theorem pairs_cases (r : Record) (columns : List Column) :
    ((∃ texts, pairs r columns = .ok texts) ∧ ∀ c ∈ columns, Writable r c) ∨
      ∃ fault front c back, pairs r columns = .error fault ∧ columns = front ++ c :: back ∧
        (∀ d ∈ front, Writable r d) ∧ Hinders r c fault := by
  induction columns with
  | nil => exact .inl ⟨⟨[], rfl⟩, by simp⟩
  | cons first rest ih =>
      rcases pair_cases r first with ⟨text, hpair, hfirst⟩ | ⟨fault, hpair, hfault⟩
      · rcases ih with ⟨⟨texts, htexts⟩, hrest⟩ | ⟨fault, front, c, back, herror, rfl, hfront, hc⟩
        · refine .inl ⟨⟨text :: texts, ?_⟩, List.forall_mem_cons.mpr ⟨hfirst, hrest⟩⟩
          rw [pairs, hpair, htexts]
          rfl
        · have hwritable := List.forall_mem_cons.mpr ⟨hfirst, hfront⟩
          exact .inr
            ⟨fault, first :: front, c, back, pairs_of_culprit hwritable hc, rfl, hwritable, hc⟩
      · have hnone : ∀ d ∈ ([] : List Column), Writable r d := by simp
        exact .inr ⟨fault, [], first, rest, pairs_of_culprit hnone hfault, rfl, hnone, hfault⟩

theorem insert_eq_error_iff {s : Schema} {table : String} :
    insert s table r = .error fault ↔
      ∃ front c back, s.dataColumns = front ++ c :: back ∧ (∀ d ∈ front, Writable r d) ∧
        Hinders r c fault := by
  have hpairs : insert s table r = .error fault ↔ pairs r s.dataColumns = .error fault := by
    unfold insert
    cases pairs r s.dataColumns <;> simp [Except.map]
  rw [hpairs]
  constructor
  · intro h
    rcases pairs_cases r s.dataColumns with
      ⟨⟨texts, htexts⟩, -⟩ | ⟨other, front, c, back, herror, hculprit⟩
    · cases htexts.symm.trans h
    · cases herror.symm.trans h
      exact ⟨front, c, back, hculprit⟩
  · rintro ⟨front, c, back, hsplit, hfront, hc⟩
    rw [hsplit, pairs_of_culprit hfront hc]

theorem insert_eq_ok_iff {s : Schema} {table : String} :
    (∃ q, insert s table r = .ok q) ↔ ∀ c ∈ s.dataColumns, Writable r c := by
  unfold insert
  rcases pairs_cases r s.dataColumns with
    ⟨⟨texts, htexts⟩, hall⟩ | ⟨fault, front, c, back, herror, hsplit, -, hc⟩
  · rw [htexts]
    exact iff_of_true ⟨_, rfl⟩ hall
  · rw [herror]
    refine iff_of_false ?_ ?_
    · rintro ⟨q, hq⟩
      cases hq
    · intro hall
      obtain ⟨text, htext⟩ := pair_of_writable (hall c (by simp [hsplit]))
      cases htext.symm.trans (pair_of_hinders hc)

/-- What a record holds for columns that it does not fill has no part in its query. -/
theorem insert_congr {s : Schema} (table : String) {r other : Record}
    (h : ∀ c ∈ s.dataColumns, other.get? c.name = r.get? c.name) :
    insert s table other = insert s table r := by
  have hpairs : ∀ columns : List Column, (∀ c ∈ columns, other.get? c.name = r.get? c.name) →
      pairs other columns = pairs r columns := by
    intro columns hcolumns
    induction columns with
    | nil => rfl
    | cons c rest ih =>
        obtain ⟨hc, hrest⟩ := List.forall_mem_cons.mp hcolumns
        rw [pairs, pairs, pair, pair, hc, ih hrest]
  rw [insert, insert, hpairs s.dataColumns h]

theorem name_ne_of_identity {s : Schema} {c i : Column} (hc : c ∈ s.dataColumns)
    (hi : i ∈ s.columns) (hidentity : i.isIdentity = true) : c.name ≠ i.name := by
  obtain ⟨hmem, hdata⟩ := List.mem_filter.mp hc
  intro hname
  have hsame : c = i := List.inj_on_of_nodup_map (Schema.columns_sound s).distinct hmem hi hname
  rw [hsame, hidentity] at hdata
  cases hdata

/-- **Which records are refused, and for what.** A record is written as a query exactly when it has
a value for every column that records fill, and for every text column one that is not empty and
holds no double quote. Otherwise the first column in the order of the schema that does not get what
it asks for is named, with what is wrong: no value, an empty text, or the text with a quote in it. A
number or a truth value that is there is written whatever its text, and the identity is never asked
for. -/
theorem insert_refuses_first (s : Schema) (table : String) (r : Record) :
    ((∃ q, insert s table r = .ok q) ↔ ∀ c ∈ s.dataColumns, Writable r c) ∧
      (∀ fault, insert s table r = .error fault ↔
        ∃ front c back, s.dataColumns = front ++ c :: back ∧ (∀ d ∈ front, Writable r d) ∧
          Hinders r c fault) ∧
      (∀ c value, c.type = .int ∨ c.type = .bool → r.Holds c.name value → Writable r c) ∧
      ∀ i ∈ s.columns, i.isIdentity = true →
        (r.without i.name).Lacks i.name ∧
          insert s table (r.without i.name) = insert s table r := by
  refine ⟨insert_eq_ok_iff, fun fault => insert_eq_error_iff, ?_, ?_⟩
  · rintro c value htype hvalue
    refine ⟨value, hvalue, ?_⟩
    intro width hwidth
    rcases htype with htype | htype <;> cases htype.symm.trans hwidth
  · intro i hi hidentity
    refine ⟨r.lacks_without i.name, insert_congr table ?_⟩
    exact fun c hc => r.get?_without (name_ne_of_identity hc hi hidentity)

end Query

end BulkLoad
