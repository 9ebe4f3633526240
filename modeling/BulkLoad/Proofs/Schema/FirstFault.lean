import BulkLoad.Proofs.Schema.Offence

/-!
Lists of columns that form no schema, and the one fault that is named for them.

The list is read up to the first column that cannot follow those before it. So the fault depends on
the columns up to that one alone, and an identity that it names is the only one among them.
-/
namespace BulkLoad

namespace Identifier

def Spells (cs : List Char) : Prop :=
  ∃ first rest, cs = first :: rest ∧ (first.isAlpha = true ∨ first = '_') ∧
    ∀ c ∈ rest, c.isAlphanum = true ∨ c = '_'

theorem isStart_iff (c : Char) : isStart c = true ↔ c.isAlpha = true ∨ c = '_' := by
  have hletter : c.isAlpha =
      (decide (65 ≤ c.val ∧ c.val ≤ 90) || decide (97 ≤ c.val) && decide (c.val ≤ 122)) := rfl
  simp [isStart, hletter, Char.le_def]

theorem isPart_iff (c : Char) : isPart c = true ↔ c.isAlphanum = true ∨ c = '_' := by
  simp [isPart, isStart_iff, Char.isAlphanum, Char.isDigit, Char.le_def]
  tauto

theorem isWord_iff (name : String) : isWord name = true ↔ Spells name.toList := by
  unfold isWord Spells
  cases name.toList with
  | nil => simp [isWordChars]
  | cons first rest => simp [isWordChars, isStart_iff, isPart_iff]

end Identifier

namespace Schema

variable {columns front back : List Column} {c : Column} {fault : SchemaFault}

theorem not_sound_of_offends (hfront : Sound front) (h : Offends front c fault) :
    ¬ Sound (front ++ [c]) := by
  rw [← columnFault?_eq_none_iff hfront, columnFault?_of_offends h]
  exact Option.some_ne_none fault

/-- Among sound columns there is no identity but the first. -/
theorem filter_isIdentity (hfront : Sound front) {first : Column}
    (h : front.find? (·.isIdentity) = some first) : front.filter (·.isIdentity) = [first] := by
  have hhead : (front.filter (·.isIdentity)).head? = some first := by rw [List.head?_filter, h]
  have hlength := hfront.identities
  rw [List.countP_eq_length_filter] at hlength
  cases hall : front.filter (·.isIdentity) with
  | nil => simp [hall] at hhead
  | cons d rest =>
      rw [hall] at hhead hlength
      rw [List.length_cons] at hlength
      have hrest : rest = [] := List.length_eq_zero_iff.mp (by omega)
      rw [hrest, Option.some.inj hhead]

theorem ofColumns_eq_ok_iff {s : Schema} : ofColumns columns = .ok s ↔ s.columns = columns := by
  constructor
  · intro h
    cases hfault : fault? columns with
    | none =>
        rw [ofColumns_eq_ok hfault] at h
        cases h
        rfl
    | some fault => cases (ofColumns_eq_error hfault).symm.trans h
  · rintro rfl
    exact ofColumns_eq_ok s.sound

theorem exists_ofColumns_eq_ok_iff :
    (∃ s, ofColumns columns = .ok s) ↔ columns ≠ [] ∧ Sound columns := by
  rw [← fault?_eq_none_iff]
  constructor
  · rintro ⟨s, hs⟩
    rw [← ofColumns_eq_ok_iff.mp hs]
    exact s.sound
  · exact fun h => ⟨_, ofColumns_eq_ok h⟩

theorem ofColumns_eq_error_iff :
    ofColumns columns = .error fault ↔ fault? columns = some fault := by
  constructor
  · intro h
    cases hfault : fault? columns with
    | none => cases (ofColumns_eq_ok hfault).symm.trans h
    | some other =>
        cases h.symm.trans (ofColumns_eq_error hfault)
        rfl
  · exact ofColumns_eq_error

/-- **Which columns form a schema, and what is named when they do not.** Columns form the schema of
these columns if there are any, their names are words that the language does not keep for itself, no
two names are the same, and there is one identity at most. Otherwise the first column that cannot
follow those before it is named: its name is no word, or it is kept, or it is taken, or there was an
identity before, which then was the only one. The columns after it have no part in this. -/
theorem ofColumns_names_first (columns : List Column) :
    (∀ name, Identifier.isWord name = true ↔ Identifier.Spells name.toList) ∧
      (∀ name, Identifier.isValid name = true ↔
        Identifier.Spells name.toList ∧ name ∉ Identifier.reservedWords) ∧
      ((∃ s, ofColumns columns = .ok s) ↔ columns ≠ [] ∧ Sound columns) ∧
      (∀ s, ofColumns columns = .ok s → s.columns = columns) ∧
      ∀ fault, ofColumns columns = .error fault ↔
        columns = [] ∧ fault = .noColumns ∨
          ∃ front c back, columns = front ++ c :: back ∧
            Sound front ∧ ¬ Sound (front ++ [c]) ∧ Offends front c fault ∧
            (∀ more, ofColumns (front ++ c :: more) = .error fault) ∧
            ∀ first second, fault = .twoIdentities first second →
              second = c.name ∧ ∃ d, front.filter (·.isIdentity) = [d] ∧ d.name = first := by
  have hcolumns : ∀ s, ofColumns columns = .ok s → s.columns = columns :=
    fun s => ofColumns_eq_ok_iff.mp
  refine ⟨Identifier.isWord_iff, ?_, exists_ofColumns_eq_ok_iff, hcolumns, ?_⟩
  · intro name
    rw [Identifier.isValid_iff, Identifier.isWord_iff]
  intro fault
  rw [ofColumns_eq_error_iff, fault?_eq_some_iff]
  refine or_congr_right ?_
  constructor
  · rintro ⟨front, c, back, hsplit, hfront, hc⟩
    refine ⟨front, c, back, hsplit, hfront, not_sound_of_offends hfront hc, hc, ?_, ?_⟩
    · intro more
      rw [ofColumns_eq_error_iff, fault?_eq_some_iff]
      exact .inr ⟨front, c, more, rfl, hfront, hc⟩
    · rintro first second rfl
      cases hc with
      | secondIdentity hname hnew hidentity hfirst =>
          exact ⟨rfl, _, filter_isIdentity hfront hfirst, rfl⟩
  · rintro ⟨front, c, back, hsplit, hfront, -, hc, -, -⟩
    exact ⟨front, c, back, hsplit, hfront, hc⟩

end Schema

end BulkLoad
