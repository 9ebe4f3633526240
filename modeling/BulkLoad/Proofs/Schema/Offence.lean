import BulkLoad.Proofs.Schema.Sound

/-!
What keeps columns from forming a schema.

The columns are good up to the first that offends, and the fault is what is wrong with that one
after those before it. Of several things that are wrong with one column its name comes first, then
that the name is taken, then that there is an identity already.
-/
namespace BulkLoad

namespace Identifier

theorem fault?_eq_some_iff {s : String} {fault : SchemaFault} :
    fault? s = some fault ↔
      isWord s = false ∧ fault = .invalidIdentifier s ∨
        isWord s = true ∧ s ∈ reservedWords ∧ fault = .reservedWord s := by
  unfold fault?
  cases hword : isWord s with
  | false => simp [eq_comm]
  | true =>
      by_cases hreserved : s ∈ reservedWords
      · simp [hreserved, eq_comm]
      · simp [hreserved]

theorem isValid_iff {s : String} : isValid s = true ↔ isWord s = true ∧ s ∉ reservedWords := by
  simp [isValid]

end Identifier

namespace Schema

inductive Offends (before : List Column) (c : Column) : SchemaFault → Prop where
  | misnamed (hword : Identifier.isWord c.name = false) :
      Offends before c (.invalidIdentifier c.name)
  | reserved (hword : Identifier.isWord c.name = true)
      (hreserved : c.name ∈ Identifier.reservedWords) : Offends before c (.reservedWord c.name)
  | repeated (hname : Identifier.isValid c.name = true) (htaken : ∃ d ∈ before, d.name = c.name) :
      Offends before c (.duplicateColumn c.name)
  | secondIdentity {first : Column} (hname : Identifier.isValid c.name = true)
      (hnew : ∀ d ∈ before, d.name ≠ c.name) (hidentity : c.isIdentity = true)
      (hfirst : before.find? (·.isIdentity) = some first) :
      Offends before c (.twoIdentities first.name c.name)

variable {before columns : List Column} {c : Column} {fault : SchemaFault}

theorem columnFault?_of_offends (h : Offends before c fault) :
    columnFault? before c = some fault := by
  unfold columnFault?
  cases h with
  | misnamed hword => rw [Identifier.fault?_eq_some_iff.mpr (.inl ⟨hword, rfl⟩)]
  | reserved hword hreserved =>
      rw [Identifier.fault?_eq_some_iff.mpr (.inr ⟨hword, hreserved, rfl⟩)]
  | repeated hname htaken =>
      rw [(Identifier.fault?_eq_none_iff _).mpr hname]
      have htaken' : before.any (·.name == c.name) = true := by simpa using htaken
      simp only [htaken', if_true]
  | secondIdentity hname hnew hidentity hfirst =>
      rw [(Identifier.fault?_eq_none_iff _).mpr hname]
      have hnew' : before.any (·.name == c.name) = false := by simpa using hnew
      simp only [hnew', hidentity, hfirst, Bool.false_eq_true, if_false, if_true, Option.map_some]

theorem columnFault?_eq_some_iff : columnFault? before c = some fault ↔ Offends before c fault := by
  constructor
  · intro h
    unfold columnFault? at h
    cases hname : Identifier.fault? c.name with
    | some other =>
        rw [hname] at h
        cases h
        rcases Identifier.fault?_eq_some_iff.mp hname with ⟨hword, rfl⟩ | ⟨hword, hreserved, rfl⟩
        · exact .misnamed hword
        · exact .reserved hword hreserved
    | none =>
        rw [hname] at h
        have hvalid := (Identifier.fault?_eq_none_iff _).mp hname
        simp only at h
        split_ifs at h with htaken hidentity
        · cases h
          exact .repeated hvalid (by simpa using htaken)
        · obtain ⟨first, hfirst, rfl⟩ := Option.map_eq_some_iff.mp h
          exact .secondIdentity hvalid (by simpa using htaken) hidentity hfirst
  · exact columnFault?_of_offends

theorem faultAfter?_eq_some_iff :
    faultAfter? before columns = some fault ↔
      ∃ front c back, columns = front ++ c :: back ∧ faultAfter? before front = none ∧
        Offends (before ++ front) c fault := by
  induction columns generalizing before with
  | nil => simp [faultAfter?]
  | cons first rest ih =>
      rw [faultAfter?]
      cases hfault : columnFault? before first with
      | some other =>
          have hoffends := columnFault?_eq_some_iff.mp hfault
          constructor
          · rintro heq
            cases heq
            exact ⟨[], first, rest, rfl, rfl, by rwa [List.append_nil]⟩
          · rintro ⟨front, c, back, hsplit, hfront, hc⟩
            cases front with
            | nil =>
                obtain ⟨rfl, rfl⟩ := List.cons.inj hsplit
                rw [List.append_nil] at hc
                rw [← hfault, columnFault?_eq_some_iff.mpr hc]
            | cons d front =>
                obtain ⟨rfl, -⟩ := List.cons.inj hsplit
                rw [faultAfter?, hfault] at hfront
                cases hfront
      | none =>
          simp only
          rw [ih]
          constructor
          · rintro ⟨front, c, back, hsplit, hfront, hc⟩
            refine ⟨first :: front, c, back, by rw [hsplit]; rfl, ?_, ?_⟩
            · rw [faultAfter?, hfault]
              exact hfront
            · rwa [List.append_assoc] at hc
          · rintro ⟨front, c, back, hsplit, hfront, hc⟩
            cases front with
            | nil =>
                obtain ⟨rfl, -⟩ := List.cons.inj hsplit
                rw [List.append_nil] at hc
                rw [columnFault?_eq_some_iff.mpr hc] at hfault
                cases hfault
            | cons d front =>
                obtain ⟨rfl, hrest⟩ := List.cons.inj hsplit
                rw [faultAfter?, hfault] at hfront
                exact ⟨front, c, back, hrest, hfront, by rwa [List.append_assoc]⟩

/-- The fault of columns is that of the first that offends. -/
theorem fault?_eq_some_iff :
    fault? columns = some fault ↔
      columns = [] ∧ fault = .noColumns ∨
        ∃ front c back, columns = front ++ c :: back ∧ Sound front ∧ Offends front c fault := by
  unfold fault?
  cases columns with
  | nil => simp [eq_comm]
  | cons first rest =>
      have hsound (front : List Column) := faultAfter?_eq_none_iff Sound.nil front
      simp only [List.isEmpty_cons, Bool.false_eq_true, if_false, reduceCtorEq, false_and, false_or]
      simp only [faultAfter?_eq_some_iff, hsound, List.nil_append]

theorem ofColumns_eq_error (h : fault? columns = some fault) :
    ofColumns columns = .error fault := by
  unfold ofColumns
  split
  · rename_i hnone
    rw [h] at hnone
    cases hnone
  · rename_i other hother
    rw [h] at hother
    cases hother
    rfl

end Schema

end BulkLoad
