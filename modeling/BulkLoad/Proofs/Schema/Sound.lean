import BulkLoad.Schema.Basic
import Mathlib.Data.List.Nodup

/-!
What it takes for columns to form a schema: names that the query language allows, each once, and one
identity at most.

The check goes through the columns with those before it in hand, so its invariant is that the
columns before are sound together.
-/
namespace BulkLoad.Schema

structure Sound (columns : List Column) : Prop where
  named : ∀ c ∈ columns, Identifier.isValid c.name = true
  distinct : (columns.map (·.name)).Nodup
  identities : columns.countP (·.isIdentity) ≤ 1

namespace Sound

theorem nil : Sound [] := ⟨by simp, by simp, by simp⟩

theorem of_append {before after : List Column} (h : Sound (before ++ after)) : Sound before where
  named c hc := h.named c (List.mem_append_left after hc)
  distinct := by
    have hd := h.distinct
    rw [List.map_append] at hd
    exact hd.of_append_left
  identities := by
    have hi := h.identities
    rw [List.countP_append] at hi
    omega

end Sound

/-- A column can follow others if its name is valid and new, and if it is an identity only after
columns that are none. -/
theorem sound_append_singleton (before : List Column) (c : Column) :
    Sound (before ++ [c]) ↔
      Sound before ∧ Identifier.isValid c.name = true ∧ (∀ d ∈ before, d.name ≠ c.name) ∧
        (c.isIdentity = true → ∀ d ∈ before, d.isIdentity = false) := by
  constructor
  · intro h
    have hd := h.distinct
    have hi := h.identities
    simp only [List.map_append, List.map_cons, List.map_nil] at hd
    simp only [List.countP_append, List.countP_singleton] at hi
    refine ⟨h.of_append, h.named c (by simp), ?_, ?_⟩
    · intro d hmem heq
      have hnot := (List.nodup_append.mp hd).2.2
      exact hnot d.name (List.mem_map_of_mem hmem) c.name (by simp) heq
    · intro hc
      rw [if_pos hc] at hi
      have hzero : before.countP (·.isIdentity) = 0 := by omega
      simpa using hzero
  · rintro ⟨h, hname, hnew, hid⟩
    refine ⟨?_, ?_, ?_⟩
    · intro d hmem
      rcases List.mem_append.mp hmem with hold | hlast
      · exact h.named d hold
      · rw [List.mem_singleton] at hlast
        rw [hlast]
        exact hname
    · rw [List.map_append, List.nodup_append]
      refine ⟨h.distinct, by simp, ?_⟩
      intro a ha b hb heq
      obtain ⟨d, hmem, rfl⟩ := List.mem_map.mp ha
      simp only [List.map_cons, List.map_nil, List.mem_singleton] at hb
      exact hnew d hmem (heq.trans hb)
    · rw [List.countP_append, List.countP_singleton]
      split
      · rename_i hc
        have hzero : before.countP (·.isIdentity) = 0 := by simpa using hid hc
        omega
      · simpa using h.identities

/-- A column has no fault after sound columns exactly when they are sound together. -/
theorem columnFault?_eq_none_iff {before : List Column} (h : Sound before) (c : Column) :
    columnFault? before c = none ↔ Sound (before ++ [c]) := by
  rw [sound_append_singleton, ← Identifier.fault?_eq_none_iff]
  unfold columnFault?
  cases Identifier.fault? c.name with
  | some fault => simp
  | none =>
      by_cases hdup : before.any (·.name == c.name) = true
      · have hold : ¬ ∀ d ∈ before, d.name ≠ c.name := by
          obtain ⟨d, hmem, heq⟩ := List.any_eq_true.mp hdup
          intro hnew
          exact hnew d hmem (beq_iff_eq.mp heq)
        simp [hdup, hold]
      · have hnew : ∀ d ∈ before, d.name ≠ c.name := by
          intro d hmem heq
          exact hdup (List.any_eq_true.mpr ⟨d, hmem, beq_iff_eq.mpr heq⟩)
        have hdup' : before.any (·.name == c.name) = false := by simpa using hdup
        cases hid : c.isIdentity with
        | false => simpa [hdup', h] using hnew
        | true =>
            have hany : (∀ d ∈ before, d.isIdentity = false) → ∀ d ∈ before, ¬ d.name = c.name :=
              fun _ => hnew
            simpa [hdup', h] using hany

theorem faultAfter?_eq_none_iff {before : List Column} (h : Sound before)
    (columns : List Column) :
    faultAfter? before columns = none ↔ Sound (before ++ columns) := by
  induction columns generalizing before with
  | nil => simpa [faultAfter?] using h
  | cons c rest ih =>
      have hc := columnFault?_eq_none_iff h c
      have happend : before ++ c :: rest = before ++ [c] ++ rest := by simp
      rw [happend, faultAfter?]
      cases hfault : columnFault? before c with
      | some fault =>
          rw [hfault] at hc
          simp only [reduceCtorEq, false_iff] at hc ⊢
          intro hall
          exact hc hall.of_append
      | none => exact ih (hc.mp hfault)

/-- Columns form a schema exactly when there are any and they are sound. -/
theorem fault?_eq_none_iff (columns : List Column) :
    fault? columns = none ↔ columns ≠ [] ∧ Sound columns := by
  unfold fault?
  cases columns with
  | nil => simp
  | cons c rest => simpa using faultAfter?_eq_none_iff Sound.nil (c :: rest)

theorem columns_sound (s : Schema) : Sound s.columns :=
  ((fault?_eq_none_iff s.columns).mp s.sound).2

theorem ofColumns_eq_ok {columns : List Column} (h : fault? columns = none) :
    ofColumns columns = .ok ⟨columns, h⟩ := by
  unfold ofColumns
  split
  · rfl
  · rename_i fault hfault
    rw [h] at hfault
    cases hfault

end BulkLoad.Schema
