import BulkLoad.Proofs.Schema.Sound
import BulkLoad.Query
import Mathlib.Data.List.Perm.Subperm
import Mathlib.Data.Nat.Find
import Mathlib.Order.Bounds.Basic

/-!
The columns of a created table: the schema's own, and an identity under a new name if it has none.

The numbered names are all different, so among as many of them as there are columns one is free once
the plain name is taken too. A search that never gives up, and fails only where its counter runs
over, ends there, so the tries of `firstFree` are enough. Whether the engine accepts the name is not
asked here.
-/
namespace BulkLoad

theorem Identifier.isPart_of_isDigit {c : Char} (h : Decimal.isDigit c = true) :
    Identifier.isPart c = true := by
  simp only [Decimal.isDigit, Bool.and_eq_true, decide_eq_true_eq] at h
  simp only [Identifier.isPart, Bool.or_eq_true, Bool.and_eq_true, decide_eq_true_eq]
  exact .inr h

namespace Query

theorem numberedName_toList (i : Nat) :
    (numberedName i).toList = 'i' :: 'd' :: '_' :: Decimal.digits i := by
  simp [numberedName, identityName, Decimal.text, String.toList_append]

theorem numberedName_injective {i j : Nat} (h : numberedName i = numberedName j) : i = j := by
  have hlist := congrArg String.toList h
  simp only [numberedName_toList, List.cons.injEq, true_and] at hlist
  rw [← Decimal.valueOf_digits i, hlist, Decimal.valueOf_digits]

theorem numberedName_ne_identityName (i : Nat) : numberedName i ≠ identityName := by
  intro h
  have hlist := congrArg String.toList h
  rw [numberedName_toList] at hlist
  simp [identityName] at hlist

theorem numberedName_isValid (i : Nat) : Identifier.isValid (numberedName i) = true := by
  have hword : Identifier.isWord (numberedName i) = true := by
    have hdigits : (Decimal.digits i).all Identifier.isPart = true := by
      have hall := Decimal.all_isDigit_digits i
      rw [List.all_eq_true] at hall ⊢
      intro c hc
      exact Identifier.isPart_of_isDigit (hall c hc)
    rw [Identifier.isWord, numberedName_toList]
    simp [Identifier.isWordChars, Identifier.isStart, Identifier.isPart, hdigits]
  have hfree : numberedName i ∉ Identifier.reservedWords := by
    intro hmem
    have hlist : (numberedName i).toList ∈ Identifier.reservedWords.map String.toList :=
      List.mem_map_of_mem hmem
    rw [numberedName_toList] at hlist
    simp [Identifier.reservedWords] at hlist
  simp [Identifier.isValid, hword, hfree]

theorem any_name_eq (columns : List Column) (name : String) :
    columns.any (·.name == name) = true ↔ name ∈ columns.map (·.name) := by
  simp

/-- Tries that reach as far find the first name that is free. -/
theorem firstFree_of_first {columns : List Column} {i k tries : Nat} (hk : k ≤ tries)
    (hfree : numberedName (i + k) ∉ columns.map (·.name))
    (hbefore : ∀ j, i ≤ j → j < i + k → numberedName j ∈ columns.map (·.name)) :
    firstFree columns i tries = numberedName (i + k) := by
  induction k generalizing i tries with
  | zero =>
      cases tries with
      | zero => rfl
      | succ tries =>
          rw [Nat.add_zero, ← any_name_eq] at hfree
          rw [firstFree, if_neg hfree, Nat.add_zero]
  | succ k ih =>
      obtain ⟨tries, rfl⟩ : ∃ t, tries = t + 1 := ⟨tries - 1, by omega⟩
      have htaken := (any_name_eq columns _).mpr (hbefore i (Nat.le_refl i) (by omega))
      have hstep : i + (k + 1) = i + 1 + k := by omega
      rw [hstep] at hfree hbefore ⊢
      rw [firstFree, if_pos htaken]
      exact ih (by omega) hfree fun j hij hjk => hbefore j (by omega) hjk

theorem exists_numberedName_free {names : List String} (h : identityName ∈ names) :
    ∃ k < names.length, numberedName (1 + k) ∉ names := by
  by_contra hnone
  push Not at hnone
  let taken := identityName :: (List.range names.length).map fun k => numberedName (1 + k)
  have hnodup : taken.Nodup := by
    refine List.nodup_cons.mpr ⟨?_, ?_⟩
    · intro hmem
      obtain ⟨k, -, heq⟩ := List.mem_map.mp hmem
      exact numberedName_ne_identityName _ heq
    · refine List.Nodup.map ?_ List.nodup_range
      intro j k heq
      have := numberedName_injective heq
      omega
  have hsub : taken ⊆ names := by
    intro name hmem
    rcases List.mem_cons.mp hmem with rfl | hmem
    · exact h
    · obtain ⟨k, hk, rfl⟩ := List.mem_map.mp hmem
      exact hnone k (List.mem_range.mp hk)
  have hlength := (List.subperm_of_subset hnodup hsub).length_le
  simp only [taken, List.length_cons, List.length_map, List.length_range] at hlength
  omega

/-- A taken plain name gives way to the first numbered one that is free. -/
theorem freshIdentity_of_taken {columns : List Column}
    (h : identityName ∈ columns.map (·.name)) :
    ∃ i, 1 ≤ i ∧ i ≤ columns.length ∧ freshIdentity columns = numberedName i ∧
      numberedName i ∉ columns.map (·.name) ∧
      ∀ j, 1 ≤ j → j < i → numberedName j ∈ columns.map (·.name) := by
  have hsome := exists_numberedName_free h
  obtain ⟨hk, hfree⟩ := Nat.find_spec hsome
  have hbefore : ∀ j, 1 ≤ j → j < 1 + Nat.find hsome →
      numberedName j ∈ columns.map (·.name) := by
    intro j hj hjk
    obtain ⟨m, rfl⟩ := Nat.exists_eq_add_of_le hj
    by_contra hless
    exact Nat.find_min hsome (by omega) ⟨by omega, hless⟩
  have hcount : (columns.map (·.name)).length = columns.length := List.length_map _
  refine ⟨1 + Nat.find hsome, by omega, by omega, ?_, hfree, hbefore⟩
  rw [freshIdentity, if_pos ((any_name_eq columns _).mpr h)]
  exact firstFree_of_first (by omega) hfree hbefore

theorem freshIdentity_of_free {columns : List Column}
    (h : identityName ∉ columns.map (·.name)) : freshIdentity columns = identityName := by
  rw [← any_name_eq] at h
  rw [freshIdentity, if_neg h]

/-- The largest number that the counter of the search holds, in 32 bits with a sign. -/
def counterMax : Nat := 2147483647

/-- Which number the search that has come to one ends at. A number is drawn only if the counter can
hold the one after it. -/
inductive SearchEnds (names : List String) : Nat → Nat → Prop
  | free {i : Nat} (counted : i < counterMax) (free : numberedName i ∉ names) :
      SearchEnds names i i
  | taken {i j : Nat} (counted : i < counterMax) (taken : numberedName i ∈ names)
      (rest : SearchEnds names (i + 1) j) : SearchEnds names i j

section Search

variable {names : List String} {i j : Nat}

theorem SearchEnds.bounds (h : SearchEnds names i j) :
    i ≤ j ∧ j < counterMax ∧ numberedName j ∉ names ∧
      ∀ k, i ≤ k → k < j → numberedName k ∈ names := by
  induction h with
  | free counted free => exact ⟨Nat.le_refl _, counted, free, by omega⟩
  | @taken i j _ taken _ ih =>
      obtain ⟨hle, hcounted, hfree, hbefore⟩ := ih
      refine ⟨by omega, hcounted, hfree, ?_⟩
      intro k hik hkj
      rcases Nat.eq_or_lt_of_le hik with rfl | hlater
      · exact taken
      · exact hbefore k hlater hkj

theorem searchEnds_of_bounds (distance : Nat) (hcounted : i + distance < counterMax)
    (hfree : numberedName (i + distance) ∉ names)
    (hbefore : ∀ k, i ≤ k → k < i + distance → numberedName k ∈ names) :
    SearchEnds names i (i + distance) := by
  induction distance generalizing i with
  | zero => exact .free hcounted hfree
  | succ distance ih =>
      have hstep : i + (distance + 1) = i + 1 + distance := by omega
      rw [hstep] at hcounted hfree hbefore ⊢
      have hrest := ih hcounted hfree fun k hik hkj => hbefore k (by omega) hkj
      exact .taken (by omega) (hbefore i (Nat.le_refl i) (by omega)) hrest

/-- The search ends at the first free name at which it comes by, if it can count so far. -/
theorem searchEnds_iff :
    SearchEnds names i j ↔
      i ≤ j ∧ j < counterMax ∧ numberedName j ∉ names ∧
        ∀ k, i ≤ k → k < j → numberedName k ∈ names := by
  constructor
  · exact SearchEnds.bounds
  · rintro ⟨hle, hcounted, hfree, hbefore⟩
    obtain ⟨distance, rfl⟩ := Nat.exists_eq_add_of_le hle
    exact searchEnds_of_bounds distance hcounted hfree hbefore

theorem SearchEnds.unique {k : Nat} (hj : SearchEnds names i j) (hk : SearchEnds names i k) :
    j = k := by
  obtain ⟨hij, -, hjfree, hjbefore⟩ := hj.bounds
  obtain ⟨hik, -, hkfree, hkbefore⟩ := hk.bounds
  rcases Nat.lt_trichotomy j k with hless | heq | hless
  · exact absurd (hkbefore j hij hless) hjfree
  · exact heq
  · exact absurd (hjbefore k hik hless) hkfree

end Search

/-- **The name of a new identity is the first that is free.** A schema without a column of the plain
name gets this name. Else the search through the numbered names ends, at the least number whose name
is free, which is not above the number of columns; that name is given, and would be with any greater
number of tries. -/
theorem freshIdentity_first_free (s : Schema) (hcount : s.columns.length < counterMax) :
    (identityName ∉ s.columns.map (·.name) → freshIdentity s.columns = identityName) ∧
      (identityName ∈ s.columns.map (·.name) →
        ∃ i, IsLeast {k | 1 ≤ k ∧ numberedName k ∉ s.columns.map (·.name)} i ∧
          i ≤ s.columns.length ∧
          (∀ j, SearchEnds (s.columns.map (·.name)) 1 j ↔ j = i) ∧
          freshIdentity s.columns = numberedName i ∧ numberedName i ≠ identityName ∧
          ∀ tries, s.columns.length ≤ tries → firstFree s.columns 1 tries = numberedName i) := by
  refine ⟨freshIdentity_of_free, ?_⟩
  intro htaken
  obtain ⟨i, hpos, hle, hname, hfree, hbefore⟩ := freshIdentity_of_taken htaken
  have hends : SearchEnds (s.columns.map (·.name)) 1 i :=
    searchEnds_iff.mpr ⟨hpos, by omega, hfree, hbefore⟩
  refine ⟨i, ⟨⟨hpos, hfree⟩, ?_⟩, hle, ?_, hname, numberedName_ne_identityName i, ?_⟩
  · rintro k ⟨hk, hkfree⟩
    by_contra hless
    exact hkfree (hbefore k hk (by omega))
  · intro j
    constructor
    · exact fun hj => hj.unique hends
    · rintro rfl
      exact hends
  · intro tries htries
    obtain ⟨k, rfl⟩ := Nat.exists_eq_add_of_le hpos
    exact firstFree_of_first (by omega) hfree hbefore

def numberedSchema : Schema where
  columns := [.plain "id_2" .int, .plain "id" (.char 8), .plain "id_1" .bool]
  sound := by decide

/-- A schema that takes a numbered name and leaves the plain one. -/
def skippedSchema : Schema where
  columns := [.plain "id_1" .int]
  sound := by decide

theorem freshIdentity_first_free_numbered :
    numberedSchema.columns.length < counterMax ∧ skippedSchema.columns.length < counterMax ∧
      identityName ∈ numberedSchema.columns.map (·.name) ∧
      identityName ∉ skippedSchema.columns.map (·.name) ∧
      freshIdentity skippedSchema.columns = "id" ∧
      freshIdentity numberedSchema.columns = "id_3" ∧
      SearchEnds (numberedSchema.columns.map (·.name)) 1 3 ∧
      firstFree numberedSchema.columns 1 1000 = "id_3" := by
  have hcount : numberedSchema.columns.length < counterMax := by decide
  have hcount' : skippedSchema.columns.length < counterMax := by decide
  have htaken : identityName ∈ numberedSchema.columns.map (·.name) := by decide
  have hfree : identityName ∉ skippedSchema.columns.map (·.name) := by decide
  have hplain := (freshIdentity_first_free skippedSchema hcount').1 hfree
  obtain ⟨i, hleast, hle, hends, hname, -, htries⟩ :=
    (freshIdentity_first_free numberedSchema hcount).2 htaken
  have hthird : freshIdentity numberedSchema.columns = numberedName 3 := by
    decide +kernel
  obtain rfl : i = 3 := numberedName_injective (hname.symm.trans hthird)
  have htext : numberedName 3 = "id_3" := by decide +kernel
  refine ⟨hcount, hcount', htaken, hfree, hplain, hname.trans htext, (hends 3).mpr rfl, ?_⟩
  exact (htries 1000 (by decide)).trans htext

theorem freshIdentity_spec (columns : List Column) :
    Identifier.isValid (freshIdentity columns) = true ∧
      ∀ c ∈ columns, c.name ≠ freshIdentity columns := by
  have hspec : Identifier.isValid (freshIdentity columns) = true ∧
      freshIdentity columns ∉ columns.map (·.name) := by
    by_cases h : identityName ∈ columns.map (·.name)
    · obtain ⟨i, -, -, heq, hfree, -⟩ := freshIdentity_of_taken h
      rw [heq]
      exact ⟨numberedName_isValid i, hfree⟩
    · rw [freshIdentity_of_free h]
      exact ⟨by decide, h⟩
  refine ⟨hspec.1, ?_⟩
  intro c hc heq
  exact hspec.2 (List.mem_map.mpr ⟨c, hc, heq⟩)

theorem createdColumns_of_identity {s : Schema} (h : ∃ c ∈ s.columns, c.isIdentity = true) :
    createdColumns s = s.columns := by
  have hsome : s.identity?.isSome = true := by
    rw [Schema.identity?, List.find?_isSome]
    exact h
  rw [createdColumns, if_pos hsome]

/-- The columns of the table are those of the schema, and an identity under a new name only if none
of them is one. -/
theorem createdColumns_cases (s : Schema) :
    ((∃ c ∈ s.columns, c.isIdentity = true) ∧ createdColumns s = s.columns) ∨
      ((∀ c ∈ s.columns, c.isIdentity = false) ∧
        ∃ name, Identifier.isValid name = true ∧ (∀ c ∈ s.columns, c.name ≠ name) ∧
          createdColumns s = s.columns ++ [⟨name, .int, true, false⟩]) := by
  by_cases hid : ∃ c ∈ s.columns, c.isIdentity = true
  · exact .inl ⟨hid, createdColumns_of_identity hid⟩
  · have hnone : ¬ s.identity?.isSome = true := by
      rw [Schema.identity?, List.find?_isSome]
      exact hid
    obtain ⟨hvalid, hnew⟩ := freshIdentity_spec s.columns
    refine .inr ⟨?_, freshIdentity s.columns, hvalid, hnew, ?_⟩
    · intro c hc
      rw [Bool.eq_false_iff]
      intro h
      exact hid ⟨c, hc, h⟩
    · rw [createdColumns, if_neg hnone]

/-- The columns of the table are sound, and one of them is the identity. -/
theorem createdColumns_sound (s : Schema) :
    Schema.Sound (createdColumns s) ∧ (createdColumns s).countP (·.isIdentity) = 1 := by
  have hs := Schema.columns_sound s
  rcases createdColumns_cases s with ⟨hid, heq⟩ | ⟨hnone, name, hvalid, hnew, heq⟩
  · have hpos : 0 < s.columns.countP (·.isIdentity) := List.countP_pos_iff.mpr hid
    have hone := hs.identities
    rw [heq]
    exact ⟨hs, by omega⟩
  · have hzero : s.columns.countP (·.isIdentity) = 0 := by
      rw [List.countP_eq_zero]
      simpa using hnone
    rw [heq]
    refine ⟨?_, ?_⟩
    · exact (Schema.sound_append_singleton _ _).mpr ⟨hs, hvalid, hnew, fun _ => hnone⟩
    · rw [List.countP_append, hzero]
      rfl

/-- They form a schema of their own, whose table has no others. -/
theorem createdColumns_idempotent (s : Schema) :
    ∃ completed, Schema.ofColumns (createdColumns s) = .ok completed ∧
      completed.columns = createdColumns s ∧ createdColumns completed = createdColumns s := by
  obtain ⟨hsound, hone⟩ := createdColumns_sound s
  have hpos : 0 < (createdColumns s).countP (·.isIdentity) := by omega
  have hne : createdColumns s ≠ [] := by
    intro hnil
    rw [hnil] at hone
    cases hone
  have hfault := (Schema.fault?_eq_none_iff (createdColumns s)).mpr ⟨hne, hsound⟩
  refine ⟨⟨createdColumns s, hfault⟩, Schema.ofColumns_eq_ok hfault, rfl, ?_⟩
  exact createdColumns_of_identity (List.countP_pos_iff.mp hpos)

end Query

end BulkLoad
