/-!
Occurrence of one text inside another.
-/
namespace BulkLoad.Text

def occursIn {α : Type} [BEq α] (part : List α) : List α → Bool
  | [] => part.isEmpty
  | x :: rest => part.isPrefixOf (x :: rest) || occursIn part rest

def contains (s part : String) : Bool :=
  occursIn part.toList s.toList

/-- A block occurs in a list exactly when the list is the block with something around it. -/
theorem occursIn_iff {α : Type} [BEq α] [LawfulBEq α] (part xs : List α) :
    occursIn part xs = true ↔ ∃ before after, xs = before ++ part ++ after := by
  induction xs with
  | nil =>
    constructor
    · intro h
      exact ⟨[], [], by simpa [occursIn, List.isEmpty_iff] using h.symm⟩
    · rintro ⟨before, after, h⟩
      simp at h
      simp [occursIn, h.2.1]
  | cons x rest ih =>
    simp only [occursIn, Bool.or_eq_true, List.isPrefixOf_iff_prefix, ih]
    constructor
    · rintro (⟨after, h⟩ | ⟨before, after, h⟩)
      · exact ⟨[], after, by simp [h]⟩
      · exact ⟨x :: before, after, by simp [h]⟩
    · rintro ⟨before, after, h⟩
      cases before with
      | nil => exact .inl ⟨after, by simpa using h.symm⟩
      | cons y before =>
        simp only [List.cons_append, List.cons.injEq] at h
        exact .inr ⟨before, after, h.2⟩

theorem contains_append (before part : String) : contains (before ++ part) part = true := by
  rw [contains, occursIn_iff]
  exact ⟨before.toList, [], by simp⟩

end BulkLoad.Text
