import BulkLoad.Proofs.Text.Spans
import BulkLoad.Text.Lines

/-!
Lines of a text, and the last of a trimmed one.

A line goes on to its line feed. A trimmed text does not end in one, so its last line is what stands
behind its last line feed, and ends where the text does. A carriage return inside a line stays.
-/
namespace BulkLoad.Text

structure Behind (cs tail : List Char) : Prop where
  lineless : '\n' ∉ tail
  split : cs = tail ∨ ∃ before, cs = before ++ '\n' :: tail

theorem exists_behind (cs : List Char) : ∃ tail, Behind cs tail := by
  by_cases hmem : '\n' ∈ cs
  · -- the last line feed is the first of the reverse
    obtain ⟨after, before, hsplit, hafter⟩ :=
      List.eq_append_cons_of_mem (List.mem_reverse.mpr hmem)
    refine ⟨after.reverse, by rwa [List.mem_reverse], .inr ⟨before.reverse, ?_⟩⟩
    rw [← List.reverse_reverse cs, hsplit]
    simp
  · exact ⟨cs, hmem, .inl rfl⟩

/-- What has no line feed goes on the line that has begun. -/
theorem linesFrom_append {line : List Char} (h : '\n' ∉ line) (collected rest : List Char) :
    linesFrom collected (line ++ rest) = linesFrom (line.reverse ++ collected) rest := by
  induction line generalizing collected with
  | nil => rfl
  | cons c line ih =>
      obtain ⟨hc, hline⟩ := List.ne_and_not_mem_of_not_mem_cons h
      rw [List.cons_append, linesFrom, if_neg (Ne.symm hc), ih hline, List.reverse_cons,
        List.append_assoc]
      rfl

theorem linesFrom_of_not_mem {line : List Char} (h : '\n' ∉ line) (hne : line ≠ []) :
    linesFrom [] line = [line] := by
  have happend := linesFrom_append h [] []
  rw [List.append_nil, List.append_nil, linesFrom, if_neg (by simpa using hne),
    List.reverse_reverse] at happend
  exact happend

/-- A line before its line feed is whole if no carriage return is in it. -/
theorem linesFrom_line {line : List Char} (h : ∀ c ∈ line, c ≠ '\n' ∧ c ≠ '\r')
    (rest : List Char) : linesFrom [] (line ++ '\n' :: rest) = line :: linesFrom [] rest := by
  have hclose : closeLine line.reverse = line := by
    unfold closeLine
    split
    · next earlier hreturn =>
        have hmem : '\r' ∈ line := by
          rw [← List.mem_reverse, hreturn]
          exact List.mem_cons_self
        exact absurd rfl (h _ hmem).2
    · exact List.reverse_reverse line
  rw [linesFrom_append (fun hmem => (h _ hmem).1 rfl), List.append_nil, linesFrom, if_pos rfl,
    hclose]

/-- The lines behind a line feed are not touched by what stands in front of it. -/
theorem linesFrom_append_cons (before rest : List Char) (collected : List Char) :
    ∃ earlier, linesFrom collected (before ++ '\n' :: rest) = earlier ++ linesFrom [] rest := by
  induction before generalizing collected with
  | nil => exact ⟨[closeLine collected], by rw [List.nil_append, linesFrom, if_pos rfl]; rfl⟩
  | cons c before ih =>
      rw [List.cons_append, linesFrom]
      split
      · obtain ⟨earlier, hearlier⟩ := ih []
        exact ⟨closeLine collected :: earlier, by rw [hearlier]; rfl⟩
      · exact ih (c :: collected)

theorem Behind.getLast?_linesFrom {cs tail : List Char} (h : Behind cs tail) (hne : tail ≠ []) :
    (linesFrom [] cs).getLast? = some tail := by
  have hlast := linesFrom_of_not_mem h.lineless hne
  rcases h.split with rfl | ⟨before, rfl⟩
  · rw [hlast]
    rfl
  · obtain ⟨earlier, hearlier⟩ := linesFrom_append_cons before tail []
    rw [hearlier, hlast, List.getLast?_concat]

/-- The line in which a text ends when the blanks around it are taken off. -/
structure EndsIn (text line : String) : Prop where
  behind : ∃ core, Trims isBlank text.toList core ∧ Behind core line.toList
  nonempty : line.toList ≠ []
  last : ∀ c, line.toList.getLast? = some c → isBlank c = false

theorem isEmpty_trim (text : String) : (trim text).isEmpty = allBlank text := by
  rw [Bool.eq_iff_iff, allBlank, ← trimBoth_eq_nil_iff, trim, String.isEmpty_iff]
  exact String.ofList_eq_empty_iff

/-- A text that is not blank ends in the last of the lines that it has without the blanks around
it. -/
theorem endsIn_of_not_blank {text : String} (h : allBlank text = false) :
    ∃ line, (lines (trim text)).getLast? = some line ∧ EndsIn text line := by
  have htrims := trims_trimBoth isBlank text.toList
  have hne : trimBoth isBlank text.toList ≠ [] := by
    rw [Ne, trimBoth_eq_nil_iff]
    simpa [allBlank] using h
  obtain ⟨tail, htail⟩ := exists_behind (trimBoth isBlank text.toList)
  have htailne : tail ≠ [] := by
    rintro rfl
    rcases htail.split with hnil | ⟨before, hbefore⟩
    · exact hne hnil
    · -- the text would end in the line feed, which is a blank
      have hblank := htrims.last '\n' (by rw [hbefore]; simp)
      cases hblank
  have hlast : (trimBoth isBlank text.toList).getLast? = tail.getLast? := by
    rcases htail.split with hall | ⟨before, hbefore⟩
    · rw [hall]
    · rw [hbefore, List.getLast?_append_of_ne_nil _ (List.cons_ne_nil _ _),
        List.getLast?_cons_of_ne_nil htailne]
  refine ⟨String.ofList tail, ?_, ⟨⟨_, htrims, ?_⟩, ?_, ?_⟩⟩
  · rw [lines, trim, String.toList_ofList, List.getLast?_map, htail.getLast?_linesFrom htailne]
    rfl
  · rwa [String.toList_ofList]
  · rwa [String.toList_ofList]
  · rw [String.toList_ofList, ← hlast]
    exact htrims.last

end BulkLoad.Text
