import BulkLoad.Delimited.Delimiter
import Mathlib.Data.List.Basic

/-!
The delimiter that is found in a line.

The search keeps the best of the candidates that it has looked at, and a later one takes its place
only by occurring more often. So it ends with the first of those that occur most often, which is one
character for every line. Joined names have the joining character once between any two of them; if
they hold no candidate themselves it prevails.
-/
namespace BulkLoad.Delimited

/-- No candidate occurs more often in the line than `d`, and those before `d` occur less often. -/
structure Prevails (line candidates : List Char) (d : Char) : Prop where
  first : ∃ before after, candidates = before ++ d :: after ∧
    ∀ c ∈ before, line.count c < line.count d
  most : ∀ c ∈ candidates, line.count c ≤ line.count d

namespace Prevails

variable {line candidates : List Char} {d e : Char}

theorem mem (h : Prevails line candidates d) : d ∈ candidates := by
  obtain ⟨before, after, rfl, -⟩ := h.first
  simp

theorem unique (h : Prevails line candidates d) (h' : Prevails line candidates e) : d = e := by
  obtain ⟨before, after, hsplit, hless⟩ := h.first
  obtain ⟨before', after', hsplit', hless'⟩ := h'.first
  have hd := h'.most d h.mem
  have he := h.most e h'.mem
  -- If one of the two stood before the other it would occur less often.
  rw [hsplit] at hsplit'
  rcases List.append_eq_append_iff.mp hsplit' with
    ⟨between, hbefore, hrest⟩ | ⟨between, hbefore, hrest⟩
  · cases between with
    | nil => exact (List.cons.inj hrest).1
    | cons c between =>
        obtain ⟨rfl, -⟩ := List.cons.inj hrest
        have hlt := hless' d (by simp [hbefore])
        omega
  · cases between with
    | nil => exact (List.cons.inj hrest).1.symm
    | cons c between =>
        obtain ⟨rfl, -⟩ := List.cons.inj hrest
        have hlt := hless e (by simp [hbefore])
        omega

theorem alone (d : Char) : Prevails line [d] d :=
  ⟨⟨[], [], rfl, by simp⟩, by simp⟩

/-- The better of two is kept. -/
theorem step (h : Prevails line candidates d) (c : Char) :
    Prevails line (candidates ++ [c]) (prefer line d c) := by
  obtain ⟨before, after, hsplit, hless⟩ := h.first
  by_cases hmore : line.count d < line.count c
  · rw [prefer, if_pos hmore]
    have hbelow : ∀ b ∈ candidates, line.count b < line.count c :=
      fun b hb => Nat.lt_of_le_of_lt (h.most b hb) hmore
    refine ⟨⟨candidates, [], rfl, hbelow⟩, ?_⟩
    intro b hb
    rcases List.mem_append.mp hb with hb | hb
    · exact Nat.le_of_lt (hbelow b hb)
    · exact Nat.le_of_eq (congrArg line.count (List.mem_singleton.mp hb))
  · rw [prefer, if_neg hmore]
    refine ⟨⟨before, after ++ [c], by simp [hsplit], hless⟩, ?_⟩
    intro b hb
    rcases List.mem_append.mp hb with hb | hb
    · exact h.most b hb
    · rw [List.mem_singleton.mp hb]
      exact Nat.not_lt.mp hmore

theorem foldl (h : Prevails line candidates d) (later : List Char) :
    Prevails line (candidates ++ later) (later.foldl (prefer line) d) := by
  induction later generalizing candidates d with
  | nil => simpa using h
  | cons c later ih =>
      have hlater := ih (h.step c)
      rwa [List.append_assoc, List.singleton_append] at hlater

/-- Only how often the candidates occur has a part in it. -/
theorem congr {other : List Char} (h : Prevails line candidates d)
    (hcount : ∀ c ∈ candidates, line.count c = other.count c) : Prevails other candidates d := by
  obtain ⟨before, after, hsplit, hless⟩ := h.first
  have hd := hcount d h.mem
  refine ⟨⟨before, after, hsplit, ?_⟩, ?_⟩
  · intro c hc
    rw [← hcount c (by simp [hsplit, hc]), ← hd]
    exact hless c hc
  · intro c hc
    rw [← hcount c hc, ← hd]
    exact h.most c hc

/-- A candidate prevails where it is the only one. -/
theorem of_others_absent (hmem : d ∈ candidates) (hpos : 0 < line.count d)
    (h : ∀ c ∈ candidates, c ≠ d → line.count c = 0) : Prevails line candidates d := by
  obtain ⟨before, after, rfl, hbefore⟩ := List.eq_append_cons_of_mem hmem
  refine ⟨⟨before, after, rfl, ?_⟩, ?_⟩
  · intro c hc
    have hne : c ≠ d := by
      rintro rfl
      exact hbefore hc
    rw [h c (by simp [hc]) hne]
    exact hpos
  · intro c hc
    by_cases hcd : c = d
    · exact Nat.le_of_eq (congrArg line.count hcd)
    · rw [h c hc hcd]
      exact Nat.zero_le _

end Prevails

theorem detectDelimiter_prevails (line : List Char) :
    Prevails line delimiters (detectDelimiter line) := by
  have hfirst : prefer line ';' ';' = ';' := if_neg (Nat.lt_irrefl _)
  have hfound : detectDelimiter line = [',', '\t', '|'].foldl (prefer line) ';' := by
    rw [detectDelimiter, delimiters, List.foldl_cons, hfirst]
  rw [hfound]
  exact (Prevails.alone ';').foldl [',', '\t', '|']

theorem detectDelimiter_eq_iff {line : List Char} {d : Char} :
    detectDelimiter line = d ↔ Prevails line delimiters d := by
  constructor
  · rintro rfl
    exact detectDelimiter_prevails line
  · exact (detectDelimiter_prevails line).unique

section Joined

variable {names : List (List Char)}

theorem count_joined (d : Char) {c : Char} (h : ∀ name ∈ names, c ∉ name) :
    ([d].intercalate names).count c = if c = d then names.length - 1 else 0 := by
  induction names with
  | nil => simp
  | cons name rest ih =>
      obtain ⟨hname, hrest⟩ := List.forall_mem_cons.mp h
      have hnone : name.count c = 0 := List.count_eq_zero.mpr hname
      cases rest with
      | nil => simp [hnone]
      | cons next rest =>
          have hbetween : [d].count c = if c = d then 1 else 0 := by
            by_cases hcd : c = d
            · simp [hcd]
            · simp [hcd, Ne.symm hcd]
          rw [List.intercalate_cons_cons, List.count_append, List.count_append, hnone, hbetween,
            ih hrest]
          split_ifs
          · simp only [List.length_cons]
            omega
          · rfl

theorem prevails_joined {d : Char} (hd : d ∈ delimiters) (hlength : 2 ≤ names.length)
    (h : ∀ name ∈ names, ∀ c ∈ delimiters, c ∉ name) :
    Prevails ([d].intercalate names) delimiters d := by
  have hcount : ∀ c ∈ delimiters,
      ([d].intercalate names).count c = if c = d then names.length - 1 else 0 :=
    fun c hc => count_joined d fun name hname => h name hname c hc
  apply Prevails.of_others_absent hd
  · rw [hcount d hd, if_pos rfl]
    omega
  · intro c hc hne
    rw [hcount c hc, if_neg hne]

end Joined

/-- **The first of the most frequent delimiters is found.** In every line one candidate prevails,
and it is the one that is found; in a line without candidates it is the semicolon. Two or more names
without candidates that are joined by one give this one back. -/
theorem detectDelimiter_first_most :
    (∀ line d, detectDelimiter line = d ↔ Prevails line delimiters d) ∧
      (∀ line, (∀ c ∈ delimiters, c ∉ line) → detectDelimiter line = ';') ∧
      ∀ (names : List (List Char)) (d : Char), d ∈ delimiters → 2 ≤ names.length →
        (∀ name ∈ names, ∀ c ∈ delimiters, c ∉ name) →
          detectDelimiter ([d].intercalate names) = d := by
  refine ⟨fun line d => detectDelimiter_eq_iff, ?_, ?_⟩
  · intro line hnone
    have hcount : ∀ c ∈ delimiters, line.count c = 0 :=
      fun c hc => List.count_eq_zero.mpr (hnone c hc)
    apply detectDelimiter_eq_iff.mpr
    refine ⟨⟨[], [',', '\t', '|'], rfl, by simp⟩, ?_⟩
    intro c hc
    rw [hcount c hc]
    exact Nat.zero_le _
  · intro names d hd hlength h
    exact detectDelimiter_eq_iff.mpr (prevails_joined hd hlength h)

def sundryNames : List (List Char) := ["first name".toList, [], "año".toList]

theorem detectDelimiter_of_sundryNames :
    (∀ c ∈ delimiters, c ∉ "a b".toList) ∧ detectDelimiter "a b".toList = ';' ∧
      '|' ∈ delimiters ∧ 2 ≤ sundryNames.length ∧
      (∀ name ∈ sundryNames, ∀ c ∈ delimiters, c ∉ name) ∧
      detectDelimiter "first name||año".toList = '|' := by
  obtain ⟨-, hnone, hjoined⟩ := detectDelimiter_first_most
  have hplain : ∀ c ∈ delimiters, c ∉ "a b".toList := by simp [delimiters]
  have hnames : ∀ name ∈ sundryNames, ∀ c ∈ delimiters, c ∉ name := by
    simp [sundryNames, delimiters]
  have htext : ['|'].intercalate sundryNames = "first name||año".toList := by decide
  refine ⟨hplain, hnone _ hplain, by decide, by decide, hnames, ?_⟩
  rw [← htext]
  exact hjoined sundryNames '|' (by decide) (by decide) hnames

end BulkLoad.Delimited
