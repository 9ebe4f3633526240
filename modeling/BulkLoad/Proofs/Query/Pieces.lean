import BulkLoad.Proofs.Text.Spans
import BulkLoad.Query

/-!
Reading statements of the query language piece by piece: fixed marks, words, runs of digits, and
lists of pieces with a separator between them.

A reader takes a piece off the front of a text and gives what is left. Its two laws are gathered in
`Reads`: what is written is read back in front of anything that cannot go on the piece, and what is
read stood there. How a statement is written is not asked here.
-/
namespace BulkLoad.Statement

open Text (Stops span_append stops_cons stops_mark)

/-- A reader gives back what `chars` writes, wherever such a piece can stop, and reads nothing
else. -/
structure Reads {α : Type} (reader : List Char → Option (α × List Char)) (chars : α → List Char)
    (valid : α → Prop) (stops : List Char → Prop) : Prop where
  back : ∀ a rest, valid a → stops rest → reader (chars a ++ rest) = some (a, rest)
  sound : ∀ cs a rest, reader cs = some (a, rest) → valid a ∧ cs = chars a ++ rest

def expect (mark : String) (cs : List Char) : Option (List Char) := mark.toList.isPrefixOf? cs

theorem expect_eq_some_iff (mark : String) (cs rest : List Char) :
    expect mark cs = some rest ↔ cs = mark.toList ++ rest := by
  rw [expect, List.isPrefixOf?_eq_some_iff_append_eq]
  exact eq_comm

theorem expect_append (mark : String) (rest : List Char) :
    expect mark (mark.toList ++ rest) = some rest :=
  (expect_eq_some_iff mark _ rest).mpr rfl

def run (p : Char → Bool) (cs : List Char) : Option (List Char × List Char) :=
  if cs.takeWhile p = [] then none else some (cs.takeWhile p, cs.dropWhile p)

theorem run_reads (p : Char → Bool) :
    Reads (run p) (fun w => w) (fun w => w ≠ [] ∧ ∀ c ∈ w, p c = true) (Stops p) where
  back w rest hw hr := by
    obtain ⟨htake, hdrop⟩ := span_append hw.2 hr
    rw [run, htake, hdrop, if_neg hw.1]
  sound cs w rest h := by
    unfold run at h
    split at h
    · cases h
    · rename_i hne
      cases h
      refine ⟨⟨hne, ?_⟩, List.takeWhile_append_dropWhile.symm⟩
      intro c hc
      exact List.all_eq_true.mp List.all_takeWhile c hc

theorem run_eq_none {p : Char → Bool} {cs : List Char} (h : Stops p cs) : run p cs = none := by
  have htake := (span_append (p := p) (w := []) (by simp) h).1
  rw [List.nil_append] at htake
  rw [run, if_pos htake]

theorem digits_form_number (n : Nat) :
    Decimal.digits n ≠ [] ∧ ∀ c ∈ Decimal.digits n, Decimal.isDigit c = true :=
  ⟨Decimal.digits_ne_nil n, List.all_eq_true.mp (Decimal.all_isDigit_digits n)⟩

def word (cs : List Char) : Option (String × List Char) :=
  match run Identifier.isPart cs with
  | none => none
  | some (w, rest) =>
      if Identifier.isWordChars w then some (String.ofList w, rest) else none

theorem isPart_of_isWordChars {cs : List Char} (h : Identifier.isWordChars cs = true) :
    cs ≠ [] ∧ ∀ c ∈ cs, Identifier.isPart c = true := by
  cases cs with
  | nil => cases h
  | cons first rest =>
      simp only [Identifier.isWordChars, Bool.and_eq_true, List.all_eq_true] at h
      refine ⟨List.cons_ne_nil first rest, ?_⟩
      intro c hc
      rcases List.mem_cons.mp hc with rfl | hrest
      · simp [Identifier.isPart, h.1]
      · exact h.2 c hrest

theorem word_reads :
    Reads word String.toList (Identifier.isWord · = true) (Stops Identifier.isPart) where
  back w rest hw hr := by
    have hchars : Identifier.isWordChars w.toList = true := hw
    have hrun := (run_reads _).back w.toList rest (isPart_of_isWordChars hchars) hr
    simp only [word, hrun, if_pos hchars, String.ofList_toList]
  sound cs w rest h := by
    unfold word at h
    cases hrun : run Identifier.isPart cs with
    | none => simp [hrun] at h
    | some found =>
        obtain ⟨read, left⟩ := found
        simp only [hrun] at h
        split at h
        · rename_i hchars
          cases h
          refine ⟨?_, ?_⟩
          · rw [Identifier.isWord, String.toList_ofList]
            exact hchars
          · rw [String.toList_ofList]
            exact ((run_reads _).sound cs read _ hrun).2
        · cases h

theorem isWord_of_isValid {name : String} (h : Identifier.isValid name = true) :
    Identifier.isWord name = true := by
  rw [Identifier.isValid, Bool.and_eq_true] at h
  exact h.1

theorem word_eq_none {cs : List Char} (h : Stops Identifier.isPart cs) : word cs = none := by
  rw [word, run_eq_none h]

section Listed

variable {α : Type} (item : List Char → Option (α × List Char)) (separator : String)

/-- Reads pieces with a separator between them, as far as they go, but so many at most. A separator
that no piece follows is left. -/
def listed : Nat → List Char → List α × List Char
  | 0, cs => ([], cs)
  | bound + 1, cs =>
      match item cs with
      | none => ([], cs)
      | some (a, rest) =>
          match (expect separator rest).map (listed bound) with
          | some (b :: bs, rest) => (a :: b :: bs, rest)
          | _ => ([a], rest)

/-- The end of a list: no piece goes on there, with a separator or without. -/
structure Ends (rest : List Char) : Prop where
  here : item rest = none
  beyond : ∀ next, rest = separator.toList ++ next → item next = none

variable {item separator} {chars : α → List Char} {valid : α → Prop} {stops : List Char → Prop}

theorem listed_of_none {bound : Nat} {cs : List Char} (h : item cs = none) :
    listed item separator bound cs = ([], cs) := by
  cases bound with
  | zero => rfl
  | succ bound => simp [listed, h]

theorem intercalate_map_cons_cons (mark : List Char) (a b : α) (bs : List α) (rest : List Char) :
    mark.intercalate ((a :: b :: bs).map chars) ++ rest =
      chars a ++ (mark ++ (mark.intercalate ((b :: bs).map chars) ++ rest)) := by
  rw [List.map_cons, List.map_cons, List.intercalate_cons_cons]
  simp

theorem listed_back (hitem : Reads item chars valid stops)
    (hnext : ∀ rest, stops (separator.toList ++ rest)) {rest : List Char} (hstop : stops rest)
    (hend : Ends item separator rest) (as : List α) (hvalid : ∀ a ∈ as, valid a) (bound : Nat)
    (hbound : as.length ≤ bound) :
    listed item separator bound (separator.toList.intercalate (as.map chars) ++ rest) =
      (as, rest) := by
  induction as generalizing bound with
  | nil => simpa using listed_of_none hend.here
  | cons a as ih =>
      cases bound with
      | zero => simp at hbound
      | succ bound =>
          have ha := hvalid a List.mem_cons_self
          have hrest : ∀ b ∈ as, valid b := fun b hb => hvalid b (List.mem_cons_of_mem a hb)
          have hless : as.length ≤ bound := by simpa using hbound
          cases as with
          | nil =>
              have hread := hitem.back a rest ha hstop
              simp only [List.map_cons, List.map_nil, List.intercalate_singleton, listed, hread]
              cases hsep : expect separator rest with
              | none => rfl
              | some next =>
                  have hnone := hend.beyond next ((expect_eq_some_iff _ _ _).mp hsep)
                  simp [listed_of_none hnone]
          | cons b bs =>
              have hread := hitem.back a
                (separator.toList ++
                  (separator.toList.intercalate ((b :: bs).map chars) ++ rest)) ha (hnext _)
              have hrec := ih hrest bound hless
              rw [intercalate_map_cons_cons]
              simp only [listed, hread, expect_append, Option.map_some, hrec]

theorem listed_sound (hitem : Reads item chars valid stops) {bound : Nat}
    {cs rest : List Char} {as : List α} (h : listed item separator bound cs = (as, rest)) :
    (∀ a ∈ as, valid a) ∧ cs = separator.toList.intercalate (as.map chars) ++ rest := by
  induction bound generalizing cs as rest with
  | zero =>
      cases h
      simp
  | succ bound ih =>
      unfold listed at h
      cases hread : item cs with
      | none =>
          simp only [hread] at h
          cases h
          simp
      | some found =>
          obtain ⟨a, left⟩ := found
          obtain ⟨ha, hcs⟩ := hitem.sound cs a left hread
          simp only [hread] at h
          cases hmore : (expect separator left).map (listed item separator bound) with
          | none =>
              simp only [hmore] at h
              cases h
              simpa [hcs] using ha
          | some more =>
              obtain ⟨others, final⟩ := more
              obtain ⟨next, hsep, hlist⟩ := Option.map_eq_some_iff.mp hmore
              have hleft := (expect_eq_some_iff _ _ _).mp hsep
              obtain ⟨hothers, hnext⟩ := ih hlist
              cases others with
              | nil =>
                  simp only [hmore] at h
                  cases h
                  simpa [hcs] using ha
              | cons b bs =>
                  simp only [hmore] at h
                  cases h
                  refine ⟨?_, ?_⟩
                  · intro c hc
                    rcases List.mem_cons.mp hc with rfl | hc
                    · exact ha
                    · exact hothers c hc
                  · rw [hcs, hleft, hnext, intercalate_map_cons_cons]

theorem length_le_intercalate (mark : List Char) {pieces : List (List Char)}
    (h : ∀ piece ∈ pieces, piece ≠ []) : pieces.length ≤ (mark.intercalate pieces).length := by
  induction pieces with
  | nil => simp
  | cons piece others ih =>
      have hpiece := List.length_pos_iff.mpr (h piece List.mem_cons_self)
      have hothers := ih fun other hmem => h other (List.mem_cons_of_mem piece hmem)
      cases others with
      | nil =>
          rw [List.intercalate_singleton]
          exact hpiece
      | cons other others =>
          rw [List.intercalate_cons_cons]
          simp only [List.length_cons, List.length_append] at hothers ⊢
          omega

/-- Lists are read back up to an end where each of their pieces can stop. -/
theorem listed_reads (hitem : Reads item chars valid stops)
    (hnonempty : ∀ a, valid a → chars a ≠ []) (hnext : ∀ rest, stops (separator.toList ++ rest)) :
    Reads (fun cs => some (listed item separator cs.length cs))
      (fun as => separator.toList.intercalate (as.map chars)) (fun as => ∀ a ∈ as, valid a)
      (fun rest => stops rest ∧ Ends item separator rest) where
  back as rest hvalid hend := by
    rw [listed_back hitem hnext hend.1 hend.2 as hvalid]
    have hpieces : ∀ piece ∈ as.map chars, piece ≠ [] := by
      intro piece hmem
      obtain ⟨a, ha, rfl⟩ := List.mem_map.mp hmem
      exact hnonempty a (hvalid a ha)
    have hlength := length_le_intercalate separator.toList hpieces
    rw [List.length_map] at hlength
    rw [List.length_append]
    omega
  sound cs as rest h := listed_sound hitem (Option.some.inj h)

end Listed

/-- What is read exactly has one tree. -/
theorem only_tree {α : Type} {read : List Char → Option α} {chars : α → List Char}
    {valid : α → Prop} (hread : ∀ cs t, read cs = some t ↔ valid t ∧ chars t = cs)
    {cs : List Char} {t : α} (h : read cs = some t) (u : α) : valid u ∧ chars u = cs ↔ u = t := by
  rw [← hread, h, Option.some.injEq]
  exact eq_comm

end BulkLoad.Statement
