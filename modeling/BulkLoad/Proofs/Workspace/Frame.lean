import BulkLoad.Workspace.Handle
import Mathlib.Data.List.Basic

/-!
Files that are written to, and everything else.

Bytes put at a place are what the file there holds afterwards. Whatever is read from anything else
stays as it was, standard input and breaks included.
-/
namespace BulkLoad.Workspace

variable (w : Workspace) (place : List String) (bytes : List UInt8)

theorem find?_replaced {files : List (List String × List UInt8)}
    (h : (files.find? (·.1 == place)).isSome) :
    (files.map fun file => if file.1 == place then (place, bytes) else file).find? (·.1 == place) =
      some (place, bytes) := by
  induction files with
  | nil => cases h
  | cons file rest ih =>
      rw [List.map_cons]
      cases hfile : file.1 == place with
      | true => simp
      | false =>
          rw [List.find?_cons, hfile] at h
          rw [if_neg (by simp), List.find?_cons, hfile]
          exact ih h

theorem find?_others {place other : List String} (h : other ≠ place)
    (files : List (List String × List UInt8)) :
    (files.map fun file => if file.1 == place then (place, bytes) else file).find? (·.1 == other) =
      files.find? (·.1 == other) := by
  induction files with
  | nil => rfl
  | cons file rest ih =>
      rw [List.map_cons, List.find?_cons, List.find?_cons, ih]
      cases hfile : file.1 == place with
      | true =>
          have hfirst : (place == other) = false := by simpa using h.symm
          have hthis : (file.1 == other) = false := by rwa [beq_iff_eq.mp hfile]
          rw [if_pos rfl, hfirst, hthis]
      | false => rw [if_neg (by simp)]

theorem bytesAt?_put : (w.put place bytes).bytesAt? place = some bytes := by
  unfold put
  split_ifs with h
  · rw [bytesAt?, find?_replaced place bytes (by simpa [bytesAt?] using h)]
    rfl
  · have hnone : w.files.find? (·.1 == place) = none :=
      Option.map_eq_none_iff.mp (Option.not_isSome_iff_eq_none.mp h)
    simp only [bytesAt?, List.find?_append, hnone, Option.none_or]
    simp

theorem bytesAt?_put_of_ne {place other : List String} (h : other ≠ place) :
    (w.put place bytes).bytesAt? other = w.bytesAt? other := by
  unfold put
  split_ifs
  · rw [bytesAt?, find?_others bytes h]
    rfl
  · have hfirst : (place == other) = false := by simpa using h.symm
    simp [bytesAt?, List.find?_append, hfirst]

theorem put_input : (w.put place bytes).input = w.input := by
  unfold put
  split_ifs <;> rfl

theorem put_breaks : (w.put place bytes).breaks = w.breaks := by
  unfold put
  split_ifs <;> rfl

/-- What is read from anything but the file that was written stays as it was. -/
theorem readAt_put_of_ne {h : Handle} (hother : h ≠ .file place) (position room : Nat) :
    (w.put place bytes).readAt h position room = w.readAt h position room := by
  have hheld (room : Nat) : (w.put place bytes).heldAt h position room =
      w.heldAt h position room := by
    cases h with
    | file other =>
        have hne : other ≠ place := fun heq => hother (heq ▸ rfl)
        simp only [heldAt, bytesAt?_put_of_ne w bytes hne]
    | device d =>
        cases d with
        | null | full | output | errors => rfl
        | input => simp only [heldAt, put_input]
    | directory _ => rfl
  simp only [readAt, breakOf?, put_breaks, hheld]

/-- A file that was created anew has no part in what is read from anything else. -/
theorem readAt_created {w created : Workspace} {path : String} {file h : Handle}
    (hcreate : w.create path = .ok (file, created))
    (hother : ∀ place, file = .file place → h ≠ .file place) (position room : Nat) :
    (created.truncate file).readAt h position room = w.readAt h position room := by
  have htruncate : (created.truncate file).readAt h position room =
      created.readAt h position room := by
    cases file with
    | file place => exact readAt_put_of_ne created place [] (hother place rfl) position room
    | device _ | directory _ => rfl
  rw [htruncate]
  unfold create at hcreate
  split at hcreate
  · cases hcreate
  · split at hcreate
    · cases hcreate
    · split_ifs at hcreate
      cases hcreate
      rfl
    · split_ifs at hcreate
      cases hcreate
      exact readAt_put_of_ne w _ [] (hother _ rfl) position room

theorem create_new {path : String} (hlocate : w.locate path = .ok ⟨place, false⟩)
    (hnone : w.handleAt? place = none) :
    w.create path = .ok (.file place, w.put place []) := by
  simp only [create, hlocate, hnone, Bool.false_eq_true, if_false]

theorem create_file {path : String} (hlocate : w.locate path = .ok ⟨place, false⟩)
    (hfile : w.handleAt? place = some (.file place)) :
    w.create path = .ok (.file place, w) := by
  simp only [create, hlocate, hfile, Bool.false_eq_true, if_false]

def extent (h : Handle) : Nat := ((w.held h).toOption.getD []).length

theorem pieceAt_past {pieces : List (List UInt8)} {position : Nat}
    (h : pieces.flatten.length ≤ position) (room : Nat) : pieceAt position room pieces = [] := by
  induction pieces generalizing position with
  | nil => rfl
  | cons piece rest ih =>
      rw [List.flatten_cons, List.length_append] at h
      rw [pieceAt, if_neg (by omega)]
      exact ih (by omega)

/-- Behind its last byte there is nothing to read from a file. -/
theorem readAt_past {h : Handle} {position : Nat} (hpast : w.extent h ≤ position) (room : Nat)
    (b : UInt8) (rest : List UInt8) : w.readAt h position room ≠ .ok (b :: rest) := by
  have hheld (room : Nat) : w.heldAt h position room ≠ .ok (b :: rest) := by
    cases h with
    | file place =>
        have hdrop : ((w.bytesAt? place).getD []).drop position = [] :=
          List.drop_eq_nil_iff.mpr hpast
        simp [heldAt, hdrop]
    | device d =>
        cases d with
        | null | full | output | errors => simp [heldAt]
        | input =>
            have hnone : pieceAt position room w.input = [] := pieceAt_past hpast room
            simp [heldAt, hnone]
    | directory place => simp [heldAt]
  unfold readAt
  split
  · split_ifs
    · simp
    · exact hheld _
  · exact hheld room

/-- An empty file holds what is written from its start on. -/
theorem writeAt_truncated :
    ((w.truncate (.file place)).writeAt (.file place) 0 bytes).map (·.bytesAt? place) =
      .ok (some bytes) := by
  have hempty : (w.truncate (.file place)).bytesAt? place = some [] := bytesAt?_put w place []
  simp only [writeAt, hempty, Option.getD_some, List.take_nil, List.drop_nil, List.length_nil,
    Nat.sub_zero, List.replicate_zero, List.nil_append, List.append_nil, Except.map,
    bytesAt?_put]

/-- Bytes written to a path are in the file to which the path leads. -/
theorem bytesAt?_written {files saved made : Workspace} {path : String} {bytes : List UInt8}
    {place : List String} (hwrite : files.write path bytes = .ok saved)
    (hcreate : files.create path = .ok (.file place, made)) :
    saved.bytesAt? place = some bytes := by
  have hwritten := writeAt_truncated made place bytes
  simp only [write, hcreate] at hwrite
  rw [hwrite] at hwritten
  exact Except.ok.inj hwritten

section Input

variable (pieces : List (List UInt8))

/-- The files, and other pieces on the standard input. -/
def withInput : Workspace := { w with input := pieces }

theorem follow_withInput (here : List String) (parts : List String) :
    (w.withInput pieces).follow here parts = w.follow here parts := by
  induction parts generalizing here with
  | nil => rfl
  | cons part rest ih =>
      simp only [follow]
      rw [ih]
      rfl

theorem openFile_withInput (path : String) :
    (w.withInput pieces).openFile path = w.openFile path := by
  have hlocate : (w.withInput pieces).locate path = w.locate path := by
    unfold locate
    rw [follow_withInput]
    rfl
  unfold openFile
  rw [hlocate]
  rfl

theorem readAt_withInput {h : Handle} (hother : h ≠ .device .input) (position room : Nat) :
    (w.withInput pieces).readAt h position room = w.readAt h position room := by
  have hheld (room : Nat) : (w.withInput pieces).heldAt h position room =
      w.heldAt h position room := by
    cases h with
    | file _ | directory _ => rfl
    | device d =>
        cases d with
        | null | full | output | errors => rfl
        | input => exact absurd rfl hother
  simp only [readAt, hheld]
  rfl

variable {pieces}

theorem held_withInput (h : pieces.flatten = w.input.flatten) (handle : Handle) :
    (w.withInput pieces).held handle = w.held handle := by
  cases handle with
  | file _ | directory _ => rfl
  | device d =>
      cases d with
      | null | full | output | errors => rfl
      | input => exact congrArg Except.ok h

/-- A whole file is the same in whatever pieces it comes. -/
theorem readText_withInput (h : pieces.flatten = w.input.flatten) (path : String) :
    (w.withInput pieces).readText path = w.readText path := by
  have hall (handle : Handle) : (w.withInput pieces).readAll handle = w.readAll handle := by
    unfold readAll
    rw [held_withInput w h]
    rfl
  unfold readText read
  simp only [openFile_withInput, hall]

end Input

end BulkLoad.Workspace
