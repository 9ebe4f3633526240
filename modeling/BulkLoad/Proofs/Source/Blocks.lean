import BulkLoad.Proofs.Source.Opening
import BulkLoad.Proofs.Source.Reads

/-!
An input that is read block by block, and the source that is opened from all of it.

Whatever is read at once can be read in blocks: the rows that come of an intake and of what is yet
to arrive are the same before and after each block. So the source that is opened by the first blocks
and then read out is the one that the whole feed gives.
-/
namespace BulkLoad

open BulkLoad.Stream (Feed)

namespace Stream

/-- The feed that reads give which start at a place and each go on where the one before stopped. -/
inductive Gives (read : Nat → Answer) : Nat → Feed → Prop
  | ended {position : Nat} (h : read position = .ok []) : Gives read position ⟨[], none⟩
  | failed {position : Nat} {message : String} (h : read position = .error message) :
      Gives read position ⟨[], some message⟩
  | block {position : Nat} {block : List UInt8} {later : Feed} (hblock : block ≠ [])
      (h : read position = .ok block) (hlater : Gives read (position + block.length) later) :
      Gives read position ⟨block :: later.pieces, later.failure⟩

/-- Reads that give nothing from some place on give a feed, each piece of it before that place. -/
theorem Gives.exists_of_endsBy {read : Nat → Answer} {bound : Nat} (h : EndsBy read bound)
    (position : Nat) :
    ∃ feed, Gives read position feed ∧ feed.pieces.length ≤ bound - position := by
  induction hleft : bound - position using Nat.strongRecOn generalizing position with
  | ind n ih =>
      cases hread : read position with
      | error message => exact ⟨_, .failed hread, Nat.zero_le _⟩
      | ok block =>
          cases block with
          | nil => exact ⟨_, .ended hread, Nat.zero_le _⟩
          | cons b rest =>
              have hbefore : position < bound := by
                by_contra hpast
                exact h position (Nat.le_of_not_lt hpast) b rest hread
              obtain ⟨later, hlater, hlength⟩ :=
                ih (bound - (position + (b :: rest).length)) (by rw [List.length_cons]; omega) _ rfl
              refine ⟨_, .block (List.cons_ne_nil b rest) hread hlater, ?_⟩
              rw [List.length_cons] at hlength ⊢
              omega

end Stream

namespace Delimited

/-- The rows that come of bytes from a state on. The last one counts if these are all. -/
def RowState.rowsTo (delimiter : UInt8) (s : RowState) (bytes : List UInt8) (complete : Bool) :
    List Row :=
  (s.feedOnto delimiter [] bytes).2.reverse ++
    if complete then (s.feedOnto delimiter [] bytes).1.finish.toList else []

theorem RowState.rowsTo_append (delimiter : UInt8) (s : RowState) (xs ys : List UInt8)
    (complete : Bool) :
    s.rowsTo delimiter (xs ++ ys) complete =
      (s.feedOnto delimiter [] xs).2.reverse ++
        (s.feedOnto delimiter [] xs).1.rowsTo delimiter ys complete := by
  have hdone (s : RowState) (done : List Row) (bytes : List UInt8) :
      s.feedOnto delimiter done bytes =
        ((s.feedOnto delimiter [] bytes).1, (s.feedOnto delimiter [] bytes).2 ++ done) := by
    rw [feedOnto_eq delimiter s done 0, feedOnto_eq delimiter s [] 0, List.append_nil]
  unfold rowsTo
  rw [feedOnto_append, hdone _ (s.feedOnto delimiter [] xs).2 ys]
  simp only [List.reverse_append, List.append_assoc]

theorem rowsOf_eq_rowsTo (delimiter : UInt8) (bytes : List UInt8) (complete : Bool) :
    rowsOf delimiter bytes complete = RowState.start.rowsTo delimiter bytes complete := by
  unfold rowsOf RowState.rowsTo
  rcases RowState.start.feedOnto delimiter [] bytes with ⟨s, rows⟩
  cases complete with
  | false => simp
  | true =>
      have hone : s.finish.toList.reverse = s.finish.toList := by cases s.finish <;> rfl
      simp [hone]

end Delimited

variable [Encoding.EastAsian.Decoders]

namespace Intake

/-- Before any text came, no row is under way. -/
def Sound (i : Intake) : Prop := i.begun = false → i.row = .start

def textYields (i : Intake) (text : Feed) : List Delimited.Row × Option String :=
  if i.isRunning then
    if i.begun then
      (i.row.rowsTo i.delimiter text.bytes text.failure.isNone, text.failure)
    else (Delimited.rows i.delimiter (Delimited.asRead text), (Delimited.asRead text).failure)
  else ([], i.failure?)

def textOf (i : Intake) (feed : Feed) : Feed :=
  match i.encoding with
  | .utf8 => feed
  | encoding => Feed.transcodeFrom encoding feed.failure i.decoder feed.pieces

def yields (i : Intake) (feed : Feed) : List Delimited.Row × Option String :=
  i.textYields (i.textOf feed)

def before (rows : List Delimited.Row) (later : List Delimited.Row × Option String) :
    List Delimited.Row × Option String :=
  (rows ++ later.1, later.2)

section Text

variable {i : Intake}

theorem textYields_settled (h : i.isRunning = false) (text : Feed) :
    i.textYields text = ([], i.failure?) := by
  rw [textYields, if_neg (ne_true_of_eq_false h)]

theorem textYields_begun (hrunning : i.isRunning = true) (hbegun : i.begun = true) (text : Feed) :
    i.textYields text =
      (i.row.rowsTo i.delimiter text.bytes text.failure.isNone, text.failure) := by
  rw [textYields, if_pos hrunning, if_pos hbegun]

theorem textYields_fresh (hrunning : i.isRunning = true) (hbegun : i.begun = false) (text : Feed) :
    i.textYields text =
      (Delimited.rows i.delimiter (Delimited.asRead text), (Delimited.asRead text).failure) := by
  rw [textYields, if_pos hrunning, if_neg (ne_true_of_eq_false hbegun)]

theorem takeText_keeps (i : Intake) (piece : List UInt8) :
    (i.takeText piece).1.encoding = i.encoding ∧ (i.takeText piece).1.decoder = i.decoder := by
  unfold takeText
  split_ifs <;> exact ⟨rfl, rfl⟩

theorem takeText_nil (i : Intake) : i.takeText [] = (i, []) := rfl

/-- Text that is read as rows: the first of it is looked at for a mark. -/
theorem takeText_read {piece : List UInt8} (hpiece : piece ≠ [])
    (hread : i.begun = true ∨ piece ≠ Delimited.mark) :
    let fed := i.row.feedOnto i.delimiter []
      (if i.begun then piece else Delimited.unmark piece)
    i.takeText piece = ({ i with row := fed.1, begun := true }, fed.2.reverse) := by
  intro fed
  have hsome : piece.isEmpty = false := by simpa using hpiece
  have hmore : (!i.begun && piece == Delimited.mark) = false := by
    rcases hread with hbegun | hother
    · rw [hbegun]
      rfl
    · rw [beq_false_of_ne hother, Bool.and_false]
  unfold takeText
  rw [if_neg (ne_true_of_eq_false hsome), if_neg (ne_true_of_eq_false hmore)]

theorem takeText_mark (hbegun : i.begun = false) :
    i.takeText Delimited.mark = ({ i with inflow := .ended }, []) := by
  have hmark : (!i.begun && Delimited.mark == Delimited.mark) = true := by
    rw [hbegun]
    rfl
  unfold takeText
  rw [if_neg (by decide), if_pos hmark]

/-- What came of a piece of text, and what is yet to come after it. -/
theorem takeText_yields (hsound : i.Sound) (hrunning : i.isRunning = true) (piece : List UInt8)
    (text : Feed) :
    (i.takeText piece).1.Sound ∧
      i.textYields (text.cons piece) =
        before (i.takeText piece).2 ((i.takeText piece).1.textYields text) := by
  by_cases hpiece : piece = []
  · rw [hpiece, takeText_nil]
    exact ⟨hsound, rfl⟩
  · rw [Feed.cons_of_ne_nil hpiece]
    by_cases hread : i.begun = true ∨ piece ≠ Delimited.mark
    · let fed := i.row.feedOnto i.delimiter []
        (if i.begun then piece else Delimited.unmark piece)
      let next : Intake := { i with row := fed.1, begun := true }
      have hnext : next.isRunning = true := hrunning
      rw [takeText_read hpiece hread]
      refine ⟨fun hnot => Bool.noConfusion hnot, ?_⟩
      refine Eq.trans ?_ (congrArg (before fed.2.reverse) (textYields_begun hnext rfl text).symm)
      cases hbegun : i.begun with
      | true =>
          rw [textYields_begun hrunning hbegun, Feed.bytes, List.flatten_cons,
            Delimited.RowState.rowsTo_append]
          simp only [next, fed, hbegun, if_true]
          rfl
      | false =>
          have hother : piece ≠ Delimited.mark := hread.resolve_left (by simp [hbegun])
          have hfeed : Delimited.asRead ⟨piece :: text.pieces, text.failure⟩ =
              ⟨piece :: text.pieces, text.failure⟩ := if_neg hother
          rw [textYields_fresh hrunning hbegun, hfeed, Delimited.rows, Delimited.unmarked,
            Delimited.rowsOf_eq_rowsTo, ← hsound hbegun, Delimited.RowState.rowsTo_append]
          simp only [next, fed, hbegun, Bool.false_eq_true, if_false]
          rfl
    · -- A mark that comes alone is the end.
      have hbegun : i.begun = false := by
        simpa using fun h => hread (.inl h)
      have hmark : piece = Delimited.mark := by
        by_contra hother
        exact hread (.inr hother)
      rw [hmark, takeText_mark hbegun]
      refine ⟨fun _ => hsound hbegun, ?_⟩
      rw [textYields_fresh hrunning hbegun]
      rfl

/-- What comes of the end of the text. -/
theorem close_yields (hsound : i.Sound) :
    i.textYields ⟨[], none⟩ = (i.close.2, i.close.1.failure?) := by
  cases hflow : i.isRunning with
  | false =>
      rw [textYields_settled hflow]
      obtain ⟨encoding, delimiter, decoder, begun, row, position, inflow⟩ := i
      cases inflow with
      | running => cases hflow
      | ended | failed _ => rfl
  | true =>
      have hinflow : i.inflow = .running := (isRunning_iff i).mp hflow
      have hclose : i.close = ({ i with inflow := .ended }, i.row.finish.toList) := by
        rw [close, hinflow]
      rw [hclose]
      cases hbegun : i.begun with
      | true => exact textYields_begun hflow hbegun ⟨[], none⟩
      | false =>
          rw [textYields_fresh hflow hbegun, hsound hbegun]
          rfl

end Text

section Blocks

variable {i : Intake}

theorem textOf_utf8 (h : i.encoding = .utf8) (feed : Feed) : i.textOf feed = feed := by
  rw [textOf, h]

theorem textOf_of_ne (h : i.encoding ≠ .utf8) (feed : Feed) :
    i.textOf feed = Feed.transcodeFrom i.encoding feed.failure i.decoder feed.pieces := by
  unfold textOf
  split
  · exact absurd ‹_› h
  · rfl

theorem takeBlock_utf8 (h : i.encoding = .utf8) (block : List UInt8) :
    i.takeBlock block = { i with position := i.position + block.length }.takeText block := by
  unfold takeBlock
  rw [h]

theorem takeBlock_of_ne (h : i.encoding ≠ .utf8) (block : List UInt8) :
    let fed := i.encoding.decoder.feed i.decoder block
    i.takeBlock block =
      { i with position := i.position + block.length, decoder := fed.1 }.takeText
        (Encoding.Utf8.encode fed.2) := by
  obtain ⟨encoding, delimiter, decoder, begun, row, position, inflow⟩ := i
  cases encoding with
  | utf8 => exact absurd rfl h
  | utf16 _ | codePage _ | eastAsian _ | replacement | userDefined => rfl

theorem takeEnd_utf8 (h : i.encoding = .utf8) : i.takeEnd = i.close := by
  unfold takeEnd
  rw [h]

theorem takeEnd_of_ne (h : i.encoding ≠ .utf8) :
    let taken := i.takeText (Encoding.Utf8.encode (Encoding.Sniffing.finish i.encoding i.decoder))
    i.takeEnd = (taken.1.close.1, taken.2 ++ taken.1.close.2) := by
  unfold takeEnd
  split
  · exact absurd ‹_› h
  · rfl

/-- What came of a block, and what is yet to come after it. -/
theorem takeBlock_yields (hsound : i.Sound) (hrunning : i.isRunning = true) {block : List UInt8}
    (hblock : block ≠ []) (later : Feed) :
    (i.takeBlock block).1.Sound ∧
      i.yields ⟨block :: later.pieces, later.failure⟩ =
        before (i.takeBlock block).2 ((i.takeBlock block).1.yields later) := by
  by_cases hutf8 : i.encoding = .utf8
  · let next : Intake := { i with position := i.position + block.length }
    have hnext : next.Sound := hsound
    obtain ⟨hafter, hyields⟩ := takeText_yields hnext hrunning block later
    have hkeeps : (next.takeText block).1.encoding = .utf8 :=
      (takeText_keeps next block).1.trans hutf8
    rw [takeBlock_utf8 hutf8]
    refine ⟨hafter, ?_⟩
    unfold yields
    rw [textOf_utf8 hutf8, textOf_utf8 hkeeps, ← Feed.cons_of_ne_nil hblock]
    exact hyields
  · let fed := i.encoding.decoder.feed i.decoder block
    let next : Intake := { i with position := i.position + block.length, decoder := fed.1 }
    have hnext : next.Sound := hsound
    obtain ⟨hafter, hyields⟩ := takeText_yields hnext hrunning (Encoding.Utf8.encode fed.2)
      (Feed.transcodeFrom i.encoding later.failure fed.1 later.pieces)
    obtain ⟨hencoding, hdecoder⟩ := takeText_keeps next (Encoding.Utf8.encode fed.2)
    have hkeeps : (next.takeText (Encoding.Utf8.encode fed.2)).1.encoding ≠ .utf8 :=
      fun heq => hutf8 (hencoding.symm.trans heq)
    rw [takeBlock_of_ne hutf8]
    refine ⟨hafter, ?_⟩
    unfold yields
    rw [textOf_of_ne hutf8, textOf_of_ne hkeeps, hencoding, hdecoder]
    exact hyields

theorem takeEnd_yields (hsound : i.Sound) (hrunning : i.isRunning = true) :
    i.yields ⟨[], none⟩ = (i.takeEnd.2, i.takeEnd.1.failure?) := by
  unfold yields
  by_cases hutf8 : i.encoding = .utf8
  · rw [takeEnd_utf8 hutf8, textOf_utf8 hutf8]
    exact close_yields hsound
  · obtain ⟨hafter, hyields⟩ := takeText_yields hsound hrunning
      (Encoding.Utf8.encode (Encoding.Sniffing.finish i.encoding i.decoder)) ⟨[], none⟩
    rw [takeEnd_of_ne hutf8, textOf_of_ne hutf8]
    refine hyields.trans ?_
    rw [close_yields hafter]
    rfl

theorem yields_failure (hrunning : i.isRunning = true) (message : String) :
    i.yields ⟨[], some message⟩ = ([], some message) := by
  have htext : i.textOf ⟨[], some message⟩ = ⟨[], some message⟩ := by
    unfold textOf
    split <;> rfl
  rw [yields, htext]
  cases hbegun : i.begun with
  | true => exact textYields_begun hrunning hbegun _
  | false => exact textYields_fresh hrunning hbegun _

theorem yields_settled (h : i.isRunning = false) (feed : Feed) :
    i.yields feed = ([], i.failure?) :=
  textYields_settled h _

end Blocks

/-- A whole feed gives an intake before its first block the rows of its text. -/
theorem start_yields (m : Source.Manner) (feed : Feed) :
    (start m).yields feed =
      (Delimited.rows m.byte (Source.textFeed m.encoding feed),
        (Source.textFeed m.encoding feed).failure) := by
  have htext : Source.textFeed m.encoding feed = Delimited.asRead ((start m).textOf feed) := by
    obtain ⟨encoding, delimiter, byte⟩ := m
    cases encoding <;> rfl
  rw [htext]
  exact textYields_fresh rfl rfl _

section Reads

variable {read : Nat → Stream.Answer} {i : Intake} {feed : Feed} {reads : Nat}

/-- So many reads are enough for a feed that they are yet to give an intake, unless it is at its
end. -/
def Due (read : Nat → Stream.Answer) (reads : Nat) (i : Intake) (feed : Feed) : Prop :=
  i.isRunning = true →
    i.Sound ∧ Stream.Gives read i.position feed ∧ feed.pieces.length < reads

theorem due_of_settled (h : i.isRunning = false) (feed : Feed) : Due read reads i feed :=
  fun hrunning => by cases h.symm.trans hrunning

theorem Due.succ (h : Due read reads i feed) : Due read (reads + 1) i feed :=
  fun hrunning =>
    let ⟨hsound, hgives, hlength⟩ := h hrunning
    ⟨hsound, hgives, Nat.lt_succ_of_lt hlength⟩

/-- What came of a read, and what is yet to come after it. -/
theorem take_yields (hdue : Due read (reads + 1) i feed) (hrunning : i.isRunning = true) :
    let taken := i.take (read i.position)
    ∃ later, i.yields feed = before taken.2 (taken.1.yields later) ∧
      Due read reads taken.1 later := by
  intro taken
  obtain ⟨hsound, hgives, hlength⟩ := hdue hrunning
  have hlast (hend : ∀ b rest, read i.position ≠ .ok (b :: rest))
      (hyields : i.yields feed = (taken.2, taken.1.failure?)) :
      ∃ later, i.yields feed = before taken.2 (taken.1.yields later) ∧
        Due read reads taken.1 later := by
    have hsettled : taken.1.isRunning = false := by
      by_contra hnext
      obtain ⟨⟨b, rest, hmore⟩, -⟩ := i.take_running (eq_true_of_ne_false hnext)
      exact hend b rest hmore
    refine ⟨⟨[], none⟩, ?_, due_of_settled hsettled _⟩
    rw [hyields, yields_settled hsettled, before, List.append_nil]
  cases hgives with
  | ended h =>
      refine hlast (by simp [h]) ?_
      simp only [taken, h]
      exact takeEnd_yields hsound hrunning
  | failed h =>
      refine hlast (by simp [h]) ?_
      simp only [taken, h]
      exact yields_failure hrunning _
  | @block _ block later hblock h hlater =>
      obtain ⟨b, rest, rfl⟩ := List.exists_cons_of_ne_nil hblock
      obtain ⟨hafter, hyields⟩ := takeBlock_yields hsound hrunning hblock later
      have htaken : taken = i.takeBlock (b :: rest) := by
        simp only [taken, h]
        rfl
      have hplace : taken.1.position = i.position + (b :: rest).length := by
        simp only [taken, h]
        exact i.take_position b rest
      refine ⟨later, ?_, fun _ => ⟨?_, ?_, Nat.lt_of_succ_lt_succ hlength⟩⟩
      · rw [htaken]
        exact hyields
      · rw [htaken]
        exact hafter
      · rw [hplace]
        exact hlater

theorem await_yields (hdue : Due read reads i feed) :
    ∃ next rows later, await read reads i = some (next, rows) ∧
      (rows = [] → next.isRunning = false) ∧ Due read reads next later ∧
      i.yields feed = before rows (next.yields later) := by
  induction reads generalizing i feed with
  | zero =>
      have hflow : i.isRunning = false := by
        by_contra hflow
        exact Nat.not_lt_zero _ (hdue (eq_true_of_ne_false hflow)).2.2
      exact ⟨i, [], feed, await_settled hflow _, fun _ => hflow, hdue, rfl⟩
  | succ reads ih =>
      cases hflow : i.isRunning with
      | false => exact ⟨i, [], feed, await_settled hflow _, fun _ => hflow, hdue, rfl⟩
      | true =>
          obtain ⟨later, hyields, hlater⟩ := take_yields hdue hflow
          rw [await_running hflow]
          generalize i.take (read i.position) = taken at hyields hlater ⊢
          obtain ⟨next, _ | ⟨row, rows⟩⟩ := taken
          · obtain ⟨last, rows, rest, hawait, hrows, hrest, hrun⟩ := ih hlater
            exact ⟨last, rows, rest, hawait, hrows, hrest.succ, hyields.trans hrun⟩
          · exact ⟨next, row :: rows, later, rfl, fun h => (List.cons_ne_nil _ _ h).elim,
              hlater.succ, hyields⟩

end Reads

end Intake

namespace OpenSource

variable {read : Nat → Stream.Answer} {feed : Feed} {reads : Nat}

theorem readOut_yields {s : OpenSource} (hdue : Intake.Due read reads s.intake feed) :
    s.readOut read reads [] =
      some ⟨s.info, s.rows ++ (s.intake.yields feed).1, (s.intake.yields feed).2⟩ := by
  have hover {s : OpenSource} (hflow : s.intake.isRunning = false) (reads : Nat) (feed : Feed) :
      s.readOut read reads [] =
        some ⟨s.info, s.rows ++ (s.intake.yields feed).1, (s.intake.yields feed).2⟩ := by
    rw [readOut_settled read hflow, Intake.yields_settled hflow, List.append_nil]
    rfl
  induction reads generalizing s feed with
  | zero =>
      apply hover
      by_contra hflow
      exact Nat.not_lt_zero _ (hdue (eq_true_of_ne_false hflow)).2.2
  | succ reads ih =>
      cases hflow : s.intake.isRunning with
      | false => exact hover hflow _ _
      | true =>
          obtain ⟨later, hyields, hlater⟩ := Intake.take_yields hdue hflow
          have hrest := ih (s := s.advance (read s.intake.position)) hlater
          rw [readOut_running read hflow, hrest, hyields]
          rfl

/-- What the first rows say about the input is what all of them say. -/
theorem ofFirstRows_yields {m : Source.Manner} {next : Intake} {rows : List Delimited.Row}
    (hrows : rows = [] → next.isRunning = false) (hdue : Intake.Due read reads next feed) :
    let all := Intake.before rows (next.yields feed)
    match Source.ofFirstRows m all.1 all.2 with
    | .error fault => ofFirstRows m (next, rows) = .error fault
    | .ok whole => ∃ source, ofFirstRows m (next, rows) = .ok source ∧
        source.readOut read reads [] = some whole := by
  intro all
  cases rows with
  | nil =>
      have hall : all = ([], next.failure?) := by
        simp only [all, Intake.yields_settled (hrows rfl)]
        rfl
      rw [hall]
      unfold ofFirstRows
      cases next.failure? <;> rfl
  | cons header more =>
      have hall : all.1 = header :: (more ++ (next.yields feed).1) := rfl
      rw [hall]
      cases hnames : (header.fields.map Source.headerName).all (·.isEmpty) with
      | true => simp only [Source.ofFirstRows, ofFirstRows, hnames, if_true]
      | false =>
          simp only [ofFirstRows, Source.ofFirstRows_cons hnames]
          exact ⟨_, rfl, readOut_yields hdue⟩

theorem ofReads_start {options : SourceOptions} {m : Source.Manner} {b : UInt8} {rest : List UInt8}
    {later : Feed} (hread : read 0 = .ok (b :: rest))
    (hmanner : Source.manner options (b :: rest) = .ok m)
    (hgives : Stream.Gives read (b :: rest).length later) (hreads : later.pieces.length < reads) :
    ∃ next rows left, ofReads options read reads = some (ofFirstRows m (next, rows)) ∧
      (rows = [] → next.isRunning = false) ∧ Intake.Due read reads next left ∧
      (Intake.start m).yields ⟨(b :: rest) :: later.pieces, later.failure⟩ =
        Intake.before rows (next.yields left) := by
  have hsound : (Intake.start m).Sound := fun _ => rfl
  obtain ⟨hafter, hyields⟩ :=
    Intake.takeBlock_yields hsound rfl (List.cons_ne_nil b rest) later
  have hplace : ((Intake.start m).takeBlock (b :: rest)).1.position = 0 + (b :: rest).length :=
    (Intake.start m).take_position b rest
  rw [Nat.zero_add] at hplace
  simp only [ofReads, hread, hmanner]
  generalize (Intake.start m).takeBlock (b :: rest) = taken at hafter hyields hplace ⊢
  have hdue : Intake.Due read reads taken.1 later :=
    fun _ => ⟨hafter, hplace ▸ hgives, hreads⟩
  obtain ⟨i, _ | ⟨row, rows⟩⟩ := taken
  · obtain ⟨next, rows, left, hawait, hrows, hleft, hrun⟩ := Intake.await_yields hdue
    refine ⟨next, rows, left, ?_, hrows, hleft, hyields.trans hrun⟩
    dsimp only
    rw [hawait, Option.map_some]
  · exact ⟨i, row :: rows, later, rfl, fun h => (List.cons_ne_nil _ _ h).elim, hdue, hyields⟩

/-- **Block by block.** Opening an input by the first of its blocks and reading it out is opening
all that arrives from it. -/
theorem ofReads_of_gives (options : SourceOptions) (hgives : Stream.Gives read 0 feed)
    (hreads : feed.pieces.length ≤ reads) :
    match Source.ofFeed options feed with
    | .error fault => ofReads options read reads = some (.error fault)
    | .ok whole => ∃ source, ofReads options read reads = some (.ok source) ∧
        source.readOut read reads [] = some whole := by
  cases hgives with
  | ended h => simp only [Source.ofFeed, ofReads, h]
  | failed h => simp only [Source.ofFeed, ofReads, h]
  | @block _ block later hblock h hlater =>
      obtain ⟨b, rest, rfl⟩ := List.exists_cons_of_ne_nil hblock
      rw [Nat.zero_add] at hlater
      simp only [Source.ofFeed]
      cases hmanner : Source.manner options (b :: rest) with
      | error fault => simp only [ofReads, h, hmanner]
      | ok m =>
          obtain ⟨next, rows, left, hopens, hrows, hdue, hyields⟩ :=
            ofReads_start h hmanner hlater (Nat.lt_of_succ_le hreads)
          have hfirst := ofFirstRows_yields (m := m) hrows hdue
          rw [← hyields, Intake.start_yields] at hfirst
          dsimp only at hfirst
          simp only [hopens]
          generalize Source.ofFirstRows m _ _ = opened at hfirst ⊢
          cases opened with
          | error fault => exact congrArg some hfirst
          | ok whole =>
              obtain ⟨source, hsource, hwhole⟩ := hfirst
              exact ⟨source, congrArg some hsource, hwhole⟩

end OpenSource

end BulkLoad
