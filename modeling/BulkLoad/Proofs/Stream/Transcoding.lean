import BulkLoad.Proofs.Encoding.Announcement
import BulkLoad.Proofs.Encoding.Katakana
import BulkLoad.Proofs.Encoding.Utf8Text
import BulkLoad.Proofs.Stream.Arrival
import BulkLoad.Stream.Transcoder

/-!
What a transcoder hands out.

However the inner stream is cut and however much each read asks for, the parts handed out are those
of one text: the content decoded as a whole. Before the end no part is empty; after it nothing is
read and nothing changes.
-/
namespace BulkLoad.Stream

open Encoding (Sniffing wholeText Utf8.encode Utf8.encode_append)

theorem take_append_drop_assoc {α : Type} (xs ys : List α) (n : Nat) :
    xs ++ ys = xs.take n ++ (xs.drop n ++ ys) := by
  rw [← List.append_assoc, List.take_append_drop]

theorem Feed.cutOf_cons_append (front back : List UInt8) (f g : Feed) (h : f.pieces = []) :
    CutOf (f.cons front).pieces (g.cons (front ++ back)).pieces := by
  by_cases hfront : front = []
  · rw [hfront, cons_nil, h]
    exact .nil _
  · rw [cons_of_ne_nil hfront, cons_of_ne_nil (List.append_ne_nil_of_left_ne_nil hfront back), h]
    exact .front front back g.pieces

variable [Encoding.EastAsian.Decoders]

namespace Transcoder

section Output

variable (t : Transcoder)

theorem isSpent_iff : t.isSpent = true ↔ t.pending = [] := by
  have hwithin := t.within
  rw [isSpent, beq_iff_eq, pending, List.drop_eq_nil_iff]
  omega

theorem pending_handOut (room : Nat) : (t.handOut room).2.pending = t.pending.drop room := by
  have hlength : t.pending.length = t.output.length - t.position := List.length_drop
  change t.output.drop (t.position + min (t.output.length - t.position) room) = _
  rw [← List.drop_drop, ← hlength]
  rcases Nat.le_total t.pending.length room with hshort | hlong
  · rw [Nat.min_eq_left hshort, List.drop_of_length_le hshort]
    exact List.drop_length
  · rw [Nat.min_eq_right hlong]
    rfl

end Output

/-- Whether a read has to ask the inner stream. -/
structure Asks (t : Transcoder) : Prop where
  spent : t.pending = []
  unfinished : t.finished = false

/-- Asks the inner stream once: how that failed if it did, and the transcoder after it. -/
def refill (t : Transcoder) : Option String × Transcoder :=
  match t.inner with
  | [] => (none, t.closed [])
  | .error message :: rest => (some message, { t with inner := rest })
  | .ok [] :: rest => (none, t.closed rest)
  | .ok (b :: bytes) :: rest => (none, t.fed (b :: bytes) rest)

/-- What a transcoder becomes by asking the inner stream, once more each time that it got no
text. -/
inductive Waits : Transcoder → Transcoder → Prop where
  | refl (t : Transcoder) : Waits t t
  | step {t u v : Transcoder} : t.Asks → t.refill = (none, u) → Waits u v → Waits t v

section Steps

variable {t u : Transcoder} {message : String} {rest : List Answer} {room : Nat}

theorem refill_encoding (t : Transcoder) : t.refill.2.encoding = t.encoding := by
  rw [refill]
  split <;> rfl

theorem refill_of_error (h : t.inner = .error message :: rest) :
    t.refill = (some message, { t with inner := rest }) := by
  rw [refill, h]

theorem Waits.encoding_eq (h : Waits t u) : u.encoding = t.encoding := by
  induction h with
  | refl t => rfl
  | @step t _ _ _ hfill _ ih =>
      have hencoding := refill_encoding t
      rw [hfill] at hencoding
      exact ih.trans hencoding

theorem Waits.asks (h : Waits t u) (hasks : u.Asks) : t.Asks := by
  cases h with
  | refl t => exact hasks
  | step ht _ _ => exact ht

/-- Nobody waits over a failure. -/
theorem Waits.eq_of_error (h : Waits t u) (hinner : t.inner = .error message :: rest) :
    u = t := by
  cases h with
  | refl => rfl
  | step _ hfill _ =>
      rw [refill, hinner] at hfill
      cases hfill

theorem read_of_not_asks (h : ¬ t.Asks) (room : Nat) : t.read room = t.handOut room := by
  have hready : (!t.isSpent || t.finished) = true := by
    by_contra hnot
    rw [Bool.not_eq_true, Bool.or_eq_false_iff, Bool.not_eq_false', isSpent_iff] at hnot
    exact h ⟨hnot.1, hnot.2⟩
  rw [Transcoder.read, if_pos hready]

theorem read_of_asks (h : t.Asks) (room : Nat) : t.read room = readFrom room t t.inner := by
  rw [Transcoder.read, t.isSpent_iff.mpr h.spent, h.unfinished]
  rfl

theorem readFrom_cons (room : Nat) (t : Transcoder) {piece : List UInt8} (h : piece ≠ [])
    (rest : List Answer) :
    readFrom room t (.ok piece :: rest) =
      if (t.fed piece rest).isSpent then readFrom room (t.fed piece rest) rest
      else (t.fed piece rest).handOut room := by
  cases piece with
  | nil => exact absurd rfl h
  | cons b bytes => rfl

/-- A read asks the inner stream until it has something to hand out or the end, or fails. -/
theorem read_cases (t : Transcoder) (room : Nat) :
    ∃ u, Waits t u ∧ (¬ u.Asks ∧ t.read room = u.handOut room ∨
      u.Asks ∧ ∃ message rest, u.inner = .error message :: rest ∧
        t.read room = (.error message, { u with inner := rest })) := by
  by_cases h : t.Asks
  · induction hinner : t.inner generalizing t with
    | nil =>
        have hfill : t.refill = (none, t.closed []) := by rw [refill, hinner]
        refine ⟨_, .step h hfill (.refl _), .inl ⟨fun hasks => ?_, ?_⟩⟩
        · cases hasks.unfinished
        · rw [read_of_asks h, hinner]
          rfl
    | cons answer rest ih =>
        rw [read_of_asks h, hinner]
        rcases answer with message | (_ | ⟨b, bytes⟩)
        · exact ⟨t, .refl t, .inr ⟨h, message, rest, hinner, rfl⟩⟩
        · have hfill : t.refill = (none, t.closed rest) := by rw [refill, hinner]
          refine ⟨_, .step h hfill (.refl _), .inl ⟨fun hasks => ?_, rfl⟩⟩
          cases hasks.unfinished
        · have hfill : t.refill = (none, t.fed (b :: bytes) rest) := by rw [refill, hinner]
          rw [readFrom_cons room t (List.cons_ne_nil b bytes)]
          by_cases hnone : (t.fed (b :: bytes) rest).pending = []
          · -- The piece completes no text, so the same read goes on.
            have hasks : (t.fed (b :: bytes) rest).Asks := ⟨hnone, h.unfinished⟩
            obtain ⟨u, hwaits, hread⟩ := ih _ hasks rfl
            rw [if_pos ((isSpent_iff _).mpr hnone)]
            rw [read_of_asks hasks] at hread
            exact ⟨u, .step h hfill hwaits, hread⟩
          · rw [if_neg fun hspent => hnone ((isSpent_iff _).mp hspent)]
            exact ⟨_, .step h hfill (.refl _), .inl ⟨fun hasks => hnone hasks.spent, rfl⟩⟩
  · exact ⟨t, .refl t, .inl ⟨h, read_of_not_asks h room⟩⟩

theorem read_of_finished (hpending : t.pending = []) (hfinished : t.finished = true) :
    t.read room = (.ok [], t) := by
  have hnot : ¬ t.Asks := fun hasks => by
    rw [hasks.unfinished] at hfinished
    cases hfinished
  have hsize : min (t.output.length - t.position) room = 0 := by
    rw [← List.length_drop, show t.output.drop t.position = [] from hpending]
    exact Nat.zero_min room
  rw [read_of_not_asks hnot, handOut]
  simp only [hsize, hpending, List.take_nil, Nat.add_zero]

end Steps

/-- The answers of an inner stream at its end: no more of them, or the end and then answers that
nobody should ask for. -/
def ending : Option (List Answer) → List Answer
  | none => []
  | some later => .ok [] :: later

/-- The bytes that a transcoder hands out from now on, when its inner stream comes to an end after
some pieces. What the inner stream would answer later is left to it. -/
inductive Owes (later : Option (List Answer)) : Transcoder → List UInt8 → Prop where
  | running (t : Transcoder) (pieces : List (List UInt8)) (hpieces : ∀ piece ∈ pieces, piece ≠ [])
      (hinner : t.inner = pieces.map .ok ++ ending later) (hfinished : t.finished = false) :
      Owes later t
        (t.pending ++ Utf8.encode (Sniffing.text t.encoding t.state pieces.flatten))
  | ended (t : Transcoder) (hinner : t.inner = later.getD []) (hfinished : t.finished = true) :
      Owes later t t.pending

/-- The result of a read that hands out the front of what is owed. Nothing is handed out only at the
end. -/
def Pays (later : Option (List Answer)) (room : Nat) (owed : List UInt8)
    (result : Answer × Transcoder) : Prop :=
  ∃ part rest, owed = part ++ rest ∧ result.1 = .ok part ∧ Owes later result.2 rest ∧
    part.length ≤ room ∧ (part = [] → rest = [] ∧ result.2.finished = true)

theorem owed_fed (t : Transcoder) (xs ys : List UInt8) (inner : List Answer) :
    (t.fed xs inner).pending ++
        Utf8.encode (Sniffing.text (t.fed xs inner).encoding (t.fed xs inner).state ys) =
      Utf8.encode (Sniffing.text t.encoding t.state (xs ++ ys)) := by
  rw [Sniffing.text_append, Utf8.encode_append]
  rfl

section Read

variable {later : Option (List Answer)} {t : Transcoder} {owed : List UInt8} {room : Nat}

theorem Owes.handOut (h : Owes later t owed) (hready : ¬ t.Asks) (hroom : 0 < room) :
    Pays later room owed (t.handOut room) := by
  have hlength : (t.pending.take room).length ≤ room := List.length_take_le _ _
  cases h with
  | running pieces hpieces hinner hfinished =>
      have hpending : t.pending ≠ [] := fun hnone => hready ⟨hnone, hfinished⟩
      have howes := Owes.running (t.handOut room).2 pieces hpieces hinner hfinished
      rw [pending_handOut] at howes
      refine ⟨t.pending.take room, _, take_append_drop_assoc _ _ room, rfl, howes, hlength, ?_⟩
      intro hempty
      exact absurd hempty (take_ne_nil hroom hpending)
  | ended hinner hfinished =>
      have howes := Owes.ended (t.handOut room).2 hinner hfinished
      rw [pending_handOut] at howes
      refine ⟨t.pending.take room, t.pending.drop room, (List.take_append_drop room _).symm, rfl,
        howes, hlength, ?_⟩
      intro hempty
      refine ⟨?_, hfinished⟩
      by_cases hpending : t.pending = []
      · rw [hpending, List.drop_nil]
      · exact absurd hempty (take_ne_nil hroom hpending)

theorem Owes.refill (h : Owes later t owed) (hasks : t.Asks) :
    t.refill.1 = none ∧ Owes later t.refill.2 owed := by
  cases h with
  | ended hinner hfinished =>
      rw [hasks.unfinished] at hfinished
      cases hfinished
  | running pieces hpieces hinner hfinished =>
      rw [hasks.spent, List.nil_append]
      cases pieces with
      | nil =>
          have hclosed : t.refill = (none, t.closed (later.getD [])) := by
            rw [Transcoder.refill, hinner]
            cases later <;> rfl
          rw [hclosed]
          exact ⟨rfl, .ended (t.closed (later.getD [])) rfl rfl⟩
      | cons piece rest =>
          obtain ⟨b, bytes, rfl⟩ :=
            List.exists_cons_of_ne_nil (hpieces piece List.mem_cons_self)
          have hfed : t.refill = (none, t.fed (b :: bytes) (rest.map .ok ++ ending later)) := by
            simp only [Transcoder.refill, hinner, List.map_cons, List.cons_append]
          rw [hfed, List.flatten_cons, ← owed_fed t _ _ (rest.map .ok ++ ending later)]
          exact ⟨rfl, .running _ rest
            (fun other hmem => hpieces other (List.mem_cons_of_mem _ hmem)) rfl hfinished⟩

theorem Owes.waits (h : Owes later t owed) {u : Transcoder} (hwaits : Waits t u) :
    Owes later u owed := by
  induction hwaits with
  | refl t => exact h
  | step hasks hfill _ ih =>
      have howes := (h.refill hasks).2
      rw [hfill] at howes
      exact ih howes

/-- Every read pays the front of what is owed. -/
theorem Owes.read (h : Owes later t owed) (hroom : 0 < room) :
    Pays later room owed (t.read room) := by
  obtain ⟨u, hwaits, ⟨hready, hread⟩ | ⟨hasks, message, rest, hinner, -⟩⟩ := read_cases t room
  · rw [hread]
    exact (h.waits hwaits).handOut hready hroom
  · have hfill := ((h.waits hwaits).refill hasks).1
    rw [refill_of_error hinner] at hfill
    cases hfill

end Read

def after (t : Transcoder) (rooms : Nat → Nat) : Nat → Transcoder
  | 0 => t
  | n + 1 => ((t.after rooms n).read (rooms n)).2

/-- What a read gives; the reads are counted from zero. -/
def answer (t : Transcoder) (rooms : Nat → Nat) (n : Nat) : Answer :=
  ((t.after rooms n).read (rooms n)).1

theorem after_succ (t : Transcoder) (rooms : Nat → Nat) (n : Nat) :
    t.after rooms (n + 1) = (t.read (rooms 0)).2.after (fun i => rooms (i + 1)) n := by
  induction n with
  | zero => rfl
  | succ n ih =>
      change ((t.after rooms (n + 1)).read (rooms (n + 1))).2 = _
      rw [ih]
      rfl

theorem answer_succ (t : Transcoder) (rooms : Nat → Nat) (n : Nat) :
    t.answer rooms (n + 1) = (t.read (rooms 0)).2.answer (fun i => rooms (i + 1)) n := by
  rw [answer, after_succ]
  rfl

theorem after_of_finished {t : Transcoder} {rooms : Nat → Nat} {start : Nat}
    (hpending : (t.after rooms start).pending = [])
    (hfinished : (t.after rooms start).finished = true) (n : Nat) :
    t.after rooms (start + n) = t.after rooms start := by
  induction n with
  | zero => rfl
  | succ n ih =>
      change ((t.after rooms (start + n)).read _).2 = _
      rw [ih, read_of_finished hpending hfinished]

/-- Reads that hand out something as long as anything is due hand out all of it, in parts that fit
their rooms. -/
theorem parts_of_read (Due : Transcoder → List UInt8 → Prop)
    (hread : ∀ {t due room}, Due t due → 0 < room → due ≠ [] →
      ∃ part rest, due = part ++ rest ∧ (t.read room).1 = .ok part ∧ Due (t.read room).2 rest ∧
        part ≠ [] ∧ part.length ≤ room)
    {t : Transcoder} {due : List UInt8} (h : Due t due) {rooms : Nat → Nat}
    (hrooms : ∀ i, 0 < rooms i) :
    ∃ parts : List (List UInt8), parts.flatten = due ∧
      (∀ i (hi : i < parts.length), t.answer rooms i = .ok parts[i] ∧ parts[i] ≠ [] ∧
        parts[i].length ≤ rooms i) ∧
      Due (t.after rooms parts.length) [] := by
  -- Each read hands out at least a byte, so what is due gets shorter until nothing is.
  induction hlength : due.length using Nat.strongRecOn generalizing t due rooms with
  | ind length ih =>
      by_cases hnone : due = []
      · subst hnone
        exact ⟨[], rfl, by simp, h⟩
      · obtain ⟨part, rest, hsplit, hanswer, hrest, hpart, hfits⟩ := hread h (hrooms 0) hnone
        have hshorter : rest.length < length := by
          have hpos := List.length_pos_iff.mpr hpart
          rw [← hlength, hsplit, List.length_append]
          omega
        obtain ⟨parts, hparts, hanswers, hend⟩ :=
          ih rest.length hshorter hrest (fun i => hrooms (i + 1)) rfl
        refine ⟨part :: parts, by rw [List.flatten_cons, hparts, hsplit], ?_, ?_⟩
        · intro i hi
          cases i with
          | zero => exact ⟨hanswer, hpart, hfits⟩
          | succ i =>
              rw [answer_succ]
              exact hanswers i (Nat.lt_of_succ_lt_succ hi)
        · rw [List.length_cons, after_succ]
          exact hend

/-- The reads of a transcoder pay what it owes in parts that fit their rooms, and none of the parts
is empty. -/
theorem Owes.parts {later : Option (List Answer)} {t : Transcoder} {owed : List UInt8}
    (h : Owes later t owed) {rooms : Nat → Nat} (hrooms : ∀ i, 0 < rooms i) :
    ∃ parts : List (List UInt8), parts.flatten = owed ∧
      (∀ i (hi : i < parts.length), t.answer rooms i = .ok parts[i] ∧ parts[i] ≠ [] ∧
        parts[i].length ≤ rooms i) ∧
      Owes later (t.after rooms parts.length) [] := by
  apply parts_of_read (Owes later) _ h hrooms
  intro t owed room h hroom hsome
  obtain ⟨part, rest, hsplit, hanswer, hrest, hfits, hempty⟩ := h.read hroom
  refine ⟨part, rest, hsplit, hanswer, hrest, ?_, hfits⟩
  intro hpart
  rw [hpart, (hempty hpart).1] at hsplit
  exact hsome hsplit

/-- Once everything is paid the reads hand out nothing, and from the first of them on nothing
changes. -/
theorem Owes.settled {later : Option (List Answer)} {t : Transcoder} {rooms : Nat → Nat} {n : Nat}
    (h : Owes later (t.after rooms n) []) (hrooms : ∀ i, 0 < rooms i) :
    (∀ i, n ≤ i → t.answer rooms i = .ok []) ∧
      ∀ i, n < i → t.after rooms i = t.after rooms (n + 1) ∧
        (t.after rooms i).inner = later.getD [] := by
  obtain ⟨part, rest, hsplit, hanswer, howes, -, hempty⟩ := h.read (hrooms n)
  obtain ⟨rfl, rfl⟩ := List.nil_eq_append_iff.mp hsplit
  have hfinished : (t.after rooms (n + 1)).finished = true := (hempty rfl).2
  change Owes later (t.after rooms (n + 1)) [] at howes
  have hrest : (t.after rooms (n + 1)).pending = [] ∧
      (t.after rooms (n + 1)).inner = later.getD [] := by
    generalize hlast : t.after rooms (n + 1) = last at howes hfinished
    generalize hnothing : ([] : List UInt8) = nothing at howes
    cases howes with
    | running pieces hpieces hinner hopen =>
        rw [hfinished] at hopen
        cases hopen
    | ended hinner hfinished => exact ⟨rfl, hinner⟩
  have hsame : ∀ i, n < i → t.after rooms i = t.after rooms (n + 1) := by
    intro i hi
    obtain ⟨more, rfl⟩ := Nat.exists_eq_add_of_le (Nat.succ_le_of_lt hi)
    exact after_of_finished hrest.1 hfinished more
  refine ⟨?_, ?_⟩
  · intro i hi
    rcases Nat.eq_or_lt_of_le hi with rfl | hlt
    · exact hanswer
    · rw [answer, hsame i hlt, read_of_finished hrest.1 hfinished]
  · intro i hi
    refine ⟨hsame i hi, ?_⟩
    rw [hsame i hi, hrest.2]

def chunkSize : Nat := 8192

theorem Owes.ofReader (encoding : Encoding) {reader : Reader} (hprompt : reader.Prompt)
    (hsound : reader.fault = none) (later : Option (List Answer)) :
    Owes later (ofAnswers encoding ((reader.feed chunkSize).answers ++ ending later))
      (Utf8.encode (wholeText encoding reader.rest)) := by
  obtain ⟨hfailure, hbytes, hpieces⟩ :=
    Reader.feed_of_sound (show 0 < chunkSize by decide) hprompt hsound
  have hinner : (reader.feed chunkSize).answers = (reader.feed chunkSize).pieces.map .ok := by
    simp only [Feed.answers, hfailure, Option.map_none, Option.toList_none, List.append_nil]
  have howes : Owes later _ _ := .running
    (ofAnswers encoding ((reader.feed chunkSize).answers ++ ending later))
    (reader.feed chunkSize).pieces hpieces (congrArg (· ++ ending later) hinner) rfl
  have htext : Sniffing.text encoding (.undecided []) (reader.feed chunkSize).pieces.flatten =
      wholeText encoding reader.rest := by
    rw [← Encoding.decode_eq_wholeText, ← hbytes]
    rfl
  rw [← htext]
  exact howes

/-- **A transcoder hands out its content decoded as a whole.** For every encoding, every schedule of
the inner stream and every row of rooms, the parts that are handed out before the end are not empty,
fit their rooms and make up the text of the whole content; what the content cuts off at its end is
at most one replacement character, behind which ISO-2022-JP may read a byte once more. After the
last part every read is at the end, and from the first of those on neither the inner stream nor the
decoder is touched. -/
theorem reads_of_content (encoding : Encoding) (content : List UInt8) (sizes : List Nat)
    (hsizes : ∀ size ∈ sizes, 0 < size) (later : Option (List Answer)) (rooms : Nat → Nat)
    (hrooms : ∀ i, 0 < rooms i) :
    let reader : Reader := ⟨content, 0, sizes, none⟩
    let t := ofAnswers encoding ((reader.feed chunkSize).answers ++ ending later)
    (∃ parts : List (List UInt8),
        parts.flatten = Utf8.encode (wholeText encoding content) ∧
        (∀ i (hi : i < parts.length), t.answer rooms i = .ok parts[i] ∧ parts[i] ≠ [] ∧
          parts[i].length ≤ rooms i) ∧
        (∀ i, parts.length ≤ i → t.answer rooms i = .ok []) ∧
        ∀ i, parts.length < i → t.after rooms i = t.after rooms (parts.length + 1) ∧
          (t.after rooms i).inner = later.getD []) ∧
      ∀ (actual : Encoding) (state : actual.machine.State),
        actual.machine.finish state = [] ∨
          actual.machine.finish state = [Encoding.replacementChar] ∨
          actual = .eastAsian .iso2022Jp ∧
            ∃ c, actual.machine.finish state = [Encoding.replacementChar, c] := by
  intro reader t
  have hprompt : reader.Prompt := hsizes
  have howes := Owes.ofReader encoding hprompt rfl later
  obtain ⟨parts, hparts, hanswers, hend⟩ := howes.parts hrooms
  exact ⟨⟨parts, hparts, hanswers, hend.settled hrooms⟩, Encoding.finish_cases⟩

omit [Encoding.EastAsian.Decoders] in
/-- Katakana of both widths and half of one more, in pieces that cut the first. -/
theorem reads_of_cutKana :
    letI := Encoding.Katakana.decoders
    let reader : Reader := ⟨[0x83, 0x7C, 0xB1, 0x83], 0, [1, 2], none⟩
    let rooms : Nat → Nat := fun i => i % 2 + 1
    let t := ofAnswers (.eastAsian .shiftJis)
      ((reader.feed chunkSize).answers ++ ending (some [.ok [0x41], .error "gone"]))
    (∀ size ∈ reader.sizes, 0 < size) ∧ (∀ i, 0 < rooms i) ∧
      ∃ parts : List (List UInt8),
        parts.flatten = Utf8.encode ['ポ', 'ｱ', '\ufffd'] ∧
        (∀ i (hi : i < parts.length), t.answer rooms i = .ok parts[i] ∧ parts[i] ≠ [] ∧
          parts[i].length ≤ rooms i) ∧
        (∀ i, parts.length ≤ i → t.answer rooms i = .ok []) ∧
        ∀ i, parts.length < i → (t.after rooms i).inner = [.ok [0x41], .error "gone"] := by
  let := Encoding.Katakana.decoders
  intro reader rooms t
  have hsizes : ∀ size ∈ reader.sizes, 0 < size := by decide
  have hrooms : ∀ i, 0 < rooms i := fun i => Nat.succ_pos _
  have htext : wholeText (.eastAsian .shiftJis) reader.rest = ['ポ', 'ｱ', '\ufffd'] := by decide
  obtain ⟨⟨parts, hparts, hanswers, hend, hinner⟩, -⟩ :=
    reads_of_content (.eastAsian .shiftJis) reader.rest reader.sizes hsizes
      (some [.ok [0x41], .error "gone"]) rooms hrooms
  rw [htext] at hparts
  exact ⟨hsizes, hrooms, parts, hparts, hanswers, hend, fun i hi => (hinner i hi).2⟩

end Transcoder

namespace Feed

/-- At the end of a feed its last text is complete. -/
theorem transcodeFrom_of_end (encoding : Encoding) (state : Sniffing)
    (pieces : List (List UInt8)) :
    (transcodeFrom encoding none state pieces).failure = none ∧
      (transcodeFrom encoding none state pieces).bytes =
        Utf8.encode (Sniffing.text encoding state pieces.flatten) := by
  induction pieces generalizing state with
  | nil =>
      simp only [transcodeFrom, cons_failure, cons_bytes, List.flatten_nil, Sniffing.text_nil,
        true_and]
      exact List.append_nil _
  | cons piece rest ih =>
      obtain ⟨hfailure, hbytes⟩ := ih (Sniffing.feed encoding state piece).1
      refine ⟨?_, ?_⟩
      · exact (cons_failure _ _).trans hfailure
      · rw [List.flatten_cons, Sniffing.text_append, Utf8.encode_append, ← hbytes]
        exact cons_bytes _ _

/-- A failure leaves out what the decoder still holds. -/
theorem transcodeFrom_of_failure (encoding : Encoding) (message : String) (state : Sniffing)
    (pieces : List (List UInt8)) :
    (transcodeFrom encoding (some message) state pieces).failure = some message ∧
      (transcodeFrom encoding (some message) state pieces).bytes =
        Utf8.encode (Sniffing.feed encoding state pieces.flatten).2 := by
  induction pieces generalizing state with
  | nil => exact ⟨rfl, rfl⟩
  | cons piece rest ih =>
      obtain ⟨hfailure, hbytes⟩ := ih (Sniffing.feed encoding state piece).1
      refine ⟨?_, ?_⟩
      · exact (cons_failure _ _).trans hfailure
      · rw [List.flatten_cons, Sniffing.feed_append, Utf8.encode_append, ← hbytes]
        exact cons_bytes _ _

/-- What is cut short before the transcoding is cut short after it. -/
theorem cutOf_transcodeFrom (encoding : Encoding) (message : String) (state : Sniffing)
    {short pieces : List (List UInt8)} (h : CutOf short pieces) :
    CutOf (transcodeFrom encoding (some message) state short).pieces
      (transcodeFrom encoding none state pieces).pieces := by
  induction h generalizing state with
  | nil pieces => exact .nil _
  | front front back pieces =>
      have hwhole : transcodeFrom encoding none state ((front ++ back) :: pieces) =
          (transcodeFrom encoding none (Sniffing.feed encoding state (front ++ back)).1
            pieces).cons (Utf8.encode (Sniffing.feed encoding state (front ++ back)).2) := rfl
      rw [hwhole, Sniffing.feed_append, Utf8.encode_append]
      exact cutOf_cons_append _ _ _ _ rfl
  | cons piece _ ih => exact (ih (Sniffing.feed encoding state piece).1).feedCons _

end Feed

end BulkLoad.Stream
