import BulkLoad.Proofs.Stream.Transcoding

/-!
Reading on after failures of the inner stream.

A read that finds nothing to hand out takes in pieces until one of them completes some text. A
failure stops it there: the decoder keeps what was taken in before, and the failure itself moves
nothing but the inner stream. So what was handed out and what is still owed make up one text at
every point, however often the inner stream fails, and a reader that goes on asking gets all of it.
-/
namespace BulkLoad.Stream

open Encoding (Sniffing wholeText Utf8.encode Utf8.encode_append)

def bytesOf : Answer → List UInt8
  | .ok bytes => bytes
  | .error _ => []

/-- The bytes that answers bring before the end, when nobody is put off by the failures. -/
def remaining : List Answer → List UInt8
  | [] | .ok [] :: _ => []
  | .ok (b :: bytes) :: rest => b :: bytes ++ remaining rest
  | .error _ :: rest => remaining rest

theorem remaining_pieces {pieces : List (List UInt8)} (h : ∀ piece ∈ pieces, piece ≠ [])
    (tail : List Answer) :
    remaining (pieces.map .ok ++ tail) = pieces.flatten ++ remaining tail := by
  induction pieces with
  | nil => rfl
  | cons piece rest ih =>
      have hrest := ih fun other hmem => h other (List.mem_cons_of_mem piece hmem)
      cases piece with
      | nil => exact absurd rfl (h [] List.mem_cons_self)
      | cons b bytes =>
          rw [List.map_cons, List.cons_append, remaining, hrest, List.flatten_cons,
            List.append_assoc]

variable [Encoding.EastAsian.Decoders]

namespace Transcoder

def owed (t : Transcoder) : List UInt8 :=
  t.pending ++ if t.finished then [] else
    Utf8.encode (Sniffing.text t.encoding t.state (remaining t.inner))

section Accounts

variable {t u : Transcoder}

theorem owed_of_asks (h : t.Asks) :
    t.owed = Utf8.encode (Sniffing.text t.encoding t.state (remaining t.inner)) := by
  rw [owed, h.spent, h.unfinished]
  rfl

theorem owed_closed (t : Transcoder) (inner : List Answer) :
    (t.closed inner).owed = Utf8.encode (Sniffing.text t.encoding t.state []) :=
  List.append_nil _

/-- Asking the inner stream changes nothing about what is owed. -/
theorem owed_refill (h : t.Asks) : t.refill.2.owed = t.owed := by
  rw [owed_of_asks h, refill]
  cases hinner : t.inner with
  | nil => exact owed_closed t []
  | cons answer rest =>
      rcases answer with message | (_ | ⟨b, bytes⟩)
      · exact owed_of_asks (t := { t with inner := rest }) ⟨h.spent, h.unfinished⟩
      · exact owed_closed t rest
      · have hopen : (t.fed (b :: bytes) rest).finished = false := h.unfinished
        simp only [owed, hopen, remaining, Bool.false_eq_true, if_false]
        exact owed_fed t (b :: bytes) (remaining rest) rest

theorem Waits.owed_eq (h : Waits t u) : u.owed = t.owed := by
  induction h with
  | refl t => rfl
  | step hasks hfill _ ih =>
      have howed := owed_refill hasks
      rw [hfill] at howed
      exact ih.trans howed

theorem owed_handOut (t : Transcoder) (room : Nat) :
    t.owed = bytesOf (t.handOut room).1 ++ (t.handOut room).2.owed := by
  rw [owed, owed, pending_handOut]
  exact take_append_drop_assoc t.pending _ room

/-- What a read hands out is taken off what is owed, and a read that fails takes nothing off it. -/
theorem owed_read (t : Transcoder) (room : Nat) :
    t.owed = bytesOf (t.read room).1 ++ (t.read room).2.owed := by
  obtain ⟨u, hwaits, ⟨-, hread⟩ | ⟨hasks, message, rest, hinner, hread⟩⟩ := read_cases t room
  · rw [hread, ← hwaits.owed_eq]
    exact owed_handOut u room
  · have howed := owed_refill hasks
    rw [refill_of_error hinner, hwaits.owed_eq] at howed
    rw [hread]
    exact howed.symm

end Accounts

def handed (t : Transcoder) (rooms : Nat → Nat) (n : Nat) : List UInt8 :=
  (List.range n).flatMap fun i => bytesOf (t.answer rooms i)

theorem handed_succ (t : Transcoder) (rooms : Nat → Nat) (n : Nat) :
    t.handed rooms (n + 1) = t.handed rooms n ++ bytesOf (t.answer rooms n) := by
  simp [handed, List.range_succ]

/-- Whatever the inner stream answers, nothing is lost and nothing is handed out twice. -/
theorem handed_append_owed (t : Transcoder) (rooms : Nat → Nat) (n : Nat) :
    t.handed rooms n ++ (t.after rooms n).owed = t.owed := by
  induction n with
  | zero => rfl
  | succ n ih =>
      rw [handed_succ, List.append_assoc, ← ih, owed_read (t.after rooms n) (rooms n)]
      rfl

theorem length_refill (t : Transcoder) : t.refill.2.inner.length ≤ t.inner.length := by
  rw [refill]
  split <;> rename_i hinner <;> rw [hinner]
  · exact Nat.le_refl _
  all_goals exact Nat.le_succ _

theorem Waits.length_inner {t u : Transcoder} (h : Waits t u) :
    u.inner.length ≤ t.inner.length := by
  induction h with
  | refl t => exact Nat.le_refl _
  | @step t u v _ hfill _ ih =>
      have hlength := length_refill t
      rw [hfill] at hlength
      exact Nat.le_trans ih hlength

/-- A read fails, hands out some bytes or is at the end; in the first two ways there are only so
many reads. -/
theorem read_progress (t : Transcoder) {room : Nat} (hroom : 0 < room) :
    (t.read room).2.inner.length + (t.read room).2.owed.length <
        t.inner.length + t.owed.length ∨
      (t.read room).2.pending = [] ∧ (t.read room).2.finished = true := by
  have howed := congrArg List.length (owed_read t room)
  rw [List.length_append] at howed
  obtain ⟨u, hwaits, ⟨hready, hread⟩ | ⟨-, message, rest, hinner, hread⟩⟩ := read_cases t room
  · have hlength := hwaits.length_inner
    rw [hread] at howed ⊢
    by_cases hpending : u.pending = []
    · right
      have hfinished : u.finished = true := by
        by_contra hopen
        exact hready ⟨hpending, Bool.not_eq_true _ ▸ hopen⟩
      exact ⟨by rw [pending_handOut, hpending, List.drop_nil], hfinished⟩
    · left
      have hpart := List.length_pos_iff.mpr (take_ne_nil hroom hpending)
      change u.inner.length + _ < _
      change _ = (u.pending.take room).length + _ at howed
      omega
  · left
    have hlength := hwaits.length_inner
    rw [hinner, List.length_cons] at hlength
    rw [hread] at howed ⊢
    change rest.length + _ < _
    omega

/-- A reader that goes on asking comes to the end. -/
theorem reaches_end (t : Transcoder) {rooms : Nat → Nat} (hrooms : ∀ i, 0 < rooms i) :
    ∃ last, (t.after rooms last).pending = [] ∧ (t.after rooms last).finished = true := by
  induction hlength : t.inner.length + t.owed.length using Nat.strongRecOn generalizing t rooms with
  | ind length ih =>
      rcases read_progress t (hrooms 0) with hless | hend
      · obtain ⟨last, hlast⟩ :=
          ih _ (hlength ▸ hless) (t.read (rooms 0)).2 (fun i => hrooms (i + 1)) rfl
        exact ⟨last + 1, by rwa [after_succ]⟩
      · exact ⟨1, hend⟩

theorem handed_of_end {t : Transcoder} {rooms : Nat → Nat} {last : Nat}
    (hpending : (t.after rooms last).pending = [])
    (hfinished : (t.after rooms last).finished = true) :
    (∀ i, last ≤ i → t.answer rooms i = .ok []) ∧ t.handed rooms last = t.owed := by
  refine ⟨?_, ?_⟩
  · intro i hi
    obtain ⟨more, rfl⟩ := Nat.exists_eq_add_of_le hi
    rw [answer, after_of_finished hpending hfinished, read_of_finished hpending hfinished]
  · have howed : (t.after rooms last).owed = [] := by
      rw [owed, hpending, hfinished]
      rfl
    rw [← handed_append_owed t rooms last, howed, List.append_nil]

/-- A transcoder that comes upon a failure once it handed out `due`, with its decoder in `state`. -/
inductive Faces (message : String) (later : List Answer) :
    Transcoder → List UInt8 → Sniffing → Prop where
  | mk (t : Transcoder) (pieces : List (List UInt8)) (hpieces : ∀ piece ∈ pieces, piece ≠ [])
      (hinner : t.inner = pieces.map .ok ++ .error message :: later)
      (hopen : t.finished = false) :
      Faces message later t
        (t.pending ++ Utf8.encode (Sniffing.feed t.encoding t.state pieces.flatten).2)
        (Sniffing.feed t.encoding t.state pieces.flatten).1

namespace Faces

variable {message : String} {later : List Answer} {t u : Transcoder} {due : List UInt8}
  {state : Sniffing}

theorem waits (h : Faces message later t due state) (hwaits : Waits t u) :
    Faces message later u due state := by
  induction hwaits with
  | refl t => exact h
  | @step t u v hasks hfill _ ih =>
      apply ih
      obtain ⟨pieces, hpieces, hinner, hopen⟩ := h
      cases pieces with
      | nil =>
          rw [refill_of_error hinner] at hfill
          cases hfill
      | cons piece rest =>
          obtain ⟨b, bytes, rfl⟩ :=
            List.exists_cons_of_ne_nil (hpieces piece List.mem_cons_self)
          have hnext : t.refill =
              (none, t.fed (b :: bytes) (rest.map .ok ++ .error message :: later)) := by
            simp only [refill, hinner, List.map_cons, List.cons_append]
          rw [hfill] at hnext
          cases hnext
          have hrest : ∀ other ∈ rest, other ≠ [] :=
            fun other hmem => hpieces other (List.mem_cons_of_mem _ hmem)
          have hfaces := Faces.mk
            (t.fed (b :: bytes) (rest.map .ok ++ .error message :: later)) rest hrest rfl hopen
          rw [List.flatten_cons, Sniffing.feed_append, hasks.spent, List.nil_append,
            Utf8.encode_append]
          exact hfaces

/-- A read before the failure hands out a part of what is due; with nothing due it fails. -/
theorem read (h : Faces message later t due state) {room : Nat} (hroom : 0 < room) :
    (∃ part rest, due = part ++ rest ∧ (t.read room).1 = .ok part ∧
        Faces message later (t.read room).2 rest state ∧ part ≠ [] ∧ part.length ≤ room) ∨
      due = [] ∧ ∃ u, Waits t u ∧ u.Asks ∧ u.inner = .error message :: later ∧ u.state = state ∧
        t.read room = (.error message, { u with inner := later }) := by
  obtain ⟨u, hwaits, hend⟩ := read_cases t room
  obtain ⟨pieces, hpieces, hinner, hopen⟩ := h.waits hwaits
  rcases hend with ⟨hready, hread⟩ | ⟨hasks, other, rest, hfailed, hread⟩
  · left
    have hpending : u.pending ≠ [] := fun hnone => hready ⟨hnone, hopen⟩
    have hfaces := Faces.mk (u.handOut room).2 pieces hpieces hinner hopen
    rw [pending_handOut] at hfaces
    rw [hread]
    exact ⟨u.pending.take room, _, take_append_drop_assoc _ _ room, rfl, hfaces,
      take_ne_nil hroom hpending, List.length_take_le _ _⟩
  · right
    rw [hfailed] at hinner
    cases pieces with
    | nil =>
        cases hinner
        have hdue := List.append_eq_nil_iff.mpr ⟨hasks.spent, rfl⟩
        exact ⟨hdue, u, hwaits, hasks, hfailed, rfl, hread⟩
    | cons piece pieces => cases hinner

/-- The reads hand out what is due in parts that fit their rooms, and the next read fails. -/
theorem parts (h : Faces message later t due state) {rooms : Nat → Nat}
    (hrooms : ∀ i, 0 < rooms i) :
    ∃ parts : List (List UInt8), parts.flatten = due ∧
      (∀ i (hi : i < parts.length), t.answer rooms i = .ok parts[i] ∧ parts[i] ≠ [] ∧
        parts[i].length ≤ rooms i) ∧
      t.answer rooms parts.length = .error message ∧
      ∃ u, Waits (t.after rooms parts.length) u ∧ u.Asks ∧ u.inner = .error message :: later ∧
        u.state = state ∧ t.after rooms (parts.length + 1) = { u with inner := later } := by
  have hpays : ∀ {t due room}, Faces message later t due state → 0 < room → due ≠ [] →
      ∃ part rest, due = part ++ rest ∧ (t.read room).1 = .ok part ∧
        Faces message later (t.read room).2 rest state ∧ part ≠ [] ∧ part.length ≤ room := by
    intro t due room h hroom hsome
    rcases h.read hroom with hpart | ⟨hnone, -⟩
    · exact hpart
    · exact absurd hnone hsome
  obtain ⟨parts, hparts, hanswers, hend⟩ :=
    parts_of_read (fun t due => Faces message later t due state) hpays h hrooms
  rcases hend.read (hrooms parts.length) with
    ⟨part, rest, hsplit, -, -, hpart, -⟩ | ⟨-, u, hwaits, hasks, hinner, hstate, hread⟩
  · exact absurd (List.append_eq_nil_iff.mp hsplit.symm).1 hpart
  · exact ⟨parts, hparts, hanswers, congrArg Prod.fst hread, u, hwaits, hasks, hinner, hstate,
      congrArg Prod.snd hread⟩

theorem ofReader (encoding : Encoding) {reader : Reader} (hprompt : reader.Prompt) {fault : Break}
    (hfault : reader.fault = some fault)
    (hwithin : fault.after ≤ reader.delivered + reader.rest.length) (later : List Answer) :
    let bytes := reader.rest.take (fault.after - reader.delivered)
    let t := ofAnswers encoding ((reader.feed chunkSize).answers ++ later)
    Faces fault.message later t
        (Utf8.encode (Sniffing.feed encoding (.undecided []) bytes).2)
        (Sniffing.feed encoding (.undecided []) bytes).1 ∧
      remaining t.inner = bytes ++ remaining later := by
  intro bytes t
  obtain ⟨hfailure, hbytes, -⟩ :=
    Reader.feed_of_break (show 0 < chunkSize by decide) hprompt hfault hwithin
  have hpieces := reader.feed_ne_nil chunkSize
  have hinner : t.inner =
      (reader.feed chunkSize).pieces.map .ok ++ .error fault.message :: later := by
    simp [t, ofAnswers, Feed.answers, hfailure]
  have hfaces := Faces.mk t (reader.feed chunkSize).pieces hpieces hinner rfl
  refine ⟨?_, ?_⟩
  · change (reader.feed chunkSize).pieces.flatten = bytes at hbytes
    rw [hbytes] at hfaces
    exact hfaces
  · rw [hinner, remaining_pieces hpieces]
    exact congrArg (· ++ remaining later) hbytes

end Faces

/-- **A failed read of the inner stream loses nothing and repeats nothing.** For every encoding,
content, schedule and row of rooms: before the failure the parts handed out make up what the decoder
gives for the bytes up to it, which is their text without what it holds back at their end; then a
read fails with the message of the inner stream. That read waits for a piece as any other does, so
the decoder has read what came before the failure; nothing was left to hand out and nothing is, and
the end was not seen. The failure itself moves nothing but the inner stream, so a read that it meets
at once leaves everything else as it was. If the inner stream goes on to the end of the content,
perhaps with more failures, all that is handed out is the content decoded as a whole. -/
theorem reads_over_failure (encoding : Encoding) (content : List UInt8) (sizes : List Nat)
    (hsizes : ∀ size ∈ sizes, 0 < size) (k : Nat) (hk : k ≤ content.length) (message : String)
    (later : List Answer) (rooms : Nat → Nat) (hrooms : ∀ i, 0 < rooms i) :
    let reader : Reader := ⟨content, 0, sizes, some ⟨k, message⟩⟩
    let t := ofAnswers encoding ((reader.feed chunkSize).answers ++ later)
    let decoded := Sniffing.feed encoding (.undecided []) (content.take k)
    decoded.2 ++ Sniffing.finish encoding decoded.1 = wholeText encoding (content.take k) ∧
      ∃ parts : List (List UInt8),
        parts.flatten = Utf8.encode decoded.2 ∧
        (∀ i (hi : i < parts.length), t.answer rooms i = .ok parts[i] ∧ parts[i] ≠ [] ∧
          parts[i].length ≤ rooms i) ∧
        t.answer rooms parts.length = .error message ∧
        (let before := t.after rooms parts.length
          let failed := t.after rooms (parts.length + 1)
          (∃ u, Waits before u ∧ u.Asks ∧ u.inner = .error message :: later ∧
            failed = { u with inner := later }) ∧
          failed.inner = later ∧ failed.encoding = before.encoding ∧ failed.state = decoded.1 ∧
          failed.pending = before.pending ∧ failed.finished = before.finished ∧
          (before.inner = .error message :: later → failed = { before with inner := later })) ∧
        (remaining later = content.drop k → ∃ last, parts.length < last ∧
          (∀ i, last ≤ i → t.answer rooms i = .ok []) ∧
          t.handed rooms last = Utf8.encode (wholeText encoding content)) := by
  intro reader t decoded
  have hprompt : reader.Prompt := hsizes
  obtain ⟨hfaces, hremaining⟩ :=
    Faces.ofReader encoding hprompt rfl (by simpa [reader] using hk) later
  obtain ⟨parts, hparts, hanswers, hfails, u, hwaits, hasks, hinner, hstate, hafter⟩ :=
    hfaces.parts hrooms
  have hbefore := hwaits.asks hasks
  refine ⟨Encoding.decode_eq_wholeText encoding (content.take k), parts, hparts, hanswers, hfails,
    ⟨⟨u, hwaits, hasks, hinner, hafter⟩, ?_⟩, ?_⟩
  · rw [hafter]
    refine ⟨rfl, hwaits.encoding_eq, hstate, hasks.spent.trans hbefore.spent.symm,
      hasks.unfinished.trans hbefore.unfinished.symm, ?_⟩
    intro hmet
    rw [hwaits.eq_of_error hmet]
  · intro hlater
    have howed : t.owed = Utf8.encode (wholeText encoding content) := by
      have hasks : t.Asks := ⟨rfl, rfl⟩
      have hwhole : remaining t.inner = content := by
        rw [hremaining, hlater]
        exact List.take_append_drop k content
      rw [owed_of_asks hasks, hwhole, ← Encoding.decode_eq_wholeText]
      rfl
    obtain ⟨last, hpending, hfinished⟩ := t.reaches_end hrooms
    obtain ⟨hend, hhanded⟩ := handed_of_end hpending hfinished
    refine ⟨last, ?_, hend, hhanded.trans howed⟩
    by_contra hbefore
    rw [hend parts.length (Nat.not_lt.mp hbefore)] at hfails
    cases hfails

omit [Encoding.EastAsian.Decoders] in
/-- A mark, a letter and a surrogate pair, in pieces of at most two bytes; the reader breaks off
inside the pair. -/
theorem reads_over_brokenPair :
    letI := Encoding.Katakana.decoders
    let content : List UInt8 := [0xFF, 0xFE, 0x41, 0x00, 0x3D, 0xD8, 0x00, 0xDE]
    let reader : Reader := ⟨content, 0, [1, 2], some ⟨7, "gone"⟩⟩
    let rooms : Nat → Nat := fun i => i % 2 + 1
    let later : List Answer := [.error "again", .ok [0xDE], .ok [], .ok [0x42]]
    let t := ofAnswers (.codePage .windows1252) ((reader.feed chunkSize).answers ++ later)
    (∀ size ∈ reader.sizes, 0 < size) ∧ 7 ≤ content.length ∧ (∀ i, 0 < rooms i) ∧
      remaining later = content.drop 7 ∧
      ∃ parts : List (List UInt8),
        parts.flatten = [0x41] ∧ t.answer rooms parts.length = .error "gone" ∧
        (t.after rooms (parts.length + 1)).inner = later ∧
        ∃ last, parts.length < last ∧ (∀ i, last ≤ i → t.answer rooms i = .ok []) ∧
          t.handed rooms last = [0x41, 0xF0, 0x9F, 0x98, 0x80] := by
  let := Encoding.Katakana.decoders
  intro content reader rooms later t
  have hsizes : ∀ size ∈ reader.sizes, 0 < size := by decide
  have hbreak : 7 ≤ content.length := by decide
  have hrooms : ∀ i, 0 < rooms i := fun i => Nat.succ_pos _
  have hlater : remaining later = content.drop 7 := by decide
  have hbefore : Utf8.encode
      (Sniffing.feed (.codePage .windows1252) (.undecided []) (content.take 7)).2 = [0x41] := by
    decide
  have hwhole : Utf8.encode (wholeText (.codePage .windows1252) content) =
      [0x41, 0xF0, 0x9F, 0x98, 0x80] := by decide
  obtain ⟨-, parts, hparts, -, hfails, ⟨-, hinner, -⟩, hrest⟩ :=
    reads_over_failure (.codePage .windows1252) content reader.sizes hsizes 7 hbreak "gone" later
      rooms hrooms
  obtain ⟨last, hlast, hend, hhanded⟩ := hrest hlater
  exact ⟨hsizes, hbreak, hrooms, hlater, parts, hparts.trans hbefore, hfails, hinner, last, hlast,
    hend, hhanded.trans hwhole⟩

omit [Encoding.EastAsian.Decoders] in
/-- A read may feed the decoder and drop its output before it fails, and a whole character may be
held back because it could begin a mark. -/
theorem reads_over_heldBytes :
    letI := Encoding.Katakana.decoders
    let facing (encoding : Encoding) (content : List UInt8) (sizes : List Nat) : Transcoder :=
      ofAnswers encoding
        ((Reader.mk content 0 sizes (some ⟨content.length, "gone"⟩)).feed chunkSize).answers
    let rooms : Nat → Nat := fun _ => 4
    let halved := facing (.utf16 .littleEndian) [0x41, 0x00, 0x42] [2, 1]
    let held := facing (.codePage .windows1252) [0xEF] []
    halved.answer rooms 0 = .ok [0x41] ∧ halved.answer rooms 1 = .error "gone" ∧
      (halved.after rooms 2).state ≠ (halved.after rooms 1).state ∧
      (halved.after rooms 2).position ≠ (halved.after rooms 1).position ∧
      held.answer rooms 0 = .error "gone" ∧
      (Encoding.codePage .windows1252).machine.decode [0xEF] = ['ï'] := by
  let := Encoding.Katakana.decoders
  intro facing rooms halved held
  have hbefore : Sniffing.finish (.utf16 .littleEndian) (halved.after rooms 1).state = [] := by
    decide
  have hafter : Sniffing.finish (.utf16 .littleEndian) (halved.after rooms 2).state =
      [Encoding.replacementChar] := by decide
  refine ⟨by decide, by decide, ?_, by decide, by decide, by decide +kernel⟩
  intro hsame
  rw [hsame, hbefore] at hafter
  cases hafter

end Transcoder

end BulkLoad.Stream
