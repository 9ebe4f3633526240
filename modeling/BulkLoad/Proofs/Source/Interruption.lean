import BulkLoad.Engine.Rehearsal
import BulkLoad.Proofs.Load.Accounting
import BulkLoad.Proofs.Load.FromSource
import BulkLoad.Proofs.Source.Opening

/-!
A stream that breaks while a source is read.

The source gives the rows that end in the text of the bytes before the break, as the whole input
would have given them, and then the failure. Nothing of a row under way is given, even if the
decoder or the reader of rows holds it already.
-/
namespace BulkLoad

open BulkLoad.Stream (CutOf Feed Reader)

namespace Source

/-- A source whose stream broke when `arrived` bytes of text were there, next to the source of
the whole input; `ends` are the rows of the whole text that a byte ends, with the places of the
bytes. -/
structure Interrupted (s whole : Source) (ends : List (Nat × Delimited.Row)) (arrived : Nat)
    (message : String) : Prop where
  info : s.info = whole.info
  /-- The first row is the header. A last row that only the end of the input ends has no place. -/
  header : ∃ header last, ends.head? = some header ∧ header.1 < arrived ∧
    whole.rows = ends.tail.map Prod.snd ++ last ∧ last.length ≤ 1
  records : s.records =
    ((ends.tail.filter (·.1 < arrived)).map Prod.snd).map (recordUnder whole.info.headers)
  front : s.records <+: whole.records
  items : s.items = s.records.map .ok ++ [.error (.unreadable 0 message)]

theorem unended_length_le (delimiter : UInt8) (bytes : List UInt8) (complete : Bool) :
    (Delimited.unended delimiter bytes complete).length ≤ 1 := by
  unfold Delimited.unended
  split_ifs
  · cases (Delimited.RowState.start.reach delimiter bytes).finish <;> simp
  · exact Nat.zero_le 1

theorem interrupted_of_ends {ends first : List (Nat × Delimited.Row)} {arrived : Nat}
    (hfront : first <+: ends) (hfilter : first = ends.filter (·.1 < arrived))
    {header : Delimited.Row} {rest last : List Delimited.Row}
    (hfirst : first.map Prod.snd = header :: rest) (hlast : last.length ≤ 1) (info : SourceInfo)
    (message : String) :
    ends.map Prod.snd ++ last = header :: (ends.tail.map Prod.snd ++ last) ∧
      Interrupted ⟨info, rest, some message⟩ ⟨info, ends.tail.map Prod.snd ++ last, none⟩ ends
        arrived message := by
  obtain ⟨ended, more, rfl, rfl, rfl⟩ := List.map_eq_cons_iff.mp hfirst
  obtain ⟨later, rfl⟩ := hfront
  have hended : ended.1 < arrived := by
    have hmem : ended ∈ (ended :: more ++ later).filter (·.1 < arrived) := by
      rw [← hfilter]
      exact List.mem_cons_self
    exact of_decide_eq_true (List.mem_filter.mp hmem).2
  have hmore : more = (more ++ later).filter (·.1 < arrived) := by
    rw [List.cons_append, List.filter_cons_of_pos (by simpa using hended)] at hfilter
    exact (List.cons.inj hfilter).2
  refine ⟨rfl, rfl, ⟨ended, last, rfl, hended, rfl, hlast⟩, ?_, ?_, rfl⟩
  · change (more.map Prod.snd).map _ = _
    rw [List.cons_append, List.tail_cons, ← hmore]
  · refine ⟨(later.map Prod.snd ++ last).map (recordUnder info.headers), ?_⟩
    change (more.map Prod.snd).map _ ++ _ = (((more ++ later).map Prod.snd) ++ last).map _
    simp only [List.map_append, List.append_assoc]

theorem Interrupted.fault {s whole : Source} {ends : List (Nat × Delimited.Row)} {arrived : Nat}
    {message : String} (h : Interrupted s whole ends arrived message) :
    s.fault? = some (.unreadable 0 message) := by
  have hitems : Items.ofRecords s.records s.fault? =
      Items.ofRecords s.records (some (.unreadable 0 message)) := h.items
  simpa only [Items.fault?_ofRecords] using congrArg Items.fault? hitems

/-- A source that ends with a fault, under watch: the engine is told the end only if the limit lets
no more than its records through. -/
theorem loadSource_of_fault {σ : Type} {s : Source} {fault : SourceFault}
    (h : s.fault? = some fault) (job : Job) (engine : Engine σ) {state : σ}
    (hopens : job.isRefused engine state = false) :
    let run := job.loadSource engine.watched ⟨state, [], []⟩ s
    let full := job.options.limit.any (· ≤ s.records.length)
    run.session.engine.calls =
        job.createCalls ++ job.insertCalls (Job.limited job.options.limit s.records) ++
          (if full then [.finish] else []) ∧
      (full = false → run.outcome = .error (.source fault)) := by
  intro run full
  obtain ⟨hcalls, houtcome⟩ := job.loadSource_watched engine hopens s
  rw [h] at hcalls houtcome
  constructor
  · cases hfull : full with
    | false | true => simpa [full, hfull] using hcalls
  · intro hfull
    exact houtcome fault (if_neg (ne_true_of_eq_false hfull))

theorem feeds_of_break {content : List UInt8} {sizes : List Nat} (hsizes : ∀ size ∈ sizes, 0 < size)
    {after : Nat} (hafter : after ≤ content.length) (message : String) :
    let short := Reader.feed ⟨content, 0, sizes, some ⟨after, message⟩⟩ sampleSize
    let feed := Reader.feed ⟨content, 0, sizes, none⟩ sampleSize
    CutOf short.pieces feed.pieces ∧ short.failure = some message ∧
      short.bytes = content.take after ∧ feed.failure = none ∧ feed.bytes = content := by
  intro short feed
  have hroom : 0 < sampleSize := by decide
  have hbroken : Reader.Prompt ⟨content, 0, sizes, some ⟨after, message⟩⟩ := hsizes
  have hsound : Reader.Prompt ⟨content, 0, sizes, none⟩ := hsizes
  have hwithin : after ≤ 0 + content.length := by omega
  obtain ⟨hshort, hbytes, hcut⟩ := Reader.feed_of_break hroom hbroken rfl hwithin
  obtain ⟨hfeed, hcontent, -⟩ := Reader.feed_of_sound hroom hsound rfl
  exact ⟨hcut, hshort, hbytes, hfeed, hcontent⟩

variable [Encoding.EastAsian.Decoders]

/-- Only an ASCII character is taken as a delimiter. -/
theorem isAscii_of_ofFeed {delimiter : Char} {label : String} {feed : Feed} {s : Source}
    (h : ofFeed ⟨some delimiter, some label⟩ feed = .ok s) :
    delimiter.toNat < 0x80 ∧ feed.pieces ≠ [] := by
  obtain ⟨pieces, failure⟩ := feed
  cases pieces with
  | nil => cases failure <;> cases h
  | cons sample rest =>
      refine ⟨?_, List.cons_ne_nil sample rest⟩
      by_contra hwide
      have hbyte : delimiterByte? delimiter = none := if_neg hwide
      simp only [ofFeed, manner, delimiterOf, Option.getD_some, hbyte] at h
      cases h

/-- The first rows of a source that opened are more than a mark. -/
theorem textFeed_of_rows {encoding : Encoding} {delimiter : UInt8} {feed : Feed}
    (h : Delimited.rows delimiter (textFeed encoding feed) ≠ []) :
    (plainFeed encoding feed).pieces.head? ≠ some Delimited.mark ∧
      textFeed encoding feed = plainFeed encoding feed := by
  have hhead : (plainFeed encoding feed).pieces.head? ≠ some Delimited.mark := by
    intro hmark
    rw [textFeed_eq, Delimited.asRead_of_head_eq hmark] at h
    exact h rfl
  rw [textFeed_eq]
  exact ⟨hhead, Delimited.asRead_of_head_ne hhead⟩

/-- A source over a feed that failed has no row but those that a byte ends. -/
theorem ofFeed_of_failure {delimiter : Char} {label : String} {feed : Feed} {message : String}
    {s : Source} (hfailure : feed.failure = some message)
    (h : ofFeed ⟨some delimiter, some label⟩ feed = .ok s) :
    let plain := plainFeed (.ofLabel label) feed
    ∃ header rest, plain.pieces.head? ≠ some Delimited.mark ∧
      (Delimited.terminated delimiter.toNat.toUInt8 plain.pieces).map Prod.snd = header :: rest ∧
      (header.fields.map headerName).all (·.isEmpty) = false ∧
      s = ⟨⟨(Encoding.ofLabel label).name.map Char.toLower, delimiter,
        header.fields.map headerName⟩, rest, some message⟩ := by
  intro plain
  obtain ⟨hascii, hpieces⟩ := isAscii_of_ofFeed h
  obtain ⟨hfailed, -⟩ := plainFeed_of_failure (.ofLabel label) hfailure
  rw [ofFeed_of_given hascii label hpieces] at h
  dsimp only at h
  obtain ⟨header, rest, hrows, hnamed, hs⟩ := ofFirstRows_eq_ok h
  obtain ⟨hmark, hread⟩ := textFeed_of_rows (hrows ▸ List.cons_ne_nil header rest)
  rw [hread, hfailed] at hs
  dsimp only at hs
  refine ⟨header, rest, hmark, ?_, hnamed, hs⟩
  rw [← hrows, hread, Delimited.rows_eq, hfailed]
  exact (List.append_nil _).symm

theorem ofFeed_of_cut {delimiter : Char} {label : String} {short feed : Feed} {message : String}
    {s : Source} (hcut : CutOf short.pieces feed.pieces) (hshort : short.failure = some message)
    (hfeed : feed.failure = none)
    (h : ofFeed ⟨some delimiter, some label⟩ short = .ok s) :
    let text := textFeed (.ofLabel label) feed
    let ends := Delimited.terminated delimiter.toNat.toUInt8 text.pieces
    text = plainFeed (.ofLabel label) feed ∧
      ∃ whole, ofFeed ⟨some delimiter, some label⟩ feed = .ok whole ∧
        Interrupted s whole ends (textSoFar (.ofLabel label) short.bytes).length message := by
  intro text ends
  obtain ⟨header, rest, hmark, hended, hnamed, hs⟩ := ofFeed_of_failure hshort h
  obtain ⟨hascii, hpieces⟩ := isAscii_of_ofFeed h
  have hsome : Delimited.terminated delimiter.toNat.toUInt8
      (plainFeed (.ofLabel label) short).pieces ≠ [] := by
    intro hnone
    rw [hnone] at hended
    cases hended
  have hcuts := cutOf_plainFeed (.ofLabel label) hcut hshort hfeed
  -- The cut holds a row, so it is beyond a mark: the whole is not taken for a mark alone either.
  obtain ⟨-, -, hbeyond⟩ := Delimited.skipped_of_cutOf hcuts hsome hmark
  have htext : text = plainFeed (.ofLabel label) feed :=
    (textFeed_eq _ feed).trans (Delimited.asRead_of_head_ne hbeyond)
  have hsound : text.failure = none := by rw [htext, (plainFeed_of_end _ hfeed).1]
  have hlength : (plainFeed (.ofLabel label) short).pieces.flatten.length =
      (textSoFar (.ofLabel label) short.bytes).length :=
    congrArg List.length (plainFeed_of_failure _ hshort).2
  obtain ⟨hfront, hfilter⟩ := Delimited.terminated_of_cutOf hcuts hsome hmark
  rw [← htext] at hfront hfilter
  rw [hlength] at hfilter
  let last := Delimited.unended delimiter.toNat.toUInt8 (Delimited.unmarked text.pieces)
    text.failure.isNone
  let info : SourceInfo := ⟨(Encoding.ofLabel label).name.map Char.toLower, delimiter,
    header.fields.map headerName⟩
  obtain ⟨hwhole, hinterrupted⟩ := interrupted_of_ends hfront hfilter hended
    (unended_length_le _ _ _ : last.length ≤ 1) info message
  have hrows : Delimited.rows delimiter.toNat.toUInt8 text =
      header :: (ends.tail.map Prod.snd ++ last) := (Delimited.rows_eq _ text).trans hwhole
  rw [← hs] at hinterrupted
  refine ⟨htext, ⟨info, ends.tail.map Prod.snd ++ last, none⟩, ?_, hinterrupted⟩
  rw [ofFeed_of_given hascii label (hcut.ne_nil hpieces)]
  dsimp only
  rw [hrows, hsound, ofFirstRows_cons hnamed]

theorem textSoFar_front (encoding : Encoding) {short feed : Feed} {message : String}
    (hcut : CutOf short.pieces feed.pieces) (hshort : short.failure = some message)
    (hfeed : feed.failure = none) :
    textSoFar encoding short.bytes <+: textBytes encoding feed.bytes := by
  have hfront := (cutOf_plainFeed encoding hcut hshort hfeed).flatten_front
  have hsofar := (plainFeed_of_failure encoding hshort).2
  have hwhole := (plainFeed_of_end encoding hfeed).2
  rw [← hsofar, ← hwhole]
  exact hfront

/-- **A break loses no complete row and gives no partial one.** A source whose stream breaks gives
the records of the rows that end in the text of the bytes before the break, as the whole input gives
them, then the failure once and nothing after it. Loading it sends these records as far as the limit
goes, and if they are fewer it ends with the failure and never tells the engine the end. -/
theorem ofReader_of_break (delimiter : Char) (label : String) (content : List UInt8)
    (sizes : List Nat) (hsizes : ∀ size ∈ sizes, 0 < size) (after : Nat)
    (hafter : after ≤ content.length) (message : String) (s : Source)
    (h : ofReader ⟨some delimiter, some label⟩ ⟨content, 0, sizes, some ⟨after, message⟩⟩ = .ok s) :
    let encoding := Encoding.ofLabel label
    let unbroken : Reader := ⟨content, 0, sizes, none⟩
    let arrived := textSoFar encoding (content.take after)
    let ends := Delimited.terminated delimiter.toNat.toUInt8
      (textFeed encoding (unbroken.feed sampleSize)).pieces
    (arrived <+: textBytes encoding content ∧
      ∀ ending ∈ ends, ∃ b, (textBytes encoding content)[ending.1]? = some b ∧
        Delimited.endsRow b = true) ∧
      (∃ whole, ofReader ⟨some delimiter, some label⟩ unbroken = .ok whole ∧
        Interrupted s whole ends arrived.length message) ∧
      (∀ i, s.records.length < i → s.items[i]? = none) ∧
      ∀ {σ : Type} (job : Job) (engine : Engine σ) (state : σ),
        job.isRefused engine state = false →
          let run := job.loadSource engine.watched ⟨state, [], []⟩ s
          let full := job.options.limit.any (· ≤ s.records.length)
          run.map Watched.engine = job.loadSource engine state s ∧
            run.session.engine.calls =
              job.createCalls ++
                job.insertCalls (Job.limited job.options.limit s.records) ++
                (if full then [.finish] else []) ∧
            (full = false → run.outcome = .error (.source (.unreadable 0 message))) := by
  intro encoding unbroken arrived ends
  obtain ⟨hcut, hshort, hbytes, hfeed, hcontent⟩ := feeds_of_break hsizes hafter message
  have hfront := textSoFar_front encoding hcut hshort hfeed
  obtain ⟨htext, whole, hwhole, hinterrupted⟩ := ofFeed_of_cut hcut hshort hfeed h
  rw [hbytes] at hinterrupted
  rw [hbytes, hcontent] at hfront
  have hplaces : ∀ ending ∈ ends, ∃ b, (textBytes encoding content)[ending.1]? = some b ∧
      Delimited.endsRow b = true := by
    intro ending hmem
    have hflat := (plainFeed_of_end encoding hfeed).2
    rw [hcontent, ← htext] at hflat
    rw [← hflat]
    exact Delimited.terminated_spec hmem
  refine ⟨⟨hfront, hplaces⟩, ⟨whole, hwhole, hinterrupted⟩, ?_, ?_⟩
  · intro i hi
    rw [hinterrupted.items]
    apply List.getElem?_eq_none
    simp only [List.length_append, List.length_map, List.length_singleton]
    exact hi
  · intro σ job engine state hopens
    exact ⟨job.loadSource_map engine.watched_projects ⟨state, [], []⟩ s,
      loadSource_of_fault hinterrupted.fault job engine hopens⟩

/-- A mark, a header and three rows in UTF-16; line feeds and a pair of surrogates are quoted. -/
def surrogateContent : List UInt8 :=
  [0xFE, 0xFF, 0x00, 0x6B, 0x00, 0x2C, 0x00, 0x62, 0x00, 0x0D, 0x00, 0x0A, 0x00, 0x22, 0x00, 0x78,
    0x00, 0x0A, 0x00, 0x79, 0x00, 0x22, 0x00, 0x2C, 0x00, 0x53, 0x00, 0x49, 0x00, 0x0D, 0x00, 0x0A,
    0x00, 0x22, 0xD8, 0x3D, 0xDE, 0x00, 0x00, 0x0A, 0x00, 0x22, 0x00, 0x2C, 0x00, 0x4E, 0x00, 0x4F,
    0x00, 0x0D, 0x00, 0x0A, 0x00, 0x7A, 0x00, 0x2C, 0x00, 0x53, 0x00, 0x49]

def surrogateJob : Job := ⟨"demo.db", Job.sampleJob.target, ⟨false, some 2, 1⟩⟩

omit [Encoding.EastAsian.Decoders] in
/-- The stream breaks inside the pair of surrogates, when the second row is under way. -/
theorem ofReader_of_brokenPair :
    letI := Encoding.Katakana.decoders
    let r : Record := ⟨1, [("k", "x\ny"), ("b", "SI")]⟩
    ∃ s whole, ofReader ⟨some ',', some "utf-16be"⟩
          ⟨surrogateContent, 0, [3], some ⟨37, "reset"⟩⟩ = .ok s ∧
      ofReader ⟨some ',', some "utf-16be"⟩ ⟨surrogateContent, 0, [3], none⟩ = .ok whole ∧
      s.items = [.ok r, .error (.unreadable 0 "reset")] ∧ s.items[2]? = none ∧
      s.records <+: whole.records ∧
      let run := surrogateJob.loadSource Rehearsal.engine.watched ⟨.ready [] none, [], []⟩ s
      run.session.engine.calls = surrogateJob.insertCalls [r] ∧
        (surrogateJob.insertCalls [r]).length = 1 ∧
        run.outcome = .error (.source (.unreadable 0 "reset")) := by
  let := Encoding.Katakana.decoders
  intro r
  let opened := ofReader ⟨some ',', some "utf-16be"⟩
    ⟨surrogateContent, 0, [3], some ⟨37, "reset"⟩⟩
  have hread : opened.toOption.map (·.records) = some [r] := by decide +kernel
  cases hopened : opened with
  | error fault =>
      rw [hopened] at hread
      cases hread
  | ok s =>
      have hrecords : s.records = [r] := by
        rw [hopened] at hread
        exact Option.some.inj hread
      obtain ⟨-, ⟨whole, hwhole, hinterrupted⟩, hlater, hload⟩ :=
        ofReader_of_break ',' "utf-16be" surrogateContent [3] (by decide) 37 (by decide) "reset" s
          hopened
      obtain ⟨-, hcalls, houtcome⟩ := hload surrogateJob Rehearsal.engine (.ready [] none) rfl
      have hitems := hinterrupted.items
      rw [hrecords] at hitems hcalls hlater houtcome
      exact ⟨s, whole, hopened, hwhole, hitems, hlater 2 (by decide), hinterrupted.front, hcalls,
        by decide +kernel, houtcome rfl⟩

end Source

end BulkLoad
