import BulkLoad.Proofs.CommandLine.Rendered
import BulkLoad.Proofs.CommandLine.Scripting
import BulkLoad.Proofs.Encoding.Katakana
import BulkLoad.Proofs.Source.Delivery
import BulkLoad.Proofs.Source.Transport

/-!
A rendering and the load of the same records into a script.

One prints the queries and goes over the source once; the other sends them to a script and reads the
source meanwhile. They agree unless the script takes the place of the input while that is read: the
script has the queries that were printed, those that do not fit on a line apart, and records are
left out for the same reasons.
-/
namespace BulkLoad

namespace CommandLine

def RenderRequest.intoScript (r : RenderRequest) (database path : String) (maxFailures : Nat)
    (strict : Bool) : LoadRequest where
  database
  input := r.input
  target := r.target
  source := r.source
  engine := .script path
  createTable := r.createTable
  limit := none
  maxFailures
  report := none
  strict

theorem Input.openHandle_withInput (i : Input) (w : Workspace) (pieces : List (List UInt8)) :
    i.openHandle (w.withInput pieces) = i.openHandle w := by
  cases i with
  | standard => rfl
  | file path => simp only [openHandle, SourceFault.opening, Workspace.openFile_withInput]

namespace TargetChoice

variable (t : TargetChoice)

theorem resolve_withInput {w : Workspace} {pieces : List (List UInt8)}
    (h : pieces.flatten = w.input.flatten) : t.resolve (w.withInput pieces) = t.resolve w := by
  have hchosen : t.chosen (w.withInput pieces) = t.chosen w := by
    unfold chosen Definition.ofFile
    simp only [Workspace.readText_withInput w h]
  unfold resolve
  rw [hchosen]

variable [Encoding.EastAsian.Decoders]

theorem filesAfter_sameInput {options : SourceOptions} {input : Handle} {w w' : Workspace}
    (h : Workspace.SameInput options input w w') :
    Workspace.SameInput options input (t.filesAfter w) (t.filesAfter w') := by
  have hopen : t.definition.map w'.openFile = t.definition.map w.openFile := by
    rw [h.files]
    exact congrArg (t.definition.map ·) (funext fun path => w.openFile_withInput _ path)
  have hempty : { w' with input := [] } = { w with input := [] } := by
    rw [h.files]
    rfl
  unfold filesAfter
  rw [hopen]
  split
  · rw [hempty]
    exact .refl options input _
  · exact h

end TargetChoice

/-- An input that is the same is opened in both cases, and read out to the same source. -/
theorem Input.openSource_sameInput [Encoding.EastAsian.Decoders] {i : Input}
    {options : SourceOptions} {w w' : Workspace} {input : Handle} {source : OpenSource}
    {reads : Nat} (hsame : Workspace.SameInput options input w w')
    (hreads : w.extent input ≤ reads)
    (hsource : i.openSource options w reads = some (.ok (input, source))) :
    ∃ source' whole, i.openSource options w' reads = some (.ok (input, source')) ∧
      source.readOut (w.block input) reads [] = some whole ∧
      source'.readOut (w'.block input) reads [] = some whole := by
  cases hhandle : i.openHandle w with
  | error fault => simp only [openSource, hhandle, Option.some.injEq, reduceCtorEq] at hsource
  | ok handle =>
      simp only [openSource, hhandle] at hsource
      obtain ⟨_ | source, hread, hpair⟩ := Option.map_eq_some_iff.mp hsource
      · cases hpair
      · cases hpair
        have hhandle' : i.openHandle w' = .ok input := by
          rw [hsame.files, openHandle_withInput, hhandle]
        obtain ⟨feed, other, hfeed, hother, hlength, hlength', hfeeds⟩ := hsame.feeds
        have hopen := OpenSource.ofReads_of_gives options hfeed (hlength.trans hreads)
        have hopen' := OpenSource.ofReads_of_gives options hother (hlength'.trans hreads)
        rw [hfeeds] at hopen'
        cases hwhole : Source.ofFeed options feed with
        | error fault =>
            rw [hwhole, hread] at hopen
            cases hopen
        | ok whole =>
            rw [hwhole] at hopen hopen'
            obtain ⟨_, hsource, hout⟩ := hopen
            cases hread.symm.trans hsource
            obtain ⟨source', hsource', hout'⟩ := hopen'
            refine ⟨source', whole, ?_, hout, hout'⟩
            simp only [openSource, hhandle', hsource', Option.map_some]

/-- **What is printed goes into the script.** A script that takes all that it is given, and is not
the file that the input is read from, has the queries that are printed, less those with a line
break. Records with such a query fail there, and those that are skipped in print are rejected. A
source that fails ends both, after what came before. -/
theorem RenderRequest.run_intoScript [Encoding.EastAsian.Decoders] (r : RenderRequest)
    (s s' : Surroundings) (database path : String) (maxFailures : Nat) (strict : Bool)
    {target : Definition} {input file : Handle} {source : OpenSource} {created : Workspace}
    {reads : Nat} (hsame : Workspace.SameInput r.source input s.files s'.files)
    (htarget : r.target.resolve s.files = .ok target)
    (hsource : r.input.openSource r.source (r.target.filesAfter s.files) reads =
      some (.ok (input, source)))
    (hreads : (r.target.filesAfter s.files).extent input ≤ reads)
    (hfile : (r.target.filesAfter s'.files).create path = .ok (file, created))
    (hother : ∀ place, file = .file place → input ≠ .file place) :
    let files := r.target.filesAfter s.files
    let files' := r.target.filesAfter s'.files
    let load := r.intoScript database path maxFailures strict
    let job := load.job target
    ∃ whole source' rendered delivery loaded,
      source.readOut (files.block input) reads [] = some whole ∧
      r.run s reads = some rendered ∧
      r.input.openSource r.source files' reads = some (.ok (input, source')) ∧
      load.deliver target input source' files' s' reads = some delivery ∧
      load.run s' reads = some loaded ∧
      let queries := job.queries whole.records
      let script := Encoding.Utf8.encodeText
        (Rendering.text (queries.filter (!Script.hasBreak ·.text)))
      let failures := whole.records.filterMap job.scriptFailure?
      let rejections := failures.filter (·.kind.isRejection)
      let broken := whole.records.filter job.isBroken
      let told := r.input.opening :: Input.found source.info :: rejections.map (·.skipWarning)
      ∀ left, (created.truncate file).writeAt file 0 script = .ok left →
        rendered.output = Rendering.text queries ∧
          loaded.files = left ∧
          (∀ place, file = .file place → left.bytesAt? place = some script) ∧
          queries.filter (Script.hasBreak ·.text) = broken.filterMap job.insertOf? ∧
          failures.filter (!·.kind.isRejection) = broken.map job.breakage ∧
          Event.complaints (Told.events loaded.told) = failures.map (·.event) ∧
          match whole.fault? with
          | some fault =>
              rendered.status = 1 ∧ loaded.status = 1 ∧
                delivery.outcome = .error (.source fault) ∧
                rendered.told =
                  (told ++ [Event.failure (LoadFault.source fault).chain]).map .event
          | none =>
              rendered.status = 0 ∧
                loaded.status = load.status (job.scriptSummary whole.records) ∧
                delivery.outcome = .ok (job.scriptSummary whole.records) ∧
                rendered.told = (told ++ closing rejections.length).map .event := by
  intro files files' load job
  obtain ⟨source', whole, hsource', hwhole, hwhole'⟩ :=
    Input.openSource_sameInput (r.target.filesAfter_sameInput hsame) hreads hsource
  have htarget' : load.target.resolve s'.files = .ok target := by
    rw [hsame.files]
    exact (r.target.resolve_withInput hsame.bytes).trans htarget
  have hdelivery := LoadRequest.toScript_of_readOut job hfile hother hwhole'
  have hloaded : load.run s' reads = _ :=
    LoadRequest.run_of_delivery htarget' hsource' hdelivery
  refine ⟨whole, source', _, _, _, hwhole, RenderRequest.run_of_readOut htarget hsource hwhole,
    hsource', hdelivery, hloaded, ?_⟩
  intro queries script failures rejections broken told left hleft
  obtain ⟨hprinted, hrendered⟩ := @RenderRequest.finish_eq r job rfl files whole
  have hscript : script = Script.lines queries := (Rendering.lines_eq_text queries).symm
  obtain ⟨hleft', htold, houtcome⟩ :=
    LoadRequest.scriptDelivery_of_written job path rfl (hscript ▸ hleft)
  obtain ⟨hfiles, hcomplaints, hstatus⟩ :=
    LoadRequest.finish_of_unreported (r := load) rfl target source'.info s' _
  have hwritten (place : List String) (hplace : file = .file place) :
      left.bytesAt? place = some script := by
    have hwrite := Workspace.writeAt_truncated created place script
    rw [← hplace, hleft] at hwrite
    exact Except.ok.inj hwrite
  refine ⟨hprinted, hfiles.trans hleft', hwritten, job.filter_queries whole.records,
    job.filter_scriptFailures whole.records, hcomplaints.trans htold, ?_⟩
  have hinfo : whole.info = source.info := (OpenSource.readOut_eq_some _ hwhole).1
  rw [hinfo] at hrendered
  cases hfault : whole.fault? with
  | some fault =>
      rw [hfault] at hrendered
      rw [job.scriptOutcome_of_fault hfault] at houtcome
      rw [houtcome] at hstatus
      exact ⟨hrendered.1, hstatus, houtcome, hrendered.2⟩
  | none =>
      rw [hfault] at hrendered
      rw [job.scriptOutcome_of_sound hfault] at houtcome
      rw [houtcome] at hstatus
      exact ⟨hrendered.1, hstatus, houtcome, hrendered.2⟩

theorem Input.openSource_file [Encoding.EastAsian.Decoders] {path : String}
    {options : SourceOptions} {files : Workspace} {handle : Handle} {source : OpenSource}
    {reads : Nat} (hopen : files.openFile path = .ok handle)
    (hreads : OpenSource.ofReads options (files.block handle) reads = some (.ok source)) :
    (Input.file path).openSource options files reads = some (.ok (handle, source)) := by
  simp only [Input.openSource, Input.openHandle, SourceFault.opening, hopen, hreads,
    Option.map_some]

namespace FarApart

open Delimited (lineFeed)

/-- A header and three records: one that is loaded, one whose query has a line break, and one that
is rejected. -/
def front : List UInt8 :=
  ["codigo;nombre;tipo_documento;documento;creditos;correo;es_tercio\n", "1;Ana;CC;7;3;a@x;SI\n",
    "2;\"Eva\nLuz\";CC;8;4;e@x;NO\n", "3;;CC;9;5;x@x;SI\n"].flatMap Encoding.Utf8.encodeText

def blanks : List UInt8 := List.replicate 65408 lineFeed

def back : List UInt8 := Encoding.Utf8.encodeText "4;Sol;CC;6;2;s@x;NO\n"

/-- Records with so many blank lines before the last that it stands past the first block. -/
def content : List UInt8 := front ++ blanks ++ back

def rowOf (line : Nat) (fields : List String) : Delimited.Row :=
  ⟨line, fields.map Encoding.Utf8.encodeText⟩

def header : Delimited.Row :=
  rowOf 1 ["codigo", "nombre", "tipo_documento", "documento", "creditos", "correo", "es_tercio"]

def firstRows : List Delimited.Row :=
  [rowOf 2 ["1", "Ana", "CC", "7", "3", "a@x", "SI"],
    rowOf 3 ["2", "Eva\nLuz", "CC", "8", "4", "e@x", "NO"],
    rowOf 5 ["3", "", "CC", "9", "5", "x@x", "SI"]]

def lastRow : Delimited.Row := rowOf 6 ["4", "Sol", "CC", "6", "2", "s@x", "NO"]

def info : SourceInfo := ⟨"utf-8", ';', header.fields.map Source.headerName⟩

def whole : Source := ⟨info, firstRows ++ [lastRow], none⟩

def early : List Record := firstRows.map (Source.recordUnder info.headers)

def late : List Record := [Source.recordUnder info.headers lastRow]

def row : Delimited.RowState := ⟨.outside, [], [], 5 + 65408, 6⟩

def lastState : Delimited.RowState := ⟨.outside, [], [], 5 + 65408 + 1, 5 + 65408 + 2⟩

def files : Workspace := .ofFiles [("in.csv", content)]

def request : RenderRequest := ⟨.file "in.csv", ⟨none, none⟩, ⟨some ';', some "utf-8"⟩, false⟩

def surroundings : Surroundings :=
  ⟨files, ⟨[]⟩, fun _ _ _ files => (.error "", files), ⟨0, 0⟩, ⟨0, 0⟩, ""⟩

theorem front_facts :
    front.length = 128 ∧ front = 0x63 :: front.tail ∧
      Delimited.RowState.start.feedOnto 0x3B [] front =
        (⟨.outside, [], [], 5, 6⟩, (header :: firstRows).reverse) := by decide +kernel

theorem back_facts :
    back ≠ [] ∧ back.length ≤ Source.sampleSize ∧
      row.feedOnto 0x3B [] back = (lastState, [lastRow]) := by
  decide +kernel

theorem length_first : (front ++ blanks).length = Source.sampleSize := by
  rw [List.length_append, front_facts.1, blanks, List.length_replicate]
  rfl

theorem block_eq (position : Nat) :
    files.block (.file ["in.csv"]) position =
      .ok ((content.drop position).take Source.sampleSize) := rfl

theorem block_first : files.block (.file ["in.csv"]) 0 = .ok (front ++ blanks) := by
  rw [block_eq, List.drop_zero, content, ← length_first, List.take_left]

theorem block_second : files.block (.file ["in.csv"]) Source.sampleSize = .ok back := by
  rw [block_eq, content, ← length_first, List.drop_left, length_first,
    List.take_of_length_le back_facts.2.1]

theorem block_third :
    files.block (.file ["in.csv"]) (Source.sampleSize + back.length) = .ok [] := by
  rw [block_eq, content, ← length_first, ← List.length_append, List.drop_length, List.take_nil]

section Reading

variable [Encoding.EastAsian.Decoders]

def intake : Intake :=
  ⟨.utf8, 0x3B, .undecided [], true, row, Source.sampleSize, .running⟩

def first : OpenSource := ⟨info, firstRows, intake⟩

theorem takeBlock_front :
    (Intake.start ⟨.utf8, ';', 0x3B⟩).takeBlock (front ++ blanks) =
      (intake, header :: firstRows) := by
  have hblanks := Delimited.RowState.feedOnto_blanks 0x3B (s := ⟨.outside, [], [], 5, 6⟩) rfl
    (header :: firstRows).reverse 65408
  have hfeed : Delimited.RowState.start.feedOnto 0x3B [] (front ++ blanks) =
      (row, (header :: firstRows).reverse) := by
    rw [Delimited.RowState.feedOnto_append, front_facts.2.2, blanks, hblanks]
    rfl
  have hfront : front ++ blanks = 0x63 :: (front.tail ++ blanks) :=
    congrArg (· ++ blanks) front_facts.2.1
  rw [hfront, Intake.takeBlock_first ';' 0x3B (by decide), ← hfront, hfeed, length_first,
    List.reverse_reverse]
  rfl

theorem openSource_eq (reads : Nat) :
    request.input.openSource request.source surroundings.files reads =
      some (.ok (.file ["in.csv"], first)) := by
  have hopen : files.openFile "in.csv" = .ok (.file ["in.csv"]) := rfl
  have hread := block_first
  have hblock := takeBlock_front
  have hfront : front ++ blanks = 0x63 :: (front.tail ++ blanks) :=
    congrArg (· ++ blanks) front_facts.2.1
  rw [hfront] at hread hblock
  have hascii : ';'.toNat < 0x80 := by decide
  have hmanner := Source.manner_of_given hascii "utf-8"
    (0x63 :: (front.tail ++ blanks))
  have hbyte : ';'.toNat.toUInt8 = 0x3B := by decide
  rw [Encoding.ofLabel_utf8, hbyte] at hmanner
  have hnames : (header.fields.map Source.headerName).all (·.isEmpty) = false := rfl
  refine Input.openSource_file hopen
    ((OpenSource.ofReads_of_row hread hmanner hblock hnames).trans ?_)
  simp only [Encoding.name_of_utf8]
  rfl

def laterIntake : Intake :=
  { intake with
    position := Source.sampleSize + back.length
    row := lastState }

def later : OpenSource := ⟨info, [lastRow], laterIntake⟩

theorem advance_first :
    first.advance (files.block (.file ["in.csv"]) first.intake.position) = later := by
  have hread : files.block (.file ["in.csv"]) first.intake.position = .ok back := block_second
  have htake := Intake.take_block (i := intake) rfl rfl back_facts.1
  rw [show intake.delimiter = 0x3B from rfl, show intake.row = row from rfl,
    back_facts.2.2] at htake
  rw [hread, OpenSource.advance, show first.intake = intake from rfl, htake]
  rfl

theorem advance_later :
    later.advance (files.block (.file ["in.csv"]) later.intake.position) =
      ⟨info, [], { laterIntake with inflow := .ended }⟩ := by
  have hread : files.block (.file ["in.csv"]) later.intake.position = .ok [] := block_third
  rw [hread, OpenSource.advance, show later.intake = laterIntake from rfl,
    Intake.take_end (i := laterIntake) rfl rfl rfl]
  rfl

theorem readOut_eq (reads : Nat) :
    first.readOut (files.block (.file ["in.csv"])) (reads + 2) [] = some whole := by
  rw [OpenSource.readOut_running _ rfl, advance_first, OpenSource.readOut_running _ rfl,
    advance_later, OpenSource.readOut_settled _ rfl]
  rfl

end Reading

def job : Job := (request.intoScript "d" "" 5 false).job .canonical

def queryOf (codigo nombre documento creditos correo tercio : String) : Query :=
  ⟨String.join ["mete \x7b codigo: \"", codigo, "\", nombre: \"", nombre,
    "\", tipo_documento: \"CC\", documento: \"", documento, "\", creditos: ", creditos,
    ", correo: \"", correo, "\", es_tercio: ", tercio, " \x7d en estudiantes pe"]⟩

def firstQuery : Query := queryOf "1" "Ana" "7" "3" "a@x" "true"

def brokenQuery : Query := queryOf "2" "Eva\nLuz" "8" "4" "e@x" "false"

def lastQuery : Query := queryOf "4" "Sol" "6" "2" "s@x" "false"

theorem queries_of_blocks :
    job.queries early = [firstQuery, brokenQuery] ∧
      late.filterMap job.insertOf? = [lastQuery] := by decide +kernel

theorem queries_whole : job.queries whole.records = [firstQuery, brokenQuery, lastQuery] := by
  have hrecords : whole.records = early ++ late := rfl
  rw [hrecords, Job.queries, List.filterMap_append, ← List.append_assoc, queries_of_blocks.2]
  exact congrArg (· ++ [lastQuery]) queries_of_blocks.1

theorem hasBreak_queries :
    Script.hasBreak firstQuery.text = false ∧ Script.hasBreak brokenQuery.text = true ∧
      Script.hasBreak lastQuery.text = false := by
  refine ⟨?_, ?_, ?_⟩ <;> exact (Script.hasBreak_join _).trans (by decide +kernel)

theorem filter_whole :
    [firstQuery, brokenQuery, lastQuery].filter (!Script.hasBreak ·.text) =
      [firstQuery, lastQuery] := by
  obtain ⟨hfirst, hbroken, hlast⟩ := hasBreak_queries
  simp only [List.filter_cons, hfirst, hbroken, hlast, Bool.not_false, Bool.not_true,
    Bool.false_eq_true, if_true, if_false, List.filter_nil]

theorem filter_first :
    [firstQuery, brokenQuery].filter (!Script.hasBreak ·.text) = [firstQuery] := by
  obtain ⟨hfirst, hbroken, -⟩ := hasBreak_queries
  simp only [List.filter_cons, hfirst, hbroken, Bool.not_false, Bool.not_true,
    Bool.false_eq_true, if_true, if_false, List.filter_nil]

theorem encodeText_shorter :
    Encoding.Utf8.encodeText (Rendering.text [firstQuery]) ≠
      Encoding.Utf8.encodeText (Rendering.text [firstQuery, lastQuery]) := by
  have hlast : Encoding.Utf8.encodeText (Rendering.text [lastQuery]) ≠ [] := by
    rw [Rendering.text_cons, Encoding.Utf8.encodeText_append, Encoding.Utf8.encodeText_append]
    intro h
    have hend := (List.append_eq_nil_iff.mp (List.append_eq_nil_iff.mp h).1).2
    exact absurd hend (List.cons_ne_nil 0x0A [])
  have hsplit : Rendering.text [firstQuery, lastQuery] =
      Rendering.text [firstQuery] ++ Rendering.text [lastQuery] := by
    rw [Rendering.text_cons, Rendering.text_cons firstQuery []]
    exact congrArg (· ++ Rendering.text [lastQuery]) (String.append_empty).symm
  rw [hsplit, Encoding.Utf8.encodeText_append]
  exact fun h => hlast (List.self_eq_append_right.mp h)

theorem extent_input : files.extent (.file ["in.csv"]) ≤ 131072 := by
  have hlength : files.extent (.file ["in.csv"]) = (front ++ blanks).length + back.length :=
    List.length_append
  rw [hlength, length_first]
  exact Nat.add_le_add_left back_facts.2.1 Source.sampleSize

end FarApart

open FarApart in
/-- Of four records one is rejected, and of the three queries one is not for a script. -/
theorem RenderRequest.run_intoScript_farApart :
    letI := Encoding.Katakana.decoders
    request.input.openSource request.source files 131072 = some (.ok (.file ["in.csv"], first)) ∧
      files.create "q.sql" = .ok (.file ["q.sql"], files.put ["q.sql"] []) ∧
      ∃ rendered loaded, request.run surroundings 131072 = some rendered ∧
        (request.intoScript "d" "q.sql" 5 false).run surroundings 131072 = some loaded ∧
        rendered.output = Rendering.text [firstQuery, brokenQuery, lastQuery] ∧
        loaded.files.bytesAt? ["q.sql"] =
          some (Encoding.Utf8.encodeText (Rendering.text [firstQuery, lastQuery])) := by
  let := Encoding.Katakana.decoders
  have hcreate : files.create "q.sql" = .ok (.file ["q.sql"], files.put ["q.sql"] []) :=
    Workspace.create_new files ["q.sql"] rfl rfl
  have hother : ∀ place, Handle.file ["q.sql"] = .file place →
      Handle.file ["in.csv"] ≠ .file place := by
    rintro place ⟨⟩
    decide
  have htarget : request.target.resolve surroundings.files = .ok .canonical := rfl
  obtain ⟨read, _, rendered, _, loaded, hread, hrendered, -, -, hloaded, hends⟩ :=
    request.run_intoScript surroundings surroundings "d" "q.sql" 5 false (.refl _ _ _) htarget
      (openSource_eq 131072) extent_input hcreate hother
  have hwhole : read = whole := Option.some.inj (hread.symm.trans (readOut_eq 131070))
  subst hwhole
  let script := Encoding.Utf8.encodeText
    (Rendering.text ((job.queries whole.records).filter (!Script.hasBreak ·.text)))
  have hscript : script = Encoding.Utf8.encodeText (Rendering.text [firstQuery, lastQuery]) := by
    simp only [script]
    rw [queries_whole, filter_whole]
  obtain ⟨left, hleft⟩ : ∃ left, ((files.put ["q.sql"] []).truncate (.file ["q.sql"])).writeAt
      (.file ["q.sql"]) 0 script = .ok left := ⟨_, rfl⟩
  obtain ⟨hprinted, hfiles, hwritten, -⟩ := hends left hleft
  have hprinted : rendered.output = Rendering.text (job.queries whole.records) := hprinted
  have hwritten : left.bytesAt? ["q.sql"] = some script := hwritten ["q.sql"] rfl
  refine ⟨openSource_eq 131072, hcreate, rendered, loaded, hrendered, hloaded, ?_, ?_⟩
  · rw [hprinted, queries_whole]
  · rw [hfiles, hwritten, hscript]

namespace CutHeader

/-- The start of a header row with semicolons, and its rest, which has more commas. -/
def start : List UInt8 := Encoding.Utf8.encodeText "codigo;"

def rest : List UInt8 :=
  ["nombre;tipo_documento;documento;creditos;correo;es_tercio;,,,,,,,,\n",
    "1;Ana;CC;7;3;a@x;SI\n"].flatMap Encoding.Utf8.encodeText

def request : RenderRequest := ⟨.standard, ⟨none, none⟩, ⟨none, some "utf-8"⟩, false⟩

def surroundings (pieces : List (List UInt8)) : Surroundings :=
  { FarApart.surroundings with files := { files := [], input := pieces } }

end CutHeader

open FarApart in
/-- A script in the place of the input loses the record that stands past the first block. And on the
standard input the same bytes have another delimiter when they come in other pieces. -/
theorem RenderRequest.run_intoScript_disagree :
    letI := Encoding.Katakana.decoders
    (request.input.openSource request.source files 131072 = some (.ok (.file ["in.csv"], first)) ∧
      first.readOut (files.block (.file ["in.csv"])) 131072 [] = some whole ∧
      files.create "in.csv" = .ok (.file ["in.csv"], files) ∧
      ∃ rendered loaded, request.run surroundings 131072 = some rendered ∧
        (request.intoScript "d" "in.csv" 5 false).run surroundings 131072 = some loaded ∧
        rendered.status = 0 ∧ loaded.status = 0 ∧
        rendered.output = Rendering.text (job.queries whole.records) ∧
        loaded.files.bytesAt? ["in.csv"] =
          some (Encoding.Utf8.encodeText (Rendering.text [firstQuery])) ∧
        loaded.files.bytesAt? ["in.csv"] ≠
          some (Encoding.Utf8.encodeText
            (Rendering.text ((job.queries whole.records).filter (!Script.hasBreak ·.text))))) ∧
      ((CutHeader.request.run (CutHeader.surroundings [CutHeader.start, CutHeader.rest]) 3).map
          fun rendered => (rendered.status, rendered.output)) =
        some (0, Rendering.text [firstQuery]) ∧
      (((CutHeader.request.intoScript "d" "q.sql" 5 false).run
          (CutHeader.surroundings [CutHeader.start ++ CutHeader.rest]) 3).map
            fun loaded => (loaded.status, loaded.files.bytesAt? ["q.sql"])) =
        some (0, some []) := by
  let := Encoding.Katakana.decoders
  refine ⟨?_, by decide +kernel, by decide +kernel⟩
  let load := request.intoScript "d" "in.csv" 5 false
  have hcreate : files.create "in.csv" = .ok (.file ["in.csv"], files) :=
    Workspace.create_file files ["in.csv"] rfl rfl
  have htarget : request.target.resolve surroundings.files = .ok .canonical := rfl
  have hrendered : request.run surroundings 131072 = some (request.finish .canonical files whole) :=
    RenderRequest.run_of_readOut htarget (openSource_eq 131072) (readOut_eq 131070)
  obtain ⟨hprinted, hended⟩ :=
    @RenderRequest.finish_eq request job rfl files whole
  -- The lines of the first block are held back, so the second finds the file empty.
  have hnext : (first.advance (.ok [])).items = [] := by
    rw [OpenSource.advance, show first.intake = intake from rfl,
      Intake.take_end (i := intake) rfl rfl rfl]
    rfl
  have hqueries : job.queries first.records = [firstQuery, brokenQuery] := queries_of_blocks.1
  have hlines : Script.lines (job.queries first.records) =
      Encoding.Utf8.encodeText (Rendering.text [firstQuery]) := by
    rw [hqueries, Rendering.lines_eq_text, filter_first]
  have hshort : (Script.lines (job.queries first.records)).length < ScriptFile.capacity := by
    rw [hlines, Encoding.Utf8.length_encodeText]
    decide +kernel
  have hdelivery := LoadRequest.toScript_over_input job rfl hcreate rfl hshort 131071 hnext
  have hloaded : load.run surroundings 131072 = _ :=
    LoadRequest.run_of_delivery (r := load) htarget (openSource_eq 131072) hdelivery
  obtain ⟨left, hleft⟩ : ∃ left, (files.truncate (.file ["in.csv"])).writeAt (.file ["in.csv"]) 0
      (Script.lines (job.queries first.soFar.records)) = .ok left := ⟨_, rfl⟩
  obtain ⟨hfiles, -, houtcome⟩ :=
    LoadRequest.scriptDelivery_of_written job "in.csv" rfl hleft
  obtain ⟨hkept, -, hstatus⟩ :=
    LoadRequest.finish_of_unreported (r := load) rfl .canonical first.info surroundings _
  have hwritten : left.bytesAt? ["in.csv"] =
      some (Encoding.Utf8.encodeText (Rendering.text [firstQuery])) := by
    have hwrite := Workspace.writeAt_truncated files ["in.csv"]
      (Script.lines (job.queries first.soFar.records))
    rw [hleft] at hwrite
    exact hlines ▸ Except.ok.inj hwrite
  refine ⟨openSource_eq 131072, readOut_eq 131070, hcreate, _, _, hrendered, hloaded, hended.1,
    ?_, hprinted, ?_, ?_⟩
  · rw [hstatus, houtcome]
    rfl
  · rw [hkept, hfiles, hwritten]
  · rw [hkept, hfiles, hwritten, queries_whole, filter_whole]
    exact fun h => encodeText_shorter (Option.some.inj h)

end CommandLine

end BulkLoad
