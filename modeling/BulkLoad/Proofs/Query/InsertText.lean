import BulkLoad.Proofs.Query.Pieces
import BulkLoad.Proofs.Schema.Sound

/-!
Insert statements read back.

The grammar is given by its trees: `chars` is the text of a tree and `IsValid` says which trees
there are. Reading is exact (`readInsert_eq_some_iff`), so no text has two trees, and the statement
of a record has the tree of the values that the record fills.
-/
namespace BulkLoad.Statement

open Text (Stops stops_cons stops_mark)

inductive Literal where
  | quoted (s : String)
  | whole (negative : Bool) (digits : List Char)
  | truth (b : Bool)
  deriving DecidableEq, Repr

namespace Literal

def chars : Literal → List Char
  | .quoted s => '"' :: (s.toList ++ ['"'])
  | .whole negative ds => if negative then '-' :: ds else ds
  | .truth b => if b then "true".toList else "false".toList

def IsValid : Literal → Prop
  | .quoted s => s.toList ≠ [] ∧ '"' ∉ s.toList
  | .whole _ ds => ds ≠ [] ∧ ∀ c ∈ ds, Decimal.isDigit c = true
  | .truth _ => True

def value : Literal → Value
  | .quoted s => .text s
  | .whole negative ds =>
      .integer (if negative then -(Decimal.valueOf ds : Int) else Decimal.valueOf ds)
  | .truth b => .boolean b

def ofValue : Value → Literal
  | .text s => .quoted s
  | .integer (.ofNat n) => .whole false (Decimal.digits n)
  | .integer (.negSucc n) => .whole true (Decimal.digits (n + 1))
  | .boolean b => .truth b

theorem value_ofValue (v : Value) : (ofValue v).value = v := by
  cases v with
  | text s => rfl
  | integer z =>
      cases z with
      | ofNat n => simp [ofValue, value, Decimal.valueOf_digits]
      | negSucc n => simp [ofValue, value, Decimal.valueOf_digits, Int.negSucc_eq]
  | boolean b => rfl

/-- A value is written as its literal, which is valid. -/
theorem of_literal {column text : String} {v : Value} (h : Query.literal column v = .ok text) :
    (ofValue v).IsValid ∧ text.toList = (ofValue v).chars := by
  cases v with
  | text s =>
      simp only [Query.literal] at h
      split at h
      · cases h
      · rename_i hempty
        split at h
        · cases h
        · rename_i hquote
          cases h
          refine ⟨⟨?_, ?_⟩, ?_⟩
          · simpa using hempty
          · simpa using hquote
          · simp [ofValue, chars, String.toList_append]
  | integer z =>
      cases h
      cases z with
      | ofNat n => exact ⟨digits_form_number n, String.toList_ofList⟩
      | negSucc n =>
          refine ⟨digits_form_number (n + 1), ?_⟩
          simp [ofValue, chars, Decimal.intText, Decimal.text, String.toList_append]
  | boolean b =>
      cases h
      cases b <;> exact ⟨trivial, rfl⟩

end Literal

def whole (negative : Bool) (cs : List Char) : Option (Literal × List Char) :=
  (run Decimal.isDigit cs).map fun found => (.whole negative found.1, found.2)

def quoted (cs : List Char) : Option (Literal × List Char) := do
  let (s, rest) ← run (· != '"') cs
  let rest ← expect "\"" rest
  return (.quoted (String.ofList s), rest)

def literal : List Char → Option (Literal × List Char)
  | [] => none
  | c :: cs =>
      if c = '"' then quoted cs
      else if c = '-' then whole true cs
      else if c = 't' then (expect "rue" cs).map (.truth true, ·)
      else if c = 'f' then (expect "alse" cs).map (.truth false, ·)
      else whole false (c :: cs)

theorem whole_append (negative : Bool) {ds rest : List Char}
    (hds : ds ≠ [] ∧ ∀ c ∈ ds, Decimal.isDigit c = true) (hr : Stops Decimal.isDigit rest) :
    whole negative (ds ++ rest) = some (.whole negative ds, rest) := by
  have hrun := (run_reads _).back ds rest hds hr
  rw [whole, hrun, Option.map_some]

theorem whole_sound {negative : Bool} {cs rest : List Char} {l : Literal}
    (h : whole negative cs = some (l, rest)) :
    ∃ ds, l = .whole negative ds ∧ l.IsValid ∧ cs = ds ++ rest := by
  obtain ⟨⟨ds, left⟩, hrun, heq⟩ := Option.map_eq_some_iff.mp h
  obtain ⟨hvalid, hcs⟩ := (run_reads _).sound cs ds left hrun
  cases heq
  exact ⟨ds, rfl, hvalid, hcs⟩

theorem quoted_append {s : String} (hs : (Literal.quoted s).IsValid) (rest : List Char) :
    quoted (s.toList ++ '"' :: rest) = some (.quoted s, rest) := by
  have hall : ∀ c ∈ s.toList, (c != '"') = true := by
    intro c hc
    rw [bne_iff_ne]
    rintro rfl
    exact hs.2 hc
  have hrun := (run_reads (· != '"')).back s.toList ('"' :: rest) ⟨hs.1, hall⟩
    (stops_cons rfl rest)
  have hmark : expect "\"" ('"' :: rest) = some rest := expect_append "\"" rest
  simp [quoted, hrun, hmark]

theorem quoted_sound {cs rest : List Char} {l : Literal} (h : quoted cs = some (l, rest)) :
    l.IsValid ∧ '"' :: cs = l.chars ++ rest := by
  simp only [quoted, Option.bind_eq_bind, Option.bind_eq_some_iff] at h
  obtain ⟨⟨s, left⟩, hrun, next, hmark, heq⟩ := h
  obtain ⟨⟨hne, hall⟩, hcs⟩ := (run_reads _).sound cs s left hrun
  have hleft := (expect_eq_some_iff _ _ _).mp hmark
  cases heq
  refine ⟨⟨?_, ?_⟩, ?_⟩
  · rw [String.toList_ofList]
    exact hne
  · rw [String.toList_ofList]
    intro hmem
    have hquote := hall _ hmem
    simp at hquote
  · dsimp only at hleft
    rw [hcs, hleft]
    simp [Literal.chars]

theorem literal_of_isDigit {c : Char} (h : Decimal.isDigit c = true) (cs : List Char) :
    literal (c :: cs) = whole false (c :: cs) := by
  have hne : ∀ d, Decimal.isDigit d = false → c ≠ d := by
    rintro d hd rfl
    rw [h] at hd
    cases hd
  rw [literal, if_neg (hne _ rfl), if_neg (hne _ rfl), if_neg (hne _ rfl), if_neg (hne _ rfl)]

theorem literal_reads :
    Reads literal Literal.chars Literal.IsValid (Stops Decimal.isDigit) where
  back l rest hl hr := by
    cases l with
    | quoted s => simpa [Literal.chars, literal] using quoted_append hl rest
    | whole negative ds =>
        have hread := whole_append negative hl hr
        cases negative with
        | true => simpa [Literal.chars, literal] using hread
        | false =>
            cases ds with
            | nil => exact absurd rfl hl.1
            | cons d ds =>
                have hd := hl.2 d List.mem_cons_self
                exact (literal_of_isDigit hd (ds ++ rest)).trans hread
    | truth b =>
        cases b with
        | true => simpa [Literal.chars, literal] using expect_append "rue" rest
        | false => simpa [Literal.chars, literal] using expect_append "alse" rest
  sound cs l rest h := by
    cases cs with
    | nil => cases h
    | cons c cs =>
        rw [literal] at h
        split_ifs at h with hquote hminus htrue hfalse
        · rw [hquote]
          exact quoted_sound h
        · obtain ⟨ds, rfl, hvalid, hcs⟩ := whole_sound h
          exact ⟨hvalid, by rw [hminus, hcs]; rfl⟩
        · obtain ⟨left, hmark, heq⟩ := Option.map_eq_some_iff.mp h
          cases heq
          exact ⟨trivial, by rw [htrue, (expect_eq_some_iff _ _ _).mp hmark]; rfl⟩
        · obtain ⟨left, hmark, heq⟩ := Option.map_eq_some_iff.mp h
          cases heq
          exact ⟨trivial, by rw [hfalse, (expect_eq_some_iff _ _ _).mp hmark]; rfl⟩
        · obtain ⟨ds, rfl, hvalid, hcs⟩ := whole_sound h
          exact ⟨hvalid, hcs⟩

structure Pair where
  column : String
  literal : Literal
  deriving DecidableEq, Repr

namespace Pair

def chars (p : Pair) : List Char := p.column.toList ++ (": ".toList ++ p.literal.chars)

structure IsValid (p : Pair) : Prop where
  column : Identifier.isWord p.column = true
  literal : p.literal.IsValid

def meaning (p : Pair) : String × Option Value := (p.column, some p.literal.value)

end Pair

def pair (cs : List Char) : Option (Pair × List Char) := do
  let (column, rest) ← word cs
  let rest ← expect ": " rest
  let (value, rest) ← literal rest
  return (⟨column, value⟩, rest)

theorem pair_reads : Reads pair Pair.chars Pair.IsValid (Stops Decimal.isDigit) where
  back p rest hp hr := by
    have hword := word_reads.back p.column (": ".toList ++ (p.literal.chars ++ rest)) hp.column
      (stops_mark rfl _)
    have hliteral := literal_reads.back p.literal rest hp.literal hr
    simp [pair, Pair.chars, -String.reduceToList, hword, expect_append, hliteral]
  sound cs p rest h := by
    simp only [pair, Option.bind_eq_bind, Option.bind_eq_some_iff] at h
    obtain ⟨⟨column, colon⟩, hword, next, hmark, ⟨value, left⟩, hliteral, heq⟩ := h
    obtain ⟨hcolumn, hcs⟩ := word_reads.sound cs column colon hword
    obtain ⟨hvalue, hnext⟩ := literal_reads.sound next value left hliteral
    rw [expect_eq_some_iff] at hmark
    cases heq
    refine ⟨⟨hcolumn, hvalue⟩, ?_⟩
    dsimp only at hmark ⊢
    rw [hcs, hmark, hnext, Pair.chars, List.append_assoc, List.append_assoc]

theorem pair_eq_none {cs : List Char} (h : Stops Identifier.isPart cs) : pair cs = none := by
  simp [pair, word_eq_none h]

theorem pair_chars_ne_nil (p : Pair) : p.chars ≠ [] := by
  simp [Pair.chars]

structure InsertText where
  pairs : List Pair
  table : String
  deriving DecidableEq, Repr

namespace InsertText

def chars (t : InsertText) : List Char :=
  "mete \x7b ".toList ++ (", ".toList.intercalate (t.pairs.map Pair.chars) ++
    (" \x7d en ".toList ++ (t.table.toList ++ " pe".toList)))

structure IsValid (t : InsertText) : Prop where
  pairs : ∀ p ∈ t.pairs, p.IsValid
  table : Identifier.isWord t.table = true

end InsertText

def pairList (cs : List Char) : Option (List Pair × List Char) :=
  some (listed pair ", " cs.length cs)

theorem pairList_reads :
    Reads pairList (fun ps => ", ".toList.intercalate (ps.map Pair.chars))
      (fun ps => ∀ p ∈ ps, p.IsValid)
      (fun rest => Stops Decimal.isDigit rest ∧ Ends pair ", " rest) :=
  listed_reads pair_reads (fun p _ => pair_chars_ne_nil p) (stops_mark rfl)

theorem pairs_end (rest : List Char) : Ends pair ", " (" \x7d en ".toList ++ rest) where
  here := pair_eq_none (stops_mark rfl rest)
  beyond next h := by
    simp at h

def readInsert (cs : List Char) : Option InsertText := do
  let rest ← expect "mete \x7b " cs
  let (pairs, rest) ← pairList rest
  let rest ← expect " \x7d en " rest
  let (table, rest) ← word rest
  let rest ← expect " pe" rest
  if rest.isEmpty then some ⟨pairs, table⟩ else none

theorem readInsert_chars {t : InsertText} (h : t.IsValid) : readInsert t.chars = some t := by
  have hpairs := pairList_reads.back t.pairs
    (" \x7d en ".toList ++ (t.table.toList ++ " pe".toList)) h.pairs
    ⟨stops_mark rfl _, pairs_end _⟩
  have htable := word_reads.back t.table (" pe".toList ++ []) h.table (stops_mark rfl [])
  have hpe := expect_append " pe" []
  rw [List.append_nil] at htable
  rw [List.append_nil] at hpe
  unfold readInsert InsertText.chars
  simp only [Option.bind_eq_bind]
  rw [expect_append, Option.bind_some, hpairs, Option.bind_some]
  dsimp only
  rw [expect_append, Option.bind_some, htable, Option.bind_some]
  dsimp only
  rw [hpe, Option.bind_some]
  rfl

theorem readInsert_sound {cs : List Char} {t : InsertText} (h : readInsert cs = some t) :
    t.IsValid ∧ t.chars = cs := by
  simp only [readInsert, Option.bind_eq_bind, Option.bind_eq_some_iff] at h
  obtain ⟨body, hopen, ⟨pairs, close⟩, hlist, named, hclose, ⟨table, final⟩, hword, rest, hpe,
    h⟩ := h
  obtain ⟨hpairs, hbody⟩ := pairList_reads.sound body pairs close hlist
  obtain ⟨htable, hnamed⟩ := word_reads.sound named table final hword
  rw [expect_eq_some_iff] at hopen hclose hpe
  split_ifs at h with hrest
  cases h
  rw [List.isEmpty_iff] at hrest
  refine ⟨⟨hpairs, htable⟩, ?_⟩
  dsimp only at hclose hpe
  rw [hrest, List.append_nil] at hpe
  rw [hopen, hbody, hclose, hnamed, hpe]
  rfl

/-- A text is read as an insert statement exactly when it is the text of that statement. -/
theorem readInsert_eq_some_iff (cs : List Char) (t : InsertText) :
    readInsert cs = some t ↔ t.IsValid ∧ t.chars = cs := by
  constructor
  · exact readInsert_sound
  · rintro ⟨hvalid, rfl⟩
    exact readInsert_chars hvalid

end BulkLoad.Statement

namespace BulkLoad.Query
open Statement

def filled (r : Record) (c : Column) : String × Option Value :=
  (c.name, (r.get? c.name).map (Value.ofRaw c.type))

theorem pair_eq_ok {r : Record} {c : Column} {text : String} (h : Query.pair r c = .ok text)
    (hname : Identifier.isValid c.name = true) :
    ∃ p : Pair, p.IsValid ∧ text.toList = p.chars ∧ p.meaning = filled r c := by
  unfold Query.pair at h
  cases hraw : r.get? c.name with
  | none => simp [hraw] at h
  | some raw =>
      simp only [hraw] at h
      cases hliteral : Query.literal c.name (.ofRaw c.type raw) with
      | error fault =>
          rw [hliteral] at h
          cases h
      | ok value =>
          rw [hliteral] at h
          cases h
          obtain ⟨hvalid, hchars⟩ := Literal.of_literal hliteral
          refine ⟨⟨c.name, .ofValue (.ofRaw c.type raw)⟩, ⟨isWord_of_isValid hname, hvalid⟩, ?_, ?_⟩
          · rw [String.toList_append, String.toList_append, hchars, List.append_assoc]
            rfl
          · rw [Pair.meaning, filled, hraw, Literal.value_ofValue]
            rfl

theorem pairs_eq_ok {r : Record} {columns : List Column} {texts : List String}
    (h : Query.pairs r columns = .ok texts)
    (hnames : ∀ c ∈ columns, Identifier.isValid c.name = true) :
    ∃ ps : List Pair, (∀ p ∈ ps, p.IsValid) ∧ texts.map String.toList = ps.map Pair.chars ∧
      ps.map Pair.meaning = columns.map (filled r) := by
  induction columns generalizing texts with
  | nil =>
      cases h
      exact ⟨[], by simp, rfl, rfl⟩
  | cons c rest ih =>
      unfold Query.pairs at h
      cases hpair : Query.pair r c with
      | error fault => simp [hpair] at h
      | ok text =>
          simp only [hpair] at h
          cases hrest : Query.pairs r rest with
          | error fault =>
              rw [hrest] at h
              cases h
          | ok others =>
              rw [hrest] at h
              cases h
              obtain ⟨p, hp, htext, hmeaning⟩ := pair_eq_ok hpair (hnames c List.mem_cons_self)
              obtain ⟨ps, hps, htexts, hmeanings⟩ :=
                ih hrest fun d hd => hnames d (List.mem_cons_of_mem c hd)
              refine ⟨p :: ps, ?_, ?_, ?_⟩
              · intro x hx
                rcases List.mem_cons.mp hx with rfl | hx
                · exact hp
                · exact hps x hx
              · rw [List.map_cons, List.map_cons, htext, htexts]
              · rw [List.map_cons, List.map_cons, hmeaning, hmeanings]

theorem dataColumns_isValid (s : Schema) :
    ∀ c ∈ s.dataColumns, Identifier.isValid c.name = true := by
  intro c hc
  exact (Schema.columns_sound s).named c (List.mem_of_mem_filter hc)

/-- The statement of a record has a tree: the table, and the values that the record fills. -/
theorem insert_eq_ok {s : Schema} {table : String} {r : Record} {q : Query}
    (h : Query.insert s table r = .ok q) (htable : Identifier.isValid table = true) :
    ∃ t : InsertText, t.IsValid ∧ t.chars = q.text.toList ∧ t.table = table ∧
      t.pairs.map Pair.meaning = s.dataColumns.map (filled r) := by
  unfold Query.insert at h
  cases hpairs : Query.pairs r s.dataColumns with
  | error fault =>
      rw [hpairs] at h
      cases h
  | ok texts =>
      rw [hpairs] at h
      cases h
      obtain ⟨ps, hps, htexts, hmeanings⟩ := pairs_eq_ok hpairs (dataColumns_isValid s)
      refine ⟨⟨ps, table⟩, ⟨hps, isWord_of_isValid htable⟩, ?_, rfl, hmeanings⟩
      unfold InsertText.chars joinWith
      simp only [String.toList_append, String.toList_intercalate, htexts, List.append_assoc]

/-- An insert statement is read back in exactly one way, as its table and the value of every column
that records fill. So statements with one text say the same. -/
theorem insert_read_back (s : Schema) (table : String) (r : Record) (q : Query)
    (htable : Identifier.isValid table = true) (h : Query.insert s table r = .ok q) :
    ∃ t, readInsert q.text.toList = some t ∧
      (∀ u : InsertText, u.IsValid ∧ u.chars = q.text.toList ↔ u = t) ∧
      t.table = table ∧ t.pairs.map Pair.meaning = s.dataColumns.map (filled r) ∧
      ∀ s' table' r', Identifier.isValid table' = true → Query.insert s' table' r' = .ok q →
        table' = table ∧ s'.dataColumns.map (filled r') = s.dataColumns.map (filled r) := by
  obtain ⟨t, hvalid, hchars, htab, hmeanings⟩ := insert_eq_ok h htable
  have hread := (readInsert_eq_some_iff q.text.toList t).mpr ⟨hvalid, hchars⟩
  have honly := only_tree readInsert_eq_some_iff hread
  refine ⟨t, hread, honly, htab, hmeanings, ?_⟩
  intro s' table' r' htable' h'
  obtain ⟨u, huvalid, huchars, hutab, humeanings⟩ := insert_eq_ok h' htable'
  have heq := (honly u).mp ⟨huvalid, huchars⟩
  rw [heq] at hutab humeanings
  exact ⟨hutab.symm.trans htab, humeanings.symm.trans hmeanings⟩

def smallSchema : Schema where
  columns :=
    [⟨"id", .int, true, false⟩, .plain "nombre" (.char 255), .plain "creditos" .int,
      .plain "es_tercio" .bool]
  sound := by decide

/-- A text that looks like the end of the statement around it. -/
def mimicText : String := "a, creditos: 7 \x7d en otra pe\nñ"

def mimicRecord : Record :=
  ⟨1, [("es_tercio", "si"), ("creditos", " -012 "), ("nombre", mimicText)]⟩

def mimicQuery : Query :=
  ⟨"mete \x7b nombre: \"a, creditos: 7 \x7d en otra pe\nñ\", creditos: -12, " ++
    "es_tercio: false \x7d en alumnos pe"⟩

theorem insert_read_back_mimic :
    Query.insert smallSchema "alumnos" mimicRecord = .ok mimicQuery ∧
      ∃ t, readInsert mimicQuery.text.toList = some t ∧ t.table = "alumnos" ∧
        t.pairs.map Pair.meaning =
          [("nombre", some (.text mimicText)), ("creditos", some (.integer (-12))),
            ("es_tercio", some (.boolean false))] := by
  have hinsert : Query.insert smallSchema "alumnos" mimicRecord = .ok mimicQuery := by
    decide +kernel
  obtain ⟨t, hread, -, htable, hmeanings, -⟩ :=
    insert_read_back smallSchema "alumnos" mimicRecord mimicQuery (by decide) hinsert
  refine ⟨hinsert, t, hread, htable, ?_⟩
  rw [hmeanings]
  decide +kernel

end BulkLoad.Query
