import BulkLoad.Load.Files
import BulkLoad.Proofs.Source.Blocks
import BulkLoad.Proofs.Workspace.Frame

/-!
The standard input, and the pieces in which it comes.

The pieces decide what the sample is, and so what is found out from it. Where delimiter and encoding
are given and no mark stands in front of the text, they make no other difference.
-/
namespace BulkLoad

open BulkLoad.Stream (Feed Gives)
open Encoding (Sniffing)

namespace Workspace

theorem pieceAt_spec (pieces : List (List UInt8)) (position room : Nat) :
    pieceAt position room pieces <+: pieces.flatten.drop position ∧
      (pieceAt position room pieces).length ≤ room ∧
      (pieceAt position room pieces = [] → 0 < room → pieces.flatten.length ≤ position) := by
  induction pieces generalizing position with
  | nil => exact ⟨List.nil_prefix, Nat.zero_le _, fun _ _ => Nat.zero_le _⟩
  | cons piece rest ih =>
      rw [pieceAt, List.flatten_cons]
      split_ifs with h
      · refine ⟨?_, ?_, ?_⟩
        · rw [List.drop_append_of_le_length (Nat.le_of_lt h)]
          exact (List.take_prefix _ _).trans (List.prefix_append _ _)
        · exact List.length_take_le _ _
        · intro hnil hroom
          have hlength := congrArg List.length hnil
          simp only [List.length_take, List.length_drop, List.length_nil] at hlength
          omega
      · have hbeyond : (piece ++ rest.flatten).drop position =
            rest.flatten.drop (position - piece.length) := by
          rw [List.drop_append, List.drop_eq_nil_of_le (by omega), List.nil_append]
        obtain ⟨hfront, hlength, hend⟩ := ih (position - piece.length)
        refine ⟨hbeyond ▸ hfront, hlength, fun hnil hroom => ?_⟩
        have hshort := hend hnil hroom
        rw [List.length_append]
        omega

theorem endsBy_extent (w : Workspace) (h : Handle) : Stream.EndsBy (w.block h) (w.extent h) := by
  intro position hpast b rest hread
  unfold block Stream.answerOf at hread
  cases hanswer : w.readAt h position Source.sampleSize with
  | error fault => simp only [hanswer, reduceCtorEq] at hread
  | ok bytes =>
      simp only [hanswer, Except.ok.injEq] at hread
      exact w.readAt_past hpast _ b rest (hanswer.trans (congrArg Except.ok hread))

variable {w : Workspace} {position : Nat} {feed : Feed}

/-- What the standard input gives without a break. -/
theorem gives_unbroken (hbreak : w.breakOf? (.device .input) = none)
    (h : Gives (w.block (.device .input)) position feed) :
    feed.bytes = w.input.flatten.drop position ∧ feed.failure = none := by
  have hread (position : Nat) : w.block (.device .input) position =
      .ok (pieceAt position Source.sampleSize w.input) := by
    simp only [block, readAt, hbreak]
    rfl
  induction h with
  | @ended position h =>
      rw [hread, Except.ok.injEq] at h
      have hend := (pieceAt_spec w.input position Source.sampleSize).2.2 h (by decide)
      exact ⟨(List.drop_eq_nil_of_le hend).symm, rfl⟩
  | failed h =>
      rw [hread] at h
      cases h
  | @block position block later hblock h _ ih =>
      rw [hread, Except.ok.injEq] at h
      obtain ⟨rest, hrest⟩ := (pieceAt_spec w.input position Source.sampleSize).1
      rw [h] at hrest
      have hdrop : rest = w.input.flatten.drop (position + block.length) := by
        rw [← List.drop_drop, ← hrest, List.drop_left]
      refine ⟨?_, ih.2⟩
      rw [← hrest, hdrop, ← ih.1]
      rfl

/-- What the standard input gives up to a break. -/
theorem gives_broken {after : Nat} {fault : FileFault}
    (hbreak : w.breakOf? (.device .input) = some (after, fault)) (hplace : position ≤ after)
    (hwithin : position ≤ w.input.flatten.length)
    (h : Gives (w.block (.device .input)) position feed) :
    feed.bytes = (w.input.flatten.take after).drop position ∧
      feed.failure = if after ≤ w.input.flatten.length then some fault.message else none := by
  have hread (position : Nat) : w.block (.device .input) position =
      if after ≤ position then .error fault.message
      else .ok (pieceAt position (min Source.sampleSize (after - position)) w.input) := by
    simp only [block, readAt, hbreak]
    split_ifs <;> rfl
  induction h with
  | @ended position h =>
      rw [hread] at h
      split_ifs at h with hpast
      rw [Except.ok.injEq] at h
      have hend := (pieceAt_spec w.input position _).2.2 h
        (Nat.lt_min.mpr ⟨by decide, by omega⟩)
      refine ⟨(List.drop_eq_nil_of_le ?_).symm, (if_neg (by omega)).symm⟩
      rw [List.length_take]
      omega
  | @failed position message h =>
      rw [hread] at h
      split_ifs at h with hpast
      cases h
      refine ⟨(List.drop_eq_nil_of_le ?_).symm, (if_pos (by omega)).symm⟩
      rw [List.length_take]
      omega
  | @block position block later hblock h _ ih =>
      rw [hread] at h
      split_ifs at h with hpast
      rw [Except.ok.injEq] at h
      obtain ⟨⟨rest, hrest⟩, hlength, -⟩ := pieceAt_spec w.input position
        (min Source.sampleSize (after - position))
      rw [h] at hrest hlength
      have hdrop : rest = w.input.flatten.drop (position + block.length) := by
        rw [← List.drop_drop, ← hrest, List.drop_left]
      have hsplit := congrArg List.length hrest
      rw [List.length_append, List.length_drop] at hsplit
      obtain ⟨hbytes, hfailure⟩ := ih (by omega) (by omega)
      refine ⟨?_, hfailure⟩
      have htake : (w.input.flatten.take after).drop position =
          block ++ (w.input.flatten.take after).drop (position + block.length) := by
        rw [List.drop_take, List.drop_take, ← hdrop, ← hrest, List.take_append,
          List.take_of_length_le (by omega), Nat.sub_sub]
      rw [htake, ← hbytes]
      rfl

/-- Another delivery of the standard input gives the same bytes and the same failure. -/
theorem gives_withInput {pieces : List (List UInt8)} (hflatten : pieces.flatten = w.input.flatten)
    {other : Feed} (h : Gives (w.block (.device .input)) 0 feed)
    (hother : Gives ((w.withInput pieces).block (.device .input)) 0 other) :
    other.bytes = feed.bytes ∧ other.failure = feed.failure ∧ feed.bytes <+: w.input.flatten ∧
      (feed.failure = none → feed.bytes = w.input.flatten) := by
  have hinput : (w.withInput pieces).input.flatten = w.input.flatten := hflatten
  cases hbreak : w.breakOf? (.device .input) with
  | none =>
      obtain ⟨hbytes, hfailure⟩ := gives_unbroken hbreak h
      obtain ⟨hbytes', hfailure'⟩ :=
        gives_unbroken (w := w.withInput pieces) hbreak hother
      rw [hinput] at hbytes'
      rw [List.drop_zero] at hbytes hbytes'
      exact ⟨hbytes'.trans hbytes.symm, hfailure'.trans hfailure.symm, hbytes ▸ List.prefix_rfl,
        fun _ => hbytes⟩
  | some stop =>
      obtain ⟨after, fault⟩ := stop
      obtain ⟨hbytes, hfailure⟩ := gives_broken hbreak (Nat.zero_le _) (Nat.zero_le _) h
      obtain ⟨hbytes', hfailure'⟩ :=
        gives_broken (w := w.withInput pieces) hbreak (Nat.zero_le _) (Nat.zero_le _) hother
      rw [hinput] at hbytes' hfailure'
      rw [List.drop_zero] at hbytes hbytes'
      refine ⟨hbytes'.trans hbytes.symm, hfailure'.trans hfailure.symm,
        hbytes ▸ List.take_prefix _ _, fun hnone => ?_⟩
      rw [hnone] at hfailure
      split_ifs at hfailure with hshort
      rw [hbytes, List.take_of_length_le (by omega)]

end Workspace

theorem Stream.Gives.ne_nil {read : Nat → Stream.Answer} {position : Nat} {feed : Feed}
    (h : Gives read position feed) : ∀ piece ∈ feed.pieces, piece ≠ [] := by
  induction h with
  | ended _ | failed _ => simp
  | block hblock _ _ ih => exact List.forall_mem_cons.mpr ⟨hblock, ih⟩

theorem Stream.Feed.pieces_eq_nil_iff {feed : Feed} (h : ∀ piece ∈ feed.pieces, piece ≠ []) :
    feed.pieces = [] ↔ feed.bytes = [] := by
  constructor
  · intro hnil
    rw [Feed.bytes, hnil, List.flatten_nil]
  · intro hnil
    refine List.eq_nil_iff_forall_not_mem.mpr fun piece hmem => h piece hmem ?_
    exact List.flatten_eq_nil_iff.mp hnil piece hmem

namespace Source

variable [Encoding.EastAsian.Decoders]

/-- The text of a feed, complete or not, is decided by its bytes and its end. -/
theorem plainFeed_congr (encoding : Encoding) {feed other : Feed}
    (hbytes : other.bytes = feed.bytes) (hfailure : other.failure = feed.failure) :
    (plainFeed encoding other).bytes = (plainFeed encoding feed).bytes ∧
      (plainFeed encoding other).failure = (plainFeed encoding feed).failure := by
  cases hend : feed.failure with
  | none =>
      obtain ⟨hnone, htext⟩ := plainFeed_of_end encoding hend
      obtain ⟨hnone', htext'⟩ := plainFeed_of_end encoding (hfailure.trans hend)
      rw [htext, htext', hnone, hnone', hbytes]
      exact ⟨rfl, rfl⟩
  | some message =>
      obtain ⟨hsome, htext⟩ := plainFeed_of_failure encoding hend
      obtain ⟨hsome', htext'⟩ := plainFeed_of_failure encoding (hfailure.trans hend)
      rw [htext, htext', hsome, hsome', hbytes]
      exact ⟨rfl, rfl⟩

/-- Nothing that arrives of an input is not in its text. -/
theorem plainFeed_front (encoding : Encoding) {feed : Feed} {content : List UInt8}
    (hfront : feed.bytes <+: content) (hwhole : feed.failure = none → feed.bytes = content) :
    (plainFeed encoding feed).bytes <+: textBytes encoding content := by
  cases hend : feed.failure with
  | none =>
      have htext : (plainFeed encoding feed).bytes = textBytes encoding content := by
        rw [(plainFeed_of_end encoding hend).2, hwhole hend]
      exact htext ▸ List.prefix_rfl
  | some message =>
      rw [(plainFeed_of_failure encoding hend).2]
      obtain ⟨back, rfl⟩ := hfront
      cases encoding with
      | utf8 => exact List.prefix_append _ _
      | utf16 _ | codePage _ | eastAsian _ | replacement | userDefined =>
          simp only [textSoFar, textBytes, ← Encoding.decode_eq_wholeText]
          change _ <+: Encoding.Utf8.encode (Sniffing.text _ (.undecided []) _)
          rw [Sniffing.text_append, Encoding.Utf8.encode_append]
          exact List.prefix_append _ _

/-- Where everything is given, a text without a mark in front is opened alike in whatever pieces it
comes. -/
theorem ofFeed_congr {delimiter : Char} {label : String} {feed other : Feed}
    (hpieces : ∀ piece ∈ feed.pieces, piece ≠ []) (hpieces' : ∀ piece ∈ other.pieces, piece ≠ [])
    (hbytes : other.bytes = feed.bytes) (hfailure : other.failure = feed.failure)
    (hmark : ¬ Delimited.mark <+: (plainFeed (.ofLabel label) feed).bytes) :
    ofFeed ⟨some delimiter, some label⟩ other = ofFeed ⟨some delimiter, some label⟩ feed := by
  by_cases hnil : feed.pieces = []
  · have hnil' : other.pieces = [] := by
      rw [Feed.pieces_eq_nil_iff hpieces', hbytes, ← Feed.pieces_eq_nil_iff hpieces]
      exact hnil
    simp only [ofFeed, hnil, hnil', hfailure]
    cases feed.failure <;> rfl
  · have hnil' : other.pieces ≠ [] := by
      rw [Ne, Feed.pieces_eq_nil_iff hpieces', hbytes, ← Feed.pieces_eq_nil_iff hpieces]
      exact hnil
    by_cases hascii : delimiter.toNat < 0x80
    · obtain ⟨htext, hend⟩ := plainFeed_congr (.ofLabel label) hbytes hfailure
      have hread (feed : Feed)
          (hmark : ¬ Delimited.mark <+: (plainFeed (.ofLabel label) feed).bytes) :
          textFeed (.ofLabel label) feed = plainFeed (.ofLabel label) feed :=
        (textFeed_eq _ feed).trans (Delimited.asRead_of_head_ne (Delimited.head_ne_mark hmark))
      have hmark' := htext ▸ hmark
      rw [ofFeed_of_given hascii label hnil, ofFeed_of_given hascii label hnil']
      simp only [hread feed hmark, hread other hmark', Delimited.rows,
        Delimited.unmarked_of_bytes hmark, Delimited.unmarked_of_bytes hmark', htext, hend]
    · have hbyte : delimiterByte? delimiter = none := if_neg hascii
      obtain ⟨sample, rest, hsample⟩ := List.exists_cons_of_ne_nil hnil
      obtain ⟨sample', rest', hsample'⟩ := List.exists_cons_of_ne_nil hnil'
      simp only [ofFeed, hsample, hsample', manner, delimiterOf, Option.getD_some, hbyte]

end Source

namespace Workspace

variable [Encoding.EastAsian.Decoders]

/-- Files that are the same, but for the pieces in which the standard input comes. If that is what
is read, then delimiter and encoding are given and no mark stands in front of its text, or the
pieces are the same too. -/
structure SameInput (options : SourceOptions) (handle : Handle) (w w' : Workspace) : Prop where
  files : w' = w.withInput w'.input
  bytes : w'.input.flatten = w.input.flatten
  given : handle = .device .input → w'.input = w.input ∨
    ∃ delimiter label, options = ⟨some delimiter, some label⟩ ∧
      ¬ Delimited.mark <+: Source.textBytes (.ofLabel label) w.input.flatten

namespace SameInput

variable {options : SourceOptions} {handle : Handle} {w w' : Workspace}

theorem refl (options : SourceOptions) (handle : Handle) (w : Workspace) :
    SameInput options handle w w :=
  ⟨rfl, rfl, fun _ => .inl rfl⟩

theorem extent (h : SameInput options handle w w') (file : Handle) :
    w'.extent file = w.extent file := by
  rw [h.files, Workspace.extent, held_withInput w h.bytes]
  rfl

/-- What is the same input is opened alike. -/
theorem feeds (h : SameInput options handle w w') :
    ∃ feed other, Gives (w.block handle) 0 feed ∧ Gives (w'.block handle) 0 other ∧
      feed.pieces.length ≤ w.extent handle ∧ other.pieces.length ≤ w.extent handle ∧
      Source.ofFeed options other = Source.ofFeed options feed := by
  obtain ⟨feed, hfeed, hlength⟩ := Gives.exists_of_endsBy (w.endsBy_extent handle) 0
  obtain ⟨other, hother, hlength'⟩ := Gives.exists_of_endsBy (w'.endsBy_extent handle) 0
  rw [Nat.sub_zero] at hlength hlength'
  rw [h.extent handle] at hlength'
  by_cases hinput : handle = .device .input
  · rcases h.given hinput with hpieces | ⟨delimiter, label, rfl, hmark⟩
    · have hsame : w' = w := by
        rw [h.files, hpieces]
        rfl
      rw [hsame]
      exact ⟨feed, feed, hfeed, hfeed, hlength, hlength, rfl⟩
    · subst hinput
      obtain ⟨hbytes, hfailure, hfront, hwhole⟩ :=
        gives_withInput h.bytes hfeed (h.files ▸ hother)
      refine ⟨feed, other, hfeed, hother, hlength, hlength', ?_⟩
      refine Source.ofFeed_congr hfeed.ne_nil hother.ne_nil hbytes hfailure fun hfirst => ?_
      exact hmark (hfirst.trans (Source.plainFeed_front _ hfront hwhole))
  · have hblock : w'.block handle = w.block handle := by
      funext position
      unfold block
      rw [h.files, readAt_withInput w _ hinput]
    exact ⟨feed, feed, hfeed, hblock ▸ hfeed, hlength, hlength, rfl⟩

end SameInput

end Workspace

end BulkLoad
