import BulkLoad.Encoding.Decoder
import Mathlib.Data.List.Basic

/-!
What a byte-order mark does to the text of an input, told without a decoder that waits for it.

An input that starts with a mark is text in the encoding that the mark announces, and the mark is no
part of that text. Any other input is text in the encoding that was asked for. The decoder, which
holds back bytes that may still become a mark, reads every input this way.
-/
namespace BulkLoad.Encoding

def announcement? (bytes : List UInt8) : Option (List UInt8 × Encoding) :=
  marks.find? fun mark => mark.1.isPrefixOf bytes

theorem marks_independent :
    ∀ mark ∈ marks, ∀ other ∈ marks, mark.1 <+: other.1 → mark = other := by
  decide

theorem announcement?_eq_some {bytes : List UInt8} {mark : List UInt8 × Encoding}
    (hmem : mark ∈ marks) (hfront : mark.1 <+: bytes) : announcement? bytes = some mark := by
  unfold announcement?
  cases hfound : marks.find? fun mark => mark.1.isPrefixOf bytes with
  | none =>
      have hnone := List.find?_eq_none.mp hfound mark hmem
      exact absurd (List.isPrefixOf_iff_prefix.mpr hfront) hnone
  | some other =>
      have hchecked : other.1.isPrefixOf bytes = true := by simpa using List.find?_some hfound
      have hother := List.isPrefixOf_iff_prefix.mp hchecked
      have hmem' := List.mem_of_find?_eq_some hfound
      rcases List.prefix_or_prefix_of_prefix hfront hother with h | h
      · rw [marks_independent mark hmem other hmem' h]
      · rw [marks_independent other hmem' mark hmem h]

theorem announcement?_eq_none {bytes : List UInt8}
    (h : ∀ mark ∈ marks, ¬ mark.1 <+: bytes) : announcement? bytes = none := by
  apply List.find?_eq_none.mpr
  intro mark hmem hfront
  exact h mark hmem (List.isPrefixOf_iff_prefix.mp hfront)

theorem not_mayBecomeMark {bytes : List UInt8} (h : mayBecomeMark bytes = false) :
    ∀ mark ∈ marks, ¬ bytes <+: mark.1 := by
  intro mark hmem hfront
  have hall := List.any_eq_false.mp h mark hmem
  exact hall (List.isPrefixOf_iff_prefix.mpr hfront)

variable [EastAsian.Decoders]

/-- The text of a whole input, the mark looked at first. -/
def wholeText (encoding : Encoding) (bytes : List UInt8) : List Char :=
  match announcement? bytes with
  | some mark => mark.2.machine.decode (bytes.drop mark.1.length)
  | none => encoding.machine.decode bytes

theorem wholeText_of_marked {encoding : Encoding} {mark : List UInt8 × Encoding}
    (hmem : mark ∈ marks) (rest : List UInt8) :
    wholeText encoding (mark.1 ++ rest) = mark.2.machine.decode rest := by
  rw [wholeText, announcement?_eq_some hmem (List.prefix_append mark.1 rest)]
  simp only [List.drop_left]

theorem wholeText_of_unmarked {encoding : Encoding} {bytes : List UInt8}
    (h : ∀ mark ∈ marks, ¬ mark.1 <+: bytes) :
    wholeText encoding bytes = encoding.machine.decode bytes := by
  rw [wholeText, announcement?_eq_none h]

theorem finish_start (encoding : Encoding) :
    encoding.machine.finish encoding.machine.start = [] := by
  cases encoding with
  | eastAsian set => exact EastAsian.Decoders.finish_start set
  | utf8 | utf16 _ | codePage _ | replacement | userDefined => rfl

theorem wholeText_nil (encoding : Encoding) : wholeText encoding [] = [] := by
  rw [wholeText_of_unmarked (by decide)]
  exact finish_start encoding

namespace Sniffing

def feed (encoding : Encoding) (s : Sniffing) (bytes : List UInt8) : Sniffing × List Char :=
  encoding.decoder.feed s bytes

theorem feed_cons (encoding : Encoding) (s : Sniffing) (b : UInt8) (rest : List UInt8) :
    feed encoding s (b :: rest) =
      ((feed encoding (step encoding s b).1 rest).1,
        (step encoding s b).2 ++ (feed encoding (step encoding s b).1 rest).2) :=
  encoding.decoder.feed_cons s b rest

theorem feed_append (encoding : Encoding) (s : Sniffing) (xs ys : List UInt8) :
    feed encoding s (xs ++ ys) =
      ((feed encoding (feed encoding s xs).1 ys).1,
        (feed encoding s xs).2 ++ (feed encoding (feed encoding s xs).1 ys).2) :=
  encoding.decoder.feed_append s xs ys

def text (encoding : Encoding) (s : Sniffing) (bytes : List UInt8) : List Char :=
  (feed encoding s bytes).2 ++ finish encoding (feed encoding s bytes).1

theorem text_nil (encoding : Encoding) (s : Sniffing) : text encoding s [] = finish encoding s :=
  rfl

theorem text_cons (encoding : Encoding) (s : Sniffing) (b : UInt8) (rest : List UInt8) :
    text encoding s (b :: rest) =
      (step encoding s b).2 ++ text encoding (step encoding s b).1 rest := by
  simp only [text, feed_cons, List.append_assoc]

theorem text_append (encoding : Encoding) (s : Sniffing) (xs ys : List UInt8) :
    text encoding s (xs ++ ys) =
      (feed encoding s xs).2 ++ text encoding (feed encoding s xs).1 ys := by
  simp only [text, feed_append, List.append_assoc]

theorem text_decided (encoding actual : Encoding) (state : actual.machine.State)
    (bytes : List UInt8) :
    text encoding (.decided actual state) bytes =
      (actual.machine.feed state bytes).2 ++
        actual.machine.finish (actual.machine.feed state bytes).1 := by
  induction bytes generalizing state with
  | nil => rfl
  | cons b rest ih =>
      rw [text_cons, Machine.feed_cons]
      simp only [step, ih, List.append_assoc]

/-- What is held back is no mark and does not start with one. From there the decoder gives the text
that looking at the mark first gives. -/
theorem text_undecided (encoding : Encoding) (held rest : List UInt8)
    (hheld : ∀ mark ∈ marks, ¬ mark.1 <+: held) :
    text encoding (.undecided held) rest = wholeText encoding (held ++ rest) := by
  induction rest generalizing held with
  | nil =>
      rw [List.append_nil, wholeText_of_unmarked hheld]
      rfl
  | cons b rest ih =>
      have hsplit : held ++ b :: rest = (held ++ [b]) ++ rest := by simp
      rw [text_cons, hsplit]
      cases hfound : marks.find? (·.1 == held ++ [b]) with
      | some mark =>
          have hmem := List.mem_of_find?_eq_some hfound
          have hmark : mark.1 = held ++ [b] := by simpa using List.find?_some hfound
          rw [← hmark, wholeText_of_marked hmem]
          simp only [step, hfound, List.nil_append, text_decided]
          rfl
      | none =>
          have hnot : ∀ mark ∈ marks, ¬ mark.1 <+: held ++ [b] := by
            intro mark hmem hfront
            rcases List.prefix_concat_iff.mp hfront with heq | hbefore
            · exact List.find?_eq_none.mp hfound mark hmem (by simp [heq])
            · exact hheld mark hmem hbefore
          cases hopen : mayBecomeMark (held ++ [b]) with
          | true =>
              simp only [step, hfound, hopen, if_true, List.nil_append]
              exact ih (held ++ [b]) hnot
          | false =>
              have hunmarked : ∀ mark ∈ marks, ¬ mark.1 <+: (held ++ [b]) ++ rest := by
                intro mark hmem hfront
                rcases List.prefix_or_prefix_of_prefix hfront
                  (List.prefix_append (held ++ [b]) rest) with h | h
                · exact hnot mark hmem h
                · exact not_mayBecomeMark hopen mark hmem h
              rw [wholeText_of_unmarked hunmarked, Machine.decode, Machine.feed_append]
              simp only [step, hfound, hopen, Bool.false_eq_true, if_false, release, text_decided,
                List.append_assoc]

end Sniffing

/-- Whatever an input cuts off is at most one replacement character; ISO-2022-JP reads the byte
behind a cut-off escape once more. -/
theorem finish_cases (encoding : Encoding) (state : encoding.machine.State) :
    encoding.machine.finish state = [] ∨ encoding.machine.finish state = [replacementChar] ∨
      encoding = .eastAsian .iso2022Jp ∧
        ∃ c, encoding.machine.finish state = [replacementChar, c] := by
  cases encoding with
  | utf8 =>
      cases state with
      | ready => exact .inl rfl
      | within more low high value => exact .inr (.inl rfl)
  | utf16 order =>
      change Utf16.finish state = [] ∨ Utf16.finish state = [replacementChar] ∨ _
      unfold Utf16.finish
      split
      · exact .inr (.inl rfl)
      · exact .inl rfl
  | codePage page | replacement | userDefined => exact .inl rfl
  | eastAsian set =>
      rcases EastAsian.Decoders.finish_cases set state with hnone | hone | ⟨rfl, htwo⟩
      · exact .inl hnone
      · exact .inr (.inl hone)
      · exact .inr (.inr ⟨rfl, htwo⟩)

/-- The decoder reads an input as its mark says. -/
theorem decode_eq_wholeText (encoding : Encoding) (bytes : List UInt8) :
    encoding.decode bytes = wholeText encoding bytes := by
  have h := Sniffing.text_undecided encoding [] bytes (by decide)
  exact h

end BulkLoad.Encoding
