import BulkLoad.Encoding.Utf8
import Mathlib.Data.List.Basic

/-!
Text written in UTF-8 and read back.

Every character is read back from its bytes, so every text is. A byte below 0x80 stands for the
ASCII character with its number and is no part of another character.
-/
namespace BulkLoad.Encoding.Utf8

theorem encode_nil : encode [] = [] := rfl

theorem encode_cons (c : Char) (cs : List Char) : encode (c :: cs) = encodeChar c ++ encode cs :=
  rfl

theorem encode_append (cs ds : List Char) : encode (cs ++ ds) = encode cs ++ encode ds :=
  List.flatMap_append

theorem encodeText_append (a b : String) : encodeText (a ++ b) = encodeText a ++ encodeText b := by
  rw [encodeText, String.toList_append, encode_append]
  rfl

theorem encodeChar_of_ascii {c : Char} (h : c.toNat < 0x80) : encodeChar c = [c.toNat.toUInt8] := by
  simp only [encodeChar, if_pos h]

theorem char_toNat_bounds (c : Char) :
    c.toNat < 0xD800 ∨ 0xDFFF < c.toNat ∧ c.toNat < 0x110000 := c.valid

theorem byte_toNat {n : Nat} (h : n < 0x100) : n.toUInt8.toNat = n := by
  simpa using Nat.mod_eq_of_lt h

/-- A byte of a character beyond ASCII is at least 0x80. -/
theorem le_of_mem_encodeChar {c : Char} (h : 0x80 ≤ c.toNat) :
    ∀ b ∈ encodeChar c, 0x80 ≤ b := by
  have hlead : ∀ n : Nat, 0x80 ≤ n → n < 0x100 → (0x80 : UInt8) ≤ n.toUInt8 := by
    intro n hlow hhigh
    rw [UInt8.le_iff_toNat_le, byte_toNat hhigh]
    exact hlow
  have hbounds := char_toNat_bounds c
  unfold encodeChar
  simp only [if_neg (Nat.not_lt.mpr h)]
  split
  · simp only [List.mem_cons, List.not_mem_nil, or_false, forall_eq_or_imp, forall_eq]
    exact ⟨hlead _ (by omega) (by omega), hlead _ (by omega) (by omega)⟩
  split
  · simp only [List.mem_cons, List.not_mem_nil, or_false, forall_eq_or_imp, forall_eq]
    exact ⟨hlead _ (by omega) (by omega), hlead _ (by omega) (by omega),
      hlead _ (by omega) (by omega)⟩
  · simp only [List.mem_cons, List.not_mem_nil, or_false, forall_eq_or_imp, forall_eq]
    exact ⟨hlead _ (by omega) (by omega), hlead _ (by omega) (by omega),
      hlead _ (by omega) (by omega), hlead _ (by omega) (by omega)⟩

/-- The bytes above those of characters, among them those of the marks of UTF-16, are not used. -/
theorem lt_of_mem_encodeChar {c : Char} : ∀ b ∈ encodeChar c, b < 0xF8 := by
  have hbounds := char_toNat_bounds c
  have hbyte : ∀ n < 0xF8, n.toUInt8 < (0xF8 : UInt8) := by
    intro n hn
    rw [UInt8.lt_iff_toNat_lt, byte_toNat (Nat.lt_trans hn (by decide))]
    exact hn
  unfold encodeChar
  dsimp only
  split_ifs <;> simp only [List.mem_cons, List.not_mem_nil, or_false, forall_eq_or_imp, forall_eq]
  · exact hbyte _ (by omega)
  · exact ⟨hbyte _ (by omega), hbyte _ (by omega)⟩
  · exact ⟨hbyte _ (by omega), hbyte _ (by omega), hbyte _ (by omega)⟩
  · exact ⟨hbyte _ (by omega), hbyte _ (by omega), hbyte _ (by omega), hbyte _ (by omega)⟩

/-- An ASCII byte of a character is the whole character. -/
theorem eq_of_mem_encodeChar {c : Char} {b : UInt8} (hmem : b ∈ encodeChar c) (h : b < 0x80) :
    c = Char.ofNat b.toNat := by
  rcases Nat.lt_or_ge c.toNat 0x80 with hascii | hwide
  · rw [encodeChar_of_ascii hascii, List.mem_singleton] at hmem
    rw [hmem, byte_toNat (Nat.lt_trans hascii (by decide)), Char.ofNat_toNat]
  · exact absurd h (UInt8.not_lt.mpr (le_of_mem_encodeChar hwide b hmem))

theorem encodeChar_ne_nil (c : Char) : encodeChar c ≠ [] := by
  unfold encodeChar
  dsimp only
  split_ifs <;> exact List.cons_ne_nil _ _

theorem encode_ne_nil {cs : List Char} (h : cs ≠ []) : encode cs ≠ [] := by
  obtain ⟨c, rest, rfl⟩ := List.exists_cons_of_ne_nil h
  simp [encode_cons, encodeChar_ne_nil]

section Spans

variable {p : UInt8 → Bool} {q : Char → Bool} (h : ∀ c, ∀ b ∈ encodeChar c, p b = q c)
include h

theorem takeWhile_encode (cs : List Char) : (encode cs).takeWhile p = encode (cs.takeWhile q) := by
  induction cs with
  | nil => rfl
  | cons c rest ih =>
      rw [encode_cons]
      cases hc : q c with
      | true =>
          rw [List.takeWhile_append_of_pos fun b hb => (h c b hb).trans hc, ih,
            List.takeWhile_cons_of_pos hc, encode_cons]
      | false =>
          obtain ⟨b, bytes, hbytes⟩ := List.exists_cons_of_ne_nil (encodeChar_ne_nil c)
          have hb : p b = false := (h c b (by simp [hbytes])).trans hc
          simp [hbytes, hb, hc, encode]

theorem dropWhile_encode (cs : List Char) : (encode cs).dropWhile p = encode (cs.dropWhile q) := by
  induction cs with
  | nil => rfl
  | cons c rest ih =>
      rw [encode_cons]
      cases hc : q c with
      | true =>
          rw [List.dropWhile_append_of_pos fun b hb => (h c b hb).trans hc, ih,
            List.dropWhile_cons_of_pos hc]
      | false =>
          obtain ⟨b, bytes, hbytes⟩ := List.exists_cons_of_ne_nil (encodeChar_ne_nil c)
          have hb : p b = false := (h c b (by simp [hbytes])).trans hc
          have hkeep : ¬ p b = true := by simp [hb]
          have hkeep' : ¬ q c = true := by simp [hc]
          rw [List.dropWhile_cons_of_neg hkeep', encode_cons, hbytes, List.cons_append,
            List.dropWhile_cons_of_neg hkeep]

end Spans

theorem length_encodeChar (c : Char) : (encodeChar c).length = c.utf8Size := by
  have hsize : c.utf8Size =
      if c.toNat ≤ 0x7F then 1 else if c.toNat ≤ 0x7FF then 2 else if c.toNat ≤ 0xFFFF then 3
      else 4 := rfl
  rw [hsize, encodeChar]
  split_ifs <;> first | rfl | omega

theorem length_encodeText (s : String) : (encodeText s).length = s.utf8ByteSize := by
  have hlist (cs : List Char) : (encode cs).length = (String.ofList cs).utf8ByteSize := by
    induction cs with
    | nil => rfl
    | cons c cs ih =>
        rw [encode_cons, List.length_append, length_encodeChar, ih, String.ofList_cons,
          String.utf8ByteSize_append, String.utf8ByteSize_singleton]
  rw [encodeText, hlist, String.ofList_toList]

def feed (s : State) (bytes : List UInt8) : State × List Char := machine.feed s bytes

theorem feed_cons (s : State) (b : UInt8) (rest : List UInt8) :
    feed s (b :: rest) =
      ((feed (step s b).1 rest).1, (step s b).2 ++ (feed (step s b).1 rest).2) :=
  machine.feed_cons s b rest

theorem feed_append (s : State) (xs ys : List UInt8) :
    feed s (xs ++ ys) = ((feed (feed s xs).1 ys).1, (feed s xs).2 ++ (feed (feed s xs).1 ys).2) :=
  machine.feed_append s xs ys

theorem decode_eq (bytes : List UInt8) :
    decode bytes = (feed .ready bytes).2 ++ finish (feed .ready bytes).1 := rfl

theorem step_ready (b : UInt8) : step .ready b = lead b := rfl

theorem lead_one : ∀ n < 0x80, lead n.toUInt8 = (.ready, [Char.ofNat n]) := by
  decide +kernel

theorem lead_two :
    ∀ n < 0x20, 2 ≤ n → lead (0xC0 + n).toUInt8 = (.within 0 0x80 0xBF n, []) := by
  decide +kernel

theorem lead_three :
    ∀ n < 0x10,
      lead (0xE0 + n).toUInt8 =
        (.within 1 (if n = 0 then 0xA0 else 0x80) (if n = 13 then 0x9F else 0xBF) n, []) := by
  decide +kernel

theorem lead_four :
    ∀ n < 5,
      lead (0xF0 + n).toUInt8 =
        (.within 2 (if n = 0 then 0x90 else 0x80) (if n = 4 then 0x8F else 0xBF) n, []) := by
  decide +kernel

section Tail

variable (low high : UInt8) (more value : Nat) {m : Nat}

theorem step_last (hm : m < 0x40) (hlow : low.toNat ≤ 0x80 + m) (hhigh : 0x80 + m ≤ high.toNat) :
    step (.within 0 low high value) (0x80 + m).toUInt8 =
      (.ready, [Char.ofNat (value * 0x40 + m)]) := by
  have hbyte : (0x80 + m).toUInt8.toNat = 0x80 + m := byte_toNat (by omega)
  have hin : low ≤ (0x80 + m).toUInt8 ∧ (0x80 + m).toUInt8 ≤ high := by
    rw [UInt8.le_iff_toNat_le, UInt8.le_iff_toNat_le, hbyte]
    exact ⟨hlow, hhigh⟩
  simp only [step, if_pos hin, hbyte, Nat.add_sub_cancel_left]

theorem step_more (hm : m < 0x40) (hlow : low.toNat ≤ 0x80 + m) (hhigh : 0x80 + m ≤ high.toNat) :
    step (.within (more + 1) low high value) (0x80 + m).toUInt8 =
      (.within more 0x80 0xBF (value * 0x40 + m), []) := by
  have hbyte : (0x80 + m).toUInt8.toNat = 0x80 + m := byte_toNat (by omega)
  have hin : low ≤ (0x80 + m).toUInt8 ∧ (0x80 + m).toUInt8 ≤ high := by
    rw [UInt8.le_iff_toNat_le, UInt8.le_iff_toNat_le, hbyte]
    exact ⟨hlow, hhigh⟩
  simp only [step, if_pos hin, hbyte, Nat.add_sub_cancel_left]

/-- Where the range of the next byte is that of all later bytes. -/
theorem tail_range (hm : m < 0x40) :
    (0x80 : UInt8).toNat ≤ 0x80 + m ∧ 0x80 + m ≤ (0xBF : UInt8).toNat := by
  change 0x80 ≤ 0x80 + m ∧ 0x80 + m ≤ 0xBF
  omega

theorem feed_two {n m : Nat} (hn : 2 ≤ n ∧ n < 0x20) (hm : m < 0x40) :
    feed .ready [(0xC0 + n).toUInt8, (0x80 + m).toUInt8] =
      (.ready, [Char.ofNat (n * 0x40 + m)]) := by
  have hlast := step_last 0x80 0xBF n hm (tail_range hm).1 (tail_range hm).2
  rw [feed_cons, step_ready, lead_two n hn.2 hn.1, feed_cons, hlast]
  rfl

theorem feed_three {n m k : Nat} (hn : n < 0x10) (hm : m < 0x40) (hk : k < 0x40)
    (hlow : n = 0 → 0x20 ≤ m) (hhigh : n = 13 → m < 0x20) :
    feed .ready [(0xE0 + n).toUInt8, (0x80 + m).toUInt8, (0x80 + k).toUInt8] =
      (.ready, [Char.ofNat ((n * 0x40 + m) * 0x40 + k)]) := by
  have hmore := step_more (if n = 0 then 0xA0 else 0x80) (if n = 13 then 0x9F else 0xBF) 0 n hm
    (by
      split
      · exact Nat.add_le_add_left (hlow ‹_›) 0x80
      · exact (tail_range hm).1)
    (by
      split
      · exact Nat.add_le_add_left (Nat.le_of_lt_succ (hhigh ‹_›)) 0x80
      · exact (tail_range hm).2)
  have hlast := step_last 0x80 0xBF (n * 0x40 + m) hk (tail_range hk).1 (tail_range hk).2
  rw [feed_cons, step_ready, lead_three n hn, feed_cons, hmore, feed_cons, hlast]
  rfl

theorem feed_four {n m k j : Nat} (hn : n < 5) (hm : m < 0x40) (hk : k < 0x40) (hj : j < 0x40)
    (hlow : n = 0 → 0x10 ≤ m) (hhigh : n = 4 → m < 0x10) :
    feed .ready
        [(0xF0 + n).toUInt8, (0x80 + m).toUInt8, (0x80 + k).toUInt8, (0x80 + j).toUInt8] =
      (.ready, [Char.ofNat (((n * 0x40 + m) * 0x40 + k) * 0x40 + j)]) := by
  have hsecond := step_more (if n = 0 then 0x90 else 0x80) (if n = 4 then 0x8F else 0xBF) 1 n hm
    (by
      split
      · exact Nat.add_le_add_left (hlow ‹_›) 0x80
      · exact (tail_range hm).1)
    (by
      split
      · exact Nat.add_le_add_left (Nat.le_of_lt_succ (hhigh ‹_›)) 0x80
      · exact (tail_range hm).2)
  have hthird := step_more 0x80 0xBF 0 (n * 0x40 + m) hk (tail_range hk).1 (tail_range hk).2
  have hlast := step_last 0x80 0xBF ((n * 0x40 + m) * 0x40 + k) hj (tail_range hj).1
    (tail_range hj).2
  rw [feed_cons, step_ready, lead_four n hn, feed_cons, hsecond, feed_cons, hthird, feed_cons,
    hlast]
  rfl

end Tail

/-- A character is read back from its bytes. -/
theorem feed_encodeChar (c : Char) : feed .ready (encodeChar c) = (.ready, [c]) := by
  have hbounds := char_toNat_bounds c
  have hback : Char.ofNat c.toNat = c := Char.ofNat_toNat c
  unfold encodeChar
  dsimp only
  split_ifs with h1 h2 h3
  · rw [feed_cons, step_ready, lead_one _ h1, hback]
    rfl
  · have hvalue : c.toNat / 0x40 * 0x40 + c.toNat % 0x40 = c.toNat := by omega
    rw [feed_two (by omega) (by omega), hvalue, hback]
  · have hvalue : (c.toNat / 0x1000 * 0x40 + c.toNat / 0x40 % 0x40) * 0x40 + c.toNat % 0x40 =
        c.toNat := by omega
    rw [feed_three (by omega) (by omega) (by omega) (by omega) (by omega), hvalue, hback]
  · have hvalue : ((c.toNat / 0x40000 * 0x40 + c.toNat / 0x1000 % 0x40) * 0x40 +
        c.toNat / 0x40 % 0x40) * 0x40 + c.toNat % 0x40 = c.toNat := by omega
    rw [feed_four (by omega) (by omega) (by omega) (by omega) (by omega) (by omega), hvalue, hback]

theorem feed_encode (cs : List Char) : feed .ready (encode cs) = (.ready, cs) := by
  induction cs with
  | nil => rfl
  | cons c rest ih =>
      rw [encode_cons, feed_append, feed_encodeChar, ih]
      rfl

/-- A text is read back from its bytes, whatever comes after them. -/
theorem decode_encode_append (cs : List Char) (bytes : List UInt8) :
    decode (encode cs ++ bytes) = cs ++ decode bytes := by
  rw [decode_eq, decode_eq, feed_append, feed_encode, List.append_assoc]

theorem decode_encode (cs : List Char) : decode (encode cs) = cs := by
  rw [decode_eq, feed_encode]
  exact List.append_nil cs

theorem decodeText_encode (s : String) : decodeText (encode s.toList) = s := by
  rw [decodeText, decode_encode, String.ofList_toList]

theorem encodeText_injective : Function.Injective encodeText :=
  Function.LeftInverse.injective decodeText_encode

end BulkLoad.Encoding.Utf8
