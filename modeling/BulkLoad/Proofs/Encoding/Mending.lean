import BulkLoad.Proofs.Encoding.Utf8Text

/-!
Bytes that are no UTF-8, and their text written as UTF-8.

A sequence under way may become one of a range of characters, and each byte narrows the range. The
range of a lead byte holds neither ASCII nor a surrogate. So no ASCII byte goes on a sequence, and
none comes of one: between two ASCII bytes the stretches of other bytes are read on their own, and
mending the bytes changes nothing but these.
-/
namespace BulkLoad.Encoding.Utf8

def text (s : State) (bytes : List UInt8) : List Char := (feed s bytes).2 ++ finish (feed s bytes).1

theorem text_nil (s : State) : text s [] = finish s := rfl

theorem text_cons (s : State) (b : UInt8) (rest : List UInt8) :
    text s (b :: rest) = (step s b).2 ++ text (step s b).1 rest := by
  rw [text, feed_cons, List.append_assoc]
  rfl

section Range

def reach : Nat → Nat
  | 0 => 1
  | more + 1 => 0x40 * reach more

def least (more : Nat) (low : UInt8) (value : Nat) : Nat :=
  (value * 0x40 + (low.toNat - 0x80)) * reach more

/-- The first number behind those of the characters that a sequence under way may become. -/
def bound (more : Nat) (high : UInt8) (value : Nat) : Nat :=
  (value * 0x40 + (high.toNat - 0x80) + 1) * reach more

/-- A sequence that no ASCII byte goes on, and that becomes no ASCII character and no surrogate. -/
def Sound : State → Prop
  | .ready => True
  | .within more low high value =>
    0x80 ≤ low ∧ 0x80 ≤ least more low value ∧
      (bound more high value ≤ 0xD800 ∨
        0xE000 ≤ least more low value ∧ bound more high value ≤ 0x110000)

instance : DecidablePred Sound
  | .ready => inferInstanceAs (Decidable True)
  | .within .. => inferInstanceAs (Decidable (_ ∧ _ ∧ _))

theorem forall_byte {p : UInt8 → Prop}
    (h : ∀ m < 0x10, ∀ n < 0x10, p (0x10 * m + n).toUInt8) (b : UInt8) : p b := by
  have hlt := b.toNat_lt
  have hb := h (b.toNat / 0x10) (by omega) (b.toNat % 0x10) (by omega)
  rwa [Nat.div_add_mod, show b.toNat.toUInt8 = b from UInt8.ofNat_toNat] at hb

theorem lead_sound (b : UInt8) : Sound (lead b).1 := by
  revert b
  apply forall_byte
  decide +kernel

/-- A byte beyond ASCII at the start of a character makes no other character. -/
theorem lead_wide (b : UInt8) (hb : 0x80 ≤ b) :
    (lead b).2 = [] ∨ (lead b).2 = [replacementChar] := by
  revert b
  apply forall_byte
  decide +kernel

theorem lead_goes_on (b : UInt8) : (lead b).2 ≠ [] ∨ (lead b).1 ≠ .ready := by
  revert b
  apply forall_byte
  decide +kernel

theorem lead_ascii {b : UInt8} (h : b < 0x80) : lead b = (.ready, [Char.ofNat b.toNat]) := by
  rw [lead, if_pos h]

section Step

variable (more : Nat) {low high b : UInt8} (value : Nat)

/-- A byte outside the range is read afresh; one inside it ends the sequence or goes on with it. -/
theorem step_within (low high b : UInt8) :
    let next := step (.within more low high value) b
    ¬ (low ≤ b ∧ b ≤ high) ∧ next = ((lead b).1, replacementChar :: (lead b).2) ∨
      (low ≤ b ∧ b ≤ high) ∧
        (more = 0 ∧ next = (.ready, [Char.ofNat (value * 0x40 + (b.toNat - 0x80))]) ∨
          ∃ fewer, more = fewer + 1 ∧
            next = (.within fewer 0x80 0xBF (value * 0x40 + (b.toNat - 0x80)), [])) := by
  by_cases h : low ≤ b ∧ b ≤ high
  · right
    cases more with
    | zero => exact ⟨h, .inl ⟨rfl, if_pos h⟩⟩
    | succ fewer => exact ⟨h, .inr ⟨fewer, rfl, if_pos h⟩⟩
  · left
    cases more <;> exact ⟨h, if_neg h⟩

/-- What a sequence may become narrows with every byte. -/
theorem range_narrows (h : low ≤ b ∧ b ≤ high) :
    least (more + 1) low value ≤ least more 0x80 (value * 0x40 + (b.toNat - 0x80)) ∧
      bound more 0xBF (value * 0x40 + (b.toNat - 0x80)) ≤ bound (more + 1) high value := by
  simp only [UInt8.le_iff_toNat_le] at h
  have hfirst : value * 0x40 + (low.toNat - 0x80) ≤ value * 0x40 + (b.toNat - 0x80) := by omega
  have hlast : value * 0x40 + (b.toNat - 0x80) + 1 ≤ value * 0x40 + (high.toNat - 0x80) + 1 := by
    omega
  have hwhole : ∀ v : Nat, v * 0x40 * reach more = v * reach (more + 1) := by
    intro v
    rw [reach, Nat.mul_assoc]
  have hsucc : ∀ v : Nat, v * 0x40 + 0x3F + 1 = (v + 1) * 0x40 := by
    intro v
    omega
  have hzero : (0x80 : UInt8).toNat - 0x80 = 0 := rfl
  have hfull : (0xBF : UInt8).toNat - 0x80 = 0x3F := rfl
  simp only [least, bound, hzero, hfull, Nat.add_zero, hsucc, hwhole]
  exact ⟨Nat.mul_le_mul_right _ hfirst, Nat.mul_le_mul_right _ hlast⟩

end Step

variable {more : Nat} {low high b : UInt8} {value : Nat}

/-- The last byte of a sequence makes a character of its range. -/
theorem toNat_last (hs : Sound (.within 0 low high value)) (h : low ≤ b ∧ b ≤ high) :
    let c := Char.ofNat (value * 0x40 + (b.toNat - 0x80))
    least 0 low value ≤ c.toNat ∧ c.toNat < bound 0 high value := by
  obtain ⟨hlow, -, hrange⟩ := hs
  simp only [UInt8.le_iff_toNat_le] at hlow h
  simp only [least, bound, reach, Nat.mul_one] at hrange ⊢
  have hvalid : (value * 0x40 + (b.toNat - 0x80)).isValidChar := by
    rw [Nat.isValidChar]
    omega
  have hchar : (Char.ofNat (value * 0x40 + (b.toNat - 0x80))).toNat =
      value * 0x40 + (b.toNat - 0x80) := by
    rw [Char.ofNat, dif_pos hvalid]
    rfl
  rw [hchar]
  omega

theorem step_sound {s : State} (hs : Sound s) (b : UInt8) : Sound (step s b).1 := by
  cases s with
  | ready => exact lead_sound b
  | within more low high value =>
      rcases step_within more value low high b with
        ⟨-, hstep⟩ | ⟨hb, ⟨-, hstep⟩ | ⟨fewer, rfl, hstep⟩⟩ <;> rw [hstep]
      · exact lead_sound b
      · trivial
      · obtain ⟨-, hleast, hrange⟩ := hs
        obtain ⟨hfirst, hlast⟩ := range_narrows fewer value hb
        exact ⟨UInt8.le_refl _, by omega, by omega⟩

/-- The first character of what a sequence under way is read as. -/
theorem head_text (hs : Sound (.within more low high value)) (bytes : List UInt8) :
    ∃ c, (text (.within more low high value) bytes).head? = some c ∧
      (c = replacementChar ∨ least more low value ≤ c.toNat ∧ c.toNat < bound more high value) := by
  induction bytes generalizing more low high value with
  | nil => exact ⟨replacementChar, rfl, .inl rfl⟩
  | cons b rest ih =>
      have hnext := step_sound hs b
      rw [text_cons]
      rcases step_within more value low high b with
        ⟨-, hstep⟩ | ⟨hb, ⟨rfl, hstep⟩ | ⟨fewer, rfl, hstep⟩⟩ <;> rw [hstep] at hnext ⊢
      · exact ⟨replacementChar, rfl, .inl rfl⟩
      · exact ⟨_, rfl, .inr (toNat_last hs hb)⟩
      · obtain ⟨c, hc, hrange⟩ := ih hnext
        obtain ⟨hfirst, hlast⟩ := range_narrows fewer value hb
        exact ⟨c, hc, hrange.imp_right fun h => ⟨by omega, by omega⟩⟩

end Range

section Text

variable {s : State} {b : UInt8}

/-- An ASCII byte ends a sequence under way and is read as itself. -/
theorem step_ascii (hs : Sound s) (hb : b < 0x80) :
    step s b = (.ready, finish s ++ [Char.ofNat b.toNat]) := by
  cases s with
  | ready => exact lead_ascii hb
  | within more low high value =>
      rcases step_within more value low high b with ⟨-, hstep⟩ | ⟨⟨hlow, -⟩, -⟩
      · rw [hstep, lead_ascii hb]
        rfl
      · exact absurd (UInt8.le_trans hs.1 hlow) (UInt8.not_le.mpr hb)

theorem text_ascii (hs : Sound s) (hb : b < 0x80) (xs ys : List UInt8) :
    text s (xs ++ b :: ys) = text s xs ++ Char.ofNat b.toNat :: decode ys := by
  induction xs generalizing s with
  | nil =>
      rw [List.nil_append, text_cons, step_ascii hs hb, List.append_assoc]
      rfl
  | cons x xs ih =>
      rw [List.cons_append, text_cons, text_cons, ih (step_sound hs x), List.append_assoc]

theorem step_wide (hs : Sound s) (hb : 0x80 ≤ b) : ∀ c ∈ (step s b).2, 0x80 ≤ c.toNat := by
  have hlead : ∀ c ∈ (lead b).2, 0x80 ≤ c.toNat := by
    rcases lead_wide b hb with hout | hout <;> rw [hout] <;> simp [replacementChar]
  cases s with
  | ready => exact hlead
  | within more low high value =>
      rcases step_within more value low high b with
        ⟨-, hstep⟩ | ⟨hin, ⟨rfl, hstep⟩ | ⟨fewer, rfl, hstep⟩⟩ <;> rw [hstep]
      · exact List.forall_mem_cons.mpr ⟨by decide, hlead⟩
      · intro c hc
        rw [List.mem_singleton.mp hc]
        exact Nat.le_trans hs.2.1 (toNat_last hs hin).1
      · simp

theorem text_wide (hs : Sound s) {bytes : List UInt8} (h : ∀ b ∈ bytes, 0x80 ≤ b) :
    ∀ c ∈ text s bytes, 0x80 ≤ c.toNat := by
  induction bytes generalizing s with
  | nil =>
      cases s with
      | ready => simp [text_nil, finish]
      | within more low high value =>
          intro c hc
          rw [List.mem_singleton.mp hc]
          decide
  | cons b rest ih =>
      obtain ⟨hb, hrest⟩ := List.forall_mem_cons.mp h
      rw [text_cons]
      intro c hc
      rcases List.mem_append.mp hc with hc | hc
      · exact step_wide hs hb c hc
      · exact ih (step_sound hs b) hrest c hc

theorem text_ne_nil (bytes : List UInt8) (h : s ≠ .ready ∨ bytes ≠ []) : text s bytes ≠ [] := by
  induction bytes generalizing s with
  | nil =>
      cases s with
      | ready => simp at h
      | within more low high value => exact List.cons_ne_nil _ _
  | cons b rest ih =>
      have hstep : (step s b).2 ≠ [] ∨ (step s b).1 ≠ .ready := by
        cases s with
        | ready => exact lead_goes_on b
        | within more low high value =>
            rcases step_within more value low high b with
              ⟨-, hstep⟩ | ⟨-, ⟨-, hstep⟩ | ⟨fewer, -, hstep⟩⟩ <;> rw [hstep] <;> simp
      rw [text_cons, ne_eq, List.append_eq_nil_iff, not_and]
      intro hnone
      exact ih (.inl (hstep.resolve_left fun h => h hnone))

end Text

def mend (bytes : List UInt8) : List UInt8 := encode (decode bytes)

theorem decode_mend (bytes : List UInt8) : decode (mend bytes) = decode bytes :=
  decode_encode _

theorem mend_ascii {b : UInt8} (hb : b < 0x80) (xs ys : List UInt8) :
    mend (xs ++ b :: ys) = mend xs ++ b :: mend ys := by
  have hascii : (Char.ofNat b.toNat).toNat = b.toNat := by
    revert hb
    revert b
    apply forall_byte
    decide +kernel
  have hchar : encodeChar (Char.ofNat b.toNat) = [b] := by
    have hsmall : (Char.ofNat b.toNat).toNat < 0x80 := by
      rw [hascii]
      exact UInt8.lt_iff_toNat_lt.mp hb
    rw [encodeChar_of_ascii hsmall, hascii,
      show b.toNat.toUInt8 = b from UInt8.ofNat_toNat]
  have htext : decode (xs ++ b :: ys) = decode xs ++ Char.ofNat b.toNat :: decode ys :=
    text_ascii (s := .ready) trivial hb xs ys
  rw [mend, htext, encode_append, encode_cons, hchar]
  rfl

theorem mend_wide {bytes : List UInt8} (h : ∀ b ∈ bytes, 0x80 ≤ b) :
    ∀ b ∈ mend bytes, 0x80 ≤ b := by
  intro b hb
  obtain ⟨c, hc, hmem⟩ := List.mem_flatMap.mp hb
  exact le_of_mem_encodeChar (text_wide (s := .ready) trivial h c hc) b hmem

theorem mend_ne_nil {bytes : List UInt8} (h : bytes ≠ []) : mend bytes ≠ [] :=
  encode_ne_nil (text_ne_nil (s := .ready) bytes (.inr h))

section Head

/-- A byte after which the text does not start with a character: another one comes first, or the
sequence under way cannot become it. -/
def Averts (c : Char) (s : State) (b : UInt8) : Prop :=
  match (step s b).2, (step s b).1 with
  | [], .within more low high value =>
    c.toNat < least more low value ∨ bound more high value ≤ c.toNat
  | [], .ready => False
  | d :: _, _ => d ≠ c

instance (c : Char) (s : State) (b : UInt8) : Decidable (Averts c s b) := by
  unfold Averts
  split <;> infer_instance

theorem head_text_of_averts {c : Char} (hc : c ≠ replacementChar) {s : State} (hs : Sound s)
    {b : UInt8} (h : Averts c s b) (rest : List UInt8) : (text s (b :: rest)).head? ≠ some c := by
  have hnext := step_sound hs b
  rw [Averts] at h
  rw [text_cons]
  rcases hstep : step s b with ⟨_ | ⟨more, low, high, value⟩, _ | ⟨d, ds⟩⟩ <;>
    rw [hstep] at h hnext
  · exact h.elim
  · simpa using h
  · obtain ⟨e, he, hrange⟩ := head_text hnext rest
    change (text _ rest).head? ≠ _
    rw [he]
    rintro ⟨⟩
    rcases hrange with heq | hrange
    · exact hc heq
    · simp only at h
      omega
  · simpa using h

/-- A text starts with a byte-order mark only if the bytes do. -/
theorem mark_of_head {bytes : List UInt8} (h : (decode bytes).head? = some '\ufeff') :
    [0xEF, 0xBB, 0xBF] <+: bytes := by
  -- Of each of the first three bytes only one value leads to the mark.
  have hother : '\ufeff' ≠ replacementChar := by decide
  have hfirst : ∀ b : UInt8, b = 0xEF ∨ Averts '\ufeff' .ready b := by
    apply forall_byte
    decide +kernel
  have hsecond : ∀ b : UInt8, b = 0xBB ∨ Averts '\ufeff' (.within 1 0x80 0xBF 0xF) b := by
    apply forall_byte
    decide +kernel
  have hthird : ∀ b : UInt8, b = 0xBF ∨ Averts '\ufeff' (.within 0 0x80 0xBF 0x3FB) b := by
    apply forall_byte
    decide +kernel
  change (text .ready bytes).head? = _ at h
  rcases bytes with _ | ⟨b, _ | ⟨b', _ | ⟨b'', rest⟩⟩⟩
  · cases h
  all_goals
    obtain rfl := (hfirst b).resolve_right fun havert =>
      head_text_of_averts hother (s := .ready) trivial havert _ h
    change (text (.within 1 0x80 0xBF 0xF) _).head? = _ at h
  · revert h
    decide
  all_goals
    obtain rfl := (hsecond b').resolve_right fun havert =>
      head_text_of_averts hother (by decide) havert _ h
    change (text (.within 0 0x80 0xBF 0x3FB) _).head? = _ at h
  · revert h
    decide
  · obtain rfl := (hthird b'').resolve_right fun havert =>
      head_text_of_averts hother (by decide) havert _ h
    exact ⟨rest, rfl⟩

end Head

end BulkLoad.Encoding.Utf8
