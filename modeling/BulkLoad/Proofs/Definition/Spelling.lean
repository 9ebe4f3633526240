import BulkLoad.Proofs.Definition.Described

/-!
The spellings of types: which texts are read as a type, and as which.

A text is lowered after the blanks around it are taken off. Letters outside ASCII may have a lower
form as well, and of several characters; no type is spelled with such a letter, so it makes no
difference how they are lowered. The spellings that a definition may use are read back as they
stand, unless 64 bits do not hold the width.
-/
namespace BulkLoad

namespace ColumnType

inductive Spelled : List Char → ColumnType → Prop
  | int : Spelled "int".toList .int
  | bool : Spelled "bool".toList .bool
  | char {front sign ds back : List Char} (hfront : ∀ c ∈ front, Text.isBlank c = true)
      (hsign : sign = [] ∨ sign = ['+']) (hds : Decimal.IsNumeral ds)
      (hback : ∀ c ∈ back, Text.isBlank c = true) (hlow : 1 ≤ Decimal.placeValue ds)
      (hhigh : Decimal.placeValue ds ≤ 2 ^ 64 - 1) :
      Spelled ("char(".toList ++ (front ++ (sign ++ ds) ++ back) ++ [')'])
        (.char (Decimal.placeValue ds))

theorem wordBound_eq : Decimal.wordBound = 2 ^ 64 := rfl

theorem trims_of_numeral {front sign ds back : List Char}
    (hfront : ∀ c ∈ front, Text.isBlank c = true) (hsign : sign = [] ∨ sign = ['+'])
    (hds : Decimal.IsNumeral ds) (hback : ∀ c ∈ back, Text.isBlank c = true) :
    Text.Trims Text.isBlank (front ++ (sign ++ ds) ++ back) (sign ++ ds) := by
  have hplain : ∀ c ∈ sign ++ ds, Text.isBlank c = false := by
    intro c hc
    rcases List.mem_append.mp hc with hc | hc
    · rcases hsign with rfl | rfl
      · cases hc
      · rw [List.mem_singleton.mp hc]
        rfl
    · exact Decimal.isBlank_of_isDigit (hds.2 c hc)
  exact ⟨⟨front, back, hfront, hback, rfl⟩, fun c hc => hplain c (List.mem_of_mem_head? hc),
    fun c hc => hplain c (List.mem_of_getLast? hc)⟩

theorem width?_eq_some_iff {cs : List Char} {w : Nat} :
    width? cs = some w ↔
      ∃ front sign ds back, cs = front ++ (sign ++ ds) ++ back ∧
        (∀ c ∈ front, Text.isBlank c = true) ∧ (sign = [] ∨ sign = ['+']) ∧
        Decimal.IsNumeral ds ∧ (∀ c ∈ back, Text.isBlank c = true) ∧
        1 ≤ w ∧ w ≤ 2 ^ 64 - 1 ∧ Decimal.placeValue ds = w := by
  constructor
  · intro h
    unfold width? at h
    split at h
    · rename_i n hread
      obtain ⟨⟨hlow, hhigh⟩, heq⟩ := Option.ite_none_right_eq_some.mp h
      cases heq
      obtain ⟨sign, ds, hcore, hsign, hds, rfl⟩ := Decimal.unsigned?_eq_some_iff.mp hread
      obtain ⟨front, back, hfront, hback, hcs⟩ := (Text.trims_trimBoth Text.isBlank cs).around
      rw [hcore] at hcs
      rw [wordBound_eq] at hhigh
      exact ⟨front, sign, ds, back, hcs, hfront, hsign, hds, hback, hlow, by omega, rfl⟩
    · cases h
  · rintro ⟨front, sign, ds, back, rfl, hfront, hsign, hds, hback, hlow, hhigh, rfl⟩
    have hcore := Text.trimBoth_of_trims (trims_of_numeral hfront hsign hds hback)
    have hread : Decimal.unsigned? (sign ++ ds) = some (Decimal.placeValue ds) :=
      Decimal.unsigned?_eq_some_iff.mpr ⟨sign, ds, rfl, hsign, hds, rfl⟩
    rw [width?, hcore, hread, wordBound_eq]
    exact if_pos ⟨hlow, by omega⟩

theorem ofToken?_eq_some_iff {cs : List Char} {t : ColumnType} :
    ofToken? cs = some t ↔ Spelled cs t := by
  constructor
  · intro h
    unfold ofToken? at h
    split at h
    · cases h
      exact .int
    · cases h
      exact .bool
    · rename_i rest
      obtain ⟨hlast, hwidth⟩ := Option.ite_none_right_eq_some.mp h
      obtain ⟨w, hw, rfl⟩ := Option.map_eq_some_iff.mp hwidth
      obtain ⟨front, sign, ds, back, hinner, hfront, hsign, hds, hback, hlow, hhigh, rfl⟩ :=
        width?_eq_some_iff.mp hw
      have hspelled := Spelled.char hfront hsign hds hback hlow hhigh
      rw [← hinner, List.append_assoc, List.dropLast_append_getLast? _ hlast] at hspelled
      exact hspelled
    · cases h
  · intro h
    cases h with
    | int | bool => rfl
    | @char front sign ds back hfront hsign hds hback hlow hhigh =>
        have hw : width? (front ++ (sign ++ ds) ++ back) = some (Decimal.placeValue ds) :=
          width?_eq_some_iff.mpr
            ⟨front, sign, ds, back, rfl, hfront, hsign, hds, hback, hlow, hhigh, rfl⟩
        rw [List.append_assoc, Definition.char_opening, ofToken?, List.getLast?_concat, if_pos rfl,
          List.dropLast_concat, hw, Option.map_some]

theorem ofText?_eq_some_iff {s : String} {t : ColumnType} :
    ofText? s = some t ↔
      ∃ core, Text.Trims Text.isBlank s.toList core ∧ Spelled (core.map Char.toLower) t := by
  rw [ofText?, ofToken?_eq_some_iff]
  constructor
  · exact fun h => ⟨_, Text.trims_trimBoth _ _, h⟩
  · rintro ⟨core, htrims, h⟩
    rwa [Text.trimBoth_of_trims htrims]

theorem ofText_eq_ok_iff {s : String} {t : ColumnType} : ofText s = .ok t ↔ ofText? s = some t := by
  unfold ofText
  cases ofText? s <;> simp

theorem ofText_eq_error_iff {s : String} {fault : SchemaFault} :
    ofText s = .error fault ↔ fault = .invalidType s ∧ ∀ t, ofText? s ≠ some t := by
  unfold ofText
  cases ofText? s <;> simp [eq_comm]

theorem Spelled.positive {cs : List Char} {t : ColumnType} (h : Spelled cs t) : t.Positive := by
  cases h with
  | int => exact positive_int
  | bool => exact positive_bool
  | char _ _ _ _ hlow _ => exact positive_char.mpr hlow

theorem Spelled.isTooWide {cs : List Char} {t : ColumnType} (h : Spelled cs t) :
    t.isTooWide = false := by
  rw [isTooWide_eq_false_iff]
  intro w hw
  cases h with
  | int | bool => cases hw
  | char _ _ _ _ _ hhigh =>
      cases hw
      rw [wordBound_eq]
      omega

def letters : List Char := "boolintchar(+)".toList

theorem toNat_of_mem_letters {c : Char} (h : c ∈ letters) : c.toNat < 128 := by
  have hall : letters.all (·.toNat < 128) = true := rfl
  exact of_decide_eq_true (List.all_eq_true.mp hall c h)

theorem Spelled.mem {cs : List Char} {t : ColumnType} (h : Spelled cs t) {c : Char} (hc : c ∈ cs) :
    c ∈ letters ∨ c.isDigit = true ∨ Text.isBlank c = true := by
  have hword {word : List Char} (hsub : word ⊆ letters) (hmem : c ∈ word) :
      c ∈ letters ∨ c.isDigit = true ∨ Text.isBlank c = true := .inl (hsub hmem)
  cases h with
  | int | bool => exact hword (by decide) hc
  | @char front sign ds back hfront hsign hds hback _ _ =>
      simp only [List.mem_append] at hc
      rcases hc with (hc | (hc | hc | hc) | hc) | hc
      · exact hword (by decide) hc
      · exact .inr (.inr (hfront c hc))
      · rcases hsign with rfl | rfl
        · cases hc
        · exact hword (by decide) hc
      · exact .inr (.inl (hds.2 c hc))
      · exact .inr (.inr (hback c hc))
      · exact hword (by decide) hc

/-- What a character may be lowered to. ASCII and blanks are lowered as ASCII has it; of any other
character it is asked only that it does not turn into characters of types alone. -/
structure Lowers (c : Char) (ds : List Char) : Prop where
  plain : c.toNat < 128 ∨ Text.isBlank c = true → ds = [c.toLower]
  other : 128 ≤ c.toNat → Text.isBlank c = false →
    ∃ d ∈ ds, d ∉ letters ∧ d.isDigit = false ∧ Text.isBlank d = false

-- The Kelvin sign, and a capital I with a dot.
example : Lowers '\u212a' ['k'] ∧ Lowers '\u0130' ['i', '\u0307'] :=
  ⟨⟨by decide, fun _ _ => ⟨'k', by decide⟩⟩, ⟨by decide, fun _ _ => ⟨'\u0307', by decide⟩⟩⟩

theorem flatten_lowered {cs : List Char} {dss : List (List Char)}
    (h : List.Forall₂ Lowers cs dss) :
    (∀ c ∈ cs, c.toNat < 128 ∨ Text.isBlank c = true) ∧ dss.flatten = cs.map Char.toLower ∨
      (∃ c ∈ cs, 128 ≤ c.toNat ∧ Text.isBlank c = false) ∧
        ∃ d ∈ dss.flatten, d ∉ letters ∧ d.isDigit = false ∧ Text.isBlank d = false := by
  -- What a character leaves that is lowered otherwise stays in the text to the end.
  induction h with
  | nil => simp
  | @cons c ds cs dss hc hrest ih =>
      by_cases hplain : c.toNat < 128 ∨ Text.isBlank c = true
      · have hds := hc.plain hplain
        rcases ih with ⟨hall, hflat⟩ | ⟨⟨d, hd, hother⟩, e, he, hout⟩
        · refine .inl ⟨List.forall_mem_cons.mpr ⟨hplain, hall⟩, ?_⟩
          rw [List.flatten_cons, hds, hflat]
          rfl
        · refine .inr ⟨⟨d, List.mem_cons_of_mem _ hd, hother⟩, e, ?_, hout⟩
          rw [List.flatten_cons]
          exact List.mem_append_right _ he
      · rw [not_or, Nat.not_lt, Bool.not_eq_true] at hplain
        obtain ⟨d, hd, hout⟩ := hc.other hplain.1 hplain.2
        refine .inr ⟨⟨c, List.mem_cons_self, hplain⟩, d, ?_, hout⟩
        rw [List.flatten_cons]
        exact List.mem_append_left _ hd

theorem ofToken?_of_mem {cs : List Char} {c : Char} (hc : c ∈ cs) (hletter : c ∉ letters)
    (hdigit : c.isDigit = false) (hblank : Text.isBlank c = false) : ofToken? cs = none := by
  cases hread : ofToken? cs with
  | none => rfl
  | some t =>
      rcases (ofToken?_eq_some_iff.mp hread).mem hc with h | h | h
      · exact absurd h hletter
      · cases h.symm.trans hdigit
      · cases h.symm.trans hblank

theorem not_le_of_not_ascii {c : Char} (h : 128 ≤ c.toNat) {bound : UInt32}
    (hbound : bound.toNat < 128) : ¬ c.val ≤ bound := by
  intro hle
  have hnat : c.toNat ≤ bound.toNat := UInt32.le_iff_toNat_le.mp hle
  omega

theorem toLower_of_not_ascii {c : Char} (h : 128 ≤ c.toNat) : c.toLower = c := by
  have hcapital : ¬ c.val ≤ 90 := not_le_of_not_ascii h (by decide)
  exact dif_neg fun hrange => hcapital hrange.2

theorem isDigit_of_not_ascii {c : Char} (h : 128 ≤ c.toNat) : c.isDigit = false := by
  have hdigit : ¬ c.val ≤ 57 := not_le_of_not_ascii h (by decide)
  simp [Char.isDigit, hdigit]

/-- How characters beyond ASCII are lowered makes no difference. -/
theorem ofToken?_flatten_lowered {cs : List Char} {dss : List (List Char)}
    (h : List.Forall₂ Lowers cs dss) :
    ofToken? dss.flatten = ofToken? (cs.map Char.toLower) := by
  rcases flatten_lowered h with ⟨-, hflat⟩ | ⟨⟨c, hc, hout, hblank⟩, d, hd, hd', hdigit, hdblank⟩
  · rw [hflat]
  · -- Neither text is a type: both hold a character with which none is spelled.
    have hmem : c ∈ cs.map Char.toLower :=
      List.mem_map.mpr ⟨c, hc, toLower_of_not_ascii hout⟩
    have hletter : c ∉ letters := fun hmem => Nat.not_lt.mpr hout (toNat_of_mem_letters hmem)
    rw [ofToken?_of_mem hd hd' hdigit hdblank,
      ofToken?_of_mem hmem hletter (isDigit_of_not_ascii hout) hblank]

/-- A spelling that a definition may use is read back as it stands, unless its width is too
large. -/
theorem ofText_of_pattern {s : String} (h : Definition.typePattern.holds s = true) :
    (∃ t, ofText s = .ok t ∧ t.token = s) ∨
      ∃ ds, s.toList = "char(".toList ++ ds ++ [')'] ∧ Decimal.IsNumeral ds ∧
        2 ^ 64 ≤ Decimal.placeValue ds ∧ ofText s = .error (.invalidType s) := by
  obtain ⟨t, hpositive, rfl⟩ :=
    Definition.typeName_iff.mp ((Definition.typePattern_holds_iff s).mp h)
  have hread := ofText_token hpositive
  cases hwide : t.isTooWide with
  | false =>
      rw [hwide] at hread
      exact .inl ⟨t, hread, rfl⟩
  | true =>
      rw [hwide, if_pos rfl] at hread
      cases t with
      | int | bool => cases hwide
      | char w =>
          have hw : 2 ^ 64 ≤ w := of_decide_eq_true hwide
          refine .inr ⟨Decimal.digits w, ?_, Decimal.isNumeral_digits w, ?_, hread⟩
          · rw [token_char]
            rfl
          · rwa [Decimal.placeValue_digits]

/-- **Which texts are read as a type.** A text is read as a type if it spells the type in letters of
either case, the blanks around it taken off: `int`, `bool`, or `char` with a width between brackets,
blanks around the width and a plus sign in front of it allowed, and the width a positive number of
64 bits. Any other text is refused as it stands. Lowering characters beyond ASCII as well would
change nothing. The token of a type that was read is read as the type again, and a spelling that a
definition may use is the token of what it is read as, unless its width is 2^64 or more and it is
refused. -/
theorem ofText_grammar (s : String) :
    (∀ t, ofText s = .ok t ↔
        ∃ core, Text.Trims Text.isBlank s.toList core ∧ Spelled (core.map Char.toLower) t) ∧
      (∀ fault, ofText s = .error fault ↔
        fault = .invalidType s ∧
          ∀ core t, Text.Trims Text.isBlank s.toList core → ¬ Spelled (core.map Char.toLower) t) ∧
      (∀ core dss, Text.Trims Text.isBlank s.toList core → List.Forall₂ Lowers core dss →
        ofToken? dss.flatten = ofText? s) ∧
      (∀ t, ofText s = .ok t → ofText t.token = .ok t) ∧
      (Definition.typePattern.holds s = true →
        (∃ t, ofText s = .ok t ∧ t.token = s) ∨
          ∃ ds, s.toList = "char(".toList ++ ds ++ [')'] ∧ Decimal.IsNumeral ds ∧
            2 ^ 64 ≤ Decimal.placeValue ds ∧ ofText s = .error (.invalidType s)) := by
  refine ⟨fun t => ofText_eq_ok_iff.trans ofText?_eq_some_iff, ?_, ?_, ?_, ofText_of_pattern⟩
  · intro fault
    rw [ofText_eq_error_iff]
    refine and_congr_right fun _ => ?_
    constructor
    · intro hnone core t htrims hspelled
      exact hnone t (ofText?_eq_some_iff.mpr ⟨core, htrims, hspelled⟩)
    · intro hnone t hread
      obtain ⟨core, htrims, hspelled⟩ := ofText?_eq_some_iff.mp hread
      exact hnone core t htrims hspelled
  · intro core dss htrims hlowered
    rw [ofToken?_flatten_lowered hlowered, ofText?, Text.trimBoth_of_trims htrims]
  · intro t hread
    obtain ⟨core, -, hspelled⟩ := ofText?_eq_some_iff.mp (ofText_eq_ok_iff.mp hread)
    rw [ofText_token hspelled.positive, hspelled.isTooWide]
    rfl

end ColumnType

end BulkLoad
