import BulkLoad.Proofs.Json.Literals

/-!
The indented text of a value read back.

Numbers must be whole here, and arrays and objects nested as deep as the reader goes at most.
Reading puts the members of every object in the order of their keys, so what comes back is the value
with its members in that order.
-/
namespace BulkLoad.Json

open Text (Stops stops_cons)

/-- Values that are read when arrays and objects may be nested so many times. -/
inductive Readable : Nat → Json → Prop where
  | null (depth : Nat) : Readable depth .null
  | bool (depth : Nat) (b : Bool) : Readable depth (.bool b)
  | number (depth : Nat) {z : Int} (hz : IsWord z) : Readable depth (.number (.whole z))
  | string (depth : Nat) (s : String) : Readable depth (.string s)
  | array {depth : Nat} {items : List Json} (hitems : ∀ item ∈ items, Readable depth item) :
      Readable (depth + 1) (.array items)
  | object {depth : Nat} {members : List (String × Json)}
      (hmembers : ∀ member ∈ members, Readable depth member.2) :
      Readable (depth + 1) (.object members)

mutual

/-- A value with the members of its objects in the order of their keys, of equal keys the last. -/
def ordered : Json → Json
  | .array items => .array (orderedItems items)
  | .object members => .object (orderedMembers [] members)
  | v => v

def orderedItems : List Json → List Json
  | [] => []
  | item :: rest => item.ordered :: orderedItems rest

def orderedMembers (done : List (String × Json)) : List (String × Json) → List (String × Json)
  | [] => done
  | (key, value) :: rest => orderedMembers (insertMember key value.ordered done) rest

end

theorem orderedItems_eq_map (items : List Json) : orderedItems items = items.map ordered := by
  induction items with
  | nil => rfl
  | cons item rest ih => rw [orderedItems, ih, List.map_cons]

section Spaces

theorem skipSpace_newline (level : Nat) (cs : List Char) :
    skipSpace (newline level ++ cs) = skipSpace cs := by
  have hspaces : ∀ c ∈ newline level, isSpace c = true := by
    intro c hc
    rcases List.mem_cons.mp hc with rfl | hc
    · rfl
    · rw [List.eq_of_mem_replicate hc]
      rfl
  exact List.dropWhile_append_of_pos hspaces

theorem skipSpace_cons {c : Char} (h : isSpace c = false) (cs : List Char) :
    skipSpace (c :: cs) = c :: cs := by
  rw [skipSpace, List.dropWhile_cons_of_neg (by simp [h])]

theorem readValue_newline (fuel depth level : Nat) (cs : List Char) :
    readValue fuel depth (newline level ++ cs) = readValue fuel depth cs := by
  cases fuel with
  | zero => rfl
  | succ fuel => simp only [readValue, skipSpace_newline]

theorem readItems_newline (fuel depth level : Nat) (done : List Json) (cs : List Char) :
    readItems fuel depth done (newline level ++ cs) = readItems fuel depth done cs := by
  cases fuel with
  | zero => rfl
  | succ fuel => simp only [readItems, readValue_newline]

theorem readMembers_newline (fuel depth level : Nat) (done : List (String × Json))
    (cs : List Char) :
    readMembers fuel depth done (newline level ++ cs) = readMembers fuel depth done cs := by
  cases fuel with
  | zero => rfl
  | succ fuel => simp only [readMembers, skipSpace_newline]

end Spaces

/-- A text starts with something that is no space and closes no array. -/
def Opens (cs : List Char) : Prop := ∃ c rest, cs = c :: rest ∧ isSpace c = false ∧ c ≠ ']'

def startsNumber (c : Char) : Bool := c == '-' || Decimal.isDigit c

theorem intText_cons (z : Int) :
    ∃ c cs, (Decimal.intText z).toList = c :: cs ∧ startsNumber c = true := by
  cases z with
  | ofNat n =>
      obtain ⟨c, cs, hdigits⟩ := List.exists_cons_of_ne_nil (Decimal.digits_ne_nil n)
      have hdigit := List.all_eq_true.mp (Decimal.all_isDigit_digits n) c (by simp [hdigits])
      refine ⟨c, cs, by simpa [Decimal.intText, Decimal.text] using hdigits, ?_⟩
      rw [startsNumber, hdigit, Bool.or_true]
  | negSucc n =>
      exact ⟨'-', Decimal.digits (n + 1), by simp [Decimal.intText, Decimal.text], rfl⟩

theorem ne_of_startsNumber {c d : Char} (h : startsNumber c = true)
    (hd : startsNumber d = false) : c ≠ d := by
  rintro rfl
  rw [h] at hd
  cases hd

theorem isSpace_of_startsNumber {c : Char} (h : startsNumber c = true) : isSpace c = false := by
  have hspace := ne_of_startsNumber h (show startsNumber ' ' = false from rfl)
  have htab := ne_of_startsNumber h (show startsNumber '\t' = false from rfl)
  have hfeed := ne_of_startsNumber h (show startsNumber '\n' = false from rfl)
  have hreturn := ne_of_startsNumber h (show startsNumber '\r' = false from rfl)
  simp [isSpace, hspace, htab, hfeed, hreturn]

theorem opens_prettyChars {depth : Nat} {v : Json} (hv : Readable depth v) (level : Nat) :
    Opens (prettyChars level v) := by
  cases hv with
  | null => exact ⟨'n', _, rfl, rfl, by decide⟩
  | bool _ b =>
      cases b with
      | false => exact ⟨'f', _, rfl, rfl, by decide⟩
      | true => exact ⟨'t', _, rfl, rfl, by decide⟩
  | number hz =>
      obtain ⟨c, cs, htext, hstart⟩ := intText_cons ‹Int›
      exact ⟨c, cs, htext, isSpace_of_startsNumber hstart, ne_of_startsNumber hstart rfl⟩
  | string s => exact ⟨'"', _, rfl, rfl, by decide⟩
  | @array _ items =>
      cases items with
      | nil => exact ⟨'[', _, rfl, rfl, by decide⟩
      | cons item rest => exact ⟨'[', _, by rw [prettyChars], rfl, by decide⟩
  | @object _ members =>
      cases members with
      | nil => exact ⟨'{', _, rfl, rfl, by decide⟩
      | cons member rest => exact ⟨'{', _, by rw [prettyChars], rfl, by decide⟩

theorem readValue_of_startsNumber {c : Char} (h : startsNumber c = true) (fuel depth : Nat)
    (cs : List Char) : readValue (fuel + 1) depth (c :: cs) = readNumber (c :: cs) := by
  have hnumber : c = '-' ∨ Decimal.isDigit c = true := by simpa [startsNumber] using h
  rw [readValue, skipSpace_cons (isSpace_of_startsNumber h)]
  split
  case h_8 heq =>
      obtain ⟨rfl, rfl⟩ := List.cons.inj heq
      exact if_pos hnumber
  case h_1 heq => cases heq
  all_goals
    rename_i heq
    exact absurd (List.cons.inj heq).1 (ne_of_startsNumber h rfl)

def ReadBack (depth : Nat) (v : Json) : Prop :=
  ∀ (level fuel : Nat) (rest : List Char), 2 * (prettyChars level v).length ≤ fuel →
    Stops extendsNumber rest →
      readValue (fuel + 1) depth (prettyChars level v ++ rest) = .ok (v.ordered, rest)

section Leaves

variable (depth : Nat)

theorem readBack_null : ReadBack depth .null := fun _ _ _ _ _ => rfl

theorem readBack_bool (b : Bool) : ReadBack depth (.bool b) := by
  intro level fuel rest _ _
  cases b <;> rfl

theorem readBack_number {z : Int} (hz : IsWord z) : ReadBack depth (.number (.whole z)) := by
  intro level fuel rest _ hrest
  obtain ⟨c, cs, htext, hstart⟩ := intText_cons z
  have hchars : prettyChars level (.number (.whole z)) = c :: cs := htext
  have hread := readNumber_intText hz hrest
  rw [htext] at hread
  rw [hchars]
  exact (readValue_of_startsNumber hstart fuel depth (cs ++ rest)).trans hread

theorem readBack_string (s : String) : ReadBack depth (.string s) := by
  intro level fuel rest hfuel _
  have hchars : prettyChars level (.string s) = stringText s := rfl
  rw [hchars] at hfuel ⊢
  have hbody := stringBody_stringText s (show (stringText s).length ≤ fuel by omega) rest
  rw [stringText_append, readValue, skipSpace_cons rfl]
  simp only [hbody, bind, Except.bind]
  rfl

end Leaves

variable {depth level : Nat}

theorem length_prettyItems_cons (level : Nat) (next : Json) (more : List Json) :
    (prettyChars (level + 1) next ++ prettyItems level more).length + 2 ≤
      (prettyItems level (next :: more)).length := by
  simp only [prettyItems, newline, List.length_cons, List.length_append]
  omega

theorem readItems_pretty (item : Json) (more : List Json)
    (hread : ∀ other ∈ item :: more, ReadBack depth other) {fuel : Nat}
    (hfuel : 2 * (prettyChars (level + 1) item ++ prettyItems level more).length ≤ fuel)
    (done : List Json) (rest : List Char) :
    readItems (fuel + 2) depth done
        (prettyChars (level + 1) item ++ (prettyItems level more ++ rest)) =
      .ok (.array (done.reverse ++ orderedItems (item :: more)), rest) := by
  induction more generalizing item fuel done with
  | nil =>
      have hend : prettyItems level [] ++ rest = newline level ++ ']' :: rest := by
        simp [prettyItems]
      have hstop : Stops extendsNumber (prettyItems level [] ++ rest) := stops_cons rfl _
      rw [List.length_append] at hfuel
      rw [readItems, hread item List.mem_cons_self _ _ _ (by omega) hstop]
      simp only [hend, skipSpace_newline, skipSpace_cons (show isSpace ']' = false from rfl)]
      rw [List.reverse_cons]
      rfl
  | cons next more ih =>
      have hmore : prettyItems level (next :: more) ++ rest =
          ',' :: (newline (level + 1) ++
            (prettyChars (level + 1) next ++ (prettyItems level more ++ rest))) := by
        simp [prettyItems]
      have hstop : Stops extendsNumber (prettyItems level (next :: more) ++ rest) :=
        stops_cons rfl _
      have hlength := length_prettyItems_cons level next more
      rw [List.length_append] at hfuel
      obtain ⟨fuel, rfl⟩ : ∃ n, fuel = n + 1 := ⟨fuel - 1, by omega⟩
      rw [readItems, hread item List.mem_cons_self _ _ _ (by omega) hstop]
      simp only [hmore, skipSpace_cons (show isSpace ',' = false from rfl), readItems_newline]
      rw [ih next (fun other hmem => hread other (List.mem_cons_of_mem item hmem)) (by omega),
        List.reverse_cons, List.append_assoc]
      rfl

theorem readBack_array {items : List Json} (hitems : ∀ item ∈ items, Readable depth item)
    (hread : ∀ item ∈ items, ReadBack depth item) : ReadBack (depth + 1) (.array items) := by
  intro level fuel rest hfuel _
  cases items with
  | nil => rfl
  | cons item more =>
      have hchars : prettyChars level (.array (item :: more)) =
          '[' :: (newline (level + 1) ++
            (prettyChars (level + 1) item ++ prettyItems level more)) := by
        simp [prettyChars]
      rw [hchars] at hfuel ⊢
      simp only [newline, List.length_cons, List.length_append] at hfuel
      obtain ⟨fuel, rfl⟩ : ∃ n, fuel = n + 2 := ⟨fuel - 2, by omega⟩
      have hfits :
          2 * (prettyChars (level + 1) item ++ prettyItems level more).length ≤ fuel := by
        rw [List.length_append]
        omega
      have hfirst := readItems_pretty item more hread hfits [] rest
      obtain ⟨c, cs, hitem, hspace, hc⟩ :=
        opens_prettyChars (hitems item List.mem_cons_self) (level + 1)
      rw [hitem, List.cons_append] at hfirst ⊢
      simp only [List.cons_append, List.append_assoc] at hfirst ⊢
      rw [readValue, skipSpace_cons rfl]
      simp only [skipSpace_newline, skipSpace_cons hspace]
      split
      · rename_i heq
        cases heq
      · rename_i heq
        exact absurd (List.cons.inj heq).1 hc
      · exact hfirst

theorem length_prettyMembers_cons (level : Nat) (key : String) (value : Json)
    (more : List (String × Json)) :
    (stringText key ++ prettyChars (level + 1) value ++ prettyMembers level more).length + 2 ≤
      (prettyMembers level ((key, value) :: more)).length := by
  simp only [prettyMembers, newline, List.length_cons, List.length_append]
  omega

theorem readMembers_pretty (key : String) (value : Json) (more : List (String × Json))
    (hread : ∀ member ∈ (key, value) :: more, ReadBack depth member.2) {fuel : Nat}
    (hfuel : 2 * (stringText key ++ prettyChars (level + 1) value ++
      prettyMembers level more).length ≤ fuel)
    (done : List (String × Json)) (rest : List Char) :
    readMembers (fuel + 2) depth done
        (stringText key ++ ':' :: ' ' :: (prettyChars (level + 1) value ++
          (prettyMembers level more ++ rest))) =
      .ok (.object (orderedMembers done ((key, value) :: more)), rest) := by
  have hspace (fuel : Nat) (cs : List Char) :
      readValue fuel depth (' ' :: cs) = readValue fuel depth cs := by
    cases fuel <;> rfl
  have hquote (cs : List Char) : skipSpace ('"' :: cs) = '"' :: cs := skipSpace_cons rfl cs
  have hcolon (cs : List Char) : skipSpace (':' :: cs) = ':' :: cs := skipSpace_cons rfl cs
  induction more generalizing key value fuel done with
  | nil =>
      have hend : prettyMembers level [] ++ rest = newline level ++ '}' :: rest := by
        simp [prettyMembers]
      have hstop : Stops extendsNumber (prettyMembers level [] ++ rest) := stops_cons rfl _
      simp only [List.length_append] at hfuel
      have hkey := stringBody_stringText key (show (stringText key).length ≤ fuel + 1 by omega)
      have hback : ReadBack depth value := hread (key, value) List.mem_cons_self
      have hvalue := hback (level + 1) fuel _ (by omega) hstop
      rw [stringText_append, readMembers]
      simp only [hquote, hkey, hcolon, hspace, hvalue]
      simp only [hend, skipSpace_newline, skipSpace_cons (show isSpace '}' = false from rfl)]
      rfl
  | cons next more ih =>
      obtain ⟨nextKey, nextValue⟩ := next
      have hmore : prettyMembers level ((nextKey, nextValue) :: more) ++ rest =
          ',' :: (newline (level + 1) ++ (stringText nextKey ++ ':' :: ' ' ::
            (prettyChars (level + 1) nextValue ++ (prettyMembers level more ++ rest)))) := by
        simp [prettyMembers]
      have hstop : Stops extendsNumber
          (prettyMembers level ((nextKey, nextValue) :: more) ++ rest) := stops_cons rfl _
      have hlength := length_prettyMembers_cons level nextKey nextValue more
      simp only [List.length_append] at hfuel hlength
      obtain ⟨fuel, rfl⟩ : ∃ n, fuel = n + 1 := ⟨fuel - 1, by omega⟩
      have hkey := stringBody_stringText key (show (stringText key).length ≤ fuel + 2 by omega)
      have hback : ReadBack depth value := hread (key, value) List.mem_cons_self
      have hvalue := hback (level + 1) (fuel + 1) _ (by omega) hstop
      rw [stringText_append, readMembers]
      simp only [hquote, hkey, hcolon, hspace, hvalue]
      simp only [hmore, skipSpace_cons (show isSpace ',' = false from rfl), readMembers_newline]
      rw [ih nextKey nextValue
        (fun member hmem => hread member (List.mem_cons_of_mem (key, value) hmem))
        (by simp only [List.length_append]; omega)]
      rfl

theorem readBack_object {members : List (String × Json)}
    (hread : ∀ member ∈ members, ReadBack depth member.2) :
    ReadBack (depth + 1) (.object members) := by
  intro level fuel rest hfuel _
  cases members with
  | nil => rfl
  | cons member more =>
      obtain ⟨key, value⟩ := member
      have hchars : prettyChars level (.object ((key, value) :: more)) =
          '{' :: (newline (level + 1) ++ (stringText key ++ ':' :: ' ' ::
            (prettyChars (level + 1) value ++ prettyMembers level more))) := by
        simp [prettyChars]
      rw [hchars] at hfuel ⊢
      simp only [newline, List.length_cons, List.length_append] at hfuel
      obtain ⟨fuel, rfl⟩ : ∃ n, fuel = n + 2 := ⟨fuel - 2, by omega⟩
      have hfits : 2 * (stringText key ++ prettyChars (level + 1) value ++
          prettyMembers level more).length ≤ fuel := by
        simp only [List.length_append]
        omega
      have hfirst := readMembers_pretty key value more hread hfits [] rest
      have hbrace (cs : List Char) : skipSpace ('{' :: cs) = '{' :: cs := skipSpace_cons rfl cs
      have hquote (cs : List Char) : skipSpace ('"' :: cs) = '"' :: cs := skipSpace_cons rfl cs
      simp only [List.cons_append, List.append_assoc]
      simp only [stringText_append] at hfirst ⊢
      rw [readValue, hbrace]
      simp only [skipSpace_newline, hquote]
      exact hfirst

theorem readBack_of_readable {depth : Nat} {v : Json} (hv : Readable depth v) :
    ReadBack depth v := by
  induction hv with
  | null depth => exact readBack_null depth
  | bool depth b => exact readBack_bool depth b
  | number depth hz => exact readBack_number depth hz
  | string depth s => exact readBack_string depth s
  | array hitems ih => exact readBack_array hitems ih
  | object hmembers ih => exact readBack_object ih

/-- The indented text of a value is read as the value with its members in order. -/
theorem parse_pretty {v : Json} (hv : Readable maxDepth v) : parse v.pretty = .ok v.ordered := by
  have hread := readBack_of_readable hv 0 (2 * v.pretty.toList.length + 1) []
    (by rw [pretty, String.toList_ofList]; omega) Text.stops_nil
  rw [List.append_nil] at hread
  have hchars : prettyChars 0 v = v.pretty.toList := by rw [pretty, String.toList_ofList]
  rw [hchars] at hread
  simp only [parse, parseWithin, hread, bind, Except.bind]
  rfl

end BulkLoad.Json
