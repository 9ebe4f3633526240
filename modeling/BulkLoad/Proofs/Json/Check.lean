import BulkLoad.Json.Check
import Mathlib.Data.List.Nodup
import Mathlib.Data.Set.List

/-!
What the values are with which a check finds nothing wrong.

For each kind of check one statement says which values these are, so a shape that is put together
from checks is read off piece by piece. What a check of an object says of one member has no part in
what it says of the others.
-/
namespace BulkLoad.Json

section Distinct

variable {number : Number → Number → Bool}

theorem any_alike_string (word : String) (words : List String) :
    (words.map Json.string).any (alike number (.string word)) = true ↔ word ∈ words := by
  rw [List.any_map, List.any_eq_true]
  constructor
  · rintro ⟨other, hmem, halike⟩
    have heq : word = other := by simpa [alike] using halike
    rwa [heq]
  · intro hmem
    exact ⟨word, hmem, by simp [alike]⟩

theorem unrelated_strings (words : List String) :
    unrelated (alike number) (words.map .string) = true ↔ words.Nodup := by
  induction words with
  | nil => simp [unrelated]
  | cons word words ih =>
      rw [List.map_cons, unrelated, Bool.and_eq_true, ih, List.nodup_cons, Bool.not_eq_true',
        ← Bool.not_eq_true, any_alike_string]

/-- Texts are distinct values if they are distinct. -/
theorem allDistinct_strings (words : List String) :
    allDistinct (words.map .string) = true ↔ words.Nodup := by
  rw [allDistinct]
  split_ifs <;> exact unrelated_strings words

end Distinct

namespace Check

theorem text_eq_nil_iff {pattern : Pattern} {v : Json} :
    text pattern v = [] ↔ ∃ s, v = .string s ∧ pattern.holds s = true := by
  cases v <;> simp [text]

theorem oneOf_eq_nil_iff {words : List String} {v : Json} :
    oneOf words v = [] ↔ ∃ s ∈ words, v = .string s := by
  cases v <;> simp [oneOf, eq_comm]

theorem someItems_eq_nil_iff {check : Check} {v : Json} :
    someItems check v = [] ↔
      ∃ items, v = .array items ∧ items ≠ [] ∧ ∀ item ∈ items, check item = [] := by
  cases v with
  | array items => cases items <;> simp [someItems]
  | null | bool | number | string | object => simp [someItems]

theorem distinctItems_eq_nil_iff {check : Check} {v : Json} :
    distinctItems check v = [] ↔
      ∃ items, v = .array items ∧ allDistinct items = true ∧ ∀ item ∈ items, check item = [] := by
  cases v with
  | array items => simp [distinctItems, and_comm]
  | null | bool | number | string | object => simp [distinctItems]

/-- An array of different words out of some. -/
theorem distinctWords_eq_nil_iff {words : List String} {v : Json} :
    distinctItems (oneOf words) v = [] ↔
      ∃ listed : List String, v = .array (listed.map .string) ∧ listed.Nodup ∧
        ∀ word ∈ listed, word ∈ words := by
  rw [distinctItems_eq_nil_iff]
  constructor
  · rintro ⟨items, rfl, hdistinct, hitems⟩
    obtain ⟨listed, rfl⟩ : items ∈ Set.range (List.map Json.string) := by
      rw [Set.range_list_map]
      intro item hitem
      obtain ⟨word, -, rfl⟩ := oneOf_eq_nil_iff.mp (hitems item hitem)
      exact ⟨word, rfl⟩
    refine ⟨listed, rfl, (allDistinct_strings listed).mp hdistinct, ?_⟩
    intro word hword
    obtain ⟨other, hother, heq⟩ := oneOf_eq_nil_iff.mp (hitems _ (List.mem_map_of_mem hword))
    rwa [Json.string.inj heq]
  · rintro ⟨listed, rfl, hdistinct, hlisted⟩
    refine ⟨_, rfl, (allDistinct_strings listed).mpr hdistinct, ?_⟩
    intro item hitem
    obtain ⟨word, hword, rfl⟩ := List.mem_map.mp hitem
    exact oneOf_eq_nil_iff.mpr ⟨word, hlisted word hword, rfl⟩

theorem member_eq_nil_iff {members : List (String × Json)} {field : String × Check} :
    member members field = [] ↔ ∀ v, lookup field.1 members = some v → field.2 v = [] := by
  rw [member]
  cases lookup field.1 members <;> simp

theorem unknownNames_eq_nil_iff {fields : List (String × Check)}
    {members : List (String × Json)} :
    unknownNames fields members = [] ↔ ∀ member ∈ members, member.1 ∈ fields.map (·.1) := by
  simp [unknownNames, List.filter_eq_nil_iff]

/-- Nothing is wrong with an object if its members are known and right and none is missing. -/
theorem record_eq_nil_iff {fields : List (String × Check)} {required : List String} {v : Json} :
    record fields required v = [] ↔
      ∃ members, v = .object members ∧ (∀ member ∈ members, member.1 ∈ fields.map (·.1)) ∧
        (∀ field ∈ fields, ∀ w, v.get? field.1 = some w → field.2 w = []) ∧
        ∀ name ∈ required, v.get? name ≠ none := by
  cases v with
  | object members =>
      have hsplit : record fields required (.object members) = [] ↔
          (∀ field ∈ fields, member members field = []) ∧ unknownNames fields members = [] ∧
            ∀ name ∈ required, lookup name members ≠ none := by
        cases hnames : unknownNames fields members <;> simp [record, hnames]
      simp only [hsplit, unknownNames_eq_nil_iff, member_eq_nil_iff, get?]
      constructor
      · rintro ⟨hfields, hknown, hrequired⟩
        exact ⟨members, rfl, hknown, hfields, hrequired⟩
      · rintro ⟨others, heq, hknown, hfields, hrequired⟩
        cases heq
        exact ⟨hfields, hknown, hrequired⟩
  | null | bool | number | string | array => simp [record]

end Check

def replaceMember (key : String) (value : Json) (members : List (String × Json)) :
    List (String × Json) :=
  members.map fun member => (member.1, if member.1 = key then value else member.2)

def replaced (v : Json) (key : String) (value : Json) : Json :=
  match v with
  | .object members => .object (replaceMember key value members)
  | v => v

section Replaced

variable {key : String} {value : Json} {members : List (String × Json)}

theorem map_fst_replaceMember :
    (replaceMember key value members).map (·.1) = members.map (·.1) := by
  rw [replaceMember, List.map_map]
  rfl

theorem lookup_replaceMember (name : String) :
    lookup name (replaceMember key value members) =
      (lookup name members).map fun old => if name = key then value else old := by
  induction members with
  | nil => rfl
  | cons member members ih =>
      obtain ⟨first, old⟩ := member
      by_cases hfirst : first = name
      · subst hfirst
        simp [lookup, replaceMember]
      · simpa [lookup, replaceMember, hfirst] using ih

theorem lookup_replaceMember_of_ne {name : String} (h : name ≠ key) :
    lookup name (replaceMember key value members) = lookup name members := by
  rw [lookup_replaceMember]
  simp [h]

namespace Check

variable {front back fields : List (String × Check)} {check : Check} {required : List String}

def nameFaults (fields : List (String × Check)) (required : List String)
    (members : List (String × Json)) : List Violation :=
  (match unknownNames fields members with
    | [] => []
    | names => [.unexpected names]) ++
    (required.filter fun name => (lookup name members).isNone).map .missing

theorem record_object : record fields required (.object members) =
    fields.flatMap (member members) ++ nameFaults fields required members := by
  rw [nameFaults, ← List.append_assoc]
  rfl

theorem nameFaults_replaceMember :
    nameFaults fields required (replaceMember key value members) =
      nameFaults fields required members := by
  have hunknown : unknownNames fields (replaceMember key value members) =
      unknownNames fields members := by
    rw [unknownNames, unknownNames, map_fst_replaceMember]
  rw [nameFaults, nameFaults, hunknown]
  simp only [lookup_replaceMember, Option.isNone_map]

theorem member_replaceMember (h : ∀ field ∈ fields, field.1 ≠ key) :
    fields.flatMap (member (replaceMember key value members)) =
      fields.flatMap (member members) := by
  refine List.flatMap_congr fun field hfield => ?_
  rw [member, member, lookup_replaceMember_of_ne (h field hfield)]

/-- Of one member a check of an object says what the check of that member says; what it says before
and after that is the same whatever the member is. -/
theorem record_replaced (check : Check) (required : List String) {v w : Json}
    (hfields : ∀ field ∈ front ++ back, field.1 ≠ key)
    (h : v.get? key = some w) :
    ∃ before after,
      record (front ++ (key, check) :: back) required v = before ++ check w ++ after ∧
        ∀ value, record (front ++ (key, check) :: back) required (v.replaced key value) =
          before ++ check value ++ after := by
  cases v with
  | object members =>
      have hlookup : lookup key members = some w := h
      obtain ⟨hfront, hback⟩ := List.forall_mem_append.mp hfields
      refine ⟨front.flatMap (member members), back.flatMap (member members) ++
        nameFaults (front ++ (key, check) :: back) required members, ?_, ?_⟩
      · have hmember : member members (key, check) = check w := by rw [member, hlookup]
        simp only [record_object, List.flatMap_append, List.flatMap_cons, hmember,
          List.append_assoc]
      · intro value
        have hmember : member (replaceMember key value members) (key, check) = check value := by
          rw [member, lookup_replaceMember, hlookup]
          simp
        simp only [replaced, record_object, nameFaults_replaceMember, List.flatMap_append,
          List.flatMap_cons, hmember, member_replaceMember hfront, member_replaceMember hback,
          List.append_assoc]
  | null | bool | number | string | array => cases h

end Check

end Replaced

end BulkLoad.Json
