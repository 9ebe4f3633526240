import BulkLoad.Proofs.Json.Pretty

/-!
Members of objects, read by their keys.

Putting the members of an object in the order of their keys loses none of them if the keys are
different. So a reader that looks for its members by their keys need not know how they were ordered.
-/
namespace BulkLoad.Json

variable {α : Type}

section Leaves

theorem readable_nat {n : Nat} (h : n < Decimal.wordBound) (depth : Nat) :
    Readable depth (nat n) :=
  .number depth ⟨by omega, by exact_mod_cast h⟩

theorem readable_optional (s : Option String) (depth : Nat) : Readable depth (optional s) := by
  cases s with
  | none => exact .null depth
  | some s => exact .string depth s

end Leaves

section Readers

def natural? : Json → Option Nat
  | .number (.whole z) => z.toNat?
  | _ => none

def truth? : Json → Option Bool
  | .bool b => some b
  | _ => none

def text? : Json → Option String
  | .string s => some s
  | _ => none

def optionalText? : Json → Option (Option String)
  | .null => some none
  | .string s => some (some s)
  | _ => none

def list? (read : Json → Option α) : Json → Option (List α)
  | .array items => items.mapM read
  | _ => none

def member? (read : Json → Option α) (key : String) (v : Json) : Option α :=
  (v.get? key).bind read

theorem natural?_nat (n : Nat) : natural? (ordered (nat n)) = some n := rfl

theorem truth?_bool (b : Bool) : truth? (ordered (.bool b)) = some b := rfl

theorem text?_string (s : String) : text? (ordered (.string s)) = some s := rfl

theorem optionalText?_optional (s : Option String) :
    optionalText? (ordered (optional s)) = some s := by
  cases s <;> rfl

theorem list?_map {read : Json → Option α} {write : α → Json} {xs : List α}
    (h : ∀ x ∈ xs, read (write x).ordered = some x) :
    list? read (ordered (.array (xs.map write))) = some xs := by
  rw [ordered, orderedItems_eq_map, List.map_map, list?]
  induction xs with
  | nil => rfl
  | cons x rest ih =>
      obtain ⟨hx, hrest⟩ := List.forall_mem_cons.mp h
      rw [List.map_cons, List.mapM_cons, Function.comp_apply, hx, ih hrest]
      rfl

end Readers

section Lookup

theorem lookup_cons (key : String) (value : Json) (members : List (String × Json))
    (sought : String) :
    lookup sought ((key, value) :: members) =
      if sought = key then some value else lookup sought members := by
  unfold lookup
  by_cases h : sought = key
  · simp [h]
  · simp [h, Ne.symm h]

theorem lookup_eq_none {members : List (String × Json)} {sought : String}
    (h : sought ∉ members.map (·.1)) : lookup sought members = none := by
  rw [lookup, Option.map_eq_none_iff, List.find?_eq_none]
  intro member hmem heq
  exact h (of_decide_eq_true heq ▸ List.mem_map_of_mem hmem)

theorem lookup_insertMember (key : String) (value : Json) (members : List (String × Json))
    (sought : String) :
    lookup sought (insertMember key value members) =
      if sought = key then some value else lookup sought members := by
  induction members with
  | nil => exact lookup_cons key value [] sought
  | cons member rest ih =>
      obtain ⟨k, v⟩ := member
      unfold insertMember
      by_cases hsame : key = k
      · subst hsame
        rw [if_pos rfl, lookup_cons, lookup_cons]
        split_ifs <;> rfl
      · rw [if_neg hsame]
        by_cases hbefore : key < k
        · rw [if_pos hbefore]
          exact lookup_cons key value _ sought
        · rw [if_neg hbefore, lookup_cons, ih, lookup_cons]
          split_ifs with hk hkey
          · exact absurd (hkey.symm.trans hk) hsame
          · rfl
          · rfl
          · rfl

/-- Members with different keys are found where they are in order as they were found before. -/
theorem lookup_orderedMembers {members : List (String × Json)} (h : (members.map (·.1)).Nodup)
    (done : List (String × Json)) (sought : String) :
    lookup sought (orderedMembers done members) =
      ((lookup sought members).map ordered).or (lookup sought done) := by
  induction members generalizing done with
  | nil => rfl
  | cons member rest ih =>
      obtain ⟨key, value⟩ := member
      obtain ⟨hkey, hrest⟩ := List.nodup_cons.mp h
      rw [orderedMembers, ih hrest, lookup_insertMember, lookup_cons]
      split_ifs with hsought
      · rw [lookup_eq_none (hsought ▸ hkey)]
        rfl
      · rfl

theorem member?_ordered {members : List (String × Json)} (h : (members.map (·.1)).Nodup)
    (read : Json → Option α) (key : String) :
    member? read key (ordered (.object members)) =
      (lookup key members).bind fun v => read v.ordered := by
  rw [member?, ordered, get?, lookup_orderedMembers h]
  cases lookup key members <;> rfl

end Lookup

end BulkLoad.Json
