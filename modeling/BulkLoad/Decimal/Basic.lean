/-!
Decimal numerals over the ASCII digits.

`digits` writes a natural number without leading zeros; `ofDigits?` reads any non-empty run of
digits, leading zeros included, so that it undoes `digits` (`ofDigits?_digits`). The signed and the
unsigned readers add the signs that whole numbers may carry in input.
-/
namespace BulkLoad.Decimal

/-- The bound of the natural numbers that 64 bits hold. -/
def wordBound : Nat := 18446744073709551616

/-- The bound of the magnitudes that 64 bits hold with a sign. -/
def signedBound : Nat := 9223372036854775808

def digitChar (d : Nat) : Char := Char.ofNat (0x30 + d)

def digitValue (c : Char) : Nat := c.toNat - 0x30

def isDigit (c : Char) : Bool := 0x30 ≤ c.toNat && c.toNat ≤ 0x39

def digits (n : Nat) : List Char :=
  if n < 10 then [digitChar n] else digits (n / 10) ++ [digitChar (n % 10)]

def text (n : Nat) : String := String.ofList (digits n)

def intText : Int → String
  | .ofNat n => text n
  | .negSucc n => "-" ++ text (n + 1)

def valueOf (cs : List Char) : Nat :=
  cs.foldl (fun n c => 10 * n + digitValue c) 0

def ofDigits? (cs : List Char) : Option Nat :=
  if cs ≠ [] ∧ cs.all isDigit then some (valueOf cs) else none

/-- Reads one or more digits after an optional plus sign. -/
def unsigned? : List Char → Option Nat
  | '+' :: rest => ofDigits? rest
  | cs => ofDigits? cs

def signed? : List Char → Option Int
  | '+' :: rest => (ofDigits? rest).map Int.ofNat
  | '-' :: rest => (ofDigits? rest).map fun n => - Int.ofNat n
  | cs => (ofDigits? cs).map Int.ofNat

theorem digitChar_toNat {d : Nat} (h : d < 10) : (digitChar d).toNat = 0x30 + d := by
  have : ∀ d : Fin 10, (digitChar d).toNat = 0x30 + d.val := by decide
  exact this ⟨d, h⟩

theorem digitValue_digitChar {d : Nat} (h : d < 10) : digitValue (digitChar d) = d := by
  simp [digitValue, digitChar_toNat h]

theorem isDigit_digitChar {d : Nat} (h : d < 10) : isDigit (digitChar d) = true := by
  simp [isDigit, digitChar_toNat h]
  omega

theorem digits_ne_nil (n : Nat) : digits n ≠ [] := by
  unfold digits
  split <;> simp

theorem valueOf_append_digit (cs : List Char) (c : Char) :
    valueOf (cs ++ [c]) = 10 * valueOf cs + digitValue c := by
  simp [valueOf]

theorem valueOf_digits (n : Nat) : valueOf (digits n) = n := by
  fun_induction digits n with
  | case1 n h => simp [valueOf, digitValue_digitChar h]
  | case2 n h ih =>
    rw [valueOf_append_digit, ih, digitValue_digitChar (Nat.mod_lt _ (by omega))]
    omega

theorem all_isDigit_digits (n : Nat) : (digits n).all isDigit = true := by
  fun_induction digits n with
  | case1 n h => simp [isDigit_digitChar h]
  | case2 n h ih => simp_all [isDigit_digitChar (Nat.mod_lt n (show 10 > 0 by omega))]

/-- Reading undoes writing. -/
theorem ofDigits?_digits (n : Nat) : ofDigits? (digits n) = some n := by
  simp only [ofDigits?, digits_ne_nil, all_isDigit_digits, valueOf_digits, ne_eq, not_false_eq_true,
    and_self, if_true]

end BulkLoad.Decimal
