/-!
# Hexadecimal digits

Digits are read in either case and written in lower case.
-/
namespace BookingDesk.Hex

/-- The last digit of a number. -/
def ofNat (n : Nat) : Fin 16 := ⟨n % 16, Nat.mod_lt n (by decide)⟩

/-- The value of a digit in either case. -/
def digit? (c : Char) : Option (Fin 16) :=
  let n := c.toNat
  if '0' ≤ c ∧ c ≤ '9' then some (ofNat (n - 48))
  else if 'a' ≤ c ∧ c ≤ 'f' then some (ofNat (n - 87))
  else if 'A' ≤ c ∧ c ≤ 'F' then some (ofNat (n - 55))
  else none

def digit (d : Fin 16) : Char :=
  Char.ofNat (if d.val < 10 then 48 + d.val else 87 + d.val)

/-- The digits of a number without leading zeros, lower case. -/
def write (n : Nat) : List Char := Nat.toDigits 16 n

@[simp] theorem digit?_digit (d : Fin 16) : digit? (digit d) = some d := by
  revert d; decide

@[simp] theorem mapM_digit?_map_digit (ds : List (Fin 16)) :
    (ds.map digit).mapM digit? = some ds := by
  induction ds <;> simp_all

end BookingDesk.Hex
