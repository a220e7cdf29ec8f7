/-!
# Decimal numerals

A numeral is a non-empty run of ASCII digits and may begin with zeros. Writing uses the fewest
digits, or at least a given number of them. Main statements: a written numeral reads back as its
number, and a reader that gives up at the first digit with which the number is too large reads what
is below its bound and nothing else (`readBelow?_eq_some_iff`).
-/
namespace BookingDesk.Decimal

/-- The number that a run of digits stands for. -/
def read? (cs : List Char) : Option Nat :=
  if cs ≠ [] ∧ cs.all Char.isDigit then some (Nat.ofDigitChars 10 cs 0) else none

def write (n : Nat) : List Char := Nat.toDigits 10 n

/-- Zeros are put in front until there are `width` digits. -/
def padded (width n : Nat) : List Char :=
  List.replicate (width - (write n).length) '0' ++ write n

/-! ## Reading what was written -/

theorem write_ne_nil (n : Nat) : write n ≠ [] := Nat.toDigits_ne_nil

theorem isDigit_of_mem_write {n : Nat} {c : Char} (h : c ∈ write n) : c.isDigit :=
  Nat.isDigit_of_mem_toDigits (by decide) (by decide) h

theorem isDigit_of_mem_padded {width n : Nat} {c : Char} (h : c ∈ padded width n) : c.isDigit := by
  rcases List.mem_append.1 h with h | h
  · rw [List.eq_of_mem_replicate h]; rfl
  · exact isDigit_of_mem_write h

@[simp] theorem read?_write (n : Nat) : read? (write n) = some n := by
  have h : (write n).all Char.isDigit := List.all_eq_true.2 fun _ => isDigit_of_mem_write
  simp [read?, write_ne_nil, h]
  simp [write, Nat.ofDigitChars_ten_toDigits]

theorem padded_ne_nil (width n : Nat) : padded width n ≠ [] := by simp [padded, write_ne_nil]

/-- Zeros in front do not count. -/
theorem ofDigitChars_padded (width n : Nat) : Nat.ofDigitChars 10 (padded width n) 0 = n := by
  rw [padded, Nat.ofDigitChars_append, Nat.ofDigitChars_replicate_zero, write, Nat.mul_zero,
    Nat.ofDigitChars_ten_toDigits]

@[simp] theorem read?_padded (width n : Nat) : read? (padded width n) = some n := by
  have h : (padded width n).all Char.isDigit := List.all_eq_true.2 fun _ => isDigit_of_mem_padded
  rw [read?, if_pos ⟨padded_ne_nil width n, h⟩, ofDigitChars_padded]

theorem length_padded {width n : Nat} (hwidth : 0 < width) (h : n < Nat.pow 10 width) :
    (padded width n).length = width := by
  have := (Nat.length_toDigits_le_iff (b := 10) (by decide) hwidth).2 h
  simp [padded, write]
  omega

/-! ## Numbers below a bound -/

/-- The number, unless it overflows. -/
def below? (bound n : Nat) : Option Nat := if n < bound then some n else none

/-- The number with one digit more. Both steps to it are held to the bound. -/
def extend? (bound n : Nat) (c : Char) : Option Nat :=
  if c.isDigit then do
    let tens ← below? bound (10 * n)
    below? bound (tens + (c.toNat - '0'.toNat))
  else none

/-- The number below `bound` that a run of digits stands for, read digit by digit. -/
def readBelow? (bound : Nat) (cs : List Char) : Option Nat :=
  if cs = [] then none else cs.foldlM (extend? bound) 0

variable {bound n m : Nat} {cs : List Char} {c : Char}

theorem below?_eq_some_iff : below? bound n = some m ↔ n = m ∧ n < bound := by
  grind [below?]

theorem extend?_eq_some_iff : extend? bound n c = some m ↔
    c.isDigit = true ∧ 10 * n + (c.toNat - '0'.toNat) = m ∧ m < bound := by
  unfold extend?
  split
  next hdigit =>
    simp only [Option.bind_eq_bind, Option.bind_eq_some_iff, below?_eq_some_iff, hdigit]
    constructor
    · rintro ⟨_, ⟨rfl, -⟩, rfl, hbound⟩
      exact ⟨trivial, rfl, hbound⟩
    · rintro ⟨-, rfl, hbound⟩
      exact ⟨_, ⟨rfl, by omega⟩, rfl, hbound⟩
  next hdigit => simp [hdigit]

/-- A number never gets smaller by more digits. -/
theorem le_ofDigitChars (n : Nat) (cs : List Char) : n ≤ Nat.ofDigitChars 10 cs n := by
  rw [Nat.ofDigitChars_eq_ofDigitChars_zero]
  exact Nat.le_trans (Nat.le_mul_of_pos_left n (Nat.pow_pos (by decide))) (Nat.le_add_right _ _)

/-- Reading on from `n`. That the last number is below the bound is enough: since numbers only
grow, so are all on the way to it. -/
theorem foldlM_extend?_eq_some_iff : cs.foldlM (extend? bound) n = some m ↔
    (∀ c ∈ cs, c.isDigit = true) ∧ Nat.ofDigitChars 10 cs n = m ∧ (cs ≠ [] → m < bound) := by
  induction cs generalizing n with
  | nil => simp [Nat.ofDigitChars]
  | cons c cs ih =>
    have hgrows := le_ofDigitChars (10 * n + (c.toNat - '0'.toNat)) cs
    simp only [List.foldlM_cons, Option.bind_eq_bind, Option.bind_eq_some_iff, extend?_eq_some_iff,
      ih, Nat.ofDigitChars_cons, List.forall_mem_cons]
    constructor
    · rintro ⟨k, ⟨hdigit, rfl, hk⟩, hcs, hm, hrest⟩
      refine ⟨⟨hdigit, hcs⟩, hm, fun _ => ?_⟩
      cases cs with
      | nil => exact hm ▸ hk
      | cons => exact hrest (List.cons_ne_nil _ _)
    · rintro ⟨⟨hdigit, hcs⟩, hm, hbound⟩
      have hlast : m < bound := hbound (List.cons_ne_nil _ _)
      exact ⟨_, ⟨hdigit, rfl, by omega⟩, hcs, hm, fun _ => hlast⟩

theorem readBelow?_eq_some_iff : readBelow? bound cs = some n ↔
    cs ≠ [] ∧ (∀ c ∈ cs, c.isDigit = true) ∧ Nat.ofDigitChars 10 cs 0 = n ∧ n < bound := by
  by_cases hcs : cs = []
  · simp [readBelow?, hcs]
  · simp [readBelow?, hcs, foldlM_extend?_eq_some_iff]

/-! ## Plus signs -/

/-- A plus sign in front does not count. -/
def dropPlus : List Char → List Char
  | '+' :: cs => cs
  | cs => cs

theorem exists_eq_append_dropPlus (cs : List Char) :
    ∃ sign, (sign = [] ∨ sign = ['+']) ∧ cs = sign ++ dropPlus cs := by
  fun_cases dropPlus cs with
  | case1 cs => exact ⟨['+'], .inr rfl, rfl⟩
  | case2 => exact ⟨[], .inl rfl, rfl⟩

theorem dropPlus_append {sign digits : List Char} (hsign : sign = [] ∨ sign = ['+'])
    (hdigits : ∀ c ∈ digits, c.isDigit = true) : dropPlus (sign ++ digits) = digits := by
  obtain rfl | rfl := hsign
  · fun_cases dropPlus digits with
    | case1 rest => simp at hdigits
    | case2 => rfl
  · rfl

end BookingDesk.Decimal
