import BookingDesk.Text.Hex

/-!
# Identifiers of 128 bits

An identifier is thirty-two hexadecimal digits. It is written in five groups between hyphens, in
lower case, and read in four spellings: the groups, the bare digits, the groups in braces, and the
groups behind `urn:uuid:`. Main statement: what is written reads back as itself.
-/
namespace BookingDesk

structure Uuid where
  digits : List (Fin 16)
  length_digits : digits.length = 32
deriving DecidableEq

namespace Uuid

instance : Repr Uuid := ⟨fun u _ => repr (u.digits.map Fin.val)⟩

/-- The identifier that stands for "none given". -/
def nil : Uuid := ⟨List.replicate 32 (Hex.ofNat 0), by simp⟩

instance : Inhabited Uuid := ⟨nil⟩

def ofDigits? (ds : List (Fin 16)) : Option Uuid :=
  if h : ds.length = 32 then some ⟨ds, h⟩ else none

@[simp] theorem ofDigits?_digits (u : Uuid) : ofDigits? u.digits = some u := by
  simp [ofDigits?, u.length_digits]

/-! ## Spelling -/

/-- The groups of digits, with a hyphen between two of them. -/
def writeGroups : List Nat → List (Fin 16) → List Char
  | [], _ => []
  | [n], ds => (ds.take n).map Hex.digit
  | n :: ns, ds => (ds.take n).map Hex.digit ++ '-' :: writeGroups ns (ds.drop n)

def readGroups? : List Nat → List Char → Option (List (Fin 16))
  | [], cs => if cs = [] then some [] else none
  | [n], cs => if cs.length = n then cs.mapM Hex.digit? else none
  | n :: ns, cs =>
    match cs.drop n with
    | '-' :: rest => do return (← (cs.take n).mapM Hex.digit?) ++ (← readGroups? ns rest)
    | _ => none

def groups : List Nat := [8, 4, 4, 4, 12]

def write (u : Uuid) : List Char := writeGroups groups u.digits

protected def toString (u : Uuid) : String := String.ofList u.write

instance : ToString Uuid := ⟨Uuid.toString⟩

/-- The groups inside the longer spellings: what stands between braces, or behind `urn:uuid:`,
where the letters of the scheme may have either case. -/
def unwrap (cs : List Char) : List Char :=
  if cs.length = 38 ∧ cs.head? = some '\x7b' ∧ cs.getLast? = some '\x7d' then (cs.drop 1).dropLast
  else if cs.length = 45 ∧ (cs.take 9).map Char.toLower = "urn:uuid:".toList then cs.drop 9
  else cs

/-- The identifier that a text spells. -/
def read? (cs : List Char) : Option Uuid :=
  if cs.length = 32 then cs.mapM Hex.digit? >>= ofDigits?
  else readGroups? groups (unwrap cs) >>= ofDigits?

def ofString? (s : String) : Option Uuid := read? s.toList

/-! ## Reading what was written -/

/-- The number of digits in groups of these lengths. -/
def total : List Nat → Nat
  | [] => 0
  | n :: ns => n + total ns

theorem length_writeGroups {ns : List Nat} {ds : List (Fin 16)} (h : ds.length = total ns) :
    (writeGroups ns ds).length = ds.length + (ns.length - 1) := by
  fun_induction writeGroups ns ds with
  | case1 => exact h.symm
  | case2 n ds => simp_all [total]
  | case3 n ns ds hne ih =>
    have hn : 0 < ns.length := List.length_pos_iff.2 fun h => hne h
    rw [total] at h
    have hd : (ds.drop n).length = total ns := by simp; omega
    simp [ih hd, hd]
    omega

theorem readGroups?_writeGroups {ns : List Nat} {ds : List (Fin 16)} (h : ds.length = total ns) :
    readGroups? ns (writeGroups ns ds) = some ds := by
  fun_induction writeGroups ns ds with
  | case1 => simp_all [total, readGroups?]
  | case2 n ds =>
    have hn : ds.length = n := h
    rw [List.take_of_length_le (by omega), readGroups?, if_pos (by simpa),
      Hex.mapM_digit?_map_digit]
  | case3 n ns ds hne ih =>
    rw [total] at h
    have hn : ((ds.take n).map Hex.digit).length = n := by simp; omega
    have hd : (ds.drop n).length = total ns := by simp; omega
    rw [readGroups?, List.drop_left' hn, List.take_left' hn]
    · simp only [Hex.mapM_digit?_map_digit, ih hd, Option.bind_eq_bind, Option.bind_some]
      rw [List.take_append_drop]
      rfl
    · exact hne

theorem length_write (u : Uuid) : u.write.length = 36 := by
  rw [write, length_writeGroups u.length_digits, u.length_digits]
  rfl

@[simp] theorem read?_write (u : Uuid) : read? u.write = some u := by
  have h : u.digits.length = total groups := u.length_digits
  simp [read?, unwrap, u.length_write]
  rw [write, readGroups?_writeGroups h]
  simp

@[simp] theorem ofString?_toString (u : Uuid) : ofString? (toString u) = some u := by
  show read? (String.ofList u.write).toList = some u
  simp

theorem mem_writeGroups {ns : List Nat} {ds : List (Fin 16)} {c : Char}
    (h : c ∈ writeGroups ns ds) : c = '-' ∨ ∃ d, c = Hex.digit d := by
  fun_induction writeGroups ns ds with
  | case1 => cases h
  | case2 => grind
  | case3 => grind

theorem mem_write {u : Uuid} {c : Char} (h : c ∈ u.write) : c = '-' ∨ ∃ d, c = Hex.digit d :=
  mem_writeGroups h

/-! ## Fresh identifiers -/

/-- The digits of `n` in base 16, `k` of them, the last one first. -/
def lowDigits : Nat → Nat → List (Fin 16)
  | 0, _ => []
  | k + 1, n => Hex.ofNat n :: lowDigits k (n / 16)

theorem length_lowDigits (k n : Nat) : (lowDigits k n).length = k := by
  induction k generalizing n with
  | zero => rfl
  | succ k ih => simp [lowDigits, ih]

/-- The value of the digit at a position. -/
def digitAt (ds : List (Fin 16)) (i : Nat) : Nat := (ds[i]?.map Fin.val).getD 0

/-- A random identifier: version 4, and two fixed bits that mark the variant. The other digits are
those of `entropy`. -/
def random (entropy : Nat) : Uuid :=
  let ds := lowDigits 32 entropy
  ⟨(ds.set 12 (Hex.ofNat 4)).set 16 (Hex.ofNat (8 + digitAt ds 16 % 4)), by
    simp [ds, length_lowDigits]⟩

def version (u : Uuid) : Nat := digitAt u.digits 12

/-- Whether the variant is the one that these identifiers have. -/
def hasStandardVariant (u : Uuid) : Bool := digitAt u.digits 16 / 4 == 2

end Uuid
end BookingDesk
