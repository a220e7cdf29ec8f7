/-!
# UTF-8

The characters that a list of bytes spells. A byte that begins no character, because the bytes after
it do not go on as they must, is told as `none`, and reading goes on with the next byte.
-/
namespace BookingDesk.Utf8

def isContinuation (b : UInt8) : Bool := 0x80 ≤ b && b < 0xC0

/-- The low six bits. -/
def payload (b : UInt8) : Nat := b.toNat % 64

/-- The character at the front and the number of bytes behind its first one. The shortest spelling
is the only one, and surrogates have none. -/
def first? : List UInt8 → Option (Char × Nat)
  | [] => none
  | a :: rest =>
    if a < 0x80 then some (Char.ofNat a.toNat, 0)
    else match rest with
    | b :: rest =>
      if !isContinuation b then none
      else if 0xC2 ≤ a && a < 0xE0 then some (Char.ofNat (a.toNat % 32 * 64 + payload b), 1)
      else match rest with
      | c :: rest =>
        if !isContinuation c then none
        else if 0xE0 ≤ a && a < 0xF0 then
          let n := a.toNat % 16 * 4096 + payload b * 64 + payload c
          if 0x800 ≤ n && !(0xD800 ≤ n && n < 0xE000) then some (Char.ofNat n, 2) else none
        else match rest with
        | d :: _ =>
          if !isContinuation d then none
          else if 0xF0 ≤ a && a < 0xF5 then
            let n := a.toNat % 8 * 262144 + payload b * 4096 + payload c * 64 + payload d
            if 0x10000 ≤ n && n < 0x110000 then some (Char.ofNat n, 3) else none
          else none
        | [] => none
      | [] => none
    | [] => none

/-- Goes on after the symbols that have been seen, last first; the next `skip` bytes belong to the
last of them. -/
def symbolsOnto (seen : List (Option Char)) (skip : Nat) : List UInt8 → List (Option Char)
  | [] => seen.reverse
  | b :: bs =>
    match skip with
    | k + 1 => symbolsOnto seen k bs
    | 0 =>
      match first? (b :: bs) with
      | some (c, more) => symbolsOnto (some c :: seen) more bs
      | none => symbolsOnto (none :: seen) 0 bs

def symbols (bs : List UInt8) : List (Option Char) := symbolsOnto [] 0 bs

/-- The text that the bytes spell, if all of them belong to characters. -/
def decode? (bs : List UInt8) : Option String := ((symbols bs).mapM id).map String.ofList

/-- Bytes of no character are replaced by U+FFFD. -/
def decodeLossy (bs : List UInt8) : String :=
  String.ofList ((symbols bs).map (·.getD '\uFFFD'))

/-! ## Characters of one byte -/

theorem toNat_toUInt8 {c : Char} (h : c.toNat < 128) : c.toUInt8.toNat = c.toNat := by
  show c.val.toUInt8.toNat = c.val.toNat
  rw [UInt32.toNat_toUInt8]
  exact Nat.mod_eq_of_lt (Nat.lt_trans h (by decide))

theorem first?_cons_toUInt8 {c : Char} (h : c.toNat < 128) (bs : List UInt8) :
    first? (c.toUInt8 :: bs) = some (c, 0) := by
  have hbyte : c.toUInt8 < 0x80 := by
    rw [UInt8.lt_iff_toNat_lt, toNat_toUInt8 h]
    exact h
  rw [first?.eq_def]
  simp only [if_pos hbyte, toNat_toUInt8 h, Char.ofNat_toNat]

theorem symbolsOnto_map_toUInt8 (seen : List (Option Char)) {cs : List Char}
    (h : ∀ c ∈ cs, c.toNat < 128) :
    symbolsOnto seen 0 (cs.map Char.toUInt8) = seen.reverse ++ cs.map some := by
  induction cs generalizing seen with
  | nil => simp [symbolsOnto]
  | cons c cs ih =>
    obtain ⟨hc, hcs⟩ := List.forall_mem_cons.1 h
    rw [List.map_cons, symbolsOnto]
    simp [first?_cons_toUInt8 hc, ih _ hcs]

theorem decode?_map_toUInt8 {cs : List Char} (h : ∀ c ∈ cs, c.toNat < 128) :
    decode? (cs.map Char.toUInt8) = some (String.ofList cs) := by
  have hall : ∀ cs : List Char, (cs.map some).mapM id = some cs := by
    intro cs
    induction cs <;> simp_all
  rw [decode?, symbols, symbolsOnto_map_toUInt8 [] h, List.reverse_nil, List.nil_append, hall]
  rfl

end BookingDesk.Utf8
