import BookingDesk.Text.Decimal

/-!
# Numbers in JSON

A numeral is taken for a natural number only if it has no sign, fraction or exponent. All others
are held in double precision, and one that rounds to infinity there is refused.
-/
namespace BookingDesk.Json.Numeral

/-- The nearest number with at most 53 significant bits, the even one of two. -/
def roundToDouble (n : Nat) : Nat :=
  let shift := n.log2 + 1 - 53
  let unit := Nat.pow 2 shift
  let q := n / unit
  let r := n % unit
  if r * 2 < unit then q * unit
  else if r * 2 > unit then (q + 1) * unit
  else (q + q % 2) * unit

/-- The least number that rounds to infinity. -/
def overflow : Nat := Nat.pow 2 1024 - Nat.pow 2 970

/-- The leading digits that fit in 64 bits, and whether there are others behind them. -/
def leading (n : Nat) : List Char → Nat × List Char
  | [] => (n, [])
  | c :: rest =>
    let m := n * 10 + (c.toNat - 48)
    if m < Nat.pow 2 64 then leading m rest else (n, c :: rest)

/-- Exponents from here on outweigh all the other digits that a numeral can have. -/
def hugeExponent : Nat := Nat.pow 2 31

/-- The value of the digits of an exponent, or the least huge one if it is huge. -/
def magnitude (ds : List Char) : Nat :=
  ds.foldl (fun n c => min hugeExponent (n * 10 + (c.toNat - 48))) 0

/-- The value of an exponent, with its sign. -/
def exponent : List Char → Int
  | '-' :: ds => -Int.ofNat (magnitude ds)
  | '+' :: ds => magnitude ds
  | ds => magnitude ds

def isMark (c : Char) : Bool := c = 'e' || c = 'E'

/-- Whether the numeral is too large for double precision: its leading digits and the power of ten
that they are multiplied with are rounded before their product is. -/
def tooLarge (spelling : List Char) : Bool :=
  let unsigned := spelling.dropWhile (· = '-')
  let mantissa := unsigned.takeWhile (!isMark ·)
  let whole := mantissa.takeWhile (· ≠ '.')
  let fraction := (mantissa.dropWhile (· ≠ '.')).drop 1
  let (n, left) := leading 0 (whole ++ fraction)
  let e := exponent ((unsigned.dropWhile (!isMark ·)).drop 1) + left.length - fraction.length
  n ≠ 0 && 0 < e && (308 < e || overflow ≤ roundToDouble n * roundToDouble (Nat.pow 10 e.toNat))

def natural? (spelling : List Char) : Option Nat := Decimal.read? spelling

@[simp] theorem natural?_write (n : Nat) : natural? (Decimal.write n) = some n :=
  Decimal.read?_write n

end BookingDesk.Json.Numeral
