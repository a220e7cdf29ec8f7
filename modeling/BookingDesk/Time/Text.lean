import BookingDesk.Text.Blank
import BookingDesk.Text.Decimal
import BookingDesk.Time.Instant

/-!
# Instants as text

An instant is written as date, `T`, time and `Z`, with as many fraction digits as lose nothing: 0,
3, 6 or 9 of them. Reading is more liberal: numbers may be short, blanks may stand before numbers
and marks, and any offset from universal time may be given.
-/
namespace BookingDesk.Instant

open Time Text

/-! ## Writing -/

/-- Years of four digits have no sign. -/
def writeYear (y : Int) : List Char :=
  if 0 ≤ y ∧ y ≤ 9999 then Decimal.padded 4 y.toNat
  else (if y < 0 then '-' else '+') :: Decimal.padded 4 y.natAbs

def writeFraction (nano : Nat) : List Char :=
  if nano = 0 then []
  else if nano % 1000000 = 0 then '.' :: Decimal.padded 3 (nano / 1000000)
  else if nano % 1000 = 0 then '.' :: Decimal.padded 6 (nano / 1000)
  else '.' :: Decimal.padded 9 nano

def write (t : Instant) : List Char :=
  let c := t.civil
  writeYear c.date.year ++ '-' :: Decimal.padded 2 c.date.month
    ++ '-' :: Decimal.padded 2 c.date.day ++ 'T' :: Decimal.padded 2 c.hour
    ++ ':' :: Decimal.padded 2 c.minute ++ ':' :: Decimal.padded 2 c.second
    ++ writeFraction c.nano ++ ['Z']

instance : ToString Instant := ⟨fun t => String.ofList t.write⟩

/-! ## Reading -/

/-- Takes one to `most` digits off the front. -/
def digits? (most : Nat) (cs : List Char) : Option (Nat × List Char) :=
  let ds := (cs.take most).takeWhile Char.isDigit
  if ds = [] then none else some (Nat.ofDigitChars 10 ds 0, cs.drop ds.length)

/-- A number of one or two digits, after blanks. -/
def number? (cs : List Char) : Option (Nat × List Char) := digits? 2 (cs.dropWhile isBlank)

/-- The year: up to four digits, or any number of them behind a sign. -/
def year? (cs : List Char) : Option (Int × List Char) :=
  match cs.dropWhile isBlank with
  | '-' :: cs => (digits? cs.length cs).map fun (n, cs) => (-n, cs)
  | '+' :: cs => (digits? cs.length cs).map fun (n, cs) => (n, cs)
  | cs => (digits? 4 cs).map fun (n, cs) => (n, cs)

/-- The mark `c`, after blanks. -/
def mark? (c : Char) (cs : List Char) : Option (List Char) :=
  match cs.dropWhile isBlank with
  | d :: cs => if d = c then some cs else none
  | [] => none

/-- The fraction of a second in nanoseconds. Digits behind the ninth are not looked at. -/
def fraction? (cs : List Char) : Option (Nat × List Char) :=
  match cs with
  | '.' :: cs => do
    let (n, rest) ← digits? 9 cs
    let count := cs.length - rest.length
    return (n * Nat.pow 10 (9 - count), rest.dropWhile Char.isDigit)
  | cs => some (0, cs)

/-- The two digits of an offset's minutes are 00 to 59. -/
def minutes? : List Char → Option (Nat × List Char)
  | a :: b :: cs =>
    if '0' ≤ a ∧ a ≤ '5' ∧ b.isDigit then some (Nat.ofDigitChars 10 [a, b] 0, cs) else none
  | _ => none

def hours? : List Char → Option (Nat × List Char)
  | a :: b :: cs =>
    if a.isDigit ∧ b.isDigit then some (Nat.ofDigitChars 10 [a, b] 0, cs) else none
  | _ => none

/-- How many minutes clocks are ahead of universal time, which is named by `Z` or `UTC` in either
case. -/
def offset? (cs : List Char) : Option (Int × List Char) :=
  if (cs.take 3).map Char.toUpper = ['U', 'T', 'C'] then some (0, cs.drop 3)
  else match cs with
    | [] => none
    | c :: cs =>
      if c = 'Z' ∨ c = 'z' then some (0, cs)
      else if c = '+' ∨ c = '-' ∨ c = '\u2212' then do
        let (h, cs) ← hours? cs
        let (m, cs) ← minutes? (cs.dropWhile fun c => c = ':' || isBlank c)
        if 24 ≤ h then none
        let minutes : Int := h * 60 + m
        return (if c = '+' then minutes else -minutes, cs)
      else none

def read? (cs : List Char) : Option Instant := do
  let (year, cs) ← year? cs
  let (month, cs) ← number? (← mark? '-' cs)
  let (day, cs) ← number? (← mark? '-' cs)
  let cs ← match cs with
    | c :: cs => if c = 'T' ∨ c = 't' ∨ c = ' ' then some cs else none
    | [] => none
  let (hour, cs) ← number? cs
  let (minute, cs) ← number? (← mark? ':' cs)
  let (second, cs) ← number? (← mark? ':' cs)
  let (nano, cs) ← fraction? cs
  let (offset, cs) ← offset? (cs.dropWhile isBlank)
  if cs.all isBlank then ofCivil? ⟨⟨year, month, day⟩, hour, minute, second, nano⟩ offset else none

def ofString? (s : String) : Option Instant := read? s.toList

end BookingDesk.Instant
