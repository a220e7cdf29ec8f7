/-!
# Calendar dates

Dates of the Gregorian calendar, carried on before its introduction and before the year 1, and the
number of days between each of them and 1970-01-01.
-/
namespace BookingDesk.Time

structure Date where
  year : Int
  month : Nat
  day : Nat
deriving DecidableEq, Repr

def isLeapYear (y : Int) : Bool := y % 4 = 0 ∧ (y % 100 ≠ 0 ∨ y % 400 = 0)

def monthLengths (leap : Bool) : List Nat :=
  [31, if leap then 29 else 28, 31, 30, 31, 30, 31, 31, 30, 31, 30, 31]

/-- The days of the year before a month. -/
def daysBeforeMonth (leap : Bool) (month : Nat) : Nat :=
  ((monthLengths leap).take (month - 1)).foldr (· + ·) 0

/-- The days from the first of January of the year 0 to that of the year `y`. -/
def daysBeforeYear (y : Int) : Int := 365 * y + (y + 3) / 4 - (y + 99) / 100 + (y + 399) / 400

/-- The days from 0000-01-01 to 1970-01-01. -/
def daysToEpoch : Int := 719528

namespace Date

/-- There is such a month, and the month has such a day. -/
def IsValid (d : Date) : Prop :=
  1 ≤ d.month ∧ 1 ≤ d.day ∧ d.day ≤ (monthLengths (isLeapYear d.year)).getD (d.month - 1) 0

instance (d : Date) : Decidable d.IsValid := by unfold IsValid; infer_instance

/-- The days from 1970-01-01, negative before it. -/
def dayNumber (d : Date) : Int :=
  daysBeforeYear d.year + daysBeforeMonth (isLeapYear d.year) d.month
    + (d.day - 1 : Nat) - daysToEpoch

/-- The year in which a day falls, by the mean length of a year and at most one year of correction.
Days are counted from 0000-01-01. -/
def yearOf (n : Int) : Int :=
  let y := 400 * n / 146097
  if n < daysBeforeYear y then y - 1
  else if daysBeforeYear (y + 1) ≤ n then y + 1
  else y

/-- How many whole months come before a day, and the days of its own month that do. -/
def splitMonths : List Nat → Nat → Nat × Nat
  | [], d => (0, d)
  | n :: ns, d =>
    if d < n then (0, d)
    else
      let (m, d) := splitMonths ns (d - n)
      (m + 1, d)

def ofDayNumber (n : Int) : Date :=
  let n := n + daysToEpoch
  let year := yearOf n
  let (months, days) := splitMonths (monthLengths (isLeapYear year)) (n - daysBeforeYear year).toNat
  ⟨year, months + 1, days + 1⟩

end Date
end BookingDesk.Time
