import BookingDesk.Time.Date

/-!
# Instants

An instant is a whole number of seconds from 1970-01-01T00:00:00Z and the nanoseconds since then. A
leap second has no number of its own: it is the second nanosecond billion of the second before it,
which must be the last one of its minute. Instants are ordered by second, then by nanosecond.
-/
namespace BookingDesk

def nanosPerSecond : Nat := 1000000000

structure Instant where
  second : Int
  nano : Nat
  nano_lt : nano < 2 * nanosPerSecond
  leap : nanosPerSecond ≤ nano → second % 60 = 59
deriving DecidableEq, Repr

namespace Instant

def ofSecond (second : Int) : Instant :=
  ⟨second, 0, by decide, fun h => absurd h (by decide)⟩

instance : Inhabited Instant := ⟨ofSecond 0⟩

protected def lt (a b : Instant) : Prop :=
  a.second < b.second ∨ (a.second = b.second ∧ a.nano < b.nano)

instance : LT Instant := ⟨Instant.lt⟩

instance (a b : Instant) : Decidable (a < b) :=
  inferInstanceAs (Decidable (a.second < b.second ∨ (a.second = b.second ∧ a.nano < b.nano)))

instance : LE Instant := ⟨fun a b => ¬ b < a⟩

instance (a b : Instant) : Decidable (a ≤ b) := inferInstanceAs (Decidable (¬ b < a))

theorem lt_iff {a b : Instant} :
    a < b ↔ a.second < b.second ∨ (a.second = b.second ∧ a.nano < b.nano) := Iff.rfl

theorem not_lt {a b : Instant} : ¬ a < b ↔ b ≤ a := Iff.rfl

@[simp] theorem lt_irrefl (a : Instant) : ¬ a < a := by
  simp [lt_iff]

theorem lt_trans {a b c : Instant} (h : a < b) (h' : b < c) : a < c := by
  simp only [lt_iff] at *; omega

theorem le_refl (a : Instant) : a ≤ a := lt_irrefl a

theorem le_trans {a b c : Instant} (h : a ≤ b) (h' : b ≤ c) : a ≤ c := by
  simp only [← not_lt, lt_iff] at *; omega

theorem le_total (a b : Instant) : a ≤ b ∨ b ≤ a := by
  simp only [← not_lt, lt_iff]; omega

theorem le_antisymm {a b : Instant} (h : a ≤ b) (h' : b ≤ a) : a = b := by
  obtain ⟨s, n, _, _⟩ := a
  obtain ⟨s', n', _, _⟩ := b
  simp only [← not_lt, lt_iff, mk.injEq] at *; omega

/-! ## Whole microseconds -/

/-- 2000-01-01T00:00:00Z. -/
def turnOfCentury : Int := 946684800

/-- The whole microseconds between 2000-01-01 and an instant, cut toward the former. A leap second
falls on the second that follows it. -/
def microseconds (t : Instant) : Int :=
  ((t.second - turnOfCentury) * nanosPerSecond + t.nano).tdiv 1000

def ofMicroseconds (n : Int) : Instant :=
  ⟨n / 1000000 + turnOfCentury, (n % 1000000).toNat * 1000,
    by simp only [nanosPerSecond]; omega, by simp only [nanosPerSecond]; omega⟩

/-- The instant with the part below a microsecond cut off. -/
def toMicroseconds (t : Instant) : Instant := ofMicroseconds t.microseconds

@[simp] theorem microseconds_ofMicroseconds (n : Int) : (ofMicroseconds n).microseconds = n := by
  have h : ((n / 1000000 + turnOfCentury - turnOfCentury) * nanosPerSecond
      + ((n % 1000000).toNat * 1000 : Nat) : Int) = n * 1000 := by
    simp only [nanosPerSecond]; omega
  rw [microseconds, ofMicroseconds, h, Int.mul_tdiv_cancel n (by decide)]

/-- What has been cut once stays as it is. -/
@[simp] theorem toMicroseconds_toMicroseconds (t : Instant) :
    t.toMicroseconds.toMicroseconds = t.toMicroseconds := by
  simp [toMicroseconds]

end Instant

/-! ## Dates with a time of day -/

namespace Time

/-- A date and a time of day. The second is 60 in a leap second. -/
structure Civil where
  date : Date
  hour : Nat
  minute : Nat
  second : Nat
  nano : Nat
deriving DecidableEq, Repr

namespace Civil

def IsValid (c : Civil) : Prop :=
  c.date.IsValid ∧ c.hour < 24 ∧ c.minute < 60 ∧ c.second ≤ 60 ∧ c.nano < nanosPerSecond

instance (c : Civil) : Decidable c.IsValid := by unfold IsValid; infer_instance

end Civil

/-- The first and last year that can be told. -/
def firstYear : Int := -262143
def lastYear : Int := 262142

def isTold (d : Date) : Bool := firstYear ≤ d.year && d.year ≤ lastYear

end Time

namespace Instant

open Time

def date (t : Instant) : Date := .ofDayNumber (t.second / 86400)

def civil (t : Instant) : Civil :=
  let s := (t.second % 86400).toNat
  let leap := nanosPerSecond ≤ t.nano
  { date := t.date
    hour := s / 3600
    minute := s / 60 % 60
    second := if leap then 60 else s % 60
    nano := if leap then t.nano - nanosPerSecond else t.nano }

/-- The instant at which clocks that are `offset` minutes ahead show `c`. Both the date shown and
that of the instant must be among those that can be told. -/
def ofCivil? (c : Civil) (offset : Int) : Option Instant :=
  if h : c.IsValid then
    let leap := c.second = 60
    let second := c.date.dayNumber * 86400 + c.hour * 3600 + (c.minute - offset) * 60
      + (if leap then 59 else c.second)
    let t : Instant :=
      { second
        nano := if leap then c.nano + nanosPerSecond else c.nano
        nano_lt := by have := h.2.2.2.2; split <;> omega
        leap := by
          have := h.2.2.2.2
          intro h
          split at h
          · rename_i hs; simp only [second, leap, hs, if_true]; omega
          · omega }
    if isTold c.date && isTold t.date then some t else none
  else none

end Instant
end BookingDesk
