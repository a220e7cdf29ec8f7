import BookingDesk.Database.Query

/-!
# What replies say

A reply of the database is turned into the answer to the call that was made. Status and notes of a
booking are checked as they are read, in this order, and a list is read up to the first row that is
refused. A value that must be there and is not breaks down whoever reads it.
-/
namespace BookingDesk.Database

abbrev Row := List (Column × Value)

inductive Reply where
  | rows (rows : List Row)
  /-- How many rows were written. -/
  | affected (count : Nat)
  | failed (text : String)
deriving DecidableEq, Repr

/-- An answer, or nothing where the reader breaks down. -/
abbrev Reading (α : Type) := Option (Except Failure α)

/-! ## Rows -/

namespace Row

def uuid? (r : Row) (c : Column) : Option Uuid :=
  match r.lookup c with
  | some (.uuid u) => some u
  | _ => none

def id? {e : Entity} (r : Row) (c : Column) : Option (Id e) := (r.uuid? c).map Id.mk

def text? (r : Row) (c : Column) : Option String :=
  match r.lookup c with
  | some (.text s) => some s
  | _ => none

def time? (r : Row) (c : Column) : Option Instant :=
  match r.lookup c with
  | some (.time t) => some t
  | _ => none

def bool? (r : Row) (c : Column) : Option Bool :=
  match r.lookup c with
  | some (.bool b) => some b
  | _ => none

def int? (r : Row) (c : Column) : Option Int :=
  match r.lookup c with
  | some (.int n) => some n
  | _ => none

/-- The booking in a row, when status and notes have been read. -/
def bookingWith? (r : Row) (status : Status) (notes : Notes) : Option Booking := do
  return {
    id := ← r.id? .bookingId
    business := ← r.id? .businessId
    customer := ← r.id? .customerId
    staff := ← r.id? .staffId
    service := ← r.id? .serviceId
    slot := ← r.id? .slotId
    start := ← r.time? .startTime
    finish := ← r.time? .endTime
    status, notes
    createdAt := ← r.time? .createdAt
    updatedAt := ← r.time? .updatedAt }

def booking (r : Row) : Reading Booking :=
  match r.text? .status with
  | none => none
  | some s =>
    match Status.ofName? s with
    | none => some (.error ⟨Status.unknownName s⟩)
    | some status =>
      match r.text? .notes with
      | none => none
      | some n =>
        match Notes.ofString n with
        | .error e => some (.error ⟨e.message⟩)
        | .ok notes => (r.bookingWith? status notes).map .ok

def slot? (r : Row) : Option Slot := do
  return {
    id := ← r.id? .slotId
    business := ← r.id? .businessId
    staff := ← r.id? .staffId
    start := ← r.time? .startTime
    finish := ← r.time? .endTime }

end Row

def bookings : List Row → Reading (List Booking)
  | [] => some (.ok [])
  | r :: rs =>
    match r.booking with
    | none => none
    | some (.error e) => some (.error e)
    | some (.ok b) => (bookings rs).map fun read => read.map (b :: ·)

/-! ## Replies -/

namespace Reply

def failure (text : String) : Failure := ⟨"error returned from database: " ++ text⟩

/-- The rows that were asked for. -/
def rows? : Reply → Except Failure (List Row)
  | rows rs => .ok rs
  | affected _ => .ok []
  | failed text => .error (failure text)

/-- The number of rows that were written. -/
def written : Reply → Except Failure Nat
  | rows rs => .ok rs.length
  | affected n => .ok n
  | failed text => .error (failure text)

def noRows : Failure :=
  ⟨"no rows returned by a query that expected to return at least one row"⟩

def unexpectedNull : Failure :=
  ⟨"error occurred while decoding column 0: unexpected null; try decoding as an \x60Option\x60"⟩

/-- The single value in the first row, if there is a row. -/
def scalar? {α : Type} (reply : Reply) (value? : Row → Option α) : Except Failure (Option α) := do
  match ← reply.rows? with
  | [] => .ok none
  | r :: _ =>
    match value? r with
    | some a => .ok (some a)
    | none => .error unexpectedNull

/-- The single value in the first row, which must be there. -/
def scalar {α : Type} (reply : Reply) (value? : Row → Option α) : Except Failure α := do
  match ← reply.scalar? value? with
  | some a => .ok a
  | none => .error noRows

/-- What the first row stands for, if there is a row. -/
def first {α : Type} (reply : Reply) (read : Row → Reading α) : Reading (Option α) :=
  match reply.rows? with
  | .error e => some (.error e)
  | .ok [] => some (.ok none)
  | .ok (r :: _) => (read r).map fun a => a.map some

def each (reply : Reply) : Reading (List Booking) :=
  match reply.rows? with
  | .error e => some (.error e)
  | .ok rs => bookings rs

/-- Whether rows were written, which is a failure if they had to be. -/
def mustWrite (reply : Reply) (missing : String) : Except Failure Unit := do
  if (← reply.written) = 0 then .error ⟨missing⟩ else .ok ()

end Reply

/-- The answer to a call. -/
def read : (c : Call) → Reply → Reading c.Reply
  | .isAvailable _ _, reply =>
    some ((reply.scalar? (·.bool? .isReserved)).map fun reserved => reserved = some false)
  | .findSlot _ _, reply => reply.first fun r => r.slot?.map .ok
  | .reserve _ _, reply => some (reply.written.map (· = 1))
  | .release slot, reply => some (reply.mustWrite s!"slot {slot} not found")
  | .customerExists _ _, reply => some (reply.scalar (·.bool? .present))
  | .countBooking _ customer, reply => some (reply.mustWrite s!"customer {customer} not found")
  | .staffExists _ _, reply => some (reply.scalar (·.bool? .present))
  | .insert _, reply => some (reply.written.map fun _ => ())
  | .find _ _, reply => reply.first Row.booking
  | .ofCustomer _ _, reply | .ofStaff _ _, reply | .ofBusiness _, reply => reply.each
  | .replace _ _, reply => some (reply.written.map (· = 1))
  | .remove _ _, reply => some (reply.written.map fun _ => ())
  | .countStatus _ _, reply => some ((reply.scalar (·.int? .count)).map Int.toNat)

end BookingDesk.Database
