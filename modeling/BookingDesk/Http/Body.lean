import BookingDesk.Booking.Json

/-!
# What bodies say

The records that stand in the bodies of requests and answers. Identifiers that a client leaves out
of a request are taken for the nil identifier, so that the command is refused where it is checked.
-/
namespace BookingDesk.Http

open Json

/-! ## Answers -/

/-- A booking as clients see it. -/
structure BookingView where
  booking : BookingId
  business : BusinessId
  customer : CustomerId
  staff : StaffId
  service : ServiceId
  slot : SlotId
  start : Instant
  finish : Instant
  status : String
  notes : String
  createdAt : Instant
  updatedAt : Instant
deriving DecidableEq, Repr

namespace BookingView

def ofBooking (b : Booking) : BookingView :=
  { booking := b.id, business := b.business, customer := b.customer, staff := b.staff
    service := b.service, slot := b.slot, start := b.start, finish := b.finish
    status := b.status.name, notes := b.notes.text, createdAt := b.createdAt
    updatedAt := b.updatedAt }

def fields : Fields
    [BookingId, BusinessId, CustomerId, StaffId, ServiceId, SlotId, Instant, Instant, String,
      String, Instant, Instant] :=
  .cons (.required "booking_id" Id.shape) <|
  .cons (.required "business_id" Id.shape) <|
  .cons (.required "customer_id" Id.shape) <|
  .cons (.required "staff_id" Id.shape) <|
  .cons (.required "service_id" Id.shape) <|
  .cons (.required "slot_id" Id.shape) <|
  .cons (.required "start_time" Instant.shape) <|
  .cons (.required "end_time" Instant.shape) <|
  .cons (.required "status" Shape.text) <|
  .cons (.required "notes" Shape.text) <|
  .cons (.required "created_at" Instant.shape) <|
  .cons (.required "updated_at" Instant.shape) .nil

def shape : Shape BookingView :=
  Shape.record fields
    (fun b => (b.booking, b.business, b.customer, b.staff, b.service, b.slot, b.start, b.finish,
      b.status, b.notes, b.createdAt, b.updatedAt, ()))
    fun (booking, business, customer, staff, service, slot, start, finish, status, notes, createdAt,
      updatedAt, ()) =>
      { booking, business, customer, staff, service, slot, start, finish, status, notes, createdAt
        updatedAt }

end BookingView

/-- How many bookings have each status. -/
structure Tally where
  pending : Nat
  confirmed : Nat
  cancelled : Nat
  completed : Nat
deriving DecidableEq, Repr

namespace Tally

def zero : Tally := ⟨0, 0, 0, 0⟩

def set (t : Tally) : Status → Nat → Tally
  | .pending, n => { t with pending := n }
  | .confirmed, n => { t with confirmed := n }
  | .cancelled, n => { t with cancelled := n }
  | .completed, n => { t with completed := n }

def get (t : Tally) : Status → Nat
  | .pending => t.pending
  | .confirmed => t.confirmed
  | .cancelled => t.cancelled
  | .completed => t.completed

/-- A status that is counted more than once keeps its last count. -/
def ofCounts (counts : List (Status × Nat)) : Tally :=
  counts.foldl (fun t (s, n) => t.set s n) zero

/-- Counts are below 2^64. -/
def count : Shape Nat := Shape.natural (Nat.pow 2 64)

def fields : Fields [Nat, Nat, Nat, Nat] :=
  .cons (.required "pending" count) <|
  .cons (.required "confirmed" count) <|
  .cons (.required "cancelled" count) <|
  .cons (.required "completed" count) .nil

def shape : Shape Tally :=
  Shape.record fields (fun t => (t.pending, t.confirmed, t.cancelled, t.completed, ()))
    fun (pending, confirmed, cancelled, completed, ()) => ⟨pending, confirmed, cancelled, completed⟩

end Tally

/-- Why a request was refused: a word for programs and a sentence for people. -/
structure Refusal where
  error : String
  message : String
deriving DecidableEq, Repr

namespace Refusal

def fields : Fields [String, String] :=
  .cons (.required "error" Shape.text) <| .cons (.required "message" Shape.text) .nil

def shape : Shape Refusal :=
  Shape.record fields (fun r => (r.error, r.message, ()))
    fun (error, message, ()) => ⟨error, message⟩

end Refusal

/-! ## Requests -/

structure CreateRequest where
  customer : Option CustomerId
  staff : Option StaffId
  service : Option ServiceId
  slot : Option SlotId
  notes : String
deriving DecidableEq, Repr

namespace CreateRequest

def fields : Fields [Option CustomerId, Option StaffId, Option ServiceId, Option SlotId, String] :=
  .cons (.optional "customer_id" Id.shape) <|
  .cons (.optional "staff_id" Id.shape) <|
  .cons (.optional "service_id" Id.shape) <|
  .cons (.optional "slot_id" Id.shape) <|
  .cons (.defaulted "notes" Shape.text "") .nil

def shape : Shape CreateRequest :=
  Shape.record fields (fun r => (r.customer, r.staff, r.service, r.slot, r.notes, ()))
    fun (customer, staff, service, slot, notes, ()) => { customer, staff, service, slot, notes }

def command (r : CreateRequest) (business : BusinessId) (now : Instant) : CreateBooking :=
  { business, customer := r.customer.getD .none, staff := r.staff.getD .none
    service := r.service.getD .none, slot := r.slot.getD .none, notes := r.notes
    requestedAt := now }

end CreateRequest

structure UpdateRequest where
  status : Option String
  notes : Option String
deriving DecidableEq, Repr

namespace UpdateRequest

def fields : Fields [Option String, Option String] :=
  .cons (.optional "status" Shape.text) <| .cons (.optional "notes" Shape.text) .nil

def shape : Shape UpdateRequest :=
  Shape.record fields (fun r => (r.status, r.notes, ()))
    fun (status, notes, ()) => { status, notes }

/-- The command, unless the status is unknown: then what is to be said about it. -/
def command (r : UpdateRequest) (business : BusinessId) (booking : BookingId) (now : Instant) :
    Except String UpdateBooking :=
  match r.status with
  | none => .ok { business, booking, status := none, notes := r.notes, requestedAt := now }
  | some s =>
    match Status.ofName? s with
    | some status =>
      .ok { business, booking, status := some status, notes := r.notes, requestedAt := now }
    | none => .error (Status.unknownName s)

end UpdateRequest

end BookingDesk.Http
