import BookingDesk.Booking.Command
import BookingDesk.Json.Record
import BookingDesk.Time.Text

/-!
# Bookings and commands in JSON

Identifiers, instants and statuses are texts. A status may also be given as an object whose only key
is its name, with the value `null`.
-/
namespace BookingDesk

open Json

def Id.shape {e : Entity} : Shape (Id e) :=
  Shape.spelled toString fun s => (Uuid.ofString? s).map Id.mk

theorem Id.returns_shape {e : Entity} (i : Id e) : Id.shape.Returns i :=
  Shape.returns_spelled (by simp)

def Instant.shape : Shape Instant := Shape.spelled toString Instant.ofString?

namespace Status

/-- A name in a document. -/
def readName : Reader Status :=
  Reader.text.refine fun s => (ofName? s).elim (.error .mismatched) .ok

/-- What follows the name in the object form. -/
def readNull (s : Status) : Reader Status
  | .colon :: ts =>
    match Reader.null ts with
    | .ok ((), .closeObject :: ts) => .ok (s, ts)
    | .ok _ => .error .malformed
    | .error e => .error e
  | _ => .error .malformed

def read : Reader Status
  | .text pieces :: ts => readName (.text pieces :: ts)
  | .openObject :: ts =>
    match readName ts with
    | .ok (s, ts) => s.readNull ts
    | .error e => .error e
  | _ => .error .malformed

def shape : Shape Status := ⟨fun s => [Token.ofString s.name], read⟩

theorem returns_shape (s : Status) : shape.Returns s := by
  intro rest
  simp [shape, Token.ofString, read, readName, Reader.refine, Reader.text]

end Status

def Notes.shape : Shape Notes :=
  Shape.text.via Notes.text fun s =>
    match Notes.ofString s with
    | .ok n => .ok n
    | .error e => .error (.refused e.message)

theorem Notes.returns_shape (n : Notes) : Notes.shape.Returns n :=
  (Shape.returns_text _).via (by simp)

namespace Booking

def fields : Fields
    [BookingId, BusinessId, CustomerId, StaffId, ServiceId, SlotId, Instant, Instant, Status, Notes,
      Instant, Instant] :=
  .cons (.required "id" Id.shape) <|
  .cons (.required "business_id" Id.shape) <|
  .cons (.required "customer_id" Id.shape) <|
  .cons (.required "staff_id" Id.shape) <|
  .cons (.required "service_id" Id.shape) <|
  .cons (.required "slot_id" Id.shape) <|
  .cons (.required "start_time" Instant.shape) <|
  .cons (.required "end_time" Instant.shape) <|
  .cons (.required "status" Status.shape) <|
  .cons (.required "notes" Notes.shape) <|
  .cons (.required "created_at" Instant.shape) <|
  .cons (.required "updated_at" Instant.shape) .nil

def shape : Shape Booking :=
  Shape.record fields
    (fun b => (b.id, b.business, b.customer, b.staff, b.service, b.slot, b.start, b.finish,
      b.status, b.notes, b.createdAt, b.updatedAt, ()))
    fun (id, business, customer, staff, service, slot, start, finish, status, notes, createdAt,
      updatedAt, ()) =>
      { id, business, customer, staff, service, slot, start, finish, status, notes, createdAt
        updatedAt }

end Booking

namespace CreateBooking

def fields : Fields [BusinessId, CustomerId, StaffId, ServiceId, SlotId, String, Instant] :=
  .cons (.required "business_id" Id.shape) <|
  .cons (.required "customer_id" Id.shape) <|
  .cons (.required "staff_id" Id.shape) <|
  .cons (.required "service_id" Id.shape) <|
  .cons (.required "slot_id" Id.shape) <|
  .cons (.required "notes" Shape.text) <|
  .cons (.required "requested_at" Instant.shape) .nil

def shape : Shape CreateBooking :=
  Shape.record fields
    (fun c => (c.business, c.customer, c.staff, c.service, c.slot, c.notes, c.requestedAt, ()))
    fun (business, customer, staff, service, slot, notes, requestedAt, ()) =>
      { business, customer, staff, service, slot, notes, requestedAt }

end CreateBooking

namespace UpdateBooking

def fields : Fields [BusinessId, BookingId, Option Status, Option String, Instant] :=
  .cons (.required "business_id" Id.shape) <|
  .cons (.required "booking_id" Id.shape) <|
  .cons (.optional "status" Status.shape) <|
  .cons (.optional "notes" Shape.text) <|
  .cons (.required "requested_at" Instant.shape) .nil

def shape : Shape UpdateBooking :=
  Shape.record fields
    (fun c => (c.business, c.booking, c.status, c.notes, c.requestedAt, ()))
    fun (business, booking, status, notes, requestedAt, ()) =>
      { business, booking, status, notes, requestedAt }

end UpdateBooking

namespace ChangeStatus

def fields : Fields [BusinessId, BookingId, Instant] :=
  .cons (.required "business_id" Id.shape) <|
  .cons (.required "booking_id" Id.shape) <|
  .cons (.required "requested_at" Instant.shape) .nil

def shape : Shape ChangeStatus :=
  Shape.record fields (fun c => (c.business, c.booking, c.requestedAt, ()))
    fun (business, booking, requestedAt, ()) => { business, booking, requestedAt }

end ChangeStatus

end BookingDesk
