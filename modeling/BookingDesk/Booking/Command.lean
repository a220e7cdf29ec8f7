import BookingDesk.Booking.Basic

/-!
# Commands

What a customer or business asks for. The notes in a command are any text; they are checked when the
command is carried out, before anything else happens.
-/
namespace BookingDesk

/-- Book a slot. -/
structure CreateBooking where
  business : BusinessId
  customer : CustomerId
  staff : StaffId
  service : ServiceId
  slot : SlotId
  notes : String
  requestedAt : Instant
deriving DecidableEq, Repr

/-- Change the status or the notes of a booking, or both. -/
structure UpdateBooking where
  business : BusinessId
  booking : BookingId
  status : Option Status
  notes : Option String
  requestedAt : Instant
deriving DecidableEq, Repr

/-- Confirm, cancel or complete a booking. -/
structure ChangeStatus where
  business : BusinessId
  booking : BookingId
  requestedAt : Instant
deriving DecidableEq, Repr

namespace CreateBooking

/-- The first fault of the command, or its notes. -/
def validate (c : CreateBooking) : Except InvalidInput Notes :=
  if c.business.isNone then .error .businessMissing
  else if c.customer.isNone then .error .customerMissing
  else if c.staff.isNone then .error .staffMissing
  else if c.service.isNone then .error .serviceMissing
  else if c.slot.isNone then .error .slotMissing
  else Notes.ofString c.notes

/-- The booking that the command asks for, in a slot with these times. -/
def booking (c : CreateBooking) (id : BookingId) (notes : Notes) (start finish : Instant) :
    Except InvalidInput Booking :=
  if start < finish then
    .ok
      { id, business := c.business, customer := c.customer, staff := c.staff, service := c.service
        slot := c.slot, start, finish, status := .pending, notes
        createdAt := c.requestedAt, updatedAt := c.requestedAt }
  else .error .timesReversed

end CreateBooking

/-- The notes of an update, if it gives any. -/
def UpdateBooking.validate (c : UpdateBooking) : Except InvalidInput (Option Notes) :=
  Notes.ofString? c.notes

end BookingDesk
