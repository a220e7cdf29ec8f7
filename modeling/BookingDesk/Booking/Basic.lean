import BookingDesk.Booking.Notes
import BookingDesk.Booking.Status
import BookingDesk.Id
import BookingDesk.Time.Instant

/-!
# Bookings and the ways they change

A slot is a stretch of time that a business offers; a booking takes the times of its slot and never
changes them. Only status, notes and the time of the last change differ between two versions of a
booking.
-/
namespace BookingDesk

structure Slot where
  id : SlotId
  business : BusinessId
  staff : StaffId
  start : Instant
  finish : Instant
deriving DecidableEq, Repr

structure Booking where
  id : BookingId
  business : BusinessId
  customer : CustomerId
  staff : StaffId
  service : ServiceId
  slot : SlotId
  start : Instant
  finish : Instant
  status : Status
  notes : Notes
  createdAt : Instant
  updatedAt : Instant
deriving DecidableEq, Repr

namespace Booking

/-- The status changes along the table, also for a change to the same status. -/
def changeStatus (b : Booking) (wanted : Status) (time : Instant) :
    Except ForbiddenChange Booking :=
  if b.status.allows wanted then .ok { b with status := wanted, updatedAt := time }
  else .error ⟨b.status, wanted⟩

def cancel (b : Booking) (time : Instant) : Except ForbiddenChange Booking :=
  b.changeStatus .cancelled time

/-- Status and notes are replaced if they are given. Giving the status that the booking has is no
change of status. -/
def update (b : Booking) (wanted : Option Status) (notes : Option Notes) (time : Instant) :
    Except ForbiddenChange Booking :=
  let amend (c : Booking) : Booking := { c with notes := notes.getD c.notes, updatedAt := time }
  match wanted with
  | none => .ok (amend b)
  | some wanted =>
    if wanted = b.status then .ok (amend b) else (b.changeStatus wanted time).map amend

/-- Whether a change from one version to the next gives up the slot. -/
def givesUpSlot (before after : Status) : Bool := before.isActive && after = .cancelled

end Booking
end BookingDesk
