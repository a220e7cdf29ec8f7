import BookingDesk.Booking.Basic

/-!
# The collaborators

All that the booking service does outside itself is a call to one of four collaborators: the keeper
of bookings, of slots, of customers and of staff. A call has a reply of its own type; instead of it,
any call may fail with a text.
-/
namespace BookingDesk

inductive Call where
  /-- Whether the slot is the business's own and free. This promises nothing: only `reserve`
  does. -/
  | isAvailable (business : BusinessId) (slot : SlotId)
  | findSlot (business : BusinessId) (slot : SlotId)
  /-- Takes the slot if it is free, and tells whether it was. -/
  | reserve (slot : SlotId) (booking : BookingId)
  | release (slot : SlotId)
  | customerExists (business : BusinessId) (customer : CustomerId)
  /-- Adds one to the customer's number of bookings. -/
  | countBooking (business : BusinessId) (customer : CustomerId)
  | staffExists (business : BusinessId) (staff : StaffId)
  | insert (booking : Booking)
  | find (business : BusinessId) (booking : BookingId)
  | ofCustomer (business : BusinessId) (customer : CustomerId)
  | ofStaff (business : BusinessId) (staff : StaffId)
  | ofBusiness (business : BusinessId)
  /-- Stores a new version if the stored one has the expected status, and tells whether it had. -/
  | replace (booking : Booking) (expected : Status)
  | remove (business : BusinessId) (booking : BookingId)
  | countStatus (business : BusinessId) (status : Status)
deriving DecidableEq, Repr

namespace Call

@[reducible] def Reply : Call → Type
  | isAvailable _ _ | reserve _ _ | customerExists _ _ | staffExists _ _ | replace _ _ => Bool
  | release _ | countBooking _ _ | insert _ | remove _ _ => Unit
  | findSlot _ _ => Option Slot
  | find _ _ => Option Booking
  | ofCustomer _ _ | ofStaff _ _ | ofBusiness _ => List Booking
  | countStatus _ _ => Nat

/-- Whether a call may change what a collaborator keeps. -/
def isWrite : Call → Bool
  | reserve _ _ | release _ | countBooking _ _ | insert _ | replace _ _ | remove _ _ => true
  | _ => false

end Call

/-- A collaborator's own words about why it failed. -/
structure Failure where
  text : String
deriving DecidableEq, Repr

abbrev Answer (c : Call) := Except Failure c.Reply

/-- What is asked, whatever it is asked about. -/
inductive Call.Kind where
  | isAvailable | findSlot | reserve | release | customerExists | countBooking | staffExists
  | insert | find | ofCustomer | ofStaff | ofBusiness | replace | remove | countStatus
deriving DecidableEq, Repr

def Call.kind : Call → Call.Kind
  | isAvailable _ _ => .isAvailable
  | findSlot _ _ => .findSlot
  | reserve _ _ => .reserve
  | release _ => .release
  | customerExists _ _ => .customerExists
  | countBooking _ _ => .countBooking
  | staffExists _ _ => .staffExists
  | insert _ => .insert
  | find _ _ => .find
  | ofCustomer _ _ => .ofCustomer
  | ofStaff _ _ => .ofStaff
  | ofBusiness _ => .ofBusiness
  | replace _ _ => .replace
  | remove _ _ => .remove
  | countStatus _ _ => .countStatus

end BookingDesk
