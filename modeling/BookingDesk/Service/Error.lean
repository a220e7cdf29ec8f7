import BookingDesk.Service.Call

/-!
# Why a call of the service fails

Each error has a message and a code for clients, and a kind by which they can tell what to do about
it. What a collaborator said is kept apart from the message, for those who run the service.
-/
namespace BookingDesk

inductive ServiceError where
  | invalid (fault : InvalidInput)
  | bookingNotFound
  | customerNotFound
  | staffNotFound
  /-- The slot is taken, or was taken while the booking was made. -/
  | slotUnavailable
  | forbidden (change : ForbiddenChange)
  /-- The booking was changed after it had been read. -/
  | modifiedMeanwhile
  /-- The slot was available and could not be found. -/
  | slotLost (slot : SlotId)
  | bookingsFailed (cause : Failure)
  | slotsFailed (cause : Failure)
  | customersFailed (cause : Failure)
  | staffFailed (cause : Failure)
  /-- The work that had been handed over came to no end. -/
  | taskFailed
deriving DecidableEq, Repr

abbrev Outcome := Except ServiceError Booking

namespace ServiceError

inductive Kind where
  /-- The input is wrong. -/
  | validation
  | notFound
  /-- Something else happened first. -/
  | conflict
  /-- A collaborator failed. -/
  | internal
deriving DecidableEq, Repr

def kind : ServiceError → Kind
  | invalid _ => .validation
  | bookingNotFound | customerNotFound | staffNotFound => .notFound
  | slotUnavailable | forbidden _ | modifiedMeanwhile => .conflict
  | slotLost _ | bookingsFailed _ | slotsFailed _ | customersFailed _ | staffFailed _
  | taskFailed => .internal

def code : ServiceError → String
  | invalid fault => fault.code
  | bookingNotFound => "BOOKING_NOT_FOUND"
  | customerNotFound => "CUSTOMER_NOT_FOUND"
  | staffNotFound => "STAFF_NOT_FOUND"
  | slotUnavailable => "SLOT_UNAVAILABLE"
  | forbidden _ => "INVALID_TRANSITION"
  | modifiedMeanwhile => "CONCURRENT_MODIFICATION"
  | slotLost _ | bookingsFailed _ | slotsFailed _ | customersFailed _ | staffFailed _
  | taskFailed => "INTERNAL_ERROR"

def message : ServiceError → String
  | invalid fault => fault.message
  | bookingNotFound => "Booking not found"
  | customerNotFound => "Customer not found"
  | staffNotFound => "Staff not found"
  | slotUnavailable => "Slot is not available"
  | forbidden change => change.message
  | modifiedMeanwhile => "Booking was modified concurrently"
  | slotLost slot => s!"Slot {slot} could not be loaded"
  | bookingsFailed _ => "Booking repository error"
  | slotsFailed _ => "Slot service error"
  | customersFailed _ => "Customer service error"
  | staffFailed _ => "Staff service error"
  | taskFailed => "Reservation task failed"

/-- What lies behind the error, in the words of whoever failed. -/
def source : ServiceError → Option String
  | bookingsFailed cause | slotsFailed cause | customersFailed cause | staffFailed cause =>
    some cause.text
  | taskFailed => some "<join error>"
  | _ => none

end ServiceError
end BookingDesk
