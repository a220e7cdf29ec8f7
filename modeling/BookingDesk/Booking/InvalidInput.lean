/-!
# Faults of the input

What can be wrong with a request before anybody has acted on it.
-/
namespace BookingDesk

inductive InvalidInput where
  | businessMissing
  | customerMissing
  | staffMissing
  | serviceMissing
  | slotMissing
  | notesTooLong (most actual : Nat)
  /-- The start is not before the end. -/
  | timesReversed
deriving DecidableEq, Repr

namespace InvalidInput

def message : InvalidInput → String
  | businessMissing => "business_id is required"
  | customerMissing => "customer_id is required"
  | staffMissing => "staff_id is required"
  | serviceMissing => "service_id is required"
  | slotMissing => "slot_id is required"
  | notesTooLong most actual => s!"notes must be at most {most} characters (got {actual})"
  | timesReversed => "start time must be before end time"

/-- The word for the fault in answers to clients. -/
def code : InvalidInput → String
  | businessMissing => "BUSINESS_ID_REQUIRED"
  | customerMissing => "CUSTOMER_ID_REQUIRED"
  | staffMissing => "STAFF_ID_REQUIRED"
  | serviceMissing => "SERVICE_ID_REQUIRED"
  | slotMissing => "SLOT_ID_REQUIRED"
  | notesTooLong _ _ => "NOTES_TOO_LONG"
  | timesReversed => "INVALID_TIME"

end InvalidInput
end BookingDesk
