import BookingDesk.Service.Error

/-!
# Notices

What the service tells those who run it: what it has done, and what went wrong that no caller hears
of.
-/
namespace BookingDesk

inductive Notice where
  | created (booking : Booking)
  | updated (before : Status) (booking : Booking)
  | statusChanged (before : Status) (booking : Booking)
  /-- The slot of a stored booking was taken by another one. -/
  | raceLost (booking : Booking)
  /-- A booking without a slot could not be removed. -/
  | orphaned (booking : Booking) (cause : Failure)
  | notCounted (booking : Booking) (cause : Failure)
  /-- The slot of a cancelled booking stays reserved. -/
  | notReleased (booking : Booking) (cause : Failure)
  /-- A client was told of an internal error, without its cause. -/
  | internalError (error : ServiceError)
deriving DecidableEq, Repr

namespace Notice

inductive Level where
  | info | warning | error
deriving DecidableEq, Repr

def level : Notice → Level
  | created _ | updated _ _ | statusChanged _ _ | raceLost _ => .info
  | notCounted _ _ | notReleased _ _ => .warning
  | orphaned _ _ | internalError _ => .error

def message : Notice → String
  | created _ => "Booking created"
  | updated _ _ => "Booking updated"
  | statusChanged _ _ => "Booking status changed"
  | raceLost _ => "Lost reservation race; rolling back booking"
  | orphaned _ _ =>
    "CRITICAL: compensation failed, orphan pending booking left without slot reservation"
  | notCounted _ _ => "Failed to increment customer booking count"
  | notReleased _ _ => "Failed to release slot for cancelled booking; slot remains reserved"
  | internalError _ => "Internal error in booking handler"

def fields : Notice → List (String × String)
  | created b =>
    [("booking_id", toString b.id), ("business_id", toString b.business),
      ("slot_id", toString b.slot)]
  | updated before b | statusChanged before b =>
    [("booking_id", toString b.id), ("from", toString before), ("to", toString b.status)]
  | raceLost b => [("booking_id", toString b.id), ("slot_id", toString b.slot)]
  | orphaned b cause =>
    [("booking_id", toString b.id), ("business_id", toString b.business),
      ("slot_id", toString b.slot), ("error", cause.text)]
  | notCounted b cause =>
    [("booking_id", toString b.id), ("customer_id", toString b.customer), ("error", cause.text)]
  | notReleased b cause =>
    [("booking_id", toString b.id), ("slot_id", toString b.slot), ("error", cause.text)]
  | internalError e => [("error", e.message), ("source", e.source.getD "")]

end Notice
end BookingDesk
