import BookingDesk.Service.Create

/-!
# Changing a booking

A booking is read, changed and stored again, but only if its status is still the one that was read:
of two changes that read the same status, one is told that it came too late. A booking that is
cancelled gives its slot back; if that fails the booking stays cancelled.
-/
namespace BookingDesk.Service

/-- Stores a new version, and gives back the slot of a booking that was cancelled by it. -/
def commit (b : Booking) (before : Status) : Task Outcome :=
  .ask (.replace b before) fun
  | .error f => .done (.error (.bookingsFailed f))
  | .ok false => .done (.error .modifiedMeanwhile)
  | .ok true =>
    if Booking.givesUpSlot before b.status then
      .ask (.release b.slot) fun
      | .ok () => .done (.ok b)
      | .error f => .note (.notReleased b f) (.done (.ok b))
    else .done (.ok b)

/-- The stored booking of a business, which must be there. -/
def load {α : Type} (business : BusinessId) (booking : BookingId)
    (next : Booking → Service (Except ServiceError α)) : Service (Except ServiceError α) :=
  .ask (.find business booking) fun
  | .error f => fail (.bookingsFailed f)
  | .ok none => fail .bookingNotFound
  | .ok (some b) => next b

/-- Reads a booking, changes it and stores it. -/
def change (business : BusinessId) (booking : BookingId)
    (f : Booking → Except ForbiddenChange Booking) (notice : Status → Booking → Notice) :
    Service Outcome :=
  load business booking fun current =>
    match f current with
    | .error e => fail (.forbidden e)
    | .ok changed =>
      await (commit changed current.status) fun b => .note (notice current.status b) (.done (.ok b))

def update (c : UpdateBooking) : Service Outcome :=
  match c.validate with
  | .error e => fail (.invalid e)
  | .ok notes => change c.business c.booking (·.update c.status notes c.requestedAt) .updated

def changeStatus (wanted : Status) (c : ChangeStatus) : Service Outcome :=
  change c.business c.booking (·.changeStatus wanted c.requestedAt) .statusChanged

def confirm : ChangeStatus → Service Outcome := changeStatus .confirmed

def complete : ChangeStatus → Service Outcome := changeStatus .completed

def cancel : ChangeStatus → Service Outcome := changeStatus .cancelled

end BookingDesk.Service
