import BookingDesk.Booking.Command
import BookingDesk.Service.Program

/-!
# Booking a slot

The booking is stored first and then takes its slot. Whoever takes the slot first has it: a booking
that comes too late is removed again. Once the booking is about to be stored, the work is handed
over, so that none is left without a slot because its caller went away.
-/
namespace BookingDesk.Service

/-- Removes a stored booking that got no slot. If that fails too, it stays behind. -/
def takeBack (b : Booking) (e : ServiceError) : Task Outcome :=
  .ask (.remove b.business b.id) fun
  | .ok () => .done (.error e)
  | .error f => .note (.orphaned b f) (.done (.error e))

/-- Stores a booking and takes its slot. The customer's number of bookings need not be right. -/
def establish (b : Booking) : Task Outcome :=
  .ask (.insert b) fun
  | .error f => .done (.error (.bookingsFailed f))
  | .ok () =>
    .ask (.reserve b.slot b.id) fun
    | .ok true =>
      .ask (.countBooking b.business b.customer) fun
      | .ok () => .note (.created b) (.done (.ok b))
      | .error f => .note (.notCounted b f) (.note (.created b) (.done (.ok b)))
    | .ok false => .note (.raceLost b) (takeBack b .slotUnavailable)
    | .error f => takeBack b (.slotsFailed f)

/-- Waits for a task that was handed over; its outcome goes on to `next`. -/
def await (task : Task Outcome) (next : Booking → Service Outcome) : Service Outcome :=
  .handOver task fun
  | none => fail .taskFailed
  | some (.error e) => fail e
  | some (.ok b) => next b

/-- Carries out a command; `fresh` is the identifier for the booking. -/
def create (fresh : BookingId) (c : CreateBooking) : Service Outcome :=
  match c.validate with
  | .error e => fail (.invalid e)
  | .ok notes =>
    .ask (.isAvailable c.business c.slot) fun
    | .error f => fail (.slotsFailed f)
    | .ok false => fail .slotUnavailable
    | .ok true =>
      .ask (.customerExists c.business c.customer) fun
      | .error f => fail (.customersFailed f)
      | .ok false => fail .customerNotFound
      | .ok true =>
        .ask (.staffExists c.business c.staff) fun
        | .error f => fail (.staffFailed f)
        | .ok false => fail .staffNotFound
        | .ok true =>
          .ask (.findSlot c.business c.slot) fun
          | .error f => fail (.slotsFailed f)
          | .ok none => fail (.slotLost c.slot)
          | .ok (some slot) =>
            match c.booking fresh notes slot.start slot.finish with
            | .error e => fail (.invalid e)
            | .ok b => await (establish b) fun b => .done (.ok b)

end BookingDesk.Service
