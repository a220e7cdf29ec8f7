import BookingDesk.Service.Change

/-!
# Looking up bookings

Single bookings, lists in the order of their start, and how many there are of each status.
-/
namespace BookingDesk.Service

abbrev Query (α : Type) := Service (Except ServiceError α)

def get (business : BusinessId) (booking : BookingId) : Query Booking :=
  load business booking fun b => .done (.ok b)

/-- What the keeper of bookings answers, or its failure. -/
def whole {α : Type} : Except Failure α → Query α
  | .error f => fail (.bookingsFailed f)
  | .ok a => .done (.ok a)

def listOfCustomer (business : BusinessId) (customer : CustomerId) : Query (List Booking) :=
  .ask (.ofCustomer business customer) whole

def listOfStaff (business : BusinessId) (staff : StaffId) : Query (List Booking) :=
  .ask (.ofStaff business staff) whole

def listOfBusiness (business : BusinessId) : Query (List Booking) :=
  .ask (.ofBusiness business) whole

/-- Asks for the number of bookings of one status after another. -/
def countEach (business : BusinessId) : List Status → Query (List (Status × Nat))
  | [] => .done (.ok [])
  | s :: rest =>
    .ask (.countStatus business s) fun
    | .error f => fail (.bookingsFailed f)
    | .ok n =>
      (countEach business rest).andThen fun
      | .error e => fail e
      | .ok counts => .done (.ok ((s, n) :: counts))

def count (business : BusinessId) : Query (List (Status × Nat)) := countEach business Status.all

end BookingDesk.Service
