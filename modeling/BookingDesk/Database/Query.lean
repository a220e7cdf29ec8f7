import BookingDesk.Database.Statement
import BookingDesk.Service.Call

/-!
# Calls as queries

Each call to a collaborator is one statement with its values. All reading of bookings, customers and
staff names the business. A slot is taken only if it is not reserved, and a booking is stored anew
only if its status is still the expected one: the database checks it in the same statement.
-/
namespace BookingDesk.Database

/-- A statement and its values, in the order of their numbers. -/
structure Query where
  statement : Statement
  params : List Value
deriving DecidableEq, Repr

/-- Whether all times among the values can be told. -/
def Query.isTold (q : Query) : Bool :=
  q.params.all fun
    | .time t => Time.isTold t.date
    | _ => true

def ofId {e : Entity} (i : Id e) : Value := .uuid i.value

def ofInstant (t : Instant) : Value := .time t.toMicroseconds

def ofStatus (s : Status) : Value := .text s.name

def bookingColumns : List Column :=
  [.bookingId, .businessId, .customerId, .staffId, .serviceId, .slotId, .startTime, .endTime,
    .status, .notes, .createdAt, .updatedAt]

def bookingValues (b : Booking) : List Value :=
  [ofId b.id, ofId b.business, ofId b.customer, ofId b.staff, ofId b.service, ofId b.slot,
    ofInstant b.start, ofInstant b.finish, ofStatus b.status, .text b.notes.text,
    ofInstant b.createdAt, ofInstant b.updatedAt]

def slotColumns : List Column := [.slotId, .businessId, .staffId, .startTime, .endTime]

/-- The rows of a business, in which another column has a given value too. -/
def ofBusinessAnd (column : Column) : Conditions := [.equals .businessId 1, .equals column 2]

def selectBookings (rows : Conditions) (order : Option Column) : Statement :=
  .select bookingColumns .bookings rows order

def query : Call → Query
  | .isAvailable business slot =>
    ⟨.select [.isReserved] .slots (ofBusinessAnd .slotId) none, [ofId business, ofId slot]⟩
  | .findSlot business slot =>
    ⟨.select slotColumns .slots (ofBusinessAnd .slotId) none, [ofId business, ofId slot]⟩
  | .reserve slot booking =>
    ⟨.update .slots
        [(.isReserved, .constant true), (.bookingId, .param 2), (.updatedAt, .now)]
        [.equals .slotId 1, .isNot .isReserved],
      [ofId slot, ofId booking]⟩
  | .release slot =>
    ⟨.update .slots
        [(.isReserved, .constant false), (.bookingId, .null), (.updatedAt, .now)]
        [.equals .slotId 1],
      [ofId slot]⟩
  | .customerExists business customer =>
    ⟨.anyOf .customers (ofBusinessAnd .customerId), [ofId business, ofId customer]⟩
  | .countBooking business customer =>
    ⟨.update .customers [(.bookingCount, .incremented)] (ofBusinessAnd .customerId),
      [ofId business, ofId customer]⟩
  | .staffExists business staff =>
    ⟨.anyOf .staff (ofBusinessAnd .staffId), [ofId business, ofId staff]⟩
  | .insert b => ⟨.insert .bookings bookingColumns, bookingValues b⟩
  | .find business booking =>
    ⟨selectBookings (ofBusinessAnd .bookingId) none, [ofId business, ofId booking]⟩
  | .ofCustomer business customer =>
    ⟨selectBookings (ofBusinessAnd .customerId) (some .startTime), [ofId business, ofId customer]⟩
  | .ofStaff business staff =>
    ⟨selectBookings (ofBusinessAnd .staffId) (some .startTime), [ofId business, ofId staff]⟩
  | .ofBusiness business =>
    ⟨selectBookings [.equals .businessId 1] (some .startTime), [ofId business]⟩
  | .replace b expected =>
    ⟨.update .bookings [(.status, .param 3), (.notes, .param 4), (.updatedAt, .param 5)]
        (ofBusinessAnd .bookingId ++ [.equals .status 6]),
      [ofId b.business, ofId b.id, ofStatus b.status, .text b.notes.text, ofInstant b.updatedAt,
        ofStatus expected]⟩
  | .remove business booking =>
    ⟨.delete .bookings (ofBusinessAnd .bookingId), [ofId business, ofId booking]⟩
  | .countStatus business status =>
    ⟨.count .bookings (ofBusinessAnd .status), [ofId business, ofStatus status]⟩

end BookingDesk.Database
