import BookingDesk.Service.Call
import BookingDesk.Store.Table

/-!
# The desk's own books

What all four collaborators keep, in memory, and how they answer a call: every call happens at once
and as a whole. Bookings, slots, customers and staff belong to a business, and a call that names a
business sees only what is its own.
-/
namespace BookingDesk

/-- A slot and the booking that holds it. -/
structure SlotEntry where
  slot : Slot
  holder : Option BookingId
deriving DecidableEq, Repr

structure World where
  bookings : Table BookingId Booking
  slots : Table SlotId SlotEntry
  /-- How many bookings were counted for each known customer. -/
  customers : Table (BusinessId × CustomerId) Nat
  staff : Table (BusinessId × StaffId) Unit

namespace World

def empty : World := ⟨.empty, .empty, .empty, .empty⟩

instance : Inhabited World := ⟨empty⟩

/-! ## Filling the books -/

def addSlot (w : World) (slot : Slot) : World :=
  { w with slots := w.slots.insertNew slot.id ⟨slot, none⟩ }

/-- A customer who is known keeps the count. -/
def addCustomer (w : World) (business : BusinessId) (customer : CustomerId) : World :=
  { w with customers := w.customers.insertNew (business, customer) 0 }

def addStaff (w : World) (business : BusinessId) (staff : StaffId) : World :=
  { w with staff := w.staff.insertNew (business, staff) () }

/-! ## Looking into them -/

def holder? (w : World) (slot : SlotId) : Option BookingId := do (← w.slots.get? slot).holder

def bookingCount (w : World) (business : BusinessId) (customer : CustomerId) : Nat :=
  (w.customers.get? (business, customer)).getD 0

def slot? (w : World) (business : BusinessId) (slot : SlotId) : Option SlotEntry :=
  (w.slots.get? slot).filter (·.slot.business = business)

def booking? (w : World) (business : BusinessId) (booking : BookingId) : Option Booking :=
  (w.bookings.get? booking).filter (·.business = business)

/-- The bookings of a business that are wanted, by the time of their start. -/
def select (w : World) (business : BusinessId) (wanted : Booking → Bool) : List Booking :=
  (w.bookings.values.filter fun b => b.business = business && wanted b).mergeSort
    fun a b => a.start ≤ b.start

def bookingsOfSlot (w : World) (slot : SlotId) : List Booking :=
  w.bookings.values.filter (·.slot = slot)

/-! ## Writing -/

def insert (w : World) (b : Booking) : World :=
  { w with bookings := w.bookings.insertNew b.id b }

def replace (w : World) (b : Booking) : World :=
  { w with bookings := w.bookings.modify b.id fun _ => b }

def remove (w : World) (booking : BookingId) : World :=
  { w with bookings := w.bookings.erase booking }

def setHolder (w : World) (slot : SlotId) (holder : Option BookingId) : World :=
  { w with slots := w.slots.modify slot ({ · with holder }) }

def countBooking (w : World) (business : BusinessId) (customer : CustomerId) : World :=
  { w with customers := w.customers.modify (business, customer) (· + 1) }

/-! ## Answers -/

/-- Whether a new version of a booking may be stored. -/
def accepts (w : World) (b : Booking) (expected : Status) : Bool :=
  match w.bookings.get? b.id with
  | some stored => stored.business = b.business && stored.status = expected
  | none => false

/-- Whether a slot can be taken. -/
def isFree (w : World) (slot : SlotId) : Bool :=
  match w.slots.get? slot with
  | some entry => entry.holder.isNone
  | none => false

def answer (w : World) : (c : Call) → Answer c × World
  | .isAvailable business slot =>
    (.ok (match w.slot? business slot with
      | some entry => entry.holder.isNone
      | none => false), w)
  | .findSlot business slot => (.ok ((w.slot? business slot).map (·.slot)), w)
  | .reserve slot booking =>
    if w.isFree slot then (.ok true, w.setHolder slot (some booking)) else (.ok false, w)
  | .release slot =>
    if w.slots.contains slot then (.ok (), w.setHolder slot none)
    else (.error ⟨s!"slot {slot} not found"⟩, w)
  | .customerExists business customer => (.ok (w.customers.contains (business, customer)), w)
  | .countBooking business customer =>
    if w.customers.contains (business, customer) then (.ok (), w.countBooking business customer)
    else (.error ⟨s!"customer {customer} not found"⟩, w)
  | .staffExists business staff => (.ok (w.staff.contains (business, staff)), w)
  | .insert b =>
    if w.bookings.contains b.id then (.error ⟨s!"booking {b.id} already exists"⟩, w)
    else (.ok (), w.insert b)
  | .find business booking => (.ok (w.booking? business booking), w)
  | .ofCustomer business customer => (.ok (w.select business (·.customer = customer)), w)
  | .ofStaff business staff => (.ok (w.select business (·.staff = staff)), w)
  | .ofBusiness business => (.ok (w.select business fun _ => true), w)
  | .replace b expected =>
    if w.accepts b expected then (.ok true, w.replace b) else (.ok false, w)
  | .remove business booking =>
    (.ok (), if (w.booking? business booking).isSome then w.remove booking else w)
  | .countStatus business status =>
    (.ok (w.bookings.values.countP fun b => b.business = business && b.status = status), w)

/-- A question changes nothing. -/
theorem answer_snd_of_not_isWrite (w : World) {c : Call} (h : c.isWrite = false) :
    (w.answer c).2 = w := by
  cases c <;> first | rfl | cases h

end World
end BookingDesk
