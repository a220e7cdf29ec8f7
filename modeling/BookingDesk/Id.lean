import BookingDesk.Uuid

/-!
# Identifiers by what they name

An `Id` carries the kind of thing it names, so that the identifier of a slot cannot stand where that
of a booking is meant.
-/
namespace BookingDesk

inductive Entity where
  | business | booking | customer | staff | service | slot
deriving DecidableEq, Repr

structure Id (entity : Entity) where
  value : Uuid
deriving DecidableEq, Repr

namespace Id

variable {e : Entity}

/-- Nothing was named. -/
def none : Id e := ⟨Uuid.nil⟩

def isNone (i : Id e) : Bool := i.value = Uuid.nil

instance : Inhabited (Id e) := ⟨none⟩

instance : ToString (Id e) := ⟨fun i => toString i.value⟩

@[simp] theorem toString_eq (i : Id e) : toString i = toString i.value := rfl

end Id

abbrev BusinessId := Id .business
abbrev BookingId := Id .booking
abbrev CustomerId := Id .customer
abbrev StaffId := Id .staff
abbrev ServiceId := Id .service
abbrev SlotId := Id .slot

end BookingDesk
