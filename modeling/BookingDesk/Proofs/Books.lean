import BookingDesk.Booking.Command
import BookingDesk.Store.World
import Mathlib.Tactic.Tauto

/-!
# What the books show

The books are looked at through a few views: the booking stored under an identifier, the holder of a
slot, and the ground on which all calls work, that is which customers, staff and slots there are.
Every answer is told from the views alone, and every write is told by what it does to them. No call
changes the ground.
-/
namespace BookingDesk

namespace World

variable {w : World}

/-- What a slot is, whoever holds it. -/
def slotOf? (w : World) (slot : SlotId) : Option Slot := (w.slots.get? slot).map SlotEntry.slot

theorem holder?_eq (w : World) (slot : SlotId) :
    w.holder? slot = (w.slots.get? slot).bind SlotEntry.holder := rfl

theorem contains_slots_iff {slot : SlotId} :
    w.slots.contains slot = true ↔ (w.slotOf? slot).isSome = true := by
  simp [Table.contains, slotOf?]

/-- Only a slot that there is has a holder. -/
theorem isSome_slotOf?_of_holder? {slot : SlotId} {holder : BookingId}
    (h : w.holder? slot = some holder) : (w.slotOf? slot).isSome = true := by
  rw [holder?_eq] at h
  obtain ⟨entry, he, -⟩ := Option.bind_eq_some_iff.1 h
  simp [slotOf?, he]

/-! ## Answers -/

theorem answer_isAvailable (w : World) (business : BusinessId) (slot : SlotId) :
    w.answer (.isAvailable business slot) =
      (.ok ((w.slotOf? slot).any (·.business = business) && (w.holder? slot).isNone), w) := by
  rw [answer, slot?, slotOf?, holder?_eq]
  rcases w.slots.get? slot with _ | entry
  · rfl
  · by_cases h : entry.slot.business = business <;> simp [Option.filter, h]

theorem answer_findSlot (w : World) (business : BusinessId) (slot : SlotId) :
    w.answer (.findSlot business slot) =
      (.ok ((w.slotOf? slot).filter (·.business = business)), w) := by
  rw [answer, slot?, slotOf?]
  rcases w.slots.get? slot with _ | entry
  · rfl
  · by_cases h : entry.slot.business = business <;> simp [Option.filter, h]

theorem isFree_iff {slot : SlotId} :
    w.isFree slot = true ↔ (w.slotOf? slot).isSome = true ∧ w.holder? slot = none := by
  rw [isFree, slotOf?, holder?_eq]
  rcases w.slots.get? slot with _ | entry <;> simp

theorem booking?_eq_some_iff {business : BusinessId} {id : BookingId} {b : Booking} :
    w.booking? business id = some b ↔ w.bookings.get? id = some b ∧ b.business = business := by
  simp [booking?, Option.filter_eq_some_iff]

theorem accepts_iff {b : Booking} {expected : Status} :
    w.accepts b expected = true ↔
      ∃ stored, w.bookings.get? b.id = some stored ∧ stored.business = b.business ∧
        stored.status = expected := by
  rw [accepts]
  rcases w.bookings.get? b.id with _ | stored <;> simp

/-! ## Writes -/

theorem get?_insert {b : Booking} (fresh : w.bookings.get? b.id = none) (id : BookingId) :
    (w.insert b).bookings.get? id = if id = b.id then some b else w.bookings.get? id := by
  rw [insert, Table.get?_insertNew, fresh]
  rfl

/-- A new version is only stored where there is an old one. -/
theorem get?_replace (w : World) (b : Booking) (id : BookingId) :
    (w.replace b).bookings.get? id =
      if id = b.id then (w.bookings.get? id).map fun _ => b else w.bookings.get? id := by
  rw [replace, Table.get?_modify]

theorem get?_remove (w : World) (booking id : BookingId) :
    (w.remove booking).bookings.get? id =
      if id = booking then none else w.bookings.get? id := by
  rw [remove, Table.get?_erase]

/-- A booking that is stored already is not stored again. -/
theorem insert_of_contains {b : Booking} (stored : w.bookings.contains b.id = true) :
    w.insert b = w := by
  rw [insert, Table.insertNew_of_contains stored]

/-- A booking that is stored and taken back leaves nothing. -/
theorem remove_insert {b : Booking} (fresh : w.bookings.get? b.id = none) :
    (w.insert b).remove b.id = w := by
  rw [remove, insert, Table.erase_insertNew fresh]

/-- A row is the one that was stored just now, or it was there before. -/
theorem get?_insert_eq_some_iff {b row : Booking} {id : BookingId}
    (fresh : w.bookings.get? b.id = none) :
    (w.insert b).bookings.get? id = some row ↔
      id = b.id ∧ row = b ∨ w.bookings.get? id = some row := by
  rw [get?_insert fresh]
  by_cases hid : id = b.id
  · simp [hid, fresh, eq_comm]
  · simp [hid]

theorem get?_replace_eq_some_iff {b old row : Booking} {id : BookingId}
    (found : w.bookings.get? b.id = some old) :
    (w.replace b).bookings.get? id = some row ↔
      id = b.id ∧ row = b ∨ id ≠ b.id ∧ w.bookings.get? id = some row := by
  rw [get?_replace]
  by_cases hid : id = b.id
  · simp [hid, found, eq_comm]
  · simp [hid]

theorem get?_remove_eq_some_iff {row : Booking} {booking id : BookingId} :
    (w.remove booking).bookings.get? id = some row ↔
      id ≠ booking ∧ w.bookings.get? id = some row := by
  rw [get?_remove]
  by_cases hid : id = booking
  · simp [hid]
  · simp [hid]

@[simp] theorem bookings_setHolder (w : World) (slot : SlotId) (holder : Option BookingId) :
    (w.setHolder slot holder).bookings = w.bookings := rfl

@[simp] theorem bookings_countBooking (w : World) (business : BusinessId) (customer : CustomerId) :
    (w.countBooking business customer).bookings = w.bookings := rfl

@[simp] theorem holder?_insert (w : World) (b : Booking) : (w.insert b).holder? = w.holder? := rfl

@[simp] theorem holder?_replace (w : World) (b : Booking) : (w.replace b).holder? = w.holder? := rfl

@[simp] theorem holder?_remove (w : World) (booking : BookingId) :
    (w.remove booking).holder? = w.holder? := rfl

@[simp] theorem holder?_countBooking (w : World) (business : BusinessId) (customer : CustomerId) :
    (w.countBooking business customer).holder? = w.holder? := rfl

theorem holder?_setHolder {slot : SlotId} (known : (w.slotOf? slot).isSome = true)
    (holder : Option BookingId) (s : SlotId) :
    (w.setHolder slot holder).holder? s = if s = slot then holder else w.holder? s := by
  simp only [holder?_eq, setHolder, Table.get?_modify]
  split
  · subst s
    rw [slotOf?, Option.isSome_map] at known
    obtain ⟨entry, he⟩ := Option.isSome_iff_exists.1 known
    simp [he]
  · rfl

/-! ## The ground -/

/-- Both books know the same customers, staff and slots. -/
structure SameGround (v w : World) : Prop where
  customers : ∀ k, w.customers.contains k = v.customers.contains k
  staff : w.staff = v.staff
  slots : ∀ s, w.slotOf? s = v.slotOf? s

theorem SameGround.refl (w : World) : SameGround w w := ⟨fun _ => rfl, rfl, fun _ => rfl⟩

theorem SameGround.symm {v w : World} (h : SameGround v w) : SameGround w v :=
  ⟨fun k => (h.customers k).symm, h.staff.symm, fun s => (h.slots s).symm⟩

theorem SameGround.trans {u v w : World} (h : SameGround u v) (g : SameGround v w) :
    SameGround u w :=
  ⟨fun k => (g.customers k).trans (h.customers k), g.staff.trans h.staff,
    fun s => (g.slots s).trans (h.slots s)⟩

theorem sameGround_insert (w : World) (b : Booking) : SameGround w (w.insert b) :=
  ⟨fun _ => rfl, rfl, fun _ => rfl⟩

theorem sameGround_replace (w : World) (b : Booking) : SameGround w (w.replace b) :=
  ⟨fun _ => rfl, rfl, fun _ => rfl⟩

theorem sameGround_remove (w : World) (booking : BookingId) : SameGround w (w.remove booking) :=
  ⟨fun _ => rfl, rfl, fun _ => rfl⟩

theorem sameGround_setHolder (w : World) (slot : SlotId) (holder : Option BookingId) :
    SameGround w (w.setHolder slot holder) := by
  refine ⟨fun _ => rfl, rfl, fun s => ?_⟩
  simp only [slotOf?, setHolder, Table.get?_modify]
  split
  · rw [Option.map_map]
    rfl
  · rfl

theorem sameGround_countBooking (w : World) (business : BusinessId) (customer : CustomerId) :
    SameGround w (w.countBooking business customer) := by
  refine ⟨fun k => ?_, rfl, fun _ => rfl⟩
  simp only [Table.contains, countBooking, Table.get?_modify]
  split
  · rw [Option.isSome_map]
  · rfl

/-- No call makes or unmakes a customer, a member of staff or a slot. -/
theorem sameGround_answer (w : World) (c : Call) : SameGround w (w.answer c).2 := by
  cases c with
  | reserve slot booking =>
    simp only [answer]
    split
    · exact sameGround_setHolder w slot _
    · exact .refl w
  | release slot =>
    simp only [answer]
    split
    · exact sameGround_setHolder w slot _
    · exact .refl w
  | countBooking business customer =>
    simp only [answer]
    split
    · exact sameGround_countBooking w business customer
    · exact .refl w
  | insert b =>
    simp only [answer]
    split
    · exact .refl w
    · exact sameGround_insert w b
  | replace b expected =>
    simp only [answer]
    split
    · exact sameGround_replace w b
    · exact .refl w
  | remove business booking =>
    simp only [answer]
    split
    · exact sameGround_remove w booking
    · exact .refl w
  | _ => exact .refl w

end World

/-! ## A small desk

One business with one member of staff, one customer and one slot, for what is shown by example. -/
namespace Sample

def name (e : Entity) (n : Nat) : Id e := ⟨Fin.ofNat 16 n :: List.replicate 31 0, by simp⟩

def slot : Slot := ⟨name _ 1, name _ 1, name _ 1, .ofSecond 0, .ofSecond 1800⟩

def world : World :=
  ((World.empty.addSlot slot).addCustomer (name _ 1) (name _ 1)).addStaff (name _ 1) (name _ 1)

def book : CreateBooking := ⟨name _ 1, name _ 1, name _ 1, name _ 1, slot.id, "", .ofSecond 0⟩

def booking : Booking where
  id := name _ 1
  business := name _ 1
  customer := name _ 1
  staff := name _ 1
  service := name _ 1
  slot := slot.id
  start := slot.start
  finish := slot.finish
  status := .pending
  notes := .empty
  createdAt := .ofSecond 0
  updatedAt := .ofSecond 0

theorem holder?_world (s : SlotId) : world.holder? s = none := by
  have hslots : world.slots.get? s =
      (World.empty.slots.insertNew slot.id ⟨slot, none⟩).get? s := rfl
  rw [World.holder?_eq, hslots, Table.get?_insertNew]
  split
  · rfl
  · rfl

end Sample
end BookingDesk
