import BookingDesk.Proofs.Footprint
import BookingDesk.Proofs.GivenUp
import BookingDesk.Proofs.Within

/-!
# All or nothing

A request that is alone fails and has changed nothing, or it succeeds and its booking is on record,
and little else has changed (`World.Records`). So it is whichever calls fail, as long as those that
fail are not carried out and a booking can be taken back (`Request.all_or_nothing`): what a request
has done to the books is told by the stage it has come to (`Stage.Leaves`).
-/
namespace BookingDesk

variable {w v v' : World} {b : Booking} {business : BusinessId}

/-! ## A booking on record -/

/-- The booking is stored in `v`, which holds what `w` holds but for this booking, its slot and how
many bookings its customer has. -/
structure World.Records (w v : World) (b : Booking) : Prop where
  stored : v.bookings.get? b.id = some b
  bookings : ∀ id, id ≠ b.id → v.bookings.get? id = w.bookings.get? id
  slots : ∀ s, s ≠ b.slot → v.slots.get? s = w.slots.get? s
  customers : ∀ k, k ≠ (b.business, b.customer) → v.customers.get? k = w.customers.get? k
  staff : v.staff = w.staff

namespace World

theorem records_insert (fresh : w.bookings.get? b.id = none) : w.Records (w.insert b) b where
  stored := by rw [get?_insert fresh, if_pos rfl]
  bookings id hid := by rw [get?_insert fresh, if_neg hid]
  slots _ _ := rfl
  customers _ _ := rfl
  staff := rfl

theorem records_replace {old : Booking} (found : w.bookings.get? b.id = some old) :
    w.Records (w.replace b) b where
  stored := by rw [get?_replace, if_pos rfl, found, Option.map_some]
  bookings id hid := by rw [get?_replace, if_neg hid]
  slots _ _ := rfl
  customers _ _ := rfl
  staff := rfl

theorem Records.setHolder (h : w.Records v b) (holder : Option BookingId) :
    w.Records (v.setHolder b.slot holder) b where
  stored := h.stored
  bookings := h.bookings
  slots s hs := by rw [get?_slots_setHolder, if_neg hs, h.slots s hs]
  customers := h.customers
  staff := h.staff

theorem Records.countBooking (h : w.Records v b) :
    w.Records (v.countBooking b.business b.customer) b where
  stored := h.stored
  bookings := h.bookings
  slots := h.slots
  customers k hk := by rw [World.countBooking, Table.get?_modify, if_neg hk, h.customers k hk]
  staff := h.staff

end World

/-! ## What the stages leave -/

/-- What a request of the business that has come to a stage leaves of the books `w`: all of them, or
a booking that waits for its slot, or one that is on record. -/
def Stage.Leaves (business : BusinessId) (w v : World) : Stage → Prop
  | askSlot _ c _ | askCustomer _ c _ | askStaff _ c _ | readSlot _ c _ =>
    v = w ∧ c.business = business
  | load ch => v = w ∧ ch.business = business
  | insert b | replace b _ => v = w ∧ b.business = business
  | reserve b | takeBack b _ =>
    v = w.insert b ∧ w.bookings.get? b.id = none ∧ b.business = business
  | count b | release b | booked b | changed b => w.Records v b ∧ b.business = business
  | failed _ => v = w

namespace Stage

variable {g g' : Stage} {c : Call}

theorem Leaves.turns (h : g.Leaves business w v) (t : Turns v g g' v') :
    g'.Leaves business w v' := by
  cases t with
  | slotFree _ _ _ | customerKnown _ | staffKnown _ => exact h
  | slotTaken _ | customerUnknown _ | staffUnknown _ | slotRefused _ | notInserted _ | notFound _
  | refused _ _ _ | overtaken _ => exact h.1
  | slotRead _ _ made =>
    obtain ⟨-, rfl⟩ := CreateBooking.booking_eq_ok_iff.1 made
    exact h
  | inserted fresh =>
    obtain ⟨rfl, hb⟩ := h
    exact ⟨rfl, fresh, hb⟩
  | reserved _ _ =>
    obtain ⟨rfl, fresh, hb⟩ := h
    exact ⟨(World.records_insert fresh).setHolder _, hb⟩
  | raceLost _ => exact h
  | counted => exact ⟨h.1.countBooking, h.2⟩
  | notCounted => exact h
  | takenBack _ _ =>
    obtain ⟨rfl, fresh, -⟩ := h
    exact World.remove_insert fresh
  | nothingToTakeBack absent =>
    -- the booking is there, for it was stored before
    obtain ⟨rfl, fresh, -⟩ := h
    exact absurd rfl (absent _ (World.records_insert fresh).stored)
  | loaded found own _ => exact ⟨h.1, own.trans h.2⟩
  | replaced found _ _ =>
    obtain ⟨rfl, hb⟩ := h
    have records := World.records_replace found
    rw [Stage.replaced]
    split
    · exact ⟨records, hb⟩
    · exact ⟨records, hb⟩
  | released _ => exact ⟨h.1.setHolder none, h.2⟩
  | nothingToRelease _ | rests _ => exact h

/-- If a call fails, it has done nothing. -/
theorem Leaves.next_error (h : g.Leaves business w v) (hc : g.call? = some c)
    (hkind : c.kind ≠ .remove) (f : Failure) : (g.next c (.error f)).Leaves business w v := by
  cases g with
  | askSlot _ _ _ | askCustomer _ _ _ | askStaff _ _ _ | readSlot _ _ _ | insert _ | load _
  | replace _ _ =>
    cases hc
    exact h.1
  | reserve _ | count _ | release _ =>
    cases hc
    exact h
  | takeBack _ _ =>
    cases hc
    exact absurd rfl hkind
  | booked _ | changed _ | failed _ => cases hc

theorem leaves_start (w : World) (r : Request) : r.start.Leaves r.business w w := by
  cases r with
  | create id c =>
    rw [Request.start]
    cases c.validate with
    | error e => exact rfl
    | ok notes => exact ⟨rfl, rfl⟩
  | update c =>
    rw [Request.start]
    cases c.validate with
    | error e => exact rfl
    | ok notes => exact ⟨rfl, rfl⟩
  | confirm c | cancel c | complete c => exact ⟨rfl, rfl⟩

end Stage

/-! ## A request that is alone -/

/-- A call that fails without being carried out is answered by the books, or changes nothing. -/
theorem World.struck_clean {c : Call} {e : Effect} (clean : e.Clean c.kind) (w : World) :
    struck e w c = w.answer c ∨ c.kind ≠ .remove ∧ ∃ f, struck e w c = (.error f, w) := by
  rcases clean with rfl | ⟨hkind, message, rfl⟩
  · exact .inl rfl
  · exact .inr ⟨hkind, ⟨message⟩, rfl⟩

/-- What a request of the business has done to the books, by its outcome. -/
def AllOrNothing (business : BusinessId) (w v : World) : Outcome → Prop
  | .error _ => v = w
  | .ok b => w.Records v b ∧ b.business = business

theorem Stage.Leaves.allOrNothing {g : Stage} {outcome : Outcome} (h : g.Leaves business w v)
    (ended : g.outcome? = some outcome) : AllOrNothing business w v outcome := by
  cases g with
  | booked b | changed b | failed e =>
    cases ended
    exact h
  | _ => cases ended

/-- Whichever calls fail without being carried out, a request that is alone changes nothing unless
it succeeds, and then its booking is on record. -/
theorem Request.all_or_nothing {fs : Faults} (clean : fs.Clean) (w : World) (r : Request) :
    AllOrNothing r.business w (r.service.course.troubled fs w).2.1
      (r.service.course.troubled fs w).1 := by
  obtain ⟨g, hended, -, hleaves⟩ := (follows_start r).troubled
    (P := fun g now v => now.Clean ∧ g.Leaves r.business w v)
    (fun g now v c ⟨hnow, h⟩ hc => by
      refine ⟨hnow.afterCall _, ?_⟩
      rcases World.struck_clean (hnow.current c.kind) v with hdone | ⟨hkind, f, hfail⟩
      · rw [hdone]
        exact h.turns (Stage.turns_of_call? hc v)
      · rw [hfail]
        exact h.next_error hc hkind f)
    ⟨clean, Stage.leaves_start w r⟩
  exact hleaves.allOrNothing hended

end BookingDesk
