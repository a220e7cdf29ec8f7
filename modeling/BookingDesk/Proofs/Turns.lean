import BookingDesk.Proofs.Stage

/-!
# What a turn can do

Without faults a stage can go on in a few ways only, and each of them has its own condition on the
books. `Stage.Turns` lists them, `Stage.turns` says that there are no others, and whatever holds of
all schedules is derived from this list. Two notions go with it: the booking that a create makes on
the ground it finds (`CreateBooking.Makes`), and what two versions of a booking have in common
(`Booking.IsVersionOf`).
-/
namespace BookingDesk

/-! ## Versions of a booking -/

/-- At most status, notes and the time of the last change differ. -/
def Booking.IsVersionOf (a b : Booking) : Prop :=
  a = { b with status := a.status, notes := a.notes, updatedAt := a.updatedAt }

namespace Booking.IsVersionOf

variable {a b c : Booking}

theorem refl (b : Booking) : b.IsVersionOf b := rfl

theorem trans (h : a.IsVersionOf b) (g : b.IsVersionOf c) : a.IsVersionOf c := by
  rw [IsVersionOf] at h g ⊢
  rw [g] at h
  exact h

/-- Two versions of one booking are versions of each other. -/
theorem of_common (h : a.IsVersionOf c) (g : b.IsVersionOf c) : a.IsVersionOf b := by
  rw [IsVersionOf] at h g ⊢
  rw [g]
  exact h

theorem id_eq (h : a.IsVersionOf b) : a.id = b.id := by rw [h]

theorem business_eq (h : a.IsVersionOf b) : a.business = b.business := by rw [h]

theorem customer_eq (h : a.IsVersionOf b) : a.customer = b.customer := by rw [h]

theorem slot_eq (h : a.IsVersionOf b) : a.slot = b.slot := by rw [h]

end Booking.IsVersionOf

theorem Change.isVersionOf_result (ch : Change) (b : Booking) : (ch.result b).IsVersionOf b := rfl

/-! ## What a create makes -/

namespace CreateBooking

/-- The command is in order, names a customer and a member of staff of its business, and a slot of
its business that ends after it starts. -/
def Eligible (w : World) (c : CreateBooking) : Prop :=
  (∃ notes, c.validate = .ok notes) ∧ w.customers.contains (c.business, c.customer) = true ∧
    w.staff.contains (c.business, c.staff) = true ∧
    ∃ slot, w.slotOf? c.slot = some slot ∧ slot.business = c.business ∧ slot.start < slot.finish

/-- The booking with this identifier that the command makes if it gets its slot. -/
def Makes (w : World) (c : CreateBooking) (id : BookingId) (b : Booking) : Prop :=
  ∃ notes slot, c.validate = .ok notes ∧ w.customers.contains (c.business, c.customer) = true ∧
    w.staff.contains (c.business, c.staff) = true ∧ w.slotOf? c.slot = some slot ∧
    slot.business = c.business ∧ c.booking id notes slot.start slot.finish = .ok b

theorem booking_eq_ok_iff {c : CreateBooking} {id : BookingId} {notes : Notes}
    {start finish : Instant} {b : Booking} :
    c.booking id notes start finish = .ok b ↔ start < finish ∧
      b = { id, business := c.business, customer := c.customer, staff := c.staff
            service := c.service, slot := c.slot, start, finish, status := .pending, notes
            createdAt := c.requestedAt, updatedAt := c.requestedAt } := by
  rw [booking]
  split
  · rename_i h
    simp [h, eq_comm]
  · rename_i h
    simp [h]

variable {w v : World} {c : CreateBooking} {id : BookingId} {b b' : Booking}

theorem exists_makes_iff (id : BookingId) : (∃ b, c.Makes w id b) ↔ c.Eligible w := by
  constructor
  · rintro ⟨b, notes, slot, hn, hc, hs, hslot, hown, hb⟩
    exact ⟨⟨notes, hn⟩, hc, hs, slot, hslot, hown, (booking_eq_ok_iff.1 hb).1⟩
  · rintro ⟨⟨notes, hn⟩, hc, hs, slot, hslot, hown, hlt⟩
    exact ⟨_, notes, slot, hn, hc, hs, hslot, hown, booking_eq_ok_iff.2 ⟨hlt, rfl⟩⟩

namespace Makes

theorem eligible (h : c.Makes w id b) : c.Eligible w := (exists_makes_iff id).1 ⟨b, h⟩

theorem unique (h : c.Makes w id b) (h' : c.Makes w id b') : b = b' := by
  obtain ⟨notes, slot, hn, -, -, hs, -, hb⟩ := h
  obtain ⟨notes', slot', hn', -, -, hs', -, hb'⟩ := h'
  rw [hn] at hn'
  rw [hs] at hs'
  cases hn'
  cases hs'
  rw [hb] at hb'
  cases hb'
  rfl

theorem id_eq (h : c.Makes w id b) : b.id = id := by
  obtain ⟨_, _, -, -, -, -, -, hb⟩ := h
  rw [(booking_eq_ok_iff.1 hb).2]

theorem business_eq (h : c.Makes w id b) : b.business = c.business := by
  obtain ⟨_, _, -, -, -, -, -, hb⟩ := h
  rw [(booking_eq_ok_iff.1 hb).2]

theorem customer_eq (h : c.Makes w id b) : b.customer = c.customer := by
  obtain ⟨_, _, -, -, -, -, -, hb⟩ := h
  rw [(booking_eq_ok_iff.1 hb).2]

theorem slot_eq (h : c.Makes w id b) : b.slot = c.slot := by
  obtain ⟨_, _, -, -, -, -, -, hb⟩ := h
  rw [(booking_eq_ok_iff.1 hb).2]

theorem status_eq (h : c.Makes w id b) : b.status = .pending := by
  obtain ⟨_, _, -, -, -, -, -, hb⟩ := h
  rw [(booking_eq_ok_iff.1 hb).2]

end Makes

/-- On the same ground the command makes the same booking. -/
theorem Makes.of_sameGround (h : c.Makes w id b) (ground : w.SameGround v) : c.Makes v id b := by
  obtain ⟨notes, slot, hn, hc, hs, hslot, hown, hb⟩ := h
  exact ⟨notes, slot, hn, by rw [ground.customers, hc], by rw [ground.staff, hs],
    by rw [ground.slots, hslot], hown, hb⟩

theorem Makes.known (h : c.Makes w id b) :
    (w.slotOf? b.slot).isSome = true ∧ w.customers.contains (b.business, b.customer) = true := by
  obtain ⟨notes, slot, -, hc, -, hslot, -, hb⟩ := h
  obtain ⟨-, rfl⟩ := booking_eq_ok_iff.1 hb
  exact ⟨Option.isSome_iff_exists.2 ⟨slot, hslot⟩, hc⟩

end CreateBooking

/-! ## The turns -/

/-- How a stage goes on, by what it finds in the books, and the books that it leaves. -/
inductive Stage.Turns (w : World) : Stage → Stage → World → Prop
  | slotFree {id c notes slot} (known : w.slotOf? c.slot = some slot)
      (own : slot.business = c.business) (free : w.holder? c.slot = none) :
      Turns w (askSlot id c notes) (askCustomer id c notes) w
  | slotTaken {id c notes} (taken : ∀ slot, w.slotOf? c.slot = some slot →
      slot.business = c.business → w.holder? c.slot ≠ none) :
      Turns w (askSlot id c notes) (failed .slotUnavailable) w
  | customerKnown {id c notes} (known : w.customers.contains (c.business, c.customer) = true) :
      Turns w (askCustomer id c notes) (askStaff id c notes) w
  | customerUnknown {id c notes}
      (unknown : w.customers.contains (c.business, c.customer) = false) :
      Turns w (askCustomer id c notes) (failed .customerNotFound) w
  | staffKnown {id c notes} (known : w.staff.contains (c.business, c.staff) = true) :
      Turns w (askStaff id c notes) (readSlot id c notes) w
  | staffUnknown {id c notes} (unknown : w.staff.contains (c.business, c.staff) = false) :
      Turns w (askStaff id c notes) (failed .staffNotFound) w
  | slotRead {id c notes slot b} (known : w.slotOf? c.slot = some slot)
      (own : slot.business = c.business)
      (made : c.booking id notes slot.start slot.finish = .ok b) :
      Turns w (readSlot id c notes) (insert b) w
  | slotRefused {id c notes e} (refused : ∀ slot, w.slotOf? c.slot = some slot →
      slot.business = c.business → ¬ slot.start < slot.finish) :
      Turns w (readSlot id c notes) (failed e) w
  | inserted {b} (fresh : w.bookings.get? b.id = none) :
      Turns w (insert b) (reserve b) (w.insert b)
  | notInserted {b e} (stored : w.bookings.get? b.id ≠ none) : Turns w (insert b) (failed e) w
  | reserved {b} (known : (w.slotOf? b.slot).isSome = true) (free : w.holder? b.slot = none) :
      Turns w (reserve b) (count b) (w.setHolder b.slot (some b.id))
  | raceLost {b} (taken : (w.slotOf? b.slot).isSome = true → w.holder? b.slot ≠ none) :
      Turns w (reserve b) (takeBack b .slotUnavailable) w
  | counted {b} : Turns w (count b) (booked b) (w.countBooking b.business b.customer)
  | notCounted {b} : Turns w (count b) (booked b) w
  | takenBack {b e stored} (found : w.bookings.get? b.id = some stored)
      (own : stored.business = b.business) : Turns w (takeBack b e) (failed e) (w.remove b.id)
  | nothingToTakeBack {b e} (absent : ∀ stored, w.bookings.get? b.id = some stored →
      stored.business ≠ b.business) : Turns w (takeBack b e) (failed e) w
  | notFound {ch e} (absent : ∀ b, w.bookings.get? ch.booking = some b →
      b.business ≠ ch.business) : Turns w (load ch) (failed e) w
  | refused {ch b e} (found : w.bookings.get? ch.booking = some b) (own : b.business = ch.business)
      (refused : ch.admits b.status = false) : Turns w (load ch) (failed e) w
  | loaded {ch b} (found : w.bookings.get? ch.booking = some b) (own : b.business = ch.business)
      (admitted : ch.admits b.status = true) :
      Turns w (load ch) (replace (ch.result b) b.status) w
  | replaced {b before stored} (found : w.bookings.get? b.id = some stored)
      (own : stored.business = b.business) (same : stored.status = before) :
      Turns w (replace b before) (Stage.replaced b before) (w.replace b)
  | overtaken {b before} (other : ∀ stored, w.bookings.get? b.id = some stored →
      stored.business = b.business → stored.status ≠ before) :
      Turns w (replace b before) (failed .modifiedMeanwhile) w
  | released {b} (known : (w.slotOf? b.slot).isSome = true) :
      Turns w (release b) (changed b) (w.setHolder b.slot none)
  | nothingToRelease {b} (unknown : w.slotOf? b.slot = none) : Turns w (release b) (changed b) w
  | rests {g outcome} (ended : g.outcome? = some outcome) : Turns w g g w

namespace Stage

/-- A turn without faults. -/
abbrev act (w : World) (g : Stage) : Stage × World := g.turn World.answer w

/-! The turns of a request that nothing stands in the way of. -/

section

variable {w : World} {id : BookingId} {c : CreateBooking} {notes : Notes} {slot : Slot}
  {b stored : Booking} {ch : Change} {before : Status}

theorem act_askSlot (known : w.slotOf? c.slot = some slot) (own : slot.business = c.business)
    (free : w.holder? c.slot = none) :
    act w (askSlot id c notes) = (askCustomer id c notes, w) := by
  simp [turn, call?, World.answer_isAvailable, known, own, free, next]

theorem act_askCustomer (known : w.customers.contains (c.business, c.customer) = true) :
    act w (askCustomer id c notes) = (askStaff id c notes, w) := by
  simp [turn, call?, World.answer, known, next]

theorem act_askStaff (known : w.staff.contains (c.business, c.staff) = true) :
    act w (askStaff id c notes) = (readSlot id c notes, w) := by
  simp [turn, call?, World.answer, known, next]

theorem act_readSlot (known : w.slotOf? c.slot = some slot) (own : slot.business = c.business)
    (hb : c.booking id notes slot.start slot.finish = .ok b) :
    act w (readSlot id c notes) = (insert b, w) := by
  simp [turn, call?, World.answer_findSlot, Option.filter, known, own, next, made, hb]

theorem act_insert (fresh : w.bookings.get? b.id = none) :
    act w (insert b) = (reserve b, w.insert b) := by
  simp [turn, call?, World.answer, Table.contains, fresh, next]

theorem act_reserve (known : (w.slotOf? b.slot).isSome = true) (free : w.holder? b.slot = none) :
    act w (reserve b) = (count b, w.setHolder b.slot (some b.id)) := by
  simp [turn, call?, World.answer, World.isFree_iff.2 ⟨known, free⟩, next]

theorem act_count (known : w.customers.contains (b.business, b.customer) = true) :
    act w (count b) = (booked b, w.countBooking b.business b.customer) := by
  simp [turn, call?, World.answer, known, next]

theorem act_load (found : w.bookings.get? ch.booking = some b) (own : b.business = ch.business)
    (admitted : ch.admits b.status = true) :
    act w (load ch) = (replace (ch.result b) b.status, w) := by
  simp [turn, call?, World.answer, World.booking?_eq_some_iff.2 ⟨found, own⟩, next, Stage.found,
    Change.apply, admitted]

theorem act_replace (found : w.bookings.get? b.id = some stored)
    (own : stored.business = b.business) (same : stored.status = before) :
    act w (replace b before) = (replaced b before, w.replace b) := by
  simp [turn, call?, World.answer, World.accepts_iff.2 ⟨stored, found, own, same⟩, next]

theorem act_release (known : (w.slotOf? b.slot).isSome = true) :
    act w (release b) = (changed b, w.setHolder b.slot none) := by
  simp [turn, call?, World.answer, World.contains_slots_iff.2 known, next]

end

/-- There are no other turns. -/
theorem turns (w : World) (g : Stage) : Turns w g (g.act w).1 (g.act w).2 := by
  cases g with
  | askSlot id c notes =>
    rcases hs : w.slotOf? c.slot with _ | slot
    · simp only [act, turn, call?, World.answer_isAvailable, hs]
      exact .slotTaken fun slot h => by rw [hs] at h; cases h
    by_cases hown : slot.business = c.business
    · rcases hh : w.holder? c.slot with _ | holder
      · rw [act_askSlot hs hown hh]
        exact .slotFree hs hown hh
      · simp only [act, turn, call?, World.answer_isAvailable, hh, Option.isNone_some,
          Bool.and_false]
        exact .slotTaken fun _ _ _ => by rw [hh]; exact Option.some_ne_none _
    · simp only [act, turn, call?, World.answer_isAvailable, hs, hown, Option.any_some,
        decide_false, Bool.false_and]
      exact .slotTaken fun slot' h h' => by rw [hs] at h; cases h; exact absurd h' hown
  | askCustomer id c notes =>
    cases h : w.customers.contains (c.business, c.customer) with
    | true =>
      rw [act_askCustomer h]
      exact .customerKnown h
    | false =>
      simp only [act, turn, call?, World.answer, h]
      exact .customerUnknown h
  | askStaff id c notes =>
    cases h : w.staff.contains (c.business, c.staff) with
    | true =>
      rw [act_askStaff h]
      exact .staffKnown h
    | false =>
      simp only [act, turn, call?, World.answer, h]
      exact .staffUnknown h
  | readSlot id c notes =>
    simp only [act, turn, call?, World.answer_findSlot]
    rcases hs : w.slotOf? c.slot with _ | slot
    · exact .slotRefused fun slot h => by rw [hs] at h; cases h
    by_cases hown : slot.business = c.business
    · simp only [Option.filter, hown, decide_true, if_true, next, made]
      cases hb : c.booking id notes slot.start slot.finish with
      | error e =>
        refine .slotRefused fun slot' h _ hlt => ?_
        rw [hs] at h
        cases h
        rw [CreateBooking.booking, if_pos hlt] at hb
        cases hb
      | ok b => exact .slotRead hs hown hb
    · simp only [Option.filter, hown, decide_false]
      exact .slotRefused fun slot' h h' => by rw [hs] at h; cases h; exact absurd h' hown
  | insert b =>
    by_cases h : w.bookings.contains b.id = true
    · simp only [act, turn, call?, World.answer, if_pos h]
      exact .notInserted (Option.isSome_iff_ne_none.1 h)
    · have hfresh : w.bookings.get? b.id = none := Option.not_isSome_iff_eq_none.1 h
      rw [act_insert hfresh]
      exact .inserted hfresh
  | reserve b =>
    by_cases h : w.isFree b.slot = true
    · obtain ⟨known, free⟩ := World.isFree_iff.1 h
      rw [act_reserve known free]
      exact .reserved known free
    · simp only [act, turn, call?, World.answer, if_neg h]
      exact .raceLost fun known free => h (World.isFree_iff.2 ⟨known, free⟩)
  | count b =>
    by_cases h : w.customers.contains (b.business, b.customer) = true
    · rw [act_count h]
      exact .counted
    · simp only [act, turn, call?, World.answer, if_neg h]
      exact .notCounted
  | takeBack b e =>
    simp only [act, turn, call?, World.answer]
    cases h : w.booking? b.business b.id with
    | none =>
      refine .nothingToTakeBack fun stored hs hb => ?_
      rw [World.booking?_eq_some_iff.2 ⟨hs, hb⟩] at h
      cases h
    | some stored =>
      obtain ⟨hs, hb⟩ := World.booking?_eq_some_iff.1 h
      exact .takenBack hs hb
  | load ch =>
    cases h : w.booking? ch.business ch.booking with
    | none =>
      simp only [act, turn, call?, World.answer, h]
      refine .notFound fun b hs hb => ?_
      rw [World.booking?_eq_some_iff.2 ⟨hs, hb⟩] at h
      cases h
    | some b =>
      obtain ⟨hs, hb⟩ := World.booking?_eq_some_iff.1 h
      cases ha : ch.admits b.status with
      | true =>
        rw [act_load hs hb ha]
        exact .loaded hs hb ha
      | false =>
        simp only [act, turn, call?, World.answer, h, next, found, Change.apply, ha]
        exact .refused hs hb ha
  | replace b before =>
    by_cases h : w.accepts b before = true
    · obtain ⟨stored, hs, hb, he⟩ := World.accepts_iff.1 h
      rw [act_replace hs hb he]
      exact .replaced hs hb he
    · simp only [act, turn, call?, World.answer, if_neg h]
      exact .overtaken fun stored hs hb he => h (World.accepts_iff.2 ⟨stored, hs, hb, he⟩)
  | release b =>
    by_cases h : w.slots.contains b.slot = true
    · have known := World.contains_slots_iff.1 h
      rw [act_release known]
      exact .released known
    · simp only [act, turn, call?, World.answer, if_neg h]
      rw [World.contains_slots_iff, Option.not_isSome_iff_eq_none] at h
      exact .nothingToRelease h
  | booked b => exact .rests rfl
  | changed b => exact .rests rfl
  | failed e => exact .rests rfl

theorem turns_of_act {w w' : World} {g g' : Stage} (h : g.act w = (g', w')) :
    Turns w g g' w' := by
  have t := turns w g
  rwa [h] at t

/-- The books answer the call of a stage. -/
theorem act_of_call? {g : Stage} {c : Call} (hc : g.call? = some c) (w : World) :
    g.act w = (g.next c (w.answer c).1, (w.answer c).2) := by
  rw [act, turn, hc]

theorem turns_of_call? {g : Stage} {c : Call} (hc : g.call? = some c) (w : World) :
    Turns w g (g.next c (w.answer c).1) (w.answer c).2 :=
  turns_of_act (act_of_call? hc w)

end Stage
end BookingDesk
