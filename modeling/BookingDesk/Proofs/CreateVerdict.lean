import BookingDesk.Proofs.CreateProtocol
import BookingDesk.Proofs.DoubleBooking
import BookingDesk.Proofs.LostUpdate

/-!
# What becomes of a create

Everything that can stand in the way of a create is listed in the order in which it is told. If
there is anything, the create fails with the first of the list and leaves the books as they were;
otherwise the booking is made, and the books differ in what belongs to it and in nothing else. Main
statement: `CreateBooking.create_verdict`.
-/
namespace BookingDesk

/-! ## The books with one booking more -/

/-- The books `v` are the books `w` in which the booking has been made: it has a row, it holds its
slot, and it is counted for its customer. -/
structure World.Booked (w : World) (b : Booking) (v : World) : Prop where
  row : v.bookings.get? b.id = some b
  rows : ∀ id, id ≠ b.id → v.bookings.get? id = w.bookings.get? id
  holder : ∃ entry, w.slots.get? b.slot = some entry ∧
    v.slots.get? b.slot = some { entry with holder := some b.id }
  slots : ∀ s, s ≠ b.slot → v.slots.get? s = w.slots.get? s
  count : ∃ n, w.customers.get? (b.business, b.customer) = some n ∧
    v.customers.get? (b.business, b.customer) = some (n + 1)
  customers : ∀ k, k ≠ (b.business, b.customer) → v.customers.get? k = w.customers.get? k
  staff : v.staff = w.staff

theorem World.booked_book {w : World} {b : Booking} (fresh : w.bookings.get? b.id = none)
    (slot : (w.slotOf? b.slot).isSome = true)
    (customer : w.customers.contains (b.business, b.customer) = true) :
    w.Booked b (w.book b) := by
  rw [slotOf?, Option.isSome_map] at slot
  obtain ⟨entry, hentry⟩ := Option.isSome_iff_exists.1 slot
  obtain ⟨n, hn⟩ := Option.isSome_iff_exists.1 customer
  refine ⟨?_, fun id hid => ?_, ⟨entry, hentry, ?_⟩, fun s hs => ?_, ⟨n, hn, ?_⟩,
    fun k hk => ?_, rfl⟩
  · rw [get?_book fresh, if_pos rfl]
  · rw [get?_book fresh, if_neg hid]
  · simp [book, countBooking, setHolder, insert, Table.get?_modify, hentry]
  · simp [book, countBooking, setHolder, insert, Table.get?_modify, hs]
  · simp [book, countBooking, setHolder, insert, Table.get?_modify, hn]
  · simp [book, countBooking, setHolder, insert, Table.get?_modify, hk]

namespace CreateBooking

/-! ## Objections -/

/-- All that can stand in the way of a create. Each objection is told only if none before it
holds. -/
def objections (w : World) (c : CreateBooking) : List (Bool × ServiceError) :=
  [(c.business.isNone, .invalid .businessMissing),
    (c.customer.isNone, .invalid .customerMissing),
    (c.staff.isNone, .invalid .staffMissing),
    (c.service.isNone, .invalid .serviceMissing),
    (c.slot.isNone, .invalid .slotMissing),
    (500 < c.notes.length, .invalid (.notesTooLong 500 c.notes.length)),
    (∀ slot ∈ w.slotOf? c.slot, slot.business ≠ c.business ∨ w.holder? c.slot ≠ none,
      .slotUnavailable),
    (!w.customers.contains (c.business, c.customer), .customerNotFound),
    (!w.staff.contains (c.business, c.staff), .staffNotFound),
    (∃ slot ∈ w.slotOf? c.slot, ¬ slot.start < slot.finish, .invalid .timesReversed)]

/-- The first objection that holds. -/
def objection? (w : World) (c : CreateBooking) : Option ServiceError :=
  ((c.objections w).find? Prod.fst).map Prod.snd

variable {c : CreateBooking} {notes : Notes}

/-- A valid command can only be refused because of what the books show. -/
theorem objection?_eq (w : World) (c : CreateBooking) :
    c.objection? w = match c.validate with
      | .error e => some (.invalid e)
      | .ok _ => (((c.objections w).drop 6).find? Prod.fst).map Prod.snd := by
  simp only [objection?, objections, validate]
  cases c.business.isNone
  case true => rfl
  cases c.customer.isNone
  case true => rfl
  cases c.staff.isNone
  case true => rfl
  cases c.service.isNone
  case true => rfl
  cases c.slot.isNone
  case true => rfl
  by_cases short : c.notes.length ≤ 500
  · simp [Notes.ofString, short, Nat.not_lt.2 short]
  · simp [Notes.ofString, Notes.maxLength, short, Nat.lt_of_not_le short]

theorem text_of_validate (h : c.validate = .ok notes) : notes.text = c.notes := by
  simp only [validate] at h
  iterate 5 (split at h <;> try cases h)
  exact Notes.text_of_ofString h

/-- The first objection, with all that was found in order before it. -/
inductive Verdict (w : World) (c : CreateBooking) : Option ServiceError → Prop
  | invalid {e : InvalidInput} (invalid : c.validate = .error e) : Verdict w c (some (.invalid e))
  | taken (notes : Notes) (valid : c.validate = .ok notes)
      (taken : ∀ slot ∈ w.slotOf? c.slot, slot.business ≠ c.business ∨ w.holder? c.slot ≠ none) :
      Verdict w c (some .slotUnavailable)
  | customerUnknown (notes : Notes) (slot : Slot) (valid : c.validate = .ok notes)
      (known : w.slotOf? c.slot = some slot) (own : slot.business = c.business)
      (free : w.holder? c.slot = none)
      (unknown : w.customers.contains (c.business, c.customer) ≠ true) :
      Verdict w c (some .customerNotFound)
  | staffUnknown (notes : Notes) (slot : Slot) (valid : c.validate = .ok notes)
      (known : w.slotOf? c.slot = some slot) (own : slot.business = c.business)
      (free : w.holder? c.slot = none)
      (customer : w.customers.contains (c.business, c.customer) = true)
      (unknown : w.staff.contains (c.business, c.staff) ≠ true) :
      Verdict w c (some .staffNotFound)
  | timesReversed (notes : Notes) (slot : Slot) (valid : c.validate = .ok notes)
      (known : w.slotOf? c.slot = some slot) (own : slot.business = c.business)
      (free : w.holder? c.slot = none)
      (customer : w.customers.contains (c.business, c.customer) = true)
      (staff : w.staff.contains (c.business, c.staff) = true)
      (reversed : ¬ slot.start < slot.finish) : Verdict w c (some (.invalid .timesReversed))
  | granted (notes : Notes) (slot : Slot) (valid : c.validate = .ok notes)
      (known : w.slotOf? c.slot = some slot) (own : slot.business = c.business)
      (free : w.holder? c.slot = none)
      (customer : w.customers.contains (c.business, c.customer) = true)
      (staff : w.staff.contains (c.business, c.staff) = true)
      (times : slot.start < slot.finish) : Verdict w c none

theorem verdict (w : World) (c : CreateBooking) : c.Verdict w (c.objection? w) := by
  rw [objection?_eq]
  cases valid : c.validate with
  | error e => exact .invalid valid
  | ok notes =>
    simp only [objections, List.drop_succ_cons, List.drop_zero]
    by_cases taken : ∀ slot ∈ w.slotOf? c.slot,
        slot.business ≠ c.business ∨ w.holder? c.slot ≠ none
    case pos =>
      simp only [decide_eq_true taken]
      exact .taken notes valid taken
    have offered := taken
    simp only [not_forall, not_or, ne_eq, not_not, Option.mem_def] at offered
    obtain ⟨slot, known, own, free⟩ := offered
    simp only [List.find?_cons, decide_eq_false taken]
    by_cases customer : w.customers.contains (c.business, c.customer) = true
    case neg =>
      simp only [customer]
      exact .customerUnknown notes slot valid known own free customer
    by_cases staff : w.staff.contains (c.business, c.staff) = true
    case neg =>
      simp only [customer, staff]
      exact .staffUnknown notes slot valid known own free customer staff
    by_cases times : slot.start < slot.finish
    case neg =>
      simpa [known, customer, staff, times] using
        Verdict.timesReversed notes slot valid known own free customer staff times
    simpa [known, customer, staff, times] using
      Verdict.granted notes slot valid known own free customer staff times

end CreateBooking

/-! ## Refused turns -/

namespace Stage

variable {w : World} {id : BookingId} {c : CreateBooking} {notes : Notes} {slot : Slot}

theorem act_askSlot_taken (taken : ∀ slot ∈ w.slotOf? c.slot,
    slot.business ≠ c.business ∨ w.holder? c.slot ≠ none) :
    act w (askSlot id c notes) = (failed .slotUnavailable, w) := by
  have hno : ((w.slotOf? c.slot).any (·.business = c.business) && (w.holder? c.slot).isNone) =
      false := by
    rcases hslot : w.slotOf? c.slot with _ | slot
    · rfl
    · rcases taken slot hslot with h | h
      · simp [h]
      · simp [Option.isSome_iff_ne_none.2 h]
  simp only [act, turn, call?, World.answer_isAvailable, hno, next]

theorem act_askCustomer_unknown
    (unknown : w.customers.contains (c.business, c.customer) ≠ true) :
    act w (askCustomer id c notes) = (failed .customerNotFound, w) := by
  simp [turn, call?, World.answer, unknown, next]

theorem act_askStaff_unknown (unknown : w.staff.contains (c.business, c.staff) ≠ true) :
    act w (askStaff id c notes) = (failed .staffNotFound, w) := by
  simp [turn, call?, World.answer, unknown, next]

theorem act_readSlot_reversed (known : w.slotOf? c.slot = some slot)
    (own : slot.business = c.business) (reversed : ¬ slot.start < slot.finish) :
    act w (readSlot id c notes) = (failed (.invalid .timesReversed), w) := by
  simp [turn, call?, World.answer_findSlot, Option.filter, known, own, next, made,
    CreateBooking.booking, reversed]

end Stage

namespace CreateBooking

/-! ## A create that is alone -/

open Stage in
/-- With nobody else about, a create fails with the first objection, or books its slot. -/
theorem alone_create (w : World) (id : BookingId) (c : CreateBooking)
    (fresh : w.bookings.get? id = none) :
    match c.objection? w with
    | some e => (Service.create id c).course.alone w = (.error e, w)
    | none => ∃ notes slot, notes.text = c.notes ∧ w.slotOf? c.slot = some slot ∧
        w.Booked (c.draft id notes slot) (w.book (c.draft id notes slot)) ∧
        (Service.create id c).course.alone w =
          (.ok (c.draft id notes slot), w.book (c.draft id notes slot)) := by
  have hverdict := c.verdict w
  have hfollows : ∀ {notes}, c.validate = .ok notes →
      (Service.create id c).course.Follows (.askSlot id c notes) := by
    intro notes valid
    have hstart : (Request.create id c).start = .askSlot id c notes := by
      simp only [Request.start, valid]
    exact hstart ▸ follows_create id c
  generalize c.objection? w = objection at hverdict ⊢
  cases hverdict with
  | invalid invalid => simp [Service.create, invalid, Service.fail, Service.course, Course.alone]
  | taken notes valid taken =>
    have hturns : Interleaving.turns (Stage.turn World.answer) 1 w (askSlot id c notes) =
        (failed .slotUnavailable, w) := by
      simp only [Interleaving.turns, act_askSlot_taken taken]
    exact (hfollows valid).alone hturns rfl
  | customerUnknown notes slot valid known own free unknown =>
    have hturns : Interleaving.turns (Stage.turn World.answer) 2 w (askSlot id c notes) =
        (failed .customerNotFound, w) := by
      simp only [Interleaving.turns, act_askSlot known own free, act_askCustomer_unknown unknown]
    exact (hfollows valid).alone hturns rfl
  | staffUnknown notes slot valid known own free customer unknown =>
    have hturns : Interleaving.turns (Stage.turn World.answer) 3 w (askSlot id c notes) =
        (failed .staffNotFound, w) := by
      simp only [Interleaving.turns, act_askSlot known own free, act_askCustomer customer,
        act_askStaff_unknown unknown]
    exact (hfollows valid).alone hturns rfl
  | timesReversed notes slot valid known own free customer staff reversed =>
    have hturns : Interleaving.turns (Stage.turn World.answer) 4 w (askSlot id c notes) =
        (failed (.invalid .timesReversed), w) := by
      simp only [Interleaving.turns, act_askSlot known own free, act_askCustomer customer,
        act_askStaff staff, act_readSlot_reversed known own reversed]
    exact (hfollows valid).alone hturns rfl
  | granted notes slot valid known own free customer staff times =>
    have makes : c.Makes w id (c.draft id notes slot) :=
      ⟨notes, slot, valid, customer, staff, known, own, booking_eq_ok_iff.2 ⟨times, rfl⟩⟩
    exact ⟨notes, slot, text_of_validate valid, known,
      World.booked_book fresh makes.known.1 makes.known.2,
      (follows_create id c).alone (turns_book makes free fresh) rfl⟩

/-- A create that is alone and meets no faults comes to its end. If there is an objection, it fails
with the first one and changes nothing. Otherwise it makes the booking that was asked for, with the
notes of the command and the times of the slot, and nothing in the books changes but what belongs
to it. -/
theorem create_verdict {t : Timeline} {w : World} (plain : t.Plain w []) {id : BookingId}
    (fresh : w.bookings.get? id = none) (c : CreateBooking) :
    ∃ outcome t', Timeline.run none (Service.create id c) t = (.finished outcome, t') ∧
      match c.objection? w with
      | some e => outcome = .error e ∧ t'.world = w
      | none => ∃ b notes slot, outcome = .ok b ∧ w.Booked b t'.world ∧ notes.text = c.notes ∧
          w.slotOf? c.slot = some slot ∧
          b = { id, business := c.business, customer := c.customer, staff := c.staff
                service := c.service, slot := c.slot, start := slot.start, finish := slot.finish
                status := .pending, notes, createdAt := c.requestedAt
                updatedAt := c.requestedAt } := by
  obtain ⟨t', hrun, hplain⟩ := Timeline.run_alone (s := Service.create id c) plain
  have halone := alone_create w id c fresh
  refine ⟨_, t', hrun, ?_⟩
  rw [hplain.world]
  split at halone
  · simp [halone]
  · obtain ⟨notes, slot, htext, hslot, hbooked, halone⟩ := halone
    rw [halone]
    exact ⟨_, notes, slot, rfl, hbooked, htext, hslot, rfl⟩

/-- At a desk that has not been used, nothing stands in the way. -/
theorem create_verdict_unused :
    Sample.book.objection? Sample.world = none ∧
    ∃ b t', Timeline.run none (Service.create (Sample.name _ 1) Sample.book)
        (Timeline.start Sample.world) = (.finished (.ok b), t') ∧
      Sample.world.Booked b t'.world := by
  have hnone : Sample.book.objection? Sample.world = none := by decide
  have fresh : Sample.world.bookings.get? (Sample.name _ 1) = none := rfl
  obtain ⟨outcome, t', hrun, hverdict⟩ :=
    create_verdict (Timeline.plain_start Sample.world) fresh Sample.book
  rw [hnone] at hverdict
  obtain ⟨b, -, -, rfl, hbooked, -⟩ := hverdict
  exact ⟨hnone, b, t', hrun, hbooked⟩

end CreateBooking
end BookingDesk
