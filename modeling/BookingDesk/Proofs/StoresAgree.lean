import BookingDesk.Proofs.Filled
import BookingDesk.Proofs.OwnBooks
import BookingDesk.Proofs.Turns

/-!
# The database as good as the books

Bookings and slots can be kept in a database or in the desk's own books. In the books a new version
replaces the whole booking, and a slot has a holder or none; in the database an update writes three
columns, and a slot has a flag beside the identifier of its holder. Main statement: call after call
the two give the same answer and hold the same (`stores_agree`).
-/
namespace BookingDesk

open Database

/-- The relations hold the bookings and slots of the books, one row each, and their constraints
hold. -/
structure Corresponds (w : World) (db : Tables) : Prop where
  bookings : Fill Booking.Fills w.bookings.values (db .bookings)
  slots : Fill SlotEntry.Fills w.slots.values (db .slots)
  bookingsKeyed : w.bookings.KeyedBy Booking.id
  slotsKeyed : w.slots.KeyedBy (·.slot.id)
  bookingsSound : Relation.bookings.Sound (db .bookings)
  slotsSound : Relation.slots.Sound (db .slots)

/-- A call about bookings or slots. A new booking starts before it ends, and its times are whole
microseconds; a new version of a booking that there is differs from it in status, notes and the time
of the change at most. -/
def Call.Suits (w : World) : Call → Prop
  | insert b => b.start < b.finish ∧ b.IsWhole ∧ ∀ t ∈ b.times, Time.isTold t.date = true
  | replace b _ =>
    (b.updatedAt.toMicroseconds = b.updatedAt ∧ Time.isTold b.updatedAt.date = true) ∧
      ∀ stored, w.booking? b.business b.id = some stored → b.IsVersionOf stored
  | customerExists _ _ | countBooking _ _ | staffExists _ _ => False
  | _ => True

/-- Both fail, or both say the same. In a list, bookings that start together may come in another
order. -/
def Call.Agree (c : Call) : Reading c.Reply → Answer c → Prop
  | some (.error _), .error _ => True
  | some (.ok a), .ok b => c.SameAnswer false (.ok a) (.ok b)
  | _, _ => False

/-! ## Conditions -/

theorem ofId_inj {e : Entity} {i j : Id e} : ofId i = ofId j ↔ i = j := by
  obtain ⟨u⟩ := i
  obtain ⟨v⟩ := j
  simp [ofId]

theorem ofStatus_inj {s t : Status} : ofStatus s = ofStatus t ↔ s = t := by
  simp [ofStatus, Status.name_inj]

@[simp] theorem ofId_ne_null {e : Entity} (i : Id e) : ofId i ≠ .null := nofun

@[simp] theorem ofStatus_ne_null (s : Status) : ofStatus s ≠ .null := nofun

theorem hold_ofBusinessAnd (business : BusinessId) (wanted : Value) (more : List Value)
    {r : Tuple} {column : Column} {own : BusinessId} {value : Value}
    (hown : r .businessId = ofId own) (hvalue : r column = value) (given : value ≠ .null) :
    (ofBusinessAnd column).hold (ofId business :: wanted :: more) r =
      (own = business && value = wanted) := by
  simp [ofBusinessAnd, Conditions.hold, Condition.holds, param, hown, hvalue, given, ofId_inj]

namespace Booking.Fills

variable {b : Booking} {r : Tuple}

theorem id (h : b.Fills r) : r .bookingId = ofId b.id :=
  h.value (by simp [bookingColumns, bookingValues])

theorem business (h : b.Fills r) : r .businessId = ofId b.business :=
  h.value (by simp [bookingColumns, bookingValues])

theorem status (h : b.Fills r) : r .status = ofStatus b.status :=
  h.value (by simp [bookingColumns, bookingValues])

theorem start (h : b.Fills r) : r .startTime = .time b.start := by
  rw [h.value (v := ofInstant b.start) (by simp [bookingColumns, bookingValues]),
    h.whole.ofInstant_eq (by simp [times])]

theorem customer (h : b.Fills r) : r .customerId = ofId b.customer :=
  h.value (by simp [bookingColumns, bookingValues])

theorem staff (h : b.Fills r) : r .staffId = ofId b.staff :=
  h.value (by simp [bookingColumns, bookingValues])

theorem hold_id (h : b.Fills r) (business : BusinessId) (id : BookingId) :
    (ofBusinessAnd .bookingId).hold [ofId business, ofId id] r =
      (b.business = business && b.id = id) := by
  simp [hold_ofBusinessAnd business _ _ h.business h.id nofun, ofId_inj]

end Booking.Fills

namespace SlotEntry.Fills

variable {entry : SlotEntry} {r : Tuple}

theorem id (h : entry.Fills r) : r .slotId = ofId entry.slot.id := h.value (by simp [slotColumns])

theorem business (h : entry.Fills r) : r .businessId = ofId entry.slot.business :=
  h.value (by simp [slotColumns])

theorem hold_id (h : entry.Fills r) (business : BusinessId) (s : SlotId) :
    (ofBusinessAnd .slotId).hold [ofId business, ofId s] r =
      (entry.slot.business = business && entry.slot.id = s) := by
  simp [hold_ofBusinessAnd business _ _ h.business h.id nofun, ofId_inj]

end SlotEntry.Fills

/-! ## Questions -/

namespace Corresponds

variable {w : World} {db db' : Tables} {reply : Reply} {business : BusinessId}

/-- The rows that are told of a single slot. -/
theorem slot_rows (h : Corresponds w db) {s : SlotId} {found : List Tuple}
    (all : found.Perm ((db .slots).filter
      ((ofBusinessAnd .slotId).hold [ofId business, ofId s]))) :
    w.slot? business s = none ∧ found = [] ∨
      ∃ entry r, w.slot? business s = some entry ∧ found = [r] ∧ entry.Fills r := by
  have hfill := (h.slots.filter fun entry r hr => (hr.hold_id business s).symm).perm all
  rw [h.slotsKeyed.filter_values_and s fun entry => entry.slot.business = business] at hfill
  exact hfill.toList_cases

/-- The rows that are told of a single booking. -/
theorem booking_rows (h : Corresponds w db) {id : BookingId} {found : List Tuple}
    (all : found.Perm ((db .bookings).filter
      ((ofBusinessAnd .bookingId).hold [ofId business, ofId id]))) :
    w.booking? business id = none ∧ found = [] ∨
      ∃ b r, w.booking? business id = some b ∧ found = [r] ∧ b.Fills r := by
  have hfill := (h.bookings.filter fun b r hr => (hr.hold_id business id).symm).perm all
  rw [h.bookingsKeyed.filter_values_and id fun b => b.business = business] at hfill
  exact hfill.toList_cases

theorem isAvailable (h : Corresponds w db) {s : SlotId}
    (runs : (query (.isAvailable business s)).Runs db reply db') :
    read (.isAvailable business s) reply = some (w.answer (.isAvailable business s)).1 ∧
      db' = db := by
  cases runs with
  | selected all _ =>
    refine ⟨?_, rfl⟩
    rcases h.slot_rows all with ⟨hnone, rfl⟩ | ⟨entry, r, hsome, rfl, hr⟩
    · rw [World.answer, hnone]
      rfl
    · rw [World.answer, hsome, List.map_singleton, Database.read]
      simp [Reply.scalar?, Reply.rows?, hr.reserved_row, Except.map, bind, Except.bind]
      cases entry.holder <;> rfl

theorem findSlot (h : Corresponds w db) {s : SlotId}
    (runs : (query (.findSlot business s)).Runs db reply db') :
    read (.findSlot business s) reply = some (w.answer (.findSlot business s)).1 ∧ db' = db := by
  cases runs with
  | selected all _ =>
    refine ⟨?_, rfl⟩
    rcases h.slot_rows all with ⟨hnone, rfl⟩ | ⟨entry, r, hsome, rfl, hr⟩
    · rw [World.answer, hnone]
      rfl
    · rw [World.answer, hsome, List.map_singleton, Database.read]
      simp [Reply.first, Reply.rows?, hr.slot_row, Except.map]

theorem find (h : Corresponds w db) {id : BookingId}
    (runs : (query (.find business id)).Runs db reply db') :
    read (.find business id) reply = some (w.answer (.find business id)).1 ∧ db' = db := by
  cases runs with
  | selected all _ =>
    refine ⟨?_, rfl⟩
    rcases h.booking_rows all with ⟨hnone, rfl⟩ | ⟨b, r, hsome, rfl, hr⟩
    · rw [World.answer, hnone]
      rfl
    · rw [World.answer, hsome, List.map_singleton, Database.read]
      simp [Reply.first, Reply.rows?, hr.booking_row, Except.map]

theorem countStatus (h : Corresponds w db) {status : Status}
    (runs : (query (.countStatus business status)).Runs db reply db') :
    read (.countStatus business status) reply =
      some (w.answer (.countStatus business status)).1 ∧ db' = db := by
  cases runs with
  | counted =>
    refine ⟨?_, rfl⟩
    have hcount := h.bookings.countP_eq fun b r hr =>
      (hold_ofBusinessAnd business (ofStatus status) [] hr.business hr.status nofun).symm
    simp only [ofStatus_inj] at hcount
    rw [World.answer, ← hcount, Database.read]
    rfl

/-- Rows that are selected are read as a list of bookings, in the order of the rows. -/
theorem listing (h : Corresponds w db) (business : BusinessId) (wanted : Booking → Bool)
    {conditions : Conditions} {params : List Value} {found : List Tuple}
    (wants : ∀ b r, b.Fills r → (b.business = business && wanted b) = conditions.hold params r)
    (all : found.Perm ((db .bookings).filter (conditions.hold params)))
    (ordered : ∀ c, some .startTime = some c →
      found.Pairwise fun r r' => (r c).le (r' c) = true) :
    ∃ bs, Reply.each (.rows (found.map (·.row bookingColumns))) = some (.ok bs) ∧
      SameListing false (.ok bs : Except Failure _) (.ok (w.select business wanted)) := by
  obtain ⟨bs, hperm, hall⟩ := (h.bookings.filter wants).perm all
  refine ⟨bs, Booking.bookings_row hall, .ok ⟨?_, nofun⟩ ?_⟩
  · exact hperm.trans (List.mergeSort_perm _ _).symm
  · -- a list that is sorted already is not changed by sorting it
    have hstarts : found.map (· .startTime) = bs.map fun b => .time b.start :=
      Fill.map_eq_of_forall₂ hall fun b r hr => hr.start.symm
    have hsorted : bs.Pairwise fun a b => decide (a.start ≤ b.start) = true := by
      have hfound : (found.map (· .startTime)).Pairwise fun v v' => v.le v' = true :=
        List.pairwise_map.2 (ordered _ rfl)
      rwa [hstarts, List.pairwise_map] at hfound
    rw [World.select, ← World.starts_eq hperm, List.mergeSort_of_pairwise hsorted]

theorem ofCustomer (h : Corresponds w db) {customer : CustomerId}
    (runs : (query (.ofCustomer business customer)).Runs db reply db') :
    Call.Agree (.ofCustomer business customer) (read (.ofCustomer business customer) reply)
      (w.answer (.ofCustomer business customer)).1 ∧ db' = db := by
  cases runs with
  | selected all ordered =>
    obtain ⟨bs, hread, hsame⟩ := h.listing business (·.customer = customer)
      (fun b r hr => by
        simp [query, hold_ofBusinessAnd business _ _ hr.business hr.customer nofun, ofId_inj])
      all ordered
    rw [Database.read, hread]
    exact ⟨hsame, rfl⟩

theorem ofStaff (h : Corresponds w db) {staff : StaffId}
    (runs : (query (.ofStaff business staff)).Runs db reply db') :
    Call.Agree (.ofStaff business staff) (read (.ofStaff business staff) reply)
      (w.answer (.ofStaff business staff)).1 ∧ db' = db := by
  cases runs with
  | selected all ordered =>
    obtain ⟨bs, hread, hsame⟩ := h.listing business (·.staff = staff)
      (fun b r hr => by
        simp [query, hold_ofBusinessAnd business _ _ hr.business hr.staff nofun, ofId_inj])
      all ordered
    rw [Database.read, hread]
    exact ⟨hsame, rfl⟩

theorem ofBusiness (h : Corresponds w db)
    (runs : (query (.ofBusiness business)).Runs db reply db') :
    Call.Agree (.ofBusiness business) (read (.ofBusiness business) reply)
      (w.answer (.ofBusiness business)).1 ∧ db' = db := by
  cases runs with
  | selected all ordered =>
    obtain ⟨bs, hread, hsame⟩ := h.listing business (fun _ => true)
      (fun b r hr => by
        simp [query, Conditions.hold, Condition.holds, param, hr.business, ofId_inj])
      all ordered
    rw [Database.read, hread]
    exact ⟨hsame, rfl⟩

/-! ## Writes -/

theorem mem_keys_iff (h : Corresponds w db) (id : BookingId) :
    ofId id ∈ (db .bookings).map (· .bookingId) ↔ w.bookings.contains id = true := by
  have hkeys := h.bookings.map_perm fun b r hr => hr.id.symm
  rw [hkeys.mem_iff, List.mem_map, Table.contains, Option.isSome_iff_exists]
  constructor
  · rintro ⟨b, hb, hid⟩
    exact ⟨b, h.bookingsKeyed.get?_eq hb (ofId_inj.1 hid)⟩
  · rintro ⟨b, hb⟩
    exact ⟨b, Table.mem_values_iff.2 ⟨id, hb⟩, ofId_inj.2 (h.bookingsKeyed id b hb)⟩

end Corresponds

/-- The values of a new booking make a tuple that tells it. -/
theorem Booking.IsWhole.fills {b : Booking} (whole : b.IsWhole) :
    b.Fills (.ofValues bookingColumns (bookingValues b)) :=
  ⟨rfl, whole⟩

theorem Booking.Fills.admits {b : Booking} {r : Tuple} (h : b.Fills r)
    (inTime : b.start < b.finish) : Relation.bookings.admits r = true := by
  have values := h.values
  simp only [bookingColumns, bookingValues, List.map_cons, List.map_nil, List.cons.injEq] at values
  obtain ⟨hid, hbusiness, hcustomer, hstaff, hservice, hslot, hstart, hfinish, hstatus, hnotes,
    hcreated, hupdated, -⟩ := values
  rw [h.whole.ofInstant_eq (by simp [times])] at hstart hfinish
  have hname : Status.all.any (·.name = b.status.name) = true :=
    List.any_eq_true.2 ⟨b.status, Status.mem_all _, by simp⟩
  simp [Relation.admits, Relation.required, Relation.checks, Relation.inTime, ofId, ofInstant,
    ofStatus, *, b.notes.bounded]

namespace Corresponds

variable {w : World} {db db' : Tables} {reply : Reply}

theorem insert (h : Corresponds w db) {b : Booking} (suits : (Call.insert b).Suits w)
    (runs : (query (.insert b)).Runs db reply db') :
    Call.Agree (.insert b) (read (.insert b) reply) (w.answer (.insert b)).1 ∧
      Corresponds (w.answer (.insert b)).2 db' := by
  obtain ⟨inTime, whole, -⟩ := suits
  have hfills := whole.fills
  have hsound := (h.bookingsSound.append_iff (hfills.admits inTime)).trans
    (not_congr (h.mem_keys_iff b.id))
  cases runs with
  | inserted sound =>
    have hfresh := hsound.1 sound
    have hnone := Option.not_isSome_iff_eq_none.1 hfresh
    rw [World.answer, if_neg hfresh]
    refine ⟨rfl, ?_, h.slots, h.bookingsKeyed.insertNew rfl, h.slotsKeyed, ?_, h.slotsSound⟩
    · rw [World.insert, Table.values_insertNew hnone]
      exact h.bookings.append hfills
    · exact sound
  | notInserted text unsound =>
    have hold := not_not.1 fun hfresh => unsound (hsound.2 hfresh)
    rw [World.answer, if_pos hold]
    exact ⟨trivial, h⟩

end Corresponds

/-! ### New versions of bookings -/

/-- What an update sets in the row of a booking. -/
def newVersion : List (Column × Assigned) :=
  [(.status, .param 3), (.notes, .param 4), (.updatedAt, .param 5)]

def newVersionValues (b : Booking) (expected : Status) : List Value :=
  [ofId b.business, ofId b.id, ofStatus b.status, .text b.notes.text, ofInstant b.updatedAt,
    ofStatus expected]

theorem query_replace (b : Booking) (expected : Status) :
    query (.replace b expected) =
      ⟨.update .bookings newVersion (ofBusinessAnd .bookingId ++ [.equals .status 6]),
        newVersionValues b expected⟩ :=
  rfl

theorem assign_newVersion (r : Tuple) (b : Booking) (expected : Status) (now : Instant)
    (c : Column) :
    r.assign newVersion (newVersionValues b expected) now c =
      match c with
      | .status => ofStatus b.status
      | .notes => .text b.notes.text
      | .updatedAt => ofInstant b.updatedAt
      | c => r c := by
  cases c <;> rfl

namespace Booking

variable {b : Booking} {r : Tuple}

theorem Fills.hold_replace (h : b.Fills r) (new : Booking) (expected : Status) :
    Conditions.hold (ofBusinessAnd .bookingId ++ [.equals .status 6])
        (newVersionValues new expected) r =
      ((b.business = new.business && b.status = expected) && b.id = new.id) := by
  simp [ofBusinessAnd, Conditions.hold, Condition.holds, param, newVersionValues, h.business, h.id,
    h.status, ofId_inj, ofStatus_inj]
  rw [Bool.and_assoc, Bool.and_comm (decide (b.id = new.id))]

/-- The row of a booking after an update is that of the booking with the status, the notes and the
time of change of the new version. -/
theorem Fills.assign (h : b.Fills r) (new : Booking) (expected : Status)
    (whole : new.updatedAt.toMicroseconds = new.updatedAt) (now : Instant) :
    { b with status := new.status, notes := new.notes, updatedAt := new.updatedAt }.Fills
      (r.assign newVersion (newVersionValues new expected) now) := by
  refine ⟨?_, ?_⟩
  · have values := h.values
    simp only [bookingColumns, bookingValues, List.map_cons, List.map_nil, List.cons.injEq]
      at values
    simp [bookingColumns, bookingValues, assign_newVersion, values]
  · have hwhole := h.whole
    simp only [IsWhole, times, List.forall_mem_cons] at hwhole ⊢
    exact ⟨hwhole.1, hwhole.2.1, hwhole.2.2.1, whole, List.forall_mem_nil _⟩

theorem admits_assign (h : Relation.bookings.admits r = true) (new : Booking) (expected : Status)
    (now : Instant) :
    Relation.bookings.admits (r.assign newVersion (newVersionValues new expected) now) = true := by
  have hname : Status.all.any (·.name = new.status.name) = true :=
    List.any_eq_true.2 ⟨new.status, Status.mem_all _, by simp⟩
  simp [Relation.admits, Relation.required, Relation.checks, Relation.inTime] at h
  simp [Relation.admits, Relation.required, Relation.checks, Relation.inTime, assign_newVersion,
    ofStatus, ofInstant, hname, new.notes.bounded, h]

end Booking

namespace Corresponds

variable {w : World} {db db' : Tables} {reply : Reply}

theorem accepts_eq (w : World) (b : Booking) (expected : Status) :
    w.accepts b expected = ((w.bookings.get? b.id).filter fun v =>
      v.business = b.business && v.status = expected).isSome := by
  rw [World.accepts]
  cases w.bookings.get? b.id with
  | none => rfl
  | some v =>
    by_cases hv : (v.business = b.business && v.status = expected) = true
    · simp [Option.filter, hv]
    · simp [Option.filter, hv]

theorem replace (h : Corresponds w db) {b : Booking} {expected : Status}
    (suits : (Call.replace b expected).Suits w)
    (runs : (query (.replace b expected)).Runs db reply db') :
    read (.replace b expected) reply = some (w.answer (.replace b expected)).1 ∧
      Corresponds (w.answer (.replace b expected)).2 db' := by
  obtain ⟨⟨whole, -⟩, version⟩ := suits
  have hconcerned : ∀ v r, Booking.Fills v r → _ := fun v r hr => (hr.hold_replace b expected).symm
  have hcount := h.bookings.countP_key h.bookingsKeyed hconcerned
  have hrows (now : Instant) := h.bookings.modify h.bookingsKeyed hconcerned (f := fun _ => b)
    (g := fun r => r.assign newVersion (newVersionValues b expected) now) fun v r hv hown hr => by
    have hbusiness : v.business = b.business := by simp_all
    have hversion := version v (World.booking?_eq_some_iff.2 ⟨hv, hbusiness⟩)
    have hfills := hr.assign b expected whole now
    rwa [← hversion] at hfills
  rw [← accepts_eq] at hcount hrows
  rw [Query.Runs, query_replace] at runs
  cases runs with
  | updated now sound =>
    rw [hcount, World.answer]
    by_cases haccepts : w.accepts b expected = true
    · simp only [if_pos haccepts] at hrows ⊢
      exact ⟨rfl, hrows now, h.slots, h.bookingsKeyed.modify fun _ _ => rfl, h.slotsKeyed, sound,
        h.slotsSound⟩
    · simp only [if_neg haccepts] at hrows ⊢
      exact ⟨rfl, hrows now, h.slots, h.bookingsKeyed, h.slotsKeyed, sound, h.slotsSound⟩
  | notUpdated text now unsound =>
    exact absurd (h.bookingsSound.updatedRows rfl fun r hr _ =>
      Booking.admits_assign hr b expected now) unsound

theorem remove (h : Corresponds w db) {business : BusinessId} {id : BookingId}
    (runs : (query (.remove business id)).Runs db reply db') :
    read (.remove business id) reply = some (w.answer (.remove business id)).1 ∧
      Corresponds (w.answer (.remove business id)).2 db' := by
  have hconcerned : ∀ v r, Booking.Fills v r → _ := fun v r hr => (hr.hold_id business id).symm
  have hrows := h.bookings.erase h.bookingsKeyed hconcerned
  cases runs with
  | deleted =>
    rw [World.answer]
    refine ⟨rfl, ?_⟩
    have hsound := h.bookingsSound.filter
      (!Conditions.hold (ofBusinessAnd .bookingId) [ofId business, ofId id] ·)
    by_cases hsome : (w.booking? business id).isSome = true
    · rw [if_pos hsome]
      rw [World.booking?] at hsome
      rw [if_pos hsome] at hrows
      exact ⟨hrows, h.slots, h.bookingsKeyed.erase id, h.slotsKeyed, hsound, h.slotsSound⟩
    · rw [if_neg hsome]
      rw [World.booking?] at hsome
      rw [if_neg hsome] at hrows
      exact ⟨hrows, h.slots, h.bookingsKeyed, h.slotsKeyed, hsound, h.slotsSound⟩

end Corresponds

/-! ### Holders of slots -/

/-- What sets the holder of a slot: the flag and the identifier. -/
def holding (reserved : Bool) (holder : Assigned) : List (Column × Assigned) :=
  [(.isReserved, .constant reserved), (.bookingId, holder), (.updatedAt, .now)]

theorem query_reserve (s : SlotId) (id : BookingId) :
    query (.reserve s id) =
      ⟨.update .slots (holding true (.param 2)) [.equals .slotId 1, .isNot .isReserved],
        [ofId s, ofId id]⟩ :=
  rfl

theorem query_release (s : SlotId) :
    query (.release s) =
      ⟨.update .slots (holding false .null) [.equals .slotId 1], [ofId s]⟩ :=
  rfl

theorem assign_holding (r : Tuple) (reserved : Bool) (holder : Assigned) (params : List Value)
    (now : Instant) (c : Column) :
    r.assign (holding reserved holder) params now c =
      match c with
      | .isReserved => .bool reserved
      | .bookingId => holder.value params now (r .bookingId)
      | .updatedAt => .time now
      | c => r c := by
  cases c <;> rfl

namespace SlotEntry

variable {entry : SlotEntry} {r : Tuple}

theorem Fills.assign (h : entry.Fills r) (holder : Option BookingId) {assigned : Assigned}
    {params : List Value} {now : Instant}
    (hassigned : assigned.value params now (r .bookingId) = holder.elim .null ofId) :
    SlotEntry.Fills { entry with holder }
      (r.assign (holding holder.isSome assigned) params now) := by
  have values := h.values
  simp only [slotColumns, List.map_cons, List.map_nil] at values
  refine ⟨?_, ?_, ?_⟩
  · simp [slotColumns, assign_holding, values]
  · simp [assign_holding]
  · simp [assign_holding, hassigned]

theorem admits_assign (h : Relation.slots.admits r = true) (reserved : Bool) (holder : Assigned)
    (params : List Value) (now : Instant) :
    Relation.slots.admits (r.assign (holding reserved holder) params now) = true := by
  simp [Relation.admits, Relation.required, Relation.checks, Relation.inTime] at h
  simp [Relation.admits, Relation.required, Relation.checks, Relation.inTime, assign_holding, h]

end SlotEntry

namespace Corresponds

variable {w : World} {db db' : Tables} {reply : Reply} {s : SlotId}

theorem isFree_eq (w : World) (s : SlotId) :
    w.isFree s = ((w.slots.get? s).filter (·.holder.isNone)).isSome := by
  rw [World.isFree]
  cases w.slots.get? s with
  | none => rfl
  | some entry => by_cases hfree : entry.holder.isNone = true <;> simp [Option.filter, hfree]

theorem reserve (h : Corresponds w db) {id : BookingId}
    (runs : (query (.reserve s id)).Runs db reply db') :
    read (.reserve s id) reply = some (w.answer (.reserve s id)).1 ∧
      Corresponds (w.answer (.reserve s id)).2 db' := by
  have hconcerned : ∀ entry r, SlotEntry.Fills entry r →
      (entry.holder.isNone && entry.slot.id = s) =
        Conditions.hold [.equals .slotId 1, .isNot .isReserved] [ofId s, ofId id] r := by
    intro entry r hr
    cases hholder : entry.holder <;>
      simp [Conditions.hold, Condition.holds, param, hr.id, hr.reserved, ofId_inj, hholder]
  have hcount := h.slots.countP_key h.slotsKeyed hconcerned
  have hrows (now : Instant) := h.slots.modify h.slotsKeyed hconcerned
    (f := ({ · with holder := some id }))
    (g := fun r => r.assign (holding true (.param 2)) [ofId s, ofId id] now)
    fun entry r _ _ hr => hr.assign (some id) rfl
  rw [← isFree_eq] at hcount hrows
  rw [Query.Runs, query_reserve] at runs
  cases runs with
  | updated now sound =>
    rw [hcount, World.answer]
    by_cases hfree : w.isFree s = true
    · simp only [if_pos hfree] at hrows ⊢
      exact ⟨rfl, h.bookings, hrows now, h.bookingsKeyed, h.slotsKeyed.modify fun _ hs => hs,
        h.bookingsSound, sound⟩
    · simp only [if_neg hfree] at hrows ⊢
      exact ⟨rfl, h.bookings, hrows now, h.bookingsKeyed, h.slotsKeyed, h.bookingsSound, sound⟩
  | notUpdated text now unsound =>
    exact absurd (h.slotsSound.updatedRows rfl fun r hr _ =>
      SlotEntry.admits_assign hr true (.param 2) [ofId s, ofId id] now) unsound

theorem release (h : Corresponds w db) (runs : (query (.release s)).Runs db reply db') :
    Call.Agree (.release s) (read (.release s) reply) (w.answer (.release s)).1 ∧
      Corresponds (w.answer (.release s)).2 db' := by
  have hconcerned : ∀ entry r, SlotEntry.Fills entry r → (true && entry.slot.id = s) =
      Conditions.hold [.equals .slotId 1] [ofId s] r := by
    intro entry r hr
    simp [Conditions.hold, Condition.holds, param, hr.id, ofId_inj]
  have hcount := h.slots.countP_key h.slotsKeyed hconcerned
  have hrows (now : Instant) := h.slots.modify h.slotsKeyed hconcerned
    (f := ({ · with holder := none }))
    (g := fun r => r.assign (holding false .null) [ofId s] now)
    fun entry r _ _ hr => hr.assign none rfl
  have hknown : ((w.slots.get? s).filter fun _ => true).isSome = w.slots.contains s := by
    rw [Table.contains]
    cases w.slots.get? s <;> rfl
  rw [hknown] at hcount hrows
  rw [Query.Runs, query_release] at runs
  cases runs with
  | updated now sound =>
    rw [hcount, World.answer]
    by_cases hslot : w.slots.contains s = true
    · simp only [if_pos hslot] at hrows ⊢
      exact ⟨rfl, h.bookings, hrows now, h.bookingsKeyed, h.slotsKeyed.modify fun _ hs => hs,
        h.bookingsSound, sound⟩
    · simp only [if_neg hslot] at hrows ⊢
      exact ⟨trivial, h.bookings, hrows now, h.bookingsKeyed, h.slotsKeyed, h.bookingsSound, sound⟩
  | notUpdated text now unsound =>
    exact absurd (h.slotsSound.updatedRows rfl fun r hr _ =>
      SlotEntry.admits_assign hr false .null [ofId s] now) unsound

end Corresponds

/-! ## Call after call -/

theorem Call.agree_self (c : Call) (answer : Answer c) : c.Agree (some answer) answer := by
  rcases answer with e | a
  · trivial
  · cases c with
    | ofCustomer _ _ | ofStaff _ _ | ofBusiness _ => exact .ok (.refl a) rfl
    | _ => rfl

/-- One call: the answers agree, and what is held still corresponds. -/
theorem Corresponds.call {w : World} {db db' : Tables} {c : Call} {reply : Reply}
    (h : Corresponds w db) (suits : c.Suits w) (runs : (query c).Runs db reply db') :
    c.Agree (read c reply) (w.answer c).1 ∧ Corresponds (w.answer c).2 db' := by
  have same (heq : read c reply = some (w.answer c).1) :
      c.Agree (read c reply) (w.answer c).1 := by
    rw [heq]
    exact c.agree_self _
  cases c with
  | isAvailable business s =>
    obtain ⟨heq, rfl⟩ := h.isAvailable runs
    exact ⟨same heq, h⟩
  | findSlot business s =>
    obtain ⟨heq, rfl⟩ := h.findSlot runs
    exact ⟨same heq, h⟩
  | find business id =>
    obtain ⟨heq, rfl⟩ := h.find runs
    exact ⟨same heq, h⟩
  | countStatus business status =>
    obtain ⟨heq, rfl⟩ := h.countStatus runs
    exact ⟨same heq, h⟩
  | ofCustomer business customer =>
    obtain ⟨hagree, rfl⟩ := h.ofCustomer runs
    exact ⟨hagree, h⟩
  | ofStaff business staff =>
    obtain ⟨hagree, rfl⟩ := h.ofStaff runs
    exact ⟨hagree, h⟩
  | ofBusiness business =>
    obtain ⟨hagree, rfl⟩ := h.ofBusiness runs
    exact ⟨hagree, h⟩
  | insert b => exact h.insert suits runs
  | replace b expected => exact (h.replace suits runs).imp same id
  | remove business id => exact (h.remove runs).imp same fun h => h
  | reserve s id => exact (h.reserve runs).imp same fun h => h
  | release s => exact h.release runs
  | customerExists _ _ | countBooking _ _ | staffExists _ _ => cases suits

/-- The database can take the values of a call that suits. -/
theorem Call.Suits.isTold {w : World} {c : Call} (h : c.Suits w) : (query c).isTold = true := by
  cases c with
  | insert b =>
    obtain ⟨-, whole, told⟩ := h
    simp only [Booking.IsWhole, Booking.times, List.forall_mem_cons] at whole told
    simp [Query.isTold, query, bookingValues, ofId, ofStatus, ofInstant, whole, told]
  | replace b expected =>
    simp [Query.isTold, query, ofId, ofStatus, ofInstant, h.1]
  | _ => rfl

/-- Each call suits the books as they are when it is made. -/
def World.Suit (w : World) : List Call → Prop
  | [] => True
  | c :: calls => c.Suits w ∧ (w.answer c).2.Suit calls

/-- Call after call, what is read from the database agrees with the answer of the books, and what
the relations hold then corresponds to the books. -/
inductive SideBySide : World → Exchange → List Call → List Tables → Prop
  | nil {w x} : SideBySide w x [] []
  | cons {w x c calls db states} (agree : c.Agree (x.call c).1 (w.answer c).1)
      (corresponds : Corresponds (w.answer c).2 db)
      (rest : SideBySide (w.answer c).2 (x.call c).2 calls states) :
      SideBySide w x (c :: calls) (db :: states)

/-- Whatever calls are made, the database serves them, and answers each as the books do, whatever it
leaves open. -/
theorem stores_agree {w : World} {db : Tables} {calls : List Call} (start : Corresponds w db)
    (suit : w.Suit calls) :
    (∃ replies states, db.Serves calls replies states) ∧
      ∀ replies states, db.Serves calls replies states →
        SideBySide w (.start replies) calls states := by
  refine ⟨db.exists_serves calls, fun replies states serves => ?_⟩
  have hmirrors : ∀ x : Exchange, x.replies = replies → SideBySide w x calls states := by
    induction serves generalizing w with
    | nil => exact fun _ _ => .nil
    | @cons db db' c calls reply replies states runs _ ih =>
      intro x hx
      obtain ⟨hagree, hcorresponds⟩ := start.call suit.1 runs
      have hcall : (x.call c).1 = read c reply ∧ (x.call c).2.replies = replies := by
        rw [Exchange.call, if_pos suit.1.isTold, hx]
        exact ⟨rfl, rfl⟩
      exact .cons (hcall.1 ▸ hagree) hcorresponds (ih hcorresponds suit.2 _ hcall.2)
  exact hmirrors _ rfl

/-- A free slot, and nothing else. -/
def Sample.tables : Tables
  | .slots => [.ofValues (slotColumns ++ [.isReserved, .updatedAt])
      [ofId Sample.slot.id, ofId Sample.slot.business, ofId Sample.slot.staff,
        .time Sample.slot.start, .time Sample.slot.finish, .bool false, .time Sample.slot.start]]
  | _ => []

theorem corresponds_sample : Corresponds Sample.world Sample.tables where
  bookings := .of_forall₂ .nil
  slots := .of_forall₂ (.cons ⟨rfl, rfl, rfl⟩ .nil)
  bookingsKeyed := nofun
  slotsKeyed s entry h := by
    have hentries : (s, entry) ∈ Sample.world.slots.entries := Table.get?_eq_some_iff.1 h
    obtain ⟨rfl, rfl⟩ := Prod.mk.inj (List.mem_singleton.1 hentries)
    rfl
  bookingsSound := ⟨nofun, List.nodup_nil⟩
  slotsSound := ⟨by simp [Sample.tables]; decide, by simp [Sample.tables]⟩

/-- A booking is made, confirmed, and cannot be made again. -/
theorem stores_agree_booked :
    let calls := [.insert Sample.booking, .reserve Sample.slot.id Sample.booking.id,
      .replace { Sample.booking with status := .confirmed } .pending, .insert Sample.booking,
      .ofBusiness Sample.booking.business, .release Sample.slot.id]
    Corresponds Sample.world Sample.tables ∧ Sample.world.Suit calls ∧
      ∃ replies states, Sample.tables.Serves calls replies states ∧
        SideBySide Sample.world (.start replies) calls states := by
  intro calls
  have whole : Sample.booking.IsWhole := by
    rw [Booking.IsWhole]
    decide
  have suit : Sample.world.Suit calls := by
    refine ⟨⟨by decide, whole, by decide⟩, trivial, ⟨by decide, fun stored hs => ?_⟩,
      ⟨by decide, whole, by decide⟩, trivial, trivial, trivial⟩
    cases hs
    rfl
  obtain ⟨⟨replies, states, serves⟩, hagree⟩ := stores_agree corresponds_sample suit
  exact ⟨corresponds_sample, suit, replies, states, serves, hagree replies states serves⟩

end BookingDesk
