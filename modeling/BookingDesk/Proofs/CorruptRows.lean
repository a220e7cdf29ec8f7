import BookingDesk.Proofs.RowFormat
import BookingDesk.Service.Query

/-!
# Rows that stand for no booking

The database may hold what no booking has: a status of another name, or notes that are too long.
Main statement: such a row is neither left out nor taken for a booking, but makes the whole answer a
failure with the words for the first of them (`Search.corrupt_rows_refused`).
-/
namespace BookingDesk

open Database

namespace Database

namespace Row

/-- Every column of bookings is there to be read. -/
structure IsTyped (r : Row) : Prop where
  ids : ∀ c ∈ [.bookingId, .businessId, .customerId, .staffId, .serviceId, .slotId],
    ∃ u, r.uuid? c = some u
  times : ∀ c ∈ [.startTime, .endTime, .createdAt, .updatedAt], ∃ t, r.time? c = some t
  texts : ∀ c ∈ [.status, .notes], ∃ s, r.text? c = some s

/-- Why the row stands for no booking. Its status comes first. -/
def fault? (r : Row) : Option String :=
  match r.text? .status, r.text? .notes with
  | some status, some notes =>
    if status ∉ ["pending", "confirmed", "cancelled", "completed"] then
      some s!"Invalid booking status: {status}"
    else if 500 < notes.length then
      some s!"notes must be at most 500 characters (got {notes.length})"
    else none
  | _, _ => none

end Row
end Database

theorem Status.ofName?_eq_none_iff {s : String} :
    Status.ofName? s = none ↔ s ∉ ["pending", "confirmed", "cancelled", "completed"] := by
  unfold ofName?
  grind [all, name]

namespace Database.Row

variable {r : Row}

/-- Nothing but status and notes can be wrong. -/
theorem IsTyped.exists_bookingWith? (h : r.IsTyped) (status : Status) (notes : Notes) :
    ∃ b, r.bookingWith? status notes = some b := by
  obtain ⟨ids, times, -⟩ := h
  simp only [List.forall_mem_cons] at ids times
  obtain ⟨⟨id, hid⟩, ⟨business, hbusiness⟩, ⟨customer, hcustomer⟩, ⟨staff, hstaff⟩,
    ⟨service, hservice⟩, ⟨slot, hslot⟩, -⟩ := ids
  obtain ⟨⟨start, hstart⟩, ⟨finish, hfinish⟩, ⟨created, hcreated⟩, ⟨updated, hupdated⟩, -⟩ := times
  simp [bookingWith?, id?, *]

/-- A row is read as a booking, or its fault is told. -/
theorem IsTyped.booking_cases (h : r.IsTyped) :
    (r.fault? = none ∧ ∃ b, r.Tells b ∧ r.booking = some (.ok b)) ∨
      ∃ message, r.fault? = some message ∧ r.booking = some (.error ⟨message⟩) := by
  obtain ⟨s, hs⟩ := h.texts .status (by decide)
  obtain ⟨n, hn⟩ := h.texts .notes (by decide)
  simp only [fault?, booking_eq_ok_iff.symm, booking, hs, hn]
  cases hstatus : Status.ofName? s with
  | none =>
    rw [Status.ofName?_eq_none_iff] at hstatus
    exact .inr ⟨_, if_pos hstatus, rfl⟩
  | some status =>
    have hnamed : ¬ s ∉ ["pending", "confirmed", "cancelled", "completed"] := by
      rw [← Status.ofName?_eq_none_iff, hstatus]
      exact Option.some_ne_none status
    rw [if_neg hnamed]
    by_cases hlong : 500 < n.length
    · rw [if_pos hlong, Notes.ofString_eq_error hlong]
      exact .inr ⟨_, rfl, rfl⟩
    · rw [if_neg hlong]
      rw [Notes.ofString, dif_pos (Nat.not_lt.1 hlong)]
      obtain ⟨b, hb⟩ := h.exists_bookingWith? status ⟨n, Nat.not_lt.1 hlong⟩
      simp [hb]

theorem IsTyped.fault?_eq_none_iff (h : r.IsTyped) : r.fault? = none ↔
    (∃ status ∈ ["pending", "confirmed", "cancelled", "completed"], r.text? .status = some status) ∧
      ∃ notes, r.text? .notes = some notes ∧ notes.length ≤ 500 := by
  obtain ⟨s, hs⟩ := h.texts .status (by decide)
  obtain ⟨n, hn⟩ := h.texts .notes (by decide)
  simp only [fault?, hs, hn, Option.some_inj, exists_eq_left']
  grind

end Database.Row

/-- A list is read to its end, or up to the first row that has a fault. -/
theorem Database.bookings_of_typed {rows : List Row} (typed : ∀ r ∈ rows, r.IsTyped) :
    match rows.findSome? Row.fault? with
    | none => ∃ bs, List.Forall₂ Row.Tells rows bs ∧ bookings rows = some (.ok bs)
    | some message => bookings rows = some (.error ⟨message⟩) := by
  induction rows with
  | nil => exact ⟨[], .nil, rfl⟩
  | cons r rows ih =>
    rw [List.forall_mem_cons] at typed
    rw [List.findSome?_cons]
    obtain ⟨hfault, b, htells, hb⟩ | ⟨message, hfault, hb⟩ := typed.1.booking_cases
    · have hrest := ih typed.2
      rw [hfault]
      revert hrest
      cases rows.findSome? Row.fault? with
      | none =>
        rintro ⟨bs, hall, hbs⟩
        exact ⟨b :: bs, .cons htells hall, by simp [bookings, hb, hbs, Except.map]⟩
      | some message =>
        intro hbs
        simp [bookings, hb, hbs, Except.map]
    · simp [hfault, bookings, hb]

/-! ## Four ways to search -/

/-- The calls that the database answers with rows of bookings. -/
inductive Search where
  | byId (booking : BookingId)
  | ofCustomer (customer : CustomerId)
  | ofStaff (staff : StaffId)
  | ofBusiness
deriving DecidableEq, Repr

namespace Search

/-- What is read from the reply, a single booking as a list of one. -/
def read (business : BusinessId) : Search → Reply → Reading (List Booking)
  | byId booking, reply =>
    (Database.read (.find business booking) reply).map fun found => found.map Option.toList
  | ofCustomer customer, reply => Database.read (.ofCustomer business customer) reply
  | ofStaff staff, reply => Database.read (.ofStaff business staff) reply
  | ofBusiness, reply => Database.read (.ofBusiness business) reply

/-- The service that searches, with a single booking as a list of one. -/
def service (business : BusinessId) : Search → Service.Query (List Booking)
  | byId booking =>
    (Service.get business booking).andThen fun result => .done (result.map fun b => [b])
  | ofCustomer customer => Service.listOfCustomer business customer
  | ofStaff staff => Service.listOfStaff business staff
  | ofBusiness => Service.listOfBusiness business

/-- The rows that are looked at. -/
def seen : Search → List Row → List Row
  | byId _, rows => rows.take 1
  | _, rows => rows

/-- What the service makes of the answer that was read. -/
def result : Search → Except Failure (List Booking) → Except ServiceError (List Booking)
  | _, .error failure => .error (.bookingsFailed failure)
  | byId _, .ok [] => .error .bookingNotFound
  | _, .ok bs => .ok bs

variable {business : BusinessId} {rows : List Row}

/-- The service that asks once makes something of what is read from the reply. -/
theorem run_ask {α : Type} {c : Call} {next : Answer c → Service α}
    {made : Answer c → α} (told : (query c).isTold = true) {x : Exchange} {reply : Reply}
    {rest : List Reply} (hx : x.replies = reply :: rest)
    (hnext : ∀ answer, next answer = .done (made answer)) :
    (x.run (.ask c next)).1 = (Database.read c reply).map made := by
  simp only [Exchange.run, Exchange.call, told, if_true, hx]
  cases Database.read c reply with
  | none => rfl
  | some answer => simp [hnext, Exchange.run]

theorem run_service (search : Search) {x : Exchange} {reply : Reply} {rest : List Reply}
    (hx : x.replies = reply :: rest) : (x.run (search.service business)).1 =
      (search.read business reply).map search.result := by
  cases search with
  | byId booking =>
    rw [read, Option.map_map]
    refine run_ask rfl hx fun answer => ?_
    obtain _ | _ | b := answer <;> rfl
  | ofCustomer customer | ofStaff staff | ofBusiness =>
    refine run_ask rfl hx fun answer => ?_
    obtain _ | _ | b := answer <;> rfl

/-- A search reads the rows that it looks at as a list. -/
theorem read_rows (search : Search) (business : BusinessId) (rows : List Row) :
    search.read business (.rows rows) = bookings (search.seen rows) := by
  cases search with
  | byId booking =>
    cases rows with
    | nil => rfl
    | cons r rows =>
      simp only [read, Database.read, Reply.first, Reply.rows?, seen, List.take_succ_cons,
        List.take_zero, bookings]
      obtain _ | _ | b := r.booking <;> rfl
  | ofCustomer customer | ofStaff staff | ofBusiness => rfl

/-- Of the rows that are looked at, each stands for the booking that is read from it, if none has a
fault; and if one has, then all that is told are the words for the first of them. -/
theorem corrupt_rows_refused (search : Search) (business : BusinessId) {rows : List Row}
    (typed : ∀ r ∈ rows, r.IsTyped) :
    ((search.seen rows).findSome? Row.fault? = none ↔ ∀ r ∈ search.seen rows,
        (∃ status ∈ ["pending", "confirmed", "cancelled", "completed"],
          r.text? .status = some status) ∧
        ∃ notes, r.text? .notes = some notes ∧ notes.length ≤ 500) ∧
      ∀ (x : Exchange) (rest : List Reply), x.replies = .rows rows :: rest →
        match (search.seen rows).findSome? Row.fault? with
        | none => ∃ bs, List.Forall₂ Row.Tells (search.seen rows) bs ∧
            search.read business (.rows rows) = some (.ok bs) ∧
            (x.run (search.service business)).1 = some (search.result (.ok bs))
        | some message => search.read business (.rows rows) = some (.error ⟨message⟩) ∧
            (x.run (search.service business)).1 = some (.error (.bookingsFailed ⟨message⟩)) := by
  have htyped : ∀ r ∈ search.seen rows, r.IsTyped := by
    intro r hr
    refine typed r ?_
    cases search with
    | byId booking => exact List.mem_of_mem_take hr
    | ofCustomer customer | ofStaff staff | ofBusiness => exact hr
  refine ⟨?_, fun x rest hx => ?_⟩
  · rw [List.findSome?_eq_none_iff]
    exact forall₂_congr fun r hr => (htyped r hr).fault?_eq_none_iff
  · have hread := bookings_of_typed htyped
    rw [search.run_service hx, search.read_rows]
    revert hread
    cases (search.seen rows).findSome? Row.fault? with
    | none =>
      rintro ⟨bs, hall, hbs⟩
      exact ⟨bs, hall, hbs, by rw [hbs, Option.map_some]⟩
    | some message =>
      intro hbs
      exact ⟨hbs, by rw [hbs]; rfl⟩

end Search

/-! ## By example -/

/-- A row of the sample booking, with another status and other notes. -/
def Sample.rowWith (status notes : String) : Row :=
  Tuple.row (fun
    | .status => .text status
    | .notes => .text notes
    | c => Sample.booking.value c) bookingColumns

theorem Sample.isTyped_rowWith (status notes : String) : (rowWith status notes).IsTyped where
  ids := by
    simp only [List.forall_mem_cons]
    exact ⟨⟨_, rfl⟩, ⟨_, rfl⟩, ⟨_, rfl⟩, ⟨_, rfl⟩, ⟨_, rfl⟩, ⟨_, rfl⟩, nofun⟩
  times := by
    simp only [List.forall_mem_cons]
    exact ⟨⟨_, rfl⟩, ⟨_, rfl⟩, ⟨_, rfl⟩, ⟨_, rfl⟩, nofun⟩
  texts := by
    simp only [List.forall_mem_cons]
    exact ⟨⟨_, rfl⟩, ⟨_, rfl⟩, nofun⟩

/-- The second of three rows has an unknown status and notes that are too long. -/
theorem Search.corrupt_rows_refused_archived :
    let rows := [Sample.rowWith "pending" "", Sample.rowWith "archived" ("".pushn 'x' 501),
      Sample.rowWith "lost" ""]
    let business := Sample.booking.business
    (∀ r ∈ rows, r.IsTyped) ∧
      Search.ofBusiness.read business (.rows rows) =
        some (.error ⟨"Invalid booking status: archived"⟩) ∧
      ((Exchange.start [.rows rows]).run (Search.ofBusiness.service business)).1 =
        some (.error (.bookingsFailed ⟨"Invalid booking status: archived"⟩)) := by
  intro rows business
  have typed : ∀ r ∈ rows, r.IsTyped := by simp [rows, Sample.isTyped_rowWith]
  have hrefused := (Search.ofBusiness.corrupt_rows_refused business typed).2 (.start [.rows rows]) []
    rfl
  have hfault : (Search.ofBusiness.seen rows).findSome? Row.fault? =
      some "Invalid booking status: archived" := rfl
  rw [hfault] at hrefused
  exact ⟨typed, hrefused⟩

/-- A search by identifier looks at one row, whatever the others hold. -/
theorem Search.second_row_unseen :
    let rows := [Sample.rowWith "pending" "", Sample.rowWith "archived" ""]
    (∀ r ∈ rows, r.IsTyped) ∧
      (∃ r ∈ rows, r.fault? = some "Invalid booking status: archived") ∧
      (Search.byId Sample.booking.id).read Sample.booking.business (.rows rows) =
        some (.ok [Sample.booking]) := by
  intro rows
  refine ⟨by simp [rows, Sample.isTyped_rowWith], ⟨_, List.mem_cons_of_mem _ List.mem_cons_self, rfl⟩,
    rfl⟩

end BookingDesk
