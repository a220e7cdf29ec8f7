import BookingDesk.Proofs.StoresAgree

/-!
# Bookings as rows

A booking is sent to the database as twelve values by number and comes back as a row by name, where
two values of one kind could trade places unnoticed. Main statements: reading a row is exact
(`Row.booking_eq_ok_iff`), and a booking comes back as it was sent, also after an update has set
what is new in it (`Booking.survives_rows`).
-/
namespace BookingDesk

open Database

/-! ## Whole microseconds -/

/-- An instant is a number of whole microseconds unless it has a part below, or lies within a leap
second, which has no number. -/
theorem Instant.toMicroseconds_eq_self_iff {t : Instant} :
    t.toMicroseconds = t ↔ 1000 ∣ t.nano ∧ t.nano < nanosPerSecond := by
  constructor
  · intro h
    rw [← h]
    simp only [toMicroseconds, ofMicroseconds, nanosPerSecond]
    omega
  · rintro ⟨hdvd, hlt⟩
    have hnumber : t = ofMicroseconds ((t.second - turnOfCentury) * 1000000 + t.nano / 1000) := by
      obtain ⟨second, nano, _, _⟩ := t
      simp only [ofMicroseconds, nanosPerSecond, mk.injEq] at hdvd hlt ⊢
      omega
    rw [hnumber, toMicroseconds, microseconds_ofMicroseconds]

namespace Booking

variable {b : Booking}

/-- The booking as the database keeps it: its times cut to microseconds. -/
def inMicroseconds (b : Booking) : Booking :=
  { b with
    start := b.start.toMicroseconds
    finish := b.finish.toMicroseconds
    createdAt := b.createdAt.toMicroseconds
    updatedAt := b.updatedAt.toMicroseconds }

theorem inMicroseconds_eq_self_iff :
    b.inMicroseconds = b ↔ ∀ t ∈ b.times, 1000 ∣ t.nano ∧ t.nano < nanosPerSecond := by
  obtain ⟨⟩ := b
  simp [inMicroseconds, times, Instant.toMicroseconds_eq_self_iff]

/-! ## What a row says -/

/-- What a column says of the booking. -/
def value (b : Booking) : Column → Value
  | .bookingId => ofId b.id
  | .businessId => ofId b.business
  | .customerId => ofId b.customer
  | .staffId => ofId b.staff
  | .serviceId => ofId b.service
  | .slotId => ofId b.slot
  | .startTime => .time b.start
  | .endTime => .time b.finish
  | .status => ofStatus b.status
  | .notes => .text b.notes.text
  | .createdAt => .time b.createdAt
  | .updatedAt => .time b.updatedAt
  | .isReserved | .bookingCount | .count | .present => .null

end Booking

theorem Status.ofName?_eq_some_iff {s : String} {status : Status} :
    Status.ofName? s = some status ↔ s = status.name := by
  constructor
  · intro h
    have hname := List.find?_some h
    exact (of_decide_eq_true hname).symm
  · rintro rfl
    exact Status.ofName?_name status

theorem Notes.ofString_eq_ok_iff {s : String} {notes : Notes} :
    Notes.ofString s = .ok notes ↔ s = notes.text := by
  constructor
  · intro h
    exact (Notes.text_of_ofString h).symm
  · rintro rfl
    exact Notes.ofString_text notes

namespace Database

namespace Row

variable {r : Row} {c : Column} {b : Booking}

/-- Every column of the row has what it says of the booking. -/
def Tells (r : Row) (b : Booking) : Prop := ∀ c ∈ bookingColumns, r.lookup c = some (b.value c)

theorem uuid?_eq_some_iff {u : Uuid} : r.uuid? c = some u ↔ r.lookup c = some (.uuid u) := by
  unfold uuid?
  split <;> simp_all

theorem id?_eq_some_iff {e : Entity} {i : Id e} : r.id? c = some i ↔ r.lookup c = some (ofId i) := by
  obtain ⟨u⟩ := i
  simp [id?, ofId, ← uuid?_eq_some_iff]

theorem text?_eq_some_iff {s : String} : r.text? c = some s ↔ r.lookup c = some (.text s) := by
  unfold text?
  split <;> simp_all

theorem time?_eq_some_iff {t : Instant} : r.time? c = some t ↔ r.lookup c = some (.time t) := by
  unfold time?
  split <;> simp_all

theorem tells_iff : r.Tells b ↔
    r.text? .status = some b.status.name ∧ r.text? .notes = some b.notes.text ∧
      r.bookingWith? b.status b.notes = some b := by
  obtain ⟨⟩ := b
  simp [Tells, bookingColumns, Booking.value, bookingWith?, Option.bind_eq_some_iff,
    id?_eq_some_iff, time?_eq_some_iff, text?_eq_some_iff, ofStatus]
  grind

theorem bookingWith?_given {status : Status} {notes : Notes}
    (h : r.bookingWith? status notes = some b) : b.status = status ∧ b.notes = notes := by
  simp only [bookingWith?, Option.bind_eq_bind, Option.bind_eq_some_iff, Option.pure_def,
    Option.some_inj] at h
  grind

/-- A row is read as a booking just if it says that booking. -/
theorem booking_eq_ok_iff : r.booking = some (.ok b) ↔ r.Tells b := by
  rw [tells_iff]
  constructor
  · intro h
    unfold booking at h
    cases hs : r.text? .status with
    | none => simp [hs] at h
    | some s =>
      cases hstatus : Status.ofName? s with
      | none => simp [hs, hstatus] at h
      | some status =>
        cases hn : r.text? .notes with
        | none => simp [hs, hstatus, hn] at h
        | some n =>
          cases hnotes : Notes.ofString n with
          | error e => simp [hs, hstatus, hn, hnotes] at h
          | ok notes =>
            simp only [hs, hstatus, hn, hnotes, Option.map_eq_some_iff, Except.ok.injEq,
              exists_eq_right] at h
            obtain ⟨rfl, rfl⟩ := bookingWith?_given h
            rw [Status.ofName?_eq_some_iff.1 hstatus, Notes.ofString_eq_ok_iff.1 hnotes]
            exact ⟨rfl, rfl, h⟩
  · rintro ⟨hstatus, hnotes, hrest⟩
    simp [booking, hstatus, hnotes, hrest]

end Row

namespace Tuple

variable {r : Tuple} {columns : List Column} {row : Row} {c : Column}

/-- It does not matter in which order the columns come. -/
theorem lookup_of_perm (different : columns.Nodup) (hrow : row.Perm (r.row columns))
    (hc : c ∈ columns) : row.lookup c = some (r c) := by
  have hkeys : (row.map Prod.fst).Nodup := by
    have hcolumns : (r.row columns).map Prod.fst = columns := by
      simp [Tuple.row, Function.comp_def]
    rw [(hrow.map Prod.fst).nodup_iff, hcolumns]
    exact different
  have hmem : (c, r c) ∈ row := hrow.mem_iff.2 (List.mem_map.2 ⟨c, hc, rfl⟩)
  clear hrow
  induction row with
  | nil => cases hmem
  | cons p row ih => grind

end Tuple

theorem Condition.holds_equals {r : Tuple} {c : Column} {number : Nat} {params : List Value}
    {v : Value} (hv : param params number = v) (given : v ≠ .null) :
    (Condition.equals c number).holds params r = true ↔ r c = v := by
  simp only [holds, hv, Bool.and_eq_true, decide_eq_true_eq, and_iff_right_iff_imp]
  rintro rfl
  exact given

end Database

/-! ## There and back -/

namespace Booking

variable {b : Booking} {r : Tuple} {row : Row}

/-- A tuple with the values of a booking is read as the booking, in any order of its columns. -/
theorem booking_of_perm (values : ∀ c ∈ bookingColumns, r c = b.value c)
    (hrow : row.Perm (r.row bookingColumns)) : row.booking = some (.ok b) := by
  refine Row.booking_eq_ok_iff.2 fun c hc => ?_
  rw [Tuple.lookup_of_perm (by decide) hrow hc, values c hc]

/-- What an update sets is read from the row, and all else is as before. -/
theorem value_assign_newVersion (values : ∀ c ∈ bookingColumns, r c = b.value c) (new : Booking)
    (expected : Status) (now : Instant) :
    ∀ c ∈ bookingColumns, r.assign newVersion (newVersionValues new expected) now c =
      { b with
        status := new.status
        notes := new.notes
        updatedAt := new.updatedAt.toMicroseconds }.value c := by
  intro c hc
  rw [assign_newVersion]
  cases c
  case status | notes | updatedAt => rfl
  all_goals exact values _ hc

/-- The rows that an update concerns. -/
theorem hold_newVersion (new : Booking) (expected : Status) (r : Tuple) :
    (ofBusinessAnd .bookingId ++ [.equals .status 6] : Conditions).hold
        (newVersionValues new expected) r = true ↔
      r .businessId = ofId new.business ∧ r .bookingId = ofId new.id ∧
        r .status = .text expected.name := by
  have hbusiness : (Condition.equals .businessId 1).holds (newVersionValues new expected) r = true ↔
      r .businessId = ofId new.business := Condition.holds_equals rfl nofun
  have hid : (Condition.equals .bookingId 2).holds (newVersionValues new expected) r = true ↔
      r .bookingId = ofId new.id := Condition.holds_equals rfl nofun
  have hstatus : (Condition.equals .status 6).holds (newVersionValues new expected) r = true ↔
      r .status = .text expected.name := Condition.holds_equals rfl nofun
  simp only [Conditions.hold, ofBusinessAnd, List.cons_append, List.nil_append, List.all_cons,
    List.all_nil, Bool.and_true, Bool.and_eq_true, hbusiness, hid, hstatus]

/-- A booking comes back from the row that stores it as it was sent, its times cut to microseconds;
and from a row that an update has changed it comes back with the status, the notes and the time of
the change that were sent, and all else as before. The update concerns just the row of the booking
that it names, and only while this has the expected status. -/
theorem survives_rows (b new : Booking) (expected : Status) (now : Instant) :
    (∃ columns, (query (.insert b)).statement = .insert .bookings columns ∧
        (columns.map Column.name).Nodup ∧ columns.length = (query (.insert b)).params.length ∧
        ∀ row : Row, row.Perm (columns.zip (query (.insert b)).params) →
          row.booking = some (.ok b.inMicroseconds)) ∧
      (b.inMicroseconds = b ↔ ∀ t ∈ b.times, 1000 ∣ t.nano ∧ t.nano < nanosPerSecond) ∧
      ∃ assignments conditions,
        (query (.replace new expected)).statement = .update .bookings assignments conditions ∧
        (∀ r : Tuple, (∀ c ∈ bookingColumns, r c = b.value c) → ∀ row : Row,
          row.Perm ((r.assign assignments (query (.replace new expected)).params now).row
            bookingColumns) →
          row.booking = some (.ok { b with
            status := new.status
            notes := new.notes
            updatedAt := new.updatedAt.toMicroseconds })) ∧
        ∀ r : Tuple, conditions.hold (query (.replace new expected)).params r = true ↔
          r .businessId = ofId new.business ∧ r .bookingId = ofId new.id ∧
            r .status = .text expected.name := by
  refine ⟨⟨bookingColumns, rfl, by decide, rfl, fun row hrow => ?_⟩, inMicroseconds_eq_self_iff,
    newVersion, _, query_replace new expected ▸ rfl, fun r values row hrow => ?_,
    hold_newVersion new expected⟩
  · exact booking_of_perm (fun _ _ => rfl) hrow
  · exact booking_of_perm (value_assign_newVersion values new expected now) hrow

/-- A booking is stored and then confirmed; both times the columns come backwards. -/
theorem survives_rows_confirmed :
    let confirmed := { Sample.booking with status := .confirmed, updatedAt := .ofSecond 60 }
    let update := query (.replace confirmed .pending)
    let stored : Row := bookingColumns.zip (query (.insert Sample.booking)).params
    Row.booking stored.reverse = some (.ok Sample.booking) ∧
      ∃ assignments conditions, update.statement = .update .bookings assignments conditions ∧
        conditions.hold update.params Sample.booking.value = true ∧
        Row.booking ((Tuple.assign Sample.booking.value assignments update.params default).row
          bookingColumns).reverse = some (.ok confirmed) := by
  intro confirmed update stored
  obtain ⟨⟨columns, hstatement, -, -, hstored⟩, hwhole, assignments, conditions, hupdate, hafter,
    hconditions⟩ := survives_rows Sample.booking confirmed .pending default
  cases hstatement
  have hsample : Sample.booking.inMicroseconds = Sample.booking := hwhole.2 (by decide)
  have hconfirmed : confirmed.updatedAt.toMicroseconds = confirmed.updatedAt :=
    Instant.toMicroseconds_eq_self_iff.2 (by decide)
  rw [hconfirmed] at hafter
  refine ⟨hsample ▸ hstored _ (List.reverse_perm _), assignments, conditions, hupdate,
    (hconditions _).2 ⟨rfl, rfl, rfl⟩, ?_⟩
  exact hafter _ (fun _ _ => rfl) _ (List.reverse_perm _)

end Booking
end BookingDesk
