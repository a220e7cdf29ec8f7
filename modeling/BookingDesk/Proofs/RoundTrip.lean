import BookingDesk.Booking.Json
import BookingDesk.Http.Body
import BookingDesk.Proofs.Books
import BookingDesk.Proofs.Filled
import BookingDesk.Proofs.Records
import BookingDesk.Proofs.TimeText

/-!
# Bookings and commands through JSON

Each field of a booking or command returns through its shape and no two fields share a name, so the
records return. A booking that was read from any document is one of those, and a booking as clients
see it holds all that the booking holds. Main statement: `json_round_trips`.
-/
namespace BookingDesk

open Json

/-! ## Fields -/

theorem Instant.returns_shape {t : Instant} (told : Time.isTold t.date = true) :
    Instant.shape.Returns t :=
  Shape.returns_spelled (Instant.ofString?_toString told)

theorem Instant.stable_shape : Instant.shape.Stable :=
  Shape.stable_spelled fun _ _ h => Instant.ofString?_toString (Instant.isTold_of_ofString? h)

theorem Id.stable_shape {e : Entity} : (Id.shape (e := e)).Stable :=
  Shape.stable_of_returns Id.returns_shape

theorem Status.closes_shape : Status.shape.Closes := fun s => Shape.closes_text s.name

/-! ## Records -/

namespace Booking

theorem returns_shape {b : Booking} (told : ∀ t ∈ b.times, Time.isTold t.date = true) :
    shape.Returns b := by
  simp only [times, List.forall_mem_cons] at told
  refine Shape.returns_record (by decide) ?_ rfl
  exact ⟨Id.returns_shape _, Id.returns_shape _, Id.returns_shape _, Id.returns_shape _,
    Id.returns_shape _, Id.returns_shape _, Instant.returns_shape told.1,
    Instant.returns_shape told.2.1, Status.returns_shape _, Notes.returns_shape _,
    Instant.returns_shape told.2.2.1, Instant.returns_shape told.2.2.2.1, trivial⟩

theorem closes_shape : shape.Closes := by
  refine Shape.closes_record ?_
  exact ⟨Shape.closes_spelled, Shape.closes_spelled, Shape.closes_spelled, Shape.closes_spelled,
    Shape.closes_spelled, Shape.closes_spelled, Shape.closes_spelled, Shape.closes_spelled,
    Status.closes_shape, Shape.closes_text.via, Shape.closes_spelled, Shape.closes_spelled, trivial⟩

theorem stable_shape : shape.Stable := by
  refine Shape.stable_record (by decide) ?_ fun _ => rfl
  have hstatus := Shape.stable_of_returns Status.returns_shape
  have hnotes := Shape.stable_of_returns Notes.returns_shape
  exact ⟨Id.stable_shape.required _, Id.stable_shape.required _, Id.stable_shape.required _,
    Id.stable_shape.required _, Id.stable_shape.required _, Id.stable_shape.required _,
    Instant.stable_shape.required _, Instant.stable_shape.required _, hstatus.required _,
    hnotes.required _, Instant.stable_shape.required _, Instant.stable_shape.required _, trivial⟩

end Booking

theorem CreateBooking.decode_encode {c : CreateBooking}
    (told : Time.isTold c.requestedAt.date = true) : shape.decode (shape.encode c) = .ok c := by
  refine Shape.Returns.decode_encode (Shape.returns_record (by decide) ?_ rfl)
    (Shape.closes_record ?_)
  · exact ⟨Id.returns_shape _, Id.returns_shape _, Id.returns_shape _, Id.returns_shape _,
      Id.returns_shape _, Shape.returns_text _, Instant.returns_shape told, trivial⟩
  · exact ⟨Shape.closes_spelled, Shape.closes_spelled, Shape.closes_spelled, Shape.closes_spelled,
      Shape.closes_spelled, Shape.closes_text, Shape.closes_spelled, trivial⟩

theorem UpdateBooking.decode_encode {c : UpdateBooking}
    (told : Time.isTold c.requestedAt.date = true) : shape.decode (shape.encode c) = .ok c := by
  refine Shape.Returns.decode_encode (Shape.returns_record (by decide) ?_ rfl)
    (Shape.closes_record ?_)
  · exact ⟨Id.returns_shape _, Id.returns_shape _,
      Shape.returns_optional fun s _ => ⟨Status.returns_shape s, s.name, rfl⟩,
      Shape.returns_optional fun s _ => ⟨Shape.returns_text s, s, rfl⟩,
      Instant.returns_shape told, trivial⟩
  · exact ⟨Shape.closes_spelled, Shape.closes_spelled, Status.closes_shape.optional,
      Shape.closes_text.optional, Shape.closes_spelled, trivial⟩

theorem ChangeStatus.decode_encode {c : ChangeStatus}
    (told : Time.isTold c.requestedAt.date = true) : shape.decode (shape.encode c) = .ok c := by
  refine Shape.Returns.decode_encode (Shape.returns_record (by decide) ?_ rfl)
    (Shape.closes_record ?_)
  · exact ⟨Id.returns_shape _, Id.returns_shape _, Instant.returns_shape told, trivial⟩
  · exact ⟨Shape.closes_spelled, Shape.closes_spelled, Shape.closes_spelled, trivial⟩

/-! ## Bookings as clients see them -/

namespace Http.BookingView

/-- The booking that is seen, if the status is one and the notes are not too long. -/
def booking? (v : BookingView) : Option Booking := do
  let status ← Status.ofName? v.status
  let notes ← (Notes.ofString v.notes).toOption
  return {
    id := v.booking, business := v.business, customer := v.customer, staff := v.staff
    service := v.service, slot := v.slot, start := v.start, finish := v.finish, status, notes
    createdAt := v.createdAt, updatedAt := v.updatedAt }

@[simp] theorem booking?_ofBooking (b : Booking) : (ofBooking b).booking? = some b := by
  simp [booking?, ofBooking, Except.toOption]

theorem closes_shape : shape.Closes := by
  refine Shape.closes_record ?_
  exact ⟨Shape.closes_spelled, Shape.closes_spelled, Shape.closes_spelled, Shape.closes_spelled,
    Shape.closes_spelled, Shape.closes_spelled, Shape.closes_spelled, Shape.closes_spelled,
    Shape.closes_text, Shape.closes_text, Shape.closes_spelled, Shape.closes_spelled, trivial⟩

theorem decode_encode {b : Booking} (told : ∀ t ∈ b.times, Time.isTold t.date = true) :
    shape.decode (shape.encode (ofBooking b)) = .ok (ofBooking b) := by
  simp only [Booking.times, List.forall_mem_cons] at told
  refine Shape.Returns.decode_encode (Shape.returns_record (by decide) ?_ rfl) closes_shape
  exact ⟨Id.returns_shape _, Id.returns_shape _, Id.returns_shape _, Id.returns_shape _,
    Id.returns_shape _, Id.returns_shape _, Instant.returns_shape told.1,
    Instant.returns_shape told.2.1, Shape.returns_text _, Shape.returns_text _,
    Instant.returns_shape told.2.2.1, Instant.returns_shape told.2.2.2.1, trivial⟩

end Http.BookingView

/-! ## The main statement -/

open Http in
/-- Bookings and commands whose times can be told, as all times in the years 0 to 9999 can
(`Time.isTold_of_year`), are read from what was written of them. Whatever document a booking was
read from, its notes are short enough and it is read again from what is written of it. What clients
see of a booking, they read as a record that still holds the whole booking. -/
theorem json_round_trips :
    (∀ b : Booking, (∀ t ∈ b.times, Time.isTold t.date = true) →
      Booking.shape.decode (Booking.shape.encode b) = .ok b) ∧
    (∀ c : CreateBooking, Time.isTold c.requestedAt.date = true →
      CreateBooking.shape.decode (CreateBooking.shape.encode c) = .ok c) ∧
    (∀ c : UpdateBooking, Time.isTold c.requestedAt.date = true →
      UpdateBooking.shape.decode (UpdateBooking.shape.encode c) = .ok c) ∧
    (∀ c : ChangeStatus, Time.isTold c.requestedAt.date = true →
      ChangeStatus.shape.decode (ChangeStatus.shape.encode c) = .ok c) ∧
    (∀ document b, Booking.shape.decode document = .ok b →
      b.notes.text.length ≤ 500 ∧ Booking.shape.decode (Booking.shape.encode b) = .ok b) ∧
    (∀ b : Booking, (∀ t ∈ b.times, Time.isTold t.date = true) →
      ∃ v, BookingView.shape.decode (BookingView.shape.encode (.ofBooking b)) = .ok v ∧
        Status.ofName? v.status = some b.status ∧ Notes.ofString v.notes = .ok b.notes ∧
        v.booking? = some b) := by
  refine ⟨fun b told => ?_, fun c => CreateBooking.decode_encode,
    fun c => UpdateBooking.decode_encode, fun c => ChangeStatus.decode_encode,
    fun document b hread => ⟨b.notes.bounded, ?_⟩, fun b told => ?_⟩
  · exact (Booking.returns_shape told).decode_encode Booking.closes_shape
  · exact (Booking.stable_shape.of_decode hread).decode_encode Booking.closes_shape
  · exact ⟨.ofBooking b, BookingView.decode_encode told, Status.ofName?_name _,
      Notes.ofString_text _, BookingView.booking?_ofBooking b⟩

namespace Sample

/-- A booking with a line break in its notes, changed in the middle of a second. -/
def noted : Booking :=
  { booking with
    notes := ⟨"ask for \"Ann\"\n", by decide⟩
    updatedAt := ⟨1750000000, 123456789, by decide, by decide⟩ }

/-- The command that changes the status, but not the notes, of this booking. -/
def confirmNoted : UpdateBooking :=
  ⟨noted.business, noted.id, some .confirmed, none, noted.updatedAt⟩

def cancelNoted : ChangeStatus := ⟨noted.business, noted.id, noted.updatedAt⟩

end Sample

open Sample in
theorem json_round_trips_noted :
    Booking.shape.decode (Booking.shape.encode noted) = .ok noted ∧
    CreateBooking.shape.decode (CreateBooking.shape.encode book) = .ok book ∧
    UpdateBooking.shape.decode (UpdateBooking.shape.encode confirmNoted) = .ok confirmNoted ∧
    ChangeStatus.shape.decode (ChangeStatus.shape.encode cancelNoted) = .ok cancelNoted ∧
    noted.notes.text.length ≤ 500 ∧
    ∃ v, Http.BookingView.shape.decode (Http.BookingView.shape.encode (.ofBooking noted)) = .ok v ∧
      v.booking? = some noted := by
  obtain ⟨hbooking, hcreate, hupdate, hchange, hread, hview⟩ := json_round_trips
  have years : ∀ t ∈ noted.times, 0 ≤ t.date.year ∧ t.date.year ≤ 9999 := by decide
  have told := fun t ht => Time.isTold_of_year (years t ht)
  have hreturned := hbooking noted told
  obtain ⟨v, hv, -, -, hseen⟩ := hview noted told
  exact ⟨hreturned, hcreate book (by decide), hupdate confirmNoted (by decide),
    hchange cancelNoted (by decide), (hread _ noted hreturned).1, v, hv, hseen⟩

end BookingDesk
