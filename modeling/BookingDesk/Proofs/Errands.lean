import BookingDesk.Http.Respond
import BookingDesk.Proofs.Stage

/-!
# Errands

All that callers come with: requests to create or change a booking, questions about bookings, and
what comes over HTTP, which is one of the others or is answered at once. What a caller is told is a
`Receipt`. The course of work whose result is only put in other words is the course of the work
(`Service.course_map`).
-/
namespace BookingDesk

variable {α β : Type}

/-! ## Results in other words -/

def Course.map (f : α → β) : Course α → Course β
  | ended a => ended (f a)
  | calling c next => calling c fun answer => (next answer).map f

def Service.map (f : α → β) (s : Service α) : Service β := s.andThen fun a => .done (f a)

@[simp] theorem Course.map_id (c : Course α) : c.map id = c := by
  induction c with
  | ended a => rfl
  | calling call next ih =>
    simp only [map]
    exact congrArg _ (funext ih)

@[simp] theorem Course.map_map {γ : Type} (f : α → β) (g : β → γ) (c : Course α) :
    (c.map f).map g = c.map (g ∘ f) := by
  induction c with
  | ended a => rfl
  | calling call next ih =>
    simp only [map]
    exact congrArg _ (funext ih)

theorem Course.map_eq_ended_iff {f : α → β} {c : Course α} {b : β} :
    c.map f = .ended b ↔ ∃ a, c = .ended a ∧ f a = b := by
  cases c <;> simp [map]

theorem Task.course_map {γ : Type} (f : α → β) (task : Task γ) (after : γ → Course α) :
    (task.course after).map f = task.course fun c => (after c).map f := by
  induction task with
  | done c => rfl
  | ask c next ih =>
    simp only [course, Course.map]
    exact congrArg _ (funext ih)
  | note n rest ih => exact ih

/-- Work after which no call is made has the course of what comes before it. -/
theorem Service.course_andThen (s : Service α) {k : α → Service β} {f : α → β}
    (hk : ∀ a, (k a).course = .ended (f a)) : (s.andThen k).course = s.course.map f := by
  induction s with
  | done a => exact hk a
  | ask c next ih =>
    simp only [andThen, course, Course.map]
    exact congrArg _ (funext ih)
  | note n rest ih => exact ih
  | handOver task next ih =>
    simp only [andThen, course, Task.course_map]
    exact congrArg (fun after => task.course after) (funext fun outcome => ih (some outcome))

theorem Service.course_map (f : α → β) (s : Service α) : (s.map f).course = s.course.map f :=
  s.course_andThen fun _ => rfl

/-- The numbers that are still asked for come after the one that is asked for first. -/
theorem Service.course_countEach_cons (business : BusinessId) (s : Status) (rest : List Status) :
    (Service.countEach business (s :: rest)).course =
      .calling (.countStatus business s) fun
        | .error f => .ended (.error (.bookingsFailed f))
        | .ok n => (Service.countEach business rest).course.map (Except.map ((s, n) :: ·)) := by
  simp only [Service.countEach, Service.course]
  refine congrArg _ (funext fun answer => ?_)
  rcases answer with f | n
  · rfl
  · exact Service.course_andThen _ fun a => by cases a <;> rfl

theorem Course.turn_map (f : α → β) (reply : Collaborators) (w : World) (c : Course α) :
    (c.map f).turn reply w = ((c.turn reply w).1.map f, (c.turn reply w).2) := by
  cases c <;> rfl

theorem Course.result?_map (f : α → β) (c : Course α) : (c.map f).result? = c.result?.map f := by
  cases c <;> rfl

theorem Course.call?_map (f : α → β) (c : Course α) : (c.map f).call? = c.call? := by
  cases c <;> rfl

theorem Course.alone_map (f : α → β) (c : Course α) (w : World) :
    (c.map f).alone w = (f (c.alone w).1, (c.alone w).2) := by
  induction c generalizing w with
  | ended a => rfl
  | calling call next ih => exact ih _ _

/-! ## What callers come with -/

/-- What can be asked about bookings. -/
inductive Question where
  | booking (business : BusinessId) (booking : BookingId)
  | ofCustomer (business : BusinessId) (customer : CustomerId)
  | ofStaff (business : BusinessId) (staff : StaffId)
  | ofBusiness (business : BusinessId)
  | counts (business : BusinessId)
deriving DecidableEq, Repr

/-- What a caller is told in the end. -/
inductive Receipt where
  | booking (outcome : Outcome)
  | bookings (outcome : Except ServiceError (List Booking))
  | counts (outcome : Except ServiceError (List (Status × Nat)))
  | response (r : Http.Response)

def Question.service : Question → Service Receipt
  | booking business id => (Service.get business id).map .booking
  | ofCustomer business customer => (Service.listOfCustomer business customer).map .bookings
  | ofStaff business staff => (Service.listOfStaff business staff).map .bookings
  | ofBusiness business => (Service.listOfBusiness business).map .bookings
  | counts business => (Service.count business).map .counts

inductive Errand where
  | request (r : Request)
  | question (q : Question)
  /-- With the identifier that is drawn for a booking, and the time on the clock. -/
  | http (id : BookingId) (now : Instant) (r : Http.Request)

namespace Errand

def service : Errand → Service Receipt
  | request r => r.service.map .booking
  | question q => q.service
  | http id now r => (Http.respond id now r).map .response

/-- Errands with which callers have come in and for which no call has been made yet. -/
def courses (errands : List Errand) (w : World) : Interleaving (Course Receipt) :=
  ⟨w, errands.map fun e => e.service.course⟩

end Errand
end BookingDesk
