import BookingDesk.Proofs.Errands

/-!
# Work in two parts

Work has two parts. In the first the caller is alone and only asks; in the second a task does all
that is written, and nobody makes a call after it (`Service.HandsOver`). Every errand is a request
or only asks, in other words (`Service.Serves`). Main statements: so it is with all that comes over
HTTP (`Http.respond_serves`), and hence with every errand (`Errand.serves`).
-/
namespace BookingDesk

variable {α β : Type}

/-- Whatever the answers are, the task makes at most so many calls. -/
def Task.CallsAtMost : Task α → Nat → Prop
  | .done _, _ => True
  | .note _ rest, n => rest.CallsAtMost n
  | .ask _ next, n => ∃ m, n = m + 1 ∧ ∀ answer, (next answer).CallsAtMost m

namespace Service

/-- No call is made. -/
def Quiet : Service α → Prop
  | done _ => True
  | note _ rest => rest.Quiet
  | ask _ _ | handOver _ _ => False

/-- The caller asks, and nothing is written. -/
def Asks : Service α → Prop
  | done _ => True
  | note _ rest => rest.Asks
  | ask c next => c.isWrite = false ∧ ∀ answer, (next answer).Asks
  | handOver _ _ => False

/-- The caller only asks, and then hands over one task, after which no call is made. The task makes
no more calls than there are turns for it in `Timeline.turnBound`. -/
def HandsOver : Service α → Prop
  | done _ => True
  | note _ rest => rest.HandsOver
  | ask c next => c.isWrite = false ∧ ∀ answer, (next answer).HandsOver
  | handOver task next => task.CallsAtMost 3 ∧ ∀ outcome, (next outcome).Quiet

theorem Quiet.asks {s : Service α} (h : s.Quiet) : s.Asks := by
  induction s with
  | done a => trivial
  | note n rest ih => exact ih h
  | ask c next => cases h
  | handOver task next => cases h

theorem Asks.handsOver {s : Service α} (h : s.Asks) : s.HandsOver := by
  induction s with
  | done a => trivial
  | note n rest ih => exact ih h
  | ask c next ih => exact ⟨h.1, fun answer => ih answer (h.2 answer)⟩
  | handOver task next => cases h

theorem Quiet.exists_course_eq {s : Service α} (h : s.Quiet) : ∃ a, s.course = .ended a := by
  induction s with
  | done a => exact ⟨a, rfl⟩
  | note n rest ih => exact ih h
  | ask c next => cases h
  | handOver task next => cases h

section

variable {s : Service α} {k : α → Service β} (quiet : ∀ a, (k a).Quiet)
include quiet

theorem Quiet.andThen (h : s.Quiet) : (s.andThen k).Quiet := by
  induction s with
  | done a => exact quiet a
  | note n rest ih => exact ih h
  | ask c next => cases h
  | handOver task next => cases h

theorem Asks.andThen (h : s.Asks) : (s.andThen k).Asks := by
  induction s with
  | done a => exact (quiet a).asks
  | note n rest ih => exact ih h
  | ask c next ih => exact ⟨h.1, fun answer => ih answer (h.2 answer)⟩
  | handOver task next => cases h

theorem HandsOver.andThen (h : s.HandsOver) : (s.andThen k).HandsOver := by
  induction s with
  | done a => exact (quiet a).asks.handsOver
  | note n rest ih => exact ih h
  | ask c next ih => exact ⟨h.1, fun answer => ih answer (h.2 answer)⟩
  | handOver task next => exact ⟨h.1, fun outcome => (h.2 outcome).andThen quiet⟩

end

/-! ## Requests -/

theorem callsAtMost_takeBack (b : Booking) (e : ServiceError) :
    (takeBack b e).CallsAtMost 1 := by
  refine ⟨0, rfl, fun answer => ?_⟩
  rcases answer with f | _ <;> trivial

theorem callsAtMost_establish (b : Booking) : (establish b).CallsAtMost 3 := by
  refine ⟨2, rfl, fun inserted => ?_⟩
  rcases inserted with f | _
  · trivial
  refine ⟨1, rfl, fun reserved => ?_⟩
  rcases reserved with f | _ | _
  · exact callsAtMost_takeBack b _
  · exact callsAtMost_takeBack b _
  refine ⟨0, rfl, fun counted => ?_⟩
  rcases counted with f | _ <;> trivial

theorem callsAtMost_commit (b : Booking) (before : Status) : (commit b before).CallsAtMost 3 := by
  refine ⟨2, rfl, fun written => ?_⟩
  rcases written with f | _ | _
  · trivial
  · trivial
  · show Task.CallsAtMost (if _ then _ else _) 2
    split
    · refine ⟨1, rfl, fun released => ?_⟩
      rcases released with f | _ <;> trivial
    · trivial

theorem handsOver_await {task : Task Outcome} {next : Booking → Service Outcome}
    (htask : task.CallsAtMost 3) (hnext : ∀ b, (next b).Quiet) : (await task next).HandsOver := by
  refine ⟨htask, fun outcome => ?_⟩
  rcases outcome with _ | e | b
  · trivial
  · trivial
  · exact hnext b

theorem handsOver_create (id : BookingId) (c : CreateBooking) : (create id c).HandsOver := by
  rw [create]
  cases c.validate with
  | error e => trivial
  | ok notes =>
    refine ⟨rfl, fun available => ?_⟩
    rcases available with f | _ | _
    · trivial
    · trivial
    refine ⟨rfl, fun customer => ?_⟩
    rcases customer with f | _ | _
    · trivial
    · trivial
    refine ⟨rfl, fun staff => ?_⟩
    rcases staff with f | _ | _
    · trivial
    · trivial
    refine ⟨rfl, fun slot => ?_⟩
    rcases slot with f | _ | slot
    · trivial
    · trivial
    dsimp only
    split
    · trivial
    · exact handsOver_await (callsAtMost_establish _) fun _ => trivial

theorem handsOver_change (business : BusinessId) (booking : BookingId)
    (f : Booking → Except ForbiddenChange Booking) (notice : Status → Booking → Notice) :
    (change business booking f notice).HandsOver := by
  refine ⟨rfl, fun loaded => ?_⟩
  rcases loaded with failure | _ | current
  · trivial
  · trivial
  dsimp only
  split
  · trivial
  · exact handsOver_await (callsAtMost_commit _ _) fun _ => trivial

end Service

theorem Request.handsOver (r : Request) : r.service.HandsOver := by
  cases r with
  | create id c => exact Service.handsOver_create id c
  | update c =>
    rw [service, Service.update]
    cases c.validate with
    | error e => trivial
    | ok notes => exact Service.handsOver_change ..
  | confirm c | cancel c | complete c => exact Service.handsOver_change ..

/-! ## Questions -/

namespace Service

theorem asks_whole {x : Except Failure α} : (whole x).Asks := by
  cases x <;> trivial

theorem asks_listOfCustomer (business : BusinessId) (customer : CustomerId) :
    (listOfCustomer business customer).Asks :=
  ⟨rfl, fun _ => asks_whole⟩

theorem asks_listOfStaff (business : BusinessId) (staff : StaffId) :
    (listOfStaff business staff).Asks :=
  ⟨rfl, fun _ => asks_whole⟩

theorem asks_listOfBusiness (business : BusinessId) : (listOfBusiness business).Asks :=
  ⟨rfl, fun _ => asks_whole⟩

theorem asks_get (business : BusinessId) (id : BookingId) : (get business id).Asks := by
  refine ⟨rfl, fun loaded => ?_⟩
  rcases loaded with f | _ | b <;> trivial

theorem asks_countEach (business : BusinessId) (statuses : List Status) :
    (countEach business statuses).Asks := by
  induction statuses with
  | nil => trivial
  | cons s rest ih =>
    refine ⟨rfl, fun answer => ?_⟩
    rcases answer with f | n
    · trivial
    · refine Asks.andThen (fun counts => ?_) ih
      cases counts <;> trivial

end Service

theorem Question.asks (q : Question) : q.service.Asks := by
  cases q with
  | booking business id => exact (Service.asks_get business id).andThen fun _ => trivial
  | ofCustomer business customer =>
    exact (Service.asks_listOfCustomer business customer).andThen fun _ => trivial
  | ofStaff business staff =>
    exact (Service.asks_listOfStaff business staff).andThen fun _ => trivial
  | ofBusiness business => exact (Service.asks_listOfBusiness business).andThen fun _ => trivial
  | counts business => exact (Service.asks_countEach business _).andThen fun _ => trivial

/-! ## Errands -/

/-- The work of a request or of somebody who only asks, with the outcome in other words. A request
to make a booking is one of these orders. -/
inductive Service.Serves (orders : BookingId → CreateBooking → Prop) : Service β → Prop
  | request (r : Request) {k : Outcome → Service β}
      (ordered : ∀ id c, r = .create id c → orders id c) (quiet : ∀ outcome, (k outcome).Quiet) :
      Serves orders (r.service.andThen k)
  | asks {s : Service β} (asks : s.Asks) : Serves orders s

namespace Service.Serves

variable {orders : BookingId → CreateBooking → Prop} {s : Service α}

theorem handsOver (h : s.Serves orders) : s.HandsOver := by
  cases h with
  | request r _ quiet => exact r.handsOver.andThen quiet
  | asks asks => exact asks.handsOver

theorem andThen (h : s.Serves orders) {k : α → Service β} (quiet : ∀ a, (k a).Quiet) :
    (s.andThen k).Serves orders := by
  cases h with
  | request r horders hquiet =>
    rw [andThen_assoc]
    exact .request r horders fun outcome => (hquiet outcome).andThen quiet
  | asks asks => exact .asks (asks.andThen quiet)

end Service.Serves

namespace Http

variable {business : BusinessId} {fresh : BookingId} {now : Instant} {r : Request}

/-- The request asks to make a booking of the business that it names. -/
def Request.Orders (r : Request) (now : Instant) (c : CreateBooking) : Prop :=
  ∃ business body, r.tenant? = some business ∧ r.json CreateRequest.shape = .ok body ∧
    c = body.command business now

theorem quiet_answerError (e : ServiceError) : (answerError e).Quiet := by
  rw [answerError]
  split <;> trivial

theorem answer_serves {orders : BookingId → CreateBooking → Prop} {work : Service.Query α}
    (h : work.Serves orders) (present : α → Response) : (answer work present).Serves orders := by
  refine h.andThen fun outcome => ?_
  cases outcome with
  | error e => exact quiet_answerError e
  | ok a => trivial

theorem given_serves {orders : BookingId → CreateBooking → Prop} {found : Except Response α}
    {next : α → Service Response} (h : ∀ a, found = .ok a → (next a).Serves orders) :
    (given found next).Serves orders := by
  cases found with
  | error response => exact .asks trivial
  | ok a => exact h a rfl

theorem service_serves {orders : BookingId → CreateBooking → Prop} (r : BookingDesk.Request)
    (horders : ∀ id c, r = .create id c → orders id c) : r.service.Serves orders := by
  rw [← Service.andThen_done r.service]
  exact .request r horders fun _ => trivial

/-- A request to change a booking makes none. -/
theorem answer_change_serves {orders : BookingId → CreateBooking → Prop} (r : BookingDesk.Request)
    (hdrawn : r.drawn? = none) (present : Booking → Response) :
    (answer r.service present).Serves orders := by
  refine answer_serves (service_serves r ?_) present
  rintro id c rfl
  cases hdrawn

theorem listBookings_serves {orders : BookingId → CreateBooking → Prop} (q : ListQuery) :
    (listBookings business q).Serves orders := by
  obtain ⟨customer, staff⟩ := q
  rcases customer with _ | customer <;> rcases staff with _ | staff
  · exact answer_serves (.asks (Service.asks_listOfBusiness business)) _
  · exact answer_serves (.asks (Service.asks_listOfStaff business staff)) _
  · exact answer_serves (.asks (Service.asks_listOfCustomer business customer)) _
  · exact .asks trivial

theorem respondAt_serves (place : Place) (tenant : r.tenant? = some business) :
    (respondAt fresh now r business place).Serves fun id c => id = fresh ∧ r.Orders now c := by
  cases place with
  | bookings =>
    rw [respondAt]
    split
    · refine given_serves fun body hbody => answer_serves (service_serves (.create _ _) ?_) _
      rintro id c ⟨⟩
      exact ⟨rfl, business, body, tenant, hbody, rfl⟩
    · exact given_serves fun q _ => listBookings_serves q
  | stats => exact answer_serves (.asks (Service.asks_countEach business _)) _
  | booking id =>
    rw [respondAt]
    split
    · exact given_serves fun booking _ => given_serves fun body _ => given_serves fun c _ =>
        answer_change_serves (.update c) rfl _
    · exact given_serves fun booking _ =>
        answer_serves (.asks (Service.asks_get business booking)) _
  | confirm id => exact given_serves fun booking _ => answer_change_serves (.confirm _) rfl _
  | cancel id => exact given_serves fun booking _ => answer_change_serves (.cancel _) rfl _
  | complete id => exact given_serves fun booking _ => answer_change_serves (.complete _) rfl _

theorem respondOn_serves (route : Route) :
    (respondOn fresh now r route).Serves fun id c => id = fresh ∧ r.Orders now c := by
  rw [respondOn.eq_def]
  split
  · exact .asks trivial
  · cases route with
    | health => exact .asks trivial
    | desk place =>
      cases htenant : r.tenant? with
      | none => exact .asks (quiet_answerError _).asks
      | some business => exact respondAt_serves place htenant

/-- Whatever comes over HTTP is a request, or is answered from what the collaborators tell. -/
theorem respond_serves (fresh : BookingId) (now : Instant) (r : Request) :
    (respond fresh now r).Serves fun id c => id = fresh ∧ r.Orders now c := by
  rw [respond]
  cases Route.ofPath? r.path with
  | none => split <;> exact .asks trivial
  | some route =>
    split
    · exact (respondOn_serves route).andThen fun _ => trivial
    · exact respondOn_serves route

end Http

namespace Errand

/-- The errand is to make this booking, under this identifier. -/
def Orders : Errand → BookingId → CreateBooking → Prop
  | request r, id, c => r = .create id c
  | question _, _, _ => False
  | http fresh now r, id, c => id = fresh ∧ r.Orders now c

theorem serves (e : Errand) : e.service.Serves e.Orders := by
  cases e with
  | request r => exact (Http.service_serves r fun _ _ h => h).andThen fun _ => trivial
  | question q => exact .asks q.asks
  | http fresh now r => exact (Http.respond_serves fresh now r).andThen fun _ => trivial

/-- An errand is to make one booking at most. -/
theorem Orders.unique {e : Errand} {id id' : BookingId} {c c' : CreateBooking}
    (h : e.Orders id c) (h' : e.Orders id' c') : id = id' ∧ c = c' := by
  cases e with
  | request r =>
    cases h.symm.trans h'
    exact ⟨rfl, rfl⟩
  | question q => cases h
  | http fresh now r =>
    obtain ⟨rfl, business, body, htenant, hbody, rfl⟩ := h
    obtain ⟨rfl, business', body', htenant', hbody', rfl⟩ := h'
    rw [htenant] at htenant'
    rw [hbody] at hbody'
    cases htenant'
    cases hbody'
    exact ⟨rfl, rfl⟩

end Errand
end BookingDesk
