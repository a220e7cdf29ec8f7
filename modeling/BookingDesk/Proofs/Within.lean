import BookingDesk.Proofs.Errands
import BookingDesk.Proofs.OwnBooks
import BookingDesk.Proofs.Turns

/-!
# Errands keep to their business

Every errand is run for one business, or for none and is then answered at once. The calls of its
course are made for this business, whatever they find (`Course.Within`): a slot or a booking that is
found is the business's own, and only what was found is written. Requests are looked at stage by
stage, questions call by call, and what comes over HTTP is one of these in other words. Main
statement: `Errand.within`.
-/
namespace BookingDesk

variable {α β : Type} {w : World} {who : Option BusinessId} {drawn : BookingId → Prop}
  {inOrder : Bool} {same : α → α → Prop}

/-- The courses are the same, or have ended with results that count as the same. -/
def Course.Agree (same : α → α → Prop) (c c' : Course α) : Prop :=
  c = c' ∨ ∃ a b, c = .ended a ∧ c' = .ended b ∧ same a b

/-- As long as what is found is the business's own, all calls are made for the business, and the
same answers lead on to the same. -/
def Course.Within (w : World) (who : Option BusinessId) (drawn : BookingId → Prop)
    (inOrder : Bool) (same : α → α → Prop) : Course α → Prop
  | .ended _ => True
  | .calling c next => c.Proper w who drawn ∧
      (∀ x y, c.SameAnswer inOrder x y → (next x).Agree same (next y)) ∧
      ∀ answer, c.Honest w who answer → (next answer).Within w who drawn inOrder same

theorem Course.Agree.map {c c' : Course α} (h : c.Agree same c') {f : α → β}
    {same' : β → β → Prop} (hf : ∀ a b, same a b → same' (f a) (f b)) :
    (c.map f).Agree same' (c'.map f) := by
  obtain rfl | ⟨a, b, rfl, rfl, hab⟩ := h
  · exact .inl rfl
  · exact .inr ⟨f a, f b, rfl, rfl, hf a b hab⟩

theorem Course.Within.map {c : Course α} (h : c.Within w who drawn inOrder same) {f : α → β}
    {same' : β → β → Prop} (hf : ∀ a b, same a b → same' (f a) (f b)) :
    (c.map f).Within w who drawn inOrder same' := by
  induction c with
  | ended a => trivial
  | calling call next ih =>
    obtain ⟨proper, agree, honest⟩ := h
    exact ⟨proper, fun x y hxy => (agree x y hxy).map hf,
      fun answer hanswer => ih answer (honest answer hanswer)⟩

/-! ## Requests -/

namespace Stage

/-- All that the stage knows belongs to the business. -/
def Within (w : World) (who : Option BusinessId) (drawn : BookingId → Prop) : Stage → Prop
  | askSlot id c _ | askCustomer id c _ | askStaff id c _ | readSlot id c _ =>
    who = some c.business ∧ drawn id
  | insert b => who = some b.business ∧ w.Owns who b.slot ∧ drawn b.id
  | reserve b | count b | takeBack b _ | replace b _ | release b =>
    who = some b.business ∧ w.Owns who b.slot
  | load ch => who = some ch.business
  | booked _ | changed _ | failed _ => True

variable {g : Stage} {c : Call}

theorem Within.proper (h : g.Within w who drawn) (hc : g.call? = some c) :
    c.Proper w who drawn := by
  cases g with
  | askSlot id cmd _ | askCustomer id cmd _ | askStaff id cmd _ | readSlot id cmd _ =>
    cases hc
    exact h.1
  | insert b | load ch | replace b _ =>
    cases hc
    exact h
  | reserve b | release b =>
    cases hc
    exact h.2
  | count b | takeBack b _ =>
    cases hc
    exact h.1
  | booked _ | changed _ | failed _ => cases hc

theorem Within.next (h : g.Within w who drawn) (hc : g.call? = some c) {answer : Answer c}
    (honest : c.Honest w who answer) : (g.next c answer).Within w who drawn := by
  cases g with
  | askSlot id cmd _ | askCustomer id cmd _ | askStaff id cmd _ =>
    cases hc
    rcases answer with f | _ | _
    · trivial
    · trivial
    · exact h
  | readSlot id cmd notes =>
    cases hc
    rcases answer with f | _ | slot
    · trivial
    · trivial
    · show (made id cmd notes (some slot)).Within w who drawn
      rw [made]
      cases hb : cmd.booking id notes slot.start slot.finish with
      | error e => trivial
      | ok b =>
        obtain ⟨-, rfl⟩ := CreateBooking.booking_eq_ok_iff.1 hb
        exact ⟨h.1, honest, h.2⟩
  | insert b =>
    cases hc
    rcases answer with f | _
    · trivial
    · exact ⟨h.1, h.2.1⟩
  | reserve b =>
    cases hc
    rcases answer with f | _ | _ <;> exact h
  | count b | takeBack b _ =>
    cases hc
    trivial
  | load ch =>
    cases hc
    rcases answer with f | _ | b
    · trivial
    · trivial
    · show (found ch (some b)).Within w who drawn
      rw [found]
      cases hch : ch.apply b with
      | error e => trivial
      | ok new =>
        obtain ⟨-, rfl⟩ := Change.apply_eq_ok_iff.1 hch
        exact honest
  | replace b before =>
    cases hc
    rcases answer with f | _ | _
    · trivial
    · trivial
    · show (replaced b before).Within w who drawn
      rw [replaced]
      split
      · exact h
      · trivial
  | release b =>
    cases hc
    trivial
  | booked _ | changed _ | failed _ => cases hc

/-- Requests ask for no lists. -/
theorem sameAnswer_iff (hc : g.call? = some c) {x y : Answer c} :
    c.SameAnswer inOrder x y ↔ x = y := by
  cases g with
  | booked _ | changed _ | failed _ => cases hc
  | _ =>
    cases hc
    rfl

end Stage

theorem Course.Follows.within {c : Course Outcome} {g : Stage} (h : c.Follows g)
    (hg : g.Within w who drawn) : c.Within w who drawn inOrder Eq := by
  induction c generalizing g with
  | ended outcome => trivial
  | calling call next ih =>
    obtain ⟨hcall, hnext⟩ := h
    refine ⟨hg.proper hcall, fun x y hxy => ?_, fun answer honest => ?_⟩
    · exact .inl (congrArg next ((Stage.sameAnswer_iff hcall).1 hxy))
    · exact ih answer (hnext answer) (hg.next hcall honest)

namespace Request

def business : Request → BusinessId
  | create _ c => c.business
  | update c => c.business
  | confirm c | cancel c | complete c => c.business

theorem within_start (r : Request) (hdrawn : ∀ id, r.drawn? = some id → drawn id) :
    r.start.Within w (some r.business) drawn := by
  cases r with
  | create id c =>
    rw [start]
    cases c.validate with
    | error e => trivial
    | ok notes => exact ⟨rfl, hdrawn id rfl⟩
  | update c =>
    rw [start]
    cases c.validate with
    | error e => trivial
    | ok notes => exact rfl
  | confirm c | cancel c | complete c => exact rfl

theorem within (r : Request) (hdrawn : ∀ id, r.drawn? = some id → drawn id) :
    r.service.course.Within w (some r.business) drawn inOrder Eq :=
  (follows_start r).within (r.within_start hdrawn)

end Request

/-! ## Questions -/

/-- Receipts that count as the same: lists may differ in the order of bookings that start
together. -/
inductive Receipt.Same (inOrder : Bool) : Receipt → Receipt → Prop
  | refl (r : Receipt) : Same inOrder r r
  | bookings {a b : Except ServiceError (List Booking)} (h : SameListing inOrder a b) :
      Same inOrder (.bookings a) (.bookings b)
  | response {bs bs' : List Booking}
      (h : SameListing inOrder (.ok bs : Except ServiceError _) (.ok bs')) :
      Same inOrder (.response (Http.listResponse bs)) (.response (Http.listResponse bs'))

theorem sameListing_true_iff {ε : Type} {a b : Except ε (List Booking)} :
    SameListing true a b ↔ a = b := by
  constructor
  · rintro (e | ⟨⟨-, heq⟩, -⟩)
    · rfl
    · rw [heq rfl]
  · rintro rfl
    cases a with
    | error e => exact .error e
    | ok bs => exact .ok (.refl bs) rfl

/-- If the order counts, receipts are only the same as themselves. -/
theorem Receipt.same_true_iff {r r' : Receipt} : Same true r r' ↔ r = r' := by
  constructor
  · rintro (_ | h | h)
    · rfl
    · rw [sameListing_true_iff.1 h]
    · cases sameListing_true_iff.1 h
      rfl
  · rintro rfl
    exact .refl r

theorem agree_whole {x y : Except Failure (List Booking)} (h : SameListing inOrder x y) :
    (Service.whole x).course.Agree (SameListing inOrder) (Service.whole y).course := by
  cases h with
  | error f => exact .inl rfl
  | ok items starts => exact .inr ⟨_, _, rfl, rfl, .ok items starts⟩

theorem within_whole {x : Except Failure (List Booking)} :
    (Service.whole x).course.Within w who drawn inOrder (SameListing inOrder) := by
  cases x <;> trivial

section

variable (business : BusinessId)

theorem within_listOfCustomer (customer : CustomerId) :
    (Service.listOfCustomer business customer).course.Within w (some business) drawn inOrder
      (SameListing inOrder) :=
  ⟨rfl, fun _ _ h => agree_whole h, fun _ _ => within_whole⟩

theorem within_listOfStaff (staff : StaffId) :
    (Service.listOfStaff business staff).course.Within w (some business) drawn inOrder
      (SameListing inOrder) :=
  ⟨rfl, fun _ _ h => agree_whole h, fun _ _ => within_whole⟩

theorem within_listOfBusiness :
    (Service.listOfBusiness business).course.Within w (some business) drawn inOrder
      (SameListing inOrder) :=
  ⟨rfl, fun _ _ h => agree_whole h, fun _ _ => within_whole⟩

theorem within_get (id : BookingId) :
    (Service.get business id).course.Within w (some business) drawn inOrder Eq := by
  refine ⟨rfl, fun x y h => .inl (by rw [show x = y from h]), fun answer _ => ?_⟩
  rcases answer with f | _ | b <;> trivial

theorem within_countEach (statuses : List Status) :
    (Service.countEach business statuses).course.Within w (some business) drawn inOrder Eq := by
  induction statuses with
  | nil => trivial
  | cons s rest ih =>
    rw [Service.course_countEach_cons]
    refine ⟨rfl, fun x y h => .inl (by rw [show x = y from h]), fun answer _ => ?_⟩
    rcases answer with f | n
    · trivial
    · exact ih.map fun _ _ h => congrArg _ h

end

theorem Receipt.same_of_eq {α : Type} (f : α → Receipt) (a b : α) (h : a = b) :
    Same inOrder (f a) (f b) := h ▸ .refl _

def Question.business : Question → BusinessId
  | booking business _ | ofCustomer business _ | ofStaff business _ | ofBusiness business
  | counts business => business

theorem Question.within (q : Question) :
    q.service.course.Within w (some q.business) drawn inOrder (Receipt.Same inOrder) := by
  cases q with
  | booking business id =>
    rw [service, Service.course_map]
    exact (within_get business id).map (Receipt.same_of_eq _)
  | ofCustomer business customer =>
    rw [service, Service.course_map]
    exact (within_listOfCustomer business customer).map fun _ _ => .bookings
  | ofStaff business staff =>
    rw [service, Service.course_map]
    exact (within_listOfStaff business staff).map fun _ _ => .bookings
  | ofBusiness business =>
    rw [service, Service.course_map]
    exact (within_listOfBusiness business).map fun _ _ => .bookings
  | counts business =>
    rw [service, Service.course_map]
    exact (within_countEach business _).map (Receipt.same_of_eq _)

/-! ## What comes over HTTP -/

namespace Http

variable {business : BusinessId} {fresh : BookingId} {now : Instant} {r : Request}

/-- Answers that count as the same. -/
def Response.Same (inOrder : Bool) (a b : Response) : Prop :=
  Receipt.Same inOrder (.response a) (.response b)

/-- What is answered in the end. -/
def conclude (present : α → Response) : Except ServiceError α → Response
  | .ok a => present a
  | .error e => errorResponse e

theorem course_answer (work : Service.Query α) (present : α → Response) :
    (answer work present).course = work.course.map (conclude present) := by
  refine work.course_andThen fun a => ?_
  rcases a with e | a
  · simp only [answerError]
    split <;> rfl
  · rfl

theorem within_answer {work : Service.Query α} {present : α → Response}
    {same : Except ServiceError α → Except ServiceError α → Prop}
    (h : work.course.Within w who drawn inOrder same)
    (hsame : ∀ a b, same a b → a = b ∨ ∃ x y, a = .ok x ∧ b = .ok y ∧
      Response.Same inOrder (present x) (present y)) :
    (answer work present).course.Within w who drawn inOrder (Response.Same inOrder) := by
  rw [course_answer]
  refine h.map fun a b hab => ?_
  obtain rfl | ⟨x, y, rfl, rfl, hxy⟩ := hsame a b hab
  · exact .refl _
  · exact hxy

theorem within_given {found : Except Response α} {next : α → Service Response}
    (h : ∀ a, found = .ok a →
      (next a).course.Within w who drawn inOrder (Response.Same inOrder)) :
    (given found next).course.Within w who drawn inOrder (Response.Same inOrder) := by
  cases found with
  | error response => trivial
  | ok a => exact h a rfl

/-- The answer to a request of the service. -/
theorem within_answer_request (request : BookingDesk.Request) (status : Nat)
    (hdrawn : ∀ id, request.drawn? = some id → drawn id) :
    (answer request.service (bookingResponse status)).course.Within w (some request.business) drawn
      inOrder (Response.Same inOrder) :=
  within_answer (request.within hdrawn) fun _ _ => .inl

theorem within_answer_listing {work : Service.Query (List Booking)}
    (h : work.course.Within w who drawn inOrder (SameListing inOrder)) :
    (answer work listResponse).course.Within w who drawn inOrder (Response.Same inOrder) := by
  refine within_answer h fun a b hab => ?_
  cases hab with
  | error e => exact .inl rfl
  | ok items starts => exact .inr ⟨_, _, rfl, rfl, .response (.ok items starts)⟩

theorem within_listBookings (q : ListQuery) :
    (listBookings business q).course.Within w (some business) drawn inOrder
      (Response.Same inOrder) := by
  obtain ⟨customer, staff⟩ := q
  rcases customer with _ | customer <;> rcases staff with _ | staff
  · exact within_answer_listing (within_listOfBusiness business)
  · exact within_answer_listing (within_listOfStaff business staff)
  · exact within_answer_listing (within_listOfCustomer business customer)
  · trivial

theorem business_of_command {body : UpdateRequest} {booking : BookingId} {c : UpdateBooking}
    (h : (body.command business booking now).mapError badRequest = .ok c) :
    c.business = business := by
  rw [UpdateRequest.command] at h
  split at h
  · cases h
    rfl
  · split at h <;> cases h
    rfl

theorem within_respondAt (hfresh : drawn fresh) (place : Place) :
    (respondAt fresh now r business place).course.Within w (some business) drawn inOrder
      (Response.Same inOrder) := by
  cases place with
  | bookings =>
    rw [respondAt]
    split
    · refine within_given fun body _ => ?_
      exact within_answer_request (.create fresh (body.command business now)) 201
        fun id hid => by cases hid; exact hfresh
    · exact within_given fun q _ => within_listBookings q
  | stats => exact within_answer (within_countEach business _) fun _ _ => .inl
  | booking id =>
    rw [respondAt]
    split
    · refine within_given fun booking _ => within_given fun body _ => within_given fun c hc => ?_
      cases business_of_command hc
      exact within_answer_request (.update c) 200 nofun
    · refine within_given fun booking _ => ?_
      exact within_answer (within_get business booking) fun _ _ => .inl
  | confirm id =>
    exact within_given fun booking _ =>
      within_answer_request (.confirm ⟨business, booking, now⟩) 200 nofun
  | cancel id =>
    exact within_given fun booking _ =>
      within_answer_request (.cancel ⟨business, booking, now⟩) 200 nofun
  | complete id =>
    exact within_given fun booking _ =>
      within_answer_request (.complete ⟨business, booking, now⟩) 200 nofun

theorem within_respondOn (hfresh : drawn fresh) (route : Route) :
    (respondOn fresh now r route).course.Within w r.tenant? drawn inOrder
      (Response.Same inOrder) := by
  rw [respondOn.eq_def]
  split
  · trivial
  · cases route with
    | health => trivial
    | desk place =>
      cases htenant : r.tenant? with
      | none => simp only [answerError]; split <;> trivial
      | some business => exact within_respondAt hfresh place

theorem within_withoutBody {work : Service Response}
    (h : work.course.Within w who drawn inOrder (Response.Same inOrder)) :
    (work.andThen fun a => .done a.withoutBody).course.Within w who drawn inOrder
      (Response.Same inOrder) := by
  have hcourse : (work.andThen fun a => .done a.withoutBody).course =
      work.course.map Response.withoutBody := work.course_andThen fun _ => rfl
  rw [hcourse]
  refine h.map fun a b hab => ?_
  cases hab with
  | refl _ => exact .refl _
  | response _ => exact .refl _

theorem within_respond (hfresh : drawn fresh) :
    (respond fresh now r).course.Within w r.tenant? drawn inOrder (Response.Same inOrder) := by
  simp only [respond]
  cases Route.ofPath? r.path with
  | none => split <;> trivial
  | some route =>
    split
    · exact within_withoutBody (within_respondOn hfresh route)
    · exact within_respondOn hfresh route

end Http

namespace Errand

/-- The business for which the errand is run, unless it is none. -/
def business? : Errand → Option BusinessId
  | request r => some r.business
  | question q => some q.business
  | http _ _ r => r.tenant?

/-- The identifier that is drawn. -/
def drawn? : Errand → Option BookingId
  | request r => r.drawn?
  | question _ => none
  | http id _ _ => some id

/-- Every errand keeps to its business. -/
theorem within (e : Errand) :
    e.service.course.Within w e.business? (e.drawn? = some ·) inOrder (Receipt.Same inOrder) := by
  cases e with
  | request r =>
    rw [service, Service.course_map]
    exact (r.within fun _ => id).map (Receipt.same_of_eq _)
  | question q => exact q.within
  | http id now r =>
    rw [service, Service.course_map]
    have hrespond : (Http.respond id now r).course.Within w r.tenant? (some id = some ·) inOrder
        (Http.Response.Same inOrder) := Http.within_respond rfl
    exact hrespond.map fun _ _ h => h

end Errand
end BookingDesk
