import BookingDesk.Proofs.HttpContract
import BookingDesk.Proofs.OtherWords

/-!
# What clients do not hear

The words of a collaborator that failed go into notices and no further. All that the service does is
alike to itself, whatever the words are (`Http.alike_respond`), for no call hangs on them and no
answer repeats them (`Http.sameAnswer_errorResponse`). Main statement: clients are answered the
same, and the books are the same, if calls fail with other words (`Http.serve_discreet`).
-/
namespace BookingDesk

variable {α : Type}

namespace Service

/-! ## Tasks -/

theorem alike_takeBack (b : Booking) {e e' : ServiceError} (h : e.Alike e') :
    (takeBack b e).Alike SameResult (takeBack b e') := by
  refine .ask _ fun x y hxy => ?_
  cases hxy with
  | ok _ => exact .done (.error h)
  | error f g => exact .note _ _ (.done (.error h))

theorem alike_establish (b : Booking) : (establish b).Alike SameResult (establish b) := by
  refine .ask _ fun x y inserted => ?_
  cases inserted with
  | error f g => exact .done (.error (.bookingsFailed f g))
  | ok _ =>
    refine .ask _ fun x y reserved => ?_
    cases reserved with
    | error f g => exact alike_takeBack b (.slotsFailed f g)
    | ok taken =>
      cases taken with
      | false => exact .note _ _ (alike_takeBack b (.refl _))
      | true =>
        refine .ask _ fun x y counted => ?_
        cases counted with
        | ok _ => exact .note _ _ (.done (.ok b))
        | error f g => exact .note _ _ (.note _ _ (.done (.ok b)))

theorem alike_commit (b : Booking) (before : Status) :
    (commit b before).Alike SameResult (commit b before) := by
  refine .ask _ fun x y written => ?_
  cases written with
  | error f g => exact .done (.error (.bookingsFailed f g))
  | ok accepted =>
    cases accepted with
    | false => exact .done (.error (.refl _))
    | true =>
      dsimp only
      split
      · refine .ask _ fun x y released => ?_
        cases released with
        | ok _ => exact .done (.ok b)
        | error f g => exact .note _ _ (.done (.ok b))
      · exact .done (.ok b)

/-! ## Requests -/

theorem alike_fail {e e' : ServiceError} (h : e.Alike e') :
    (fail e : Service (Except ServiceError α)).Alike SameResult (fail e') :=
  .done (.error h)

theorem alike_await {task : Task Outcome} (htask : task.Alike SameResult task)
    {next : Booking → Service Outcome} (hnext : ∀ b, (next b).Alike SameResult (next b)) :
    (await task next).Alike SameResult (await task next) := by
  refine .handOver htask fun x y hxy => ?_
  cases hxy with
  | none => exact alike_fail (.refl _)
  | some hend =>
    cases hend with
    | ok b => exact hnext b
    | error h => exact alike_fail h

theorem alike_create (fresh : BookingId) (c : CreateBooking) :
    (create fresh c).Alike SameResult (create fresh c) := by
  rw [create]
  split
  · exact alike_fail (.refl _)
  refine .ask _ fun x y available => ?_
  cases available with
  | error f g => exact alike_fail (.slotsFailed f g)
  | ok free =>
    cases free with
    | false => exact alike_fail (.refl _)
    | true =>
      refine .ask _ fun x y customer => ?_
      cases customer with
      | error f g => exact alike_fail (.customersFailed f g)
      | ok known =>
        cases known with
        | false => exact alike_fail (.refl _)
        | true =>
          refine .ask _ fun x y staff => ?_
          cases staff with
          | error f g => exact alike_fail (.staffFailed f g)
          | ok known =>
            cases known with
            | false => exact alike_fail (.refl _)
            | true =>
              refine .ask _ fun x y found => ?_
              cases found with
              | error f g => exact alike_fail (.slotsFailed f g)
              | ok slot =>
                cases slot with
                | none => exact alike_fail (.refl _)
                | some slot =>
                  dsimp only
                  split
                  · exact alike_fail (.refl _)
                  · exact alike_await (alike_establish _) fun b => .done (.ok b)

theorem alike_load (business : BusinessId) (booking : BookingId)
    {next : Booking → Service (Except ServiceError α)}
    (hnext : ∀ b, (next b).Alike SameResult (next b)) :
    (load business booking next).Alike SameResult (load business booking next) := by
  refine .ask _ fun x y found => ?_
  cases found with
  | error f g => exact alike_fail (.bookingsFailed f g)
  | ok b =>
    cases b with
    | none => exact alike_fail (.refl _)
    | some b => exact hnext b

theorem alike_change (business : BusinessId) (booking : BookingId)
    (f : Booking → Except ForbiddenChange Booking) (notice : Status → Booking → Notice) :
    (change business booking f notice).Alike SameResult (change business booking f notice) := by
  refine alike_load business booking fun current => ?_
  split
  · exact alike_fail (.refl _)
  · exact alike_await (alike_commit _ _) fun b => .note _ _ (.done (.ok b))

theorem alike_update (c : UpdateBooking) : (update c).Alike SameResult (update c) := by
  rw [update]
  split
  · exact alike_fail (.refl _)
  · exact alike_change _ _ _ _

theorem alike_changeStatus (wanted : Status) (c : ChangeStatus) :
    (changeStatus wanted c).Alike SameResult (changeStatus wanted c) :=
  alike_change _ _ _ _

/-! ## Questions -/

theorem alike_get (business : BusinessId) (booking : BookingId) :
    (get business booking).Alike SameResult (get business booking) :=
  alike_load business booking fun b => .done (.ok b)

theorem alike_whole {x y : Except Failure α} (h : SameReply x y) :
    (whole x).Alike SameResult (whole y) := by
  cases h with
  | ok a => exact .done (.ok a)
  | error f g => exact alike_fail (.bookingsFailed f g)

theorem alike_countEach (business : BusinessId) (statuses : List Status) :
    (countEach business statuses).Alike SameResult (countEach business statuses) := by
  induction statuses with
  | nil => exact .done (.ok [])
  | cons s rest ih =>
    refine .ask _ fun x y counted => ?_
    cases counted with
    | error f g => exact alike_fail (.bookingsFailed f g)
    | ok n =>
      refine ih.andThen fun a b hab => ?_
      cases hab with
      | ok counts => exact .done (.ok _)
      | error h => exact alike_fail h

end Service

/-! ## Answers -/

namespace Http

/-- All that a client learns of an internal error. -/
def unexpected : Response := refusal 500 "INTERNAL_ERROR" "An unexpected error occurred"

/-- Both answers are the same. If they tell of an internal error, they tell nothing else. -/
structure SameAnswer (a b : Response) : Prop where
  eq : a = b
  unexpected : a.status = 500 → a = unexpected ∨ a = unexpected.withoutBody

theorem sameAnswer_refl {a : Response} (h : a.status / 100 ≠ 5) : SameAnswer a a :=
  ⟨rfl, fun hstatus => absurd (hstatus ▸ rfl) h⟩

theorem errorResponse_internal {e : ServiceError} (h : e.kind = .internal) :
    errorResponse e = unexpected := by
  have hcode : e.code = "INTERNAL_ERROR" := by
    cases e with
    | slotLost _ | bookingsFailed _ | slotsFailed _ | customersFailed _ | staffFailed _
    | taskFailed => rfl
    | _ => cases h
  rw [errorResponse, if_pos h, hcode, h]
  rfl

/-- An answer repeats nothing of what a collaborator said. -/
theorem sameAnswer_errorResponse {e e' : ServiceError} (h : e.Alike e') :
    SameAnswer (errorResponse e) (errorResponse e') := by
  refine ⟨by cases h <;> rfl, fun hstatus => .inl (errorResponse_internal ?_)⟩
  rw [errorResponse_status] at hstatus
  revert hstatus
  cases e.kind <;> simp [statusOf]

theorem succeeds_json {status : Nat} {body : String} (h : status / 100 = 2) :
    (Response.json status body).Succeeds := h

theorem alike_answerError {e e' : ServiceError} (h : e.Alike e') :
    (answerError e).Alike SameAnswer (answerError e') := by
  have hkind : e.kind = e'.kind := by cases h <;> rfl
  rw [answerError, answerError, hkind]
  split
  · exact .note _ _ (.done (sameAnswer_errorResponse h))
  · exact .done (sameAnswer_errorResponse h)

theorem alike_answer {work : Service.Query α} (h : work.Alike SameResult work)
    {present : α → Response} (good : ∀ a, (present a).Succeeds) :
    (answer work present).Alike SameAnswer (answer work present) := by
  refine h.andThen fun a b hab => ?_
  cases hab with
  | ok a => exact .done (sameAnswer_refl (ne_of_eq_of_ne (good a) (by decide)))
  | error h => exact alike_answerError h

theorem alike_given {found : Except Response α} (refuses : ∀ a, found = .error a → a.Refuses)
    {next : α → Service Response} (h : ∀ a, (next a).Alike SameAnswer (next a)) :
    (given found next).Alike SameAnswer (given found next) := by
  cases found with
  | error a => exact .done (sameAnswer_refl (ne_of_eq_of_ne (refuses a rfl) (by decide)))
  | ok a => exact h a

theorem alike_listBookings (business : BusinessId) (q : ListQuery) :
    (listBookings business q).Alike SameAnswer (listBookings business q) := by
  have good : ∀ bs, (listResponse bs).Succeeds := fun _ => succeeds_json rfl
  obtain ⟨customer, staff⟩ := q
  rcases customer with _ | customer <;> rcases staff with _ | staff
  · exact alike_answer (.ask _ fun _ _ => Service.alike_whole) good
  · exact alike_answer (.ask _ fun _ _ => Service.alike_whole) good
  · exact alike_answer (.ask _ fun _ _ => Service.alike_whole) good
  · exact .done (sameAnswer_refl (by decide))

variable {fresh : BookingId} {now : Instant} {r : Request}

theorem alike_changeBooking {work : ChangeStatus → Service Outcome}
    (h : ∀ c, (work c).Alike SameResult (work c)) (business : BusinessId) (id : List Char) :
    (changeBooking work business now id).Alike SameAnswer (changeBooking work business now id) :=
  alike_given (fun _ => pathId_refuses) fun _ => alike_answer (h _) fun _ => succeeds_json rfl

theorem alike_respondAt (business : BusinessId) (place : Place) :
    (respondAt fresh now r business place).Alike SameAnswer
      (respondAt fresh now r business place) := by
  cases place with
  | bookings =>
    rw [respondAt]
    split
    · exact alike_given (fun _ => json_refuses) fun _ =>
        alike_answer (Service.alike_create _ _) fun _ => succeeds_json rfl
    · exact alike_given (fun _ => listQuery_refuses) fun _ => alike_listBookings _ _
  | stats => exact alike_answer (Service.alike_countEach _ _) fun _ => succeeds_json rfl
  | booking id =>
    rw [respondAt]
    split
    · exact alike_given (fun _ => pathId_refuses) fun _ =>
        alike_given (fun _ => json_refuses) fun _ =>
          alike_given (fun _ => command_refuses) fun _ =>
            alike_answer (Service.alike_update _) fun _ => succeeds_json rfl
    · exact alike_given (fun _ => pathId_refuses) fun _ =>
        alike_answer (Service.alike_get _ _) fun _ => succeeds_json rfl
  | confirm id => exact alike_changeBooking (Service.alike_changeStatus .confirmed) business id
  | cancel id => exact alike_changeBooking (Service.alike_changeStatus .cancelled) business id
  | complete id => exact alike_changeBooking (Service.alike_changeStatus .completed) business id

theorem alike_respondOn (route : Route) :
    (respondOn fresh now r route).Alike SameAnswer (respondOn fresh now r route) := by
  rw [respondOn.eq_def]
  split
  · exact .done (sameAnswer_refl (by simp [Response.bare]))
  · cases route with
    | health => exact .done (sameAnswer_refl (by decide))
    | desk place =>
      dsimp only
      split
      · exact alike_answerError (.refl _)
      · exact alike_respondAt _ place

theorem SameAnswer.withoutBody {a b : Response} (h : SameAnswer a b) :
    SameAnswer a.withoutBody b.withoutBody := by
  refine ⟨congrArg _ h.eq, fun hstatus => .inr ?_⟩
  rcases h.unexpected hstatus with rfl | rfl <;> rfl

/-- Whatever words calls fail with, a request is answered the same. -/
theorem alike_respond (fresh : BookingId) (now : Instant) (r : Request) :
    (respond fresh now r).Alike SameAnswer (respond fresh now r) := by
  have hwork : ∀ {work : Service Response}, work.Alike SameAnswer work →
      Service.Alike SameAnswer
        (if r.method = .head then work.andThen fun a => .done a.withoutBody else work)
        (if r.method = .head then work.andThen fun a => .done a.withoutBody else work) := by
    intro work h
    split
    · exact h.andThen fun a b hab => .done hab.withoutBody
    · exact h
  rw [respond]
  cases Route.ofPath? r.path with
  | none => exact hwork (.done (sameAnswer_refl (by decide)))
  | some route => exact hwork (alike_respondOn route)

/-! ## Two runs -/

/-- Alike timelines give the same answer, if any, and are left alike. -/
theorem serve_alike {t t' : Timeline} (h : t.Alike t') (limit : Nat) (fresh : BookingId)
    (now : Instant) (r : Request) :
    (serve limit fresh now r t).1 = (serve limit fresh now r t').1 ∧
      (∀ a, (serve limit fresh now r t).1 = some a → SameAnswer a a) ∧
      (serve limit fresh now r t).2.Alike (serve limit fresh now r t').2 := by
  obtain ⟨hending, halike⟩ := h.runBefore (alike_respond fresh now r) limit
  rw [serve, serve]
  revert hending halike
  rcases t.runBefore limit (respond fresh now r) with ⟨x, u⟩
  rcases t'.runBefore limit (respond fresh now r) with ⟨y, v⟩
  rintro (⟨rfl, hunexpected⟩ | _ | _) halike
  · refine ⟨rfl, ?_, halike⟩
    rintro _ ⟨⟩
    exact ⟨rfl, hunexpected⟩
  · refine ⟨rfl, ?_, halike⟩
    rintro _ ⟨⟩
    exact sameAnswer_refl (show 408 / 100 ≠ 5 by decide)
  · refine ⟨rfl, ?_, halike⟩
    rintro _ ⟨⟩

/-- On a desk where no job is under way, the words with which calls fail make no difference to the
answer, nor to the calls and the books, now or after some time has passed. Of an internal error a
client learns that there was one; the rest goes into a notice. -/
theorem serve_discreet {t : Timeline} (still : t.Still) {fs gs : Faults} (alike : fs.Alike gs)
    (limit : Nat) (fresh : BookingId) (now : Instant) (r : Request) :
    let one := serve limit fresh now r { t with faults := fs }
    let other := serve limit fresh now r { t with faults := gs }
    one.1 = other.1 ∧
      (∀ waits : List Nat,
        (waits.foldl Timeline.advance one.2).world = (waits.foldl Timeline.advance other.2).world ∧
        (waits.foldl Timeline.advance one.2).calls =
          (waits.foldl Timeline.advance other.2).calls) ∧
      (∀ a, one.1 = some a → a.status = 500 → a = unexpected ∨ a = unexpected.withoutBody) ∧
      ∀ e : ServiceError, e.kind = .internal →
        answerError e = .note (.internalError e) (.done unexpected) := by
  intro one other
  have start : ({ t with faults := fs } : Timeline).Alike { t with faults := gs } :=
    ⟨rfl, alike, rfl, rfl, still.ready ▸ .nil, still.asleep ▸ .nil, rfl⟩
  obtain ⟨hanswer, hsame, halike⟩ := serve_alike start limit fresh now r
  refine ⟨hanswer, fun waits => ?_, fun a ha => (hsame a ha).unexpected, fun e he => ?_⟩
  · have hwaits := halike.waits waits
    exact ⟨hwaits.world, hwaits.calls⟩
  · rw [answerError, if_pos he, errorResponse_internal he]

/-- The slot is taken, and the booking is taken back, whatever is said about it. -/
theorem serve_discreet_order :
    let fault (message : String) := Faults.set .empty .reserve ⟨0, none, 20, .failAfter message⟩
    let t := Timeline.start Sample.world
    let answered (message : String) := serve 1000 (Sample.name _ 1) (.ofSecond 0) Sample.order
      { t with faults := fault message }
    (t.Still ∧ (fault "down").Alike (fault "wrong password")) ∧
      (answered "down").1 = (answered "wrong password").1 ∧
      (answered "down").2.world = (answered "wrong password").2.world := by
  intro fault t answered
  have still : t.Still := ⟨rfl, rfl⟩
  have alike : (fault "down").Alike (fault "wrong password") :=
    Faults.alike_empty.set .reserve ⟨rfl, rfl, rfl, .failAfter _ _⟩
  obtain ⟨hanswer, hlater, -⟩ :=
    serve_discreet still alike 1000 (Sample.name _ 1) (.ofSecond 0) Sample.order
  exact ⟨⟨still, alike⟩, hanswer, (hlater []).1⟩

end Http
end BookingDesk
