import BookingDesk.Http.Extract
import BookingDesk.Http.Route
import BookingDesk.Service.Query

/-!
# Answering requests

Every request is answered by a piece of the service's work. The business is found out first, then
the booking that the path names, then query or body. Errors of the service are told to the client
with code and message; of an internal error the client learns only that there was one, and the rest
goes into a notice.
-/
namespace BookingDesk.Http

open Json

/-! ## Answers -/

def refusal (status : Nat) (error message : String) : Response :=
  .json status (Refusal.shape.encode ⟨error, message⟩)

/-- The request makes no sense, though it is well formed. -/
def badRequest (message : String) : Response := refusal 400 "INVALID_REQUEST" message

def statusOf : ServiceError.Kind → Nat
  | .validation => 400
  | .notFound => 404
  | .conflict => 409
  | .internal => 500

/-- What a client may know about an error. -/
def errorResponse (e : ServiceError) : Response :=
  if e.kind = .internal then
    refusal (statusOf e.kind) e.code "An unexpected error occurred"
  else refusal (statusOf e.kind) e.code e.message

def answerError (e : ServiceError) : Service Response :=
  if e.kind = .internal then .note (.internalError e) (.done (errorResponse e))
  else .done (errorResponse e)

def answer {α : Type} (work : Service.Query α) (present : α → Response) : Service Response :=
  work.andThen fun
  | .ok a => .done (present a)
  | .error e => answerError e

def bookingResponse (status : Nat) (b : Booking) : Response :=
  .json status (BookingView.shape.encode (.ofBooking b))

def listResponse (bs : List Booking) : Response :=
  .json 200 (render (BookingView.shape.writeList (bs.map .ofBooking)))

def statsResponse (counts : List (Status × Nat)) : Response :=
  .json 200 (Tally.shape.encode (.ofCounts counts))

/-! ## Requests -/

/-- What was found out about the request, or the answer that refuses it. -/
def given {α : Type} (found : Except Response α) (next : α → Service Response) :
    Service Response :=
  match found with
  | .error r => .done r
  | .ok a => next a

def listBookings (business : BusinessId) (q : ListQuery) : Service Response :=
  match q.customer, q.staff with
  | some _, some _ => .done (badRequest "customer_id and staff_id cannot be combined")
  | some customer, none => answer (Service.listOfCustomer business customer) listResponse
  | none, some staff => answer (Service.listOfStaff business staff) listResponse
  | none, none => answer (Service.listOfBusiness business) listResponse

def changeBooking (work : ChangeStatus → Service Outcome) (business : BusinessId) (now : Instant)
    (id : List Char) : Service Response :=
  given (pathId id) fun booking =>
    answer (work { business, booking, requestedAt := now }) (bookingResponse 200)

def updateBooking (business : BusinessId) (now : Instant) (id : List Char) (r : Request) :
    Service Response :=
  given (pathId id) fun booking =>
    given (r.json UpdateRequest.shape) fun body =>
      given ((body.command business booking now).mapError badRequest) fun c =>
        answer (Service.update c) (bookingResponse 200)

/-- Answers a request of a business with one of the methods of the place. `fresh` is the identifier
for a booking that is made, and `now` the time on the clock. -/
def respondAt (fresh : BookingId) (now : Instant) (r : Request) (business : BusinessId) :
    Place → Service Response
  | .bookings =>
    if r.method = .post then
      given (r.json CreateRequest.shape) fun body =>
        answer (Service.create fresh (body.command business now)) (bookingResponse 201)
    else given r.listQuery (listBookings business)
  | .stats => answer (Service.count business) statsResponse
  | .booking id =>
    if r.method = .patch then updateBooking business now id r
    else
      given (pathId id) fun booking => answer (Service.get business booking) (bookingResponse 200)
  | .confirm id => changeBooking Service.confirm business now id
  | .cancel id => changeBooking Service.cancel business now id
  | .complete id => changeBooking Service.complete business now id

def respondOn (fresh : BookingId) (now : Instant) (r : Request) (route : Route) :
    Service Response :=
  if !route.methods.contains r.method then
    .done { Response.bare 405 with allow := route.alternatives r.method }
  else
    match route with
    | .health => .done (.plain 200 "OK")
    | .desk place =>
      match r.tenant? with
      | none => answerError (.invalid .businessMissing)
      | some business => respondAt fresh now r business place

/-- Answers a request. One that asks only for the head of an answer gets no body. -/
def respond (fresh : BookingId) (now : Instant) (r : Request) : Service Response :=
  let work := match Route.ofPath? r.path with
    | none => .done (.bare 404)
    | some route => respondOn fresh now r route
  if r.method = .head then work.andThen fun a => .done a.withoutBody else work

/-- The answer to a request that took too long. Which methods there are is told all the same. -/
def respondLate (r : Request) : Response :=
  let allow := (Route.ofPath? r.path).elim [] (·.alternatives r.method)
  { Response.bare 408 with allow }

end BookingDesk.Http
