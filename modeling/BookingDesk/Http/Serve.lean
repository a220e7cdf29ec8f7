import BookingDesk.Http.Respond
import BookingDesk.Schedule.Timeline

/-!
# Serving a request in time

A client gets the answer to its request, or is told that it took too long.
-/
namespace BookingDesk.Http

/-- Answers a request within less than `limit` milliseconds. There is no answer if the work breaks
down. -/
def serve (limit : Nat) (fresh : BookingId) (now : Instant) (r : Request) (t : Timeline) :
    Option Response × Timeline :=
  match t.runBefore limit (respond fresh now r) with
  | (.finished a, t) => (some a, t)
  | (.givenUp, t) => (some (respondLate r), t)
  | (.crashed, t) => (none, t)

end BookingDesk.Http
