import BookingDesk.Http.Message

/-!
# Routes

The places that a path can lead to, and what can be done there. An identifier in a path is taken as
it is written; whether it is one is found out later.
-/
namespace BookingDesk.Http

/-- A place where a business deals with its bookings. -/
inductive Place where
  | bookings
  | stats
  | booking (id : List Char)
  | confirm (id : List Char)
  | cancel (id : List Char)
  | complete (id : List Char)
deriving DecidableEq, Repr

inductive Route where
  /-- Where anybody can ask whether the program is up. -/
  | health
  | desk (place : Place)
deriving DecidableEq, Repr

namespace Place

/-- What can be done with the booking that a segment names. -/
def ofAction? (id : List Char) (action : String) : Option Place :=
  match action with
  | "confirm" => some (confirm id)
  | "cancel" => some (cancel id)
  | "complete" => some (complete id)
  | _ => none

def methods : Place → List Method
  | bookings => [.get, .head, .post]
  | stats => [.get, .head]
  | booking _ => [.get, .head, .patch]
  | confirm _ | cancel _ | complete _ => [.post]

end Place

namespace Route

/-- The segments of a path, but for the first, and where they lead. An identifier may be empty if
another segment follows it. -/
def ofSegments? : List (List Char) → Option Route
  | [one] =>
    match String.ofList one with
    | "health" => some health
    | "bookings" => some (desk .bookings)
    | _ => none
  | [one, id] =>
    if String.ofList one ≠ "bookings" ∨ id = [] then none
    else if String.ofList id = "stats" then some (desk .stats)
    else some (desk (.booking id))
  | [one, id, action] =>
    if String.ofList one ≠ "bookings" then none
    else (Place.ofAction? id (String.ofList action)).map desk
  | _ => none

def ofPath? : List Char → Option Route
  | '/' :: cs => ofSegments? (Text.splitAtAll '/' cs)
  | _ => none

def methods : Route → List Method
  | health => [.get, .head]
  | desk place => place.methods

/-- The methods that could be used instead of one that cannot. -/
def alternatives (route : Route) (m : Method) : List Method :=
  if route.methods.contains m then [] else route.methods

end Route
end BookingDesk.Http
