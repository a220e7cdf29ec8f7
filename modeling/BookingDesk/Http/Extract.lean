import BookingDesk.Http.Body
import BookingDesk.Http.MediaType
import BookingDesk.Http.Message
import BookingDesk.Text.Blank
import BookingDesk.Text.Percent

/-!
# What a request tells

The business, identifiers, query and body of a request, or the answer that refuses it because one of
them is missing or wrong.
-/
namespace BookingDesk.Http

open Json

/-! ## The business -/

/-- The business that the header `X-Business-Id` names. -/
def Request.tenant? (r : Request) : Option BusinessId :=
  let named := (r.plainHeader? "x-business-id").bind fun v => Uuid.read? (Text.trim v.toList)
  (named.map Id.mk).filter (!·.isNone)

/-! ## Identifiers in the path -/

def pathId (segment : List Char) : Except Response BookingId :=
  match Percent.decode? segment >>= Uuid.ofString? with
  | some u => .ok ⟨u⟩
  | none => .error (.plain 400 "Invalid URL")

/-! ## The query -/

/-- Whose bookings are asked for. -/
structure ListQuery where
  customer : Option CustomerId
  staff : Option StaffId
deriving DecidableEq, Repr

/-- The value of a name in the query, which may be given once and must be an identifier. -/
def queryId? {e : Entity} (pairs : List (String × String)) (name : String) :
    Option (Option (Id e)) :=
  match pairs.filter (·.1 = name) with
  | [] => some none
  | [(_, value)] => (Uuid.ofString? value).map fun u => some ⟨u⟩
  | _ => none

def Request.listQuery (r : Request) : Except Response ListQuery :=
  let pairs := Percent.form r.query
  match queryId? pairs "customer_id", queryId? pairs "staff_id" with
  | some customer, some staff => .ok ⟨customer, staff⟩
  | _, _ => .error (.plain 400 "Failed to deserialize query string")

/-! ## The body -/

/-- The longest body that is read, in bytes. -/
def maxBody : Nat := 2097152

def Request.hasJson (r : Request) : Bool :=
  ((r.plainHeader? "content-type").bind MediaType.ofString?).elim false MediaType.isJson

/-- The value at the front of a body of JSON. -/
def Request.json {α : Type} (r : Request) (shape : Shape α) : Except Response α :=
  if !r.hasJson then
    .error (.plain 415 "Expected request with \x60Content-Type: application/json\x60")
  else if maxBody < r.body.length then .error (.plain 413 "Failed to buffer the request body")
  else
    match shape.read.readFirst (tokens (Utf8.symbols r.body)) with
    | .ok a => .ok a
    | .error .malformed => .error (.plain 400 "Failed to parse the request body as JSON")
    | .error _ =>
      .error (.plain 422 "Failed to deserialize the JSON body into the target type")

end BookingDesk.Http
