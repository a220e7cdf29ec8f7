import BookingDesk.Text.Split

/-!
# Requests and answers

What a client sends and what it gets back. Header names have no case, and only the first header of a
name counts.
-/
namespace BookingDesk.Http

inductive Method where
  | get | head | post | patch
  | other (name : String)
deriving DecidableEq, Repr

def Method.ofName : String → Method
  | "GET" => get
  | "HEAD" => head
  | "POST" => post
  | "PATCH" => patch
  | name => other name

def Method.name : Method → String
  | get => "GET"
  | head => "HEAD"
  | post => "POST"
  | patch => "PATCH"
  | other name => name

structure Request where
  method : Method
  target : String
  headers : List (String × String)
  body : List UInt8
deriving Repr

namespace Request

def header? (r : Request) (name : String) : Option String :=
  (r.headers.find? fun h => h.1.map Char.toLower = name).map (·.2)

/-- A header that is plain visible text. -/
def plainHeader? (r : Request) (name : String) : Option String :=
  (r.header? name).filter fun v => v.all fun c => c = '\t' || (' ' ≤ c && c ≤ '~')

/-- The target without the part behind a number sign, and without scheme and host. -/
def localTarget (r : Request) : List Char :=
  let cs := (Text.splitAtFirst '#' r.target.toList).1
  match cs with
  | '/' :: _ => cs
  | _ =>
    match Text.splitAtFirst ':' cs with
    | (_, some ('/' :: '/' :: rest)) => rest.dropWhile fun c => c ≠ '/' && c ≠ '?'
    | _ => cs

def path (r : Request) : List Char :=
  match (Text.splitAtFirst '?' r.localTarget).1 with
  | [] => ['/']
  | cs => cs

def query (r : Request) : List Char := (Text.splitAtFirst '?' r.localTarget).2.getD []

end Request

/-- What kind of text a body is. -/
inductive Content where
  | plain | json
deriving DecidableEq, Repr

def Content.name : Content → String
  | plain => "text/plain; charset=utf-8"
  | json => "application/json"

structure Response where
  status : Nat
  content : Option Content
  body : String
  /-- The methods that could be used instead. -/
  allow : List Method
deriving DecidableEq, Repr

namespace Response

def bare (status : Nat) : Response := ⟨status, none, "", []⟩

def plain (status : Nat) (body : String) : Response := ⟨status, some .plain, body, []⟩

def json (status : Nat) (body : String) : Response := ⟨status, some .json, body, []⟩

def withoutBody (r : Response) : Response := { r with body := "" }

end Response
end BookingDesk.Http
