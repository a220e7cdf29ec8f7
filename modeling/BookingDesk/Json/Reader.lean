import BookingDesk.Json.Lexer
import BookingDesk.Json.Numeral

/-!
# Readers of JSON values

A reader takes a value off the front of a list of tokens and says what is left. It fails at the
first fault in the order of the document, and tells a document that is no JSON (`malformed`) from
one that is, but holds another value than is wanted (`mismatched`, or `refused` with words of its
own).
-/
namespace BookingDesk.Json

inductive Fault where
  | malformed
  | mismatched
  | refused (message : String)
deriving DecidableEq, Repr

abbrev Reader (α : Type) := List Token → Except Fault (α × List Token)

/-- The fault of a value that begins with a token of the wrong kind. A text or numeral is looked at
as a whole before its kind is. -/
def unwanted : List Token → Fault
  | .text pieces :: _ => if (decode pieces).isSome then .mismatched else .malformed
  | .number spelling :: _ => if Numeral.tooLarge spelling then .malformed else .mismatched
  | .openObject :: _ | .openArray :: _ | .bool _ :: _ | .null :: _ => .mismatched
  | _ => .malformed

namespace Reader

variable {α β : Type}

/-- What was read is turned into something else, or refused. -/
def refine (f : α → Except Fault β) (read : Reader α) : Reader β := fun ts =>
  match read ts with
  | .error e => .error e
  | .ok (a, rest) =>
    match f a with
    | .error e => .error e
    | .ok b => .ok (b, rest)

def text : Reader String
  | .text pieces :: rest =>
    match decode pieces with
    | some cs => .ok (String.ofList cs, rest)
    | none => .error .malformed
  | ts => .error (unwanted ts)

/-- A natural number below `bound`. -/
def natural (bound : Nat) : Reader Nat
  | .number spelling :: rest =>
    match Numeral.natural? spelling with
    | some n => if n < bound then .ok (n, rest) else .error (unwanted [.number spelling])
    | none => .error (unwanted [.number spelling])
  | ts => .error (unwanted ts)

def null : Reader Unit
  | .null :: rest => .ok ((), rest)
  | ts => .error (unwanted ts)

/-- `null` stands for nothing. -/
def optional (read : Reader α) : Reader (Option α)
  | .null :: rest => .ok (none, rest)
  | ts =>
    match read ts with
    | .ok (a, rest) => .ok (some a, rest)
    | .error e => .error e

/-! ## Values that nobody asked for -/

/-- What may come next inside a value that is passed over. -/
inductive Awaited where
  | value | valueOrEnd | more | keyOrEnd | key | colon
deriving DecidableEq, Repr

/-- An object or array that is still open. -/
inductive Enclosing where
  | object | array
deriving DecidableEq, Repr

/-- What comes after the first token of a value. -/
def enterValue (es : List Enclosing) : Token → Option (Awaited × List Enclosing)
  | .openObject => some (.keyOrEnd, .object :: es)
  | .openArray => some (.valueOrEnd, .array :: es)
  | .text _ | .number _ | .bool _ | .null => some (.more, es)
  | _ => none

/-- What comes after a token, inside the objects and arrays `es`, the innermost first. -/
def advance : Awaited → List Enclosing → Token → Option (Awaited × List Enclosing)
  | .more, .object :: es, .comma => some (.key, .object :: es)
  | .more, .array :: es, .comma => some (.value, .array :: es)
  | .more, .object :: es, .closeObject => some (.more, es)
  | .more, .array :: es, .closeArray => some (.more, es)
  | .more, _, _ => none
  | .valueOrEnd, .array :: es, .closeArray => some (.more, es)
  | .keyOrEnd, .object :: es, .closeObject => some (.more, es)
  | .keyOrEnd, es, .text _ | .key, es, .text _ => some (.colon, es)
  | .keyOrEnd, _, _ | .key, _, _ => none
  | .colon, es, .colon => some (.value, es)
  | .colon, _, _ => none
  | .value, es, t | .valueOrEnd, es, t => enterValue es t

/-- At the outermost level nothing follows a value. -/
def skipFrom : Awaited → List Enclosing → List Token → Except Fault (List Token)
  | .more, [], ts => .ok ts
  | _, _, [] => .error .malformed
  | w, es, t :: ts =>
    match advance w es t with
    | some (w, es) => skipFrom w es ts
    | none => .error .malformed

/-- Passes over a value. Texts in it need not decode, and numerals may have any size. -/
def skip (ts : List Token) : Except Fault (List Token) := skipFrom .value [] ts

/-! ## Whole documents -/

/-- The value at the front of a document; what follows it is not looked at. -/
def readFirst (read : Reader α) (ts : List Token) : Except Fault α :=
  match read ts with
  | .ok (a, _) => .ok a
  | .error e => .error e

/-- The value that is the whole document. -/
def readAll (read : Reader α) (ts : List Token) : Except Fault α :=
  match read ts with
  | .ok (a, []) => .ok a
  | .ok (_, _ :: _) => .error .malformed
  | .error e => .error e

end Reader
end BookingDesk.Json
