import BookingDesk.Text.Split

/-!
# Media types

A media type is a type and a subtype with parameters behind it, such as
`application/json; charset=utf-8`. The part of a subtype behind its last plus sign says which format
it builds on.
-/
namespace BookingDesk.Http

structure MediaType where
  type : String
  subtype : String
  suffix : Option String
deriving DecidableEq, Repr

namespace MediaType

/-- The characters of names. -/
def isToken (c : Char) : Bool := c.isAlphanum || "!#$%&'*+-.^_\x60|~".contains c

/-- The characters between quotation marks. -/
def isQuotable (c : Char) : Bool := ' ' ≤ c && c ≠ '\x7f'

/-- Where a reader of parameters is: before a parameter, in its name, at its value, in an unquoted
or quoted value, or behind a quoted one. -/
inductive Place where
  | before | name | value | plain | quotedStart | quoted | behind
deriving DecidableEq, Repr

def Place.next? : Place → Char → Option Place
  | .before, c => if c = ' ' then some before else if isToken c then some name else none
  | .name, c => if isToken c then some name else if c = '=' then some value else none
  | .value, c => if c = '"' then some quotedStart else if isToken c then some plain else none
  | .plain, c => if isToken c then some plain else if c = ';' then some before else none
  | .quotedStart, c => if isQuotable c then some quoted else none
  | .quoted, c => if c = '"' then some behind else if isQuotable c then some quoted else none
  | .behind, c => if c = ' ' then some behind else if c = ';' then some before else none

def Place.complete : Place → Bool
  | .before | .value | .plain | .behind => true
  | _ => false

/-- Whether a text is a list of parameters. -/
def areParameters (cs : List Char) : Bool :=
  (cs.foldlM Place.next? .before).elim false Place.complete

/-- The subtype up to its last plus sign, which is not its first character, and what is behind. -/
def splitSuffix (cs : List Char) : List Char × Option (List Char) :=
  let behind := cs.reverse.takeWhile (· ≠ '+')
  let before := (cs.reverse.drop (behind.length + 1)).reverse
  if before = [] then (cs, none) else (before, some behind.reverse)

def lower (cs : List Char) : String := String.ofList (cs.map Char.toLower)

def ofString? (s : String) : Option MediaType :=
  let (type, rest) := Text.splitAtFirst '/' s.toList
  match rest with
  | none => none
  | some rest =>
    let (subtype, parameters) := Text.splitAtFirst ';' rest
    if type = [] ∨ !type.all isToken ∨ !subtype.all isToken then none
    else if subtype = [] ∧ parameters.isSome then none
    else if !(parameters.elim true areParameters) then none
    else
      let (base, suffix) := splitSuffix subtype
      some ⟨lower type, lower base, suffix.map lower⟩

/-- Whether a body of this type is JSON. -/
def isJson (m : MediaType) : Bool :=
  m.type = "application" && (m.subtype = "json" || m.suffix = some "json")

end MediaType
end BookingDesk.Http
