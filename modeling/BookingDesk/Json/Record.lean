import BookingDesk.Json.Shape

/-!
# Records in JSON

The fields of a record are listed once, in order, each with its name and shape; the list gives both
forms in which a record may come. In an object the fields stand in any order, and keys that name no
field are passed over with their values. In an array the fields stand in the order of the list.
-/
namespace BookingDesk.Json

structure Field (α : Type) where
  name : String
  shape : Shape α
  /-- The value of a field whose key is missing. -/
  absent : Option α
  /-- The value of a field that the array ends before. -/
  short : Option α

namespace Field

variable {α : Type}

def required (name : String) (shape : Shape α) : Field α := ⟨name, shape, none, none⟩

/-- A key that is missing means `none`. -/
def optional (name : String) (shape : Shape α) : Field (Option α) :=
  ⟨name, shape.optional, some none, none⟩

def defaulted (name : String) (shape : Shape α) (value : α) : Field α :=
  ⟨name, shape, some value, some value⟩

end Field

/-- A value for each of the types. -/
def Row : List Type → Type
  | [] => Unit
  | α :: αs => α × Row αs

/-- A value for some of the types. -/
def PartialRow : List Type → Type
  | [] => Unit
  | α :: αs => Option α × PartialRow αs

inductive Fields : List Type → Type 1 where
  | nil : Fields []
  | cons {α : Type} {αs : List Type} (field : Field α) (rest : Fields αs) : Fields (α :: αs)

namespace Fields

def nothing : {αs : List Type} → Fields αs → PartialRow αs
  | _, nil => ()
  | _, cons _ rest => (none, rest.nothing)

/-! ## Objects -/

def members : {αs : List Type} → Fields αs → Row αs → List (List Token)
  | _, nil, () => []
  | _, cons f rest, (a, as) =>
    (Token.ofString f.name :: .colon :: f.shape.write a) :: rest.members as

def writeObject {αs : List Type} (fs : Fields αs) (row : Row αs) : List Token :=
  .openObject :: List.intercalate [.comma] (fs.members row) ++ [.closeObject]

/-- The reader that puts the value of the field called `key` into its place, which must be empty.
There is none if no field is called so. -/
def place? : {αs : List Type} → Fields αs → PartialRow αs → String →
    Option (Except Fault (Reader (PartialRow αs)))
  | _, nil, (), _ => none
  | _, cons f rest, (slot, slots), key =>
    if f.name = key then
      match slot with
      | some _ => some (.error .mismatched)
      | none => some (.ok (f.shape.read.refine fun a => .ok (some a, slots)))
    else
      (rest.place? slots key).map fun r =>
        r.map fun read => read.refine fun slots => .ok (slot, slots)

/-- The whole row, when every empty place may be empty. -/
def complete? : {αs : List Type} → Fields αs → PartialRow αs → Option (Row αs)
  | _, nil, () => some ()
  | _, cons f rest, (slot, slots) => do return (← slot <|> f.absent, ← rest.complete? slots)

/-- One member of an object, up to the end of its value. -/
def readMember {αs : List Type} (fs : Fields αs) (slots : PartialRow αs) : Reader (PartialRow αs)
  | .text pieces :: ts =>
    match decode pieces with
    | none => .error .malformed
    | some key =>
      match fs.place? slots (String.ofList key), ts with
      | some (.error e), _ => .error e
      | some (.ok read), .colon :: ts => read ts
      | none, .colon :: ts => (Reader.skip ts).map (slots, ·)
      | _, _ => .error .malformed
  | _ => .error .malformed

def finish {αs : List Type} (fs : Fields αs) (slots : PartialRow αs) : Except Fault (Row αs) :=
  match fs.complete? slots with
  | some row => .ok row
  | none => .error .mismatched

/-- What follows a member. An object has at most as many members as `fuel`, the number of tokens
that are left. -/
def readMore {αs : List Type} (fs : Fields αs) : Nat → PartialRow αs → Reader (Row αs)
  | _, slots, .closeObject :: ts => (fs.finish slots).map (·, ts)
  | fuel + 1, slots, .comma :: ts =>
    match fs.readMember slots ts with
    | .error e => .error e
    | .ok (slots, ts) => fs.readMore fuel slots ts
  | _, _, _ => .error .malformed

/-- An object whose opening brace has been read. -/
def readObject {αs : List Type} (fs : Fields αs) : Reader (Row αs)
  | .closeObject :: ts => (fs.finish fs.nothing).map (·, ts)
  | ts =>
    match fs.readMember fs.nothing ts with
    | .error e => .error e
    | .ok (slots, rest) => fs.readMore ts.length slots rest

/-! ## Arrays -/

/-- The elements of an array from some field on; `first` says that none has been read. -/
def readElements : {αs : List Type} → Fields αs → (first : Bool) → Reader (Row αs)
  | _, nil, _, .closeArray :: ts => .ok ((), ts)
  | _, nil, _, _ => .error .malformed
  | _, cons f rest, first, ts =>
    match first, ts with
    | _, .closeArray :: _ =>
      match f.short with
      | none => .error .mismatched
      | some a => (rest.readElements false).refine (fun as => .ok (a, as)) ts
    | false, .comma :: .closeArray :: _ => .error .malformed
    | false, .comma :: ts | true, ts =>
      match f.shape.read ts with
      | .error e => .error e
      | .ok (a, ts) => (rest.readElements false).refine (fun as => .ok (a, as)) ts
    | false, _ => .error .malformed

def read {αs : List Type} (fs : Fields αs) : Reader (Row αs)
  | .openObject :: ts => fs.readObject ts
  | .openArray :: ts => fs.readElements true ts
  | ts => .error (unwanted ts)

end Fields

/-- Values that are written as the object of their fields. -/
def Shape.record {α : Type} {αs : List Type} (fs : Fields αs) (toRow : α → Row αs)
    (ofRow : Row αs → α) : Shape α where
  write a := fs.writeObject (toRow a)
  read := fs.read.refine fun row => .ok (ofRow row)

end BookingDesk.Json
