import BookingDesk.Proofs.Records

/-!
# One field of each object in a list

A client need not look at all that it is sent. Of an object whose values are texts it may read one
field and pass over the others (`Fields.readOnly_textObject`), and so with each object of an array,
from which the values are read in order (`Reader.array_writeList`).
-/
namespace BookingDesk.Json

variable {α β : Type}

/-! ## Arrays -/

namespace Reader

/-- What follows an element of an array. There are at most as many more as `fuel`. -/
def items (read : Reader α) : Nat → Reader (List α)
  | _, .closeArray :: ts => .ok ([], ts)
  | fuel + 1, .comma :: ts =>
    match read ts with
    | .error e => .error e
    | .ok (a, ts) => (read.items fuel).refine (fun as => .ok (a :: as)) ts
  | _, _ => .error .malformed

def array (read : Reader α) : Reader (List α)
  | .openArray :: .closeArray :: ts => .ok ([], ts)
  | .openArray :: ts => read.items (ts.length + 1) (.comma :: ts)
  | ts => .error (unwanted ts)

variable {s : Shape α} {read : Reader β} {f : α → β}

/-- By induction on the elements that are still to come. -/
theorem items_flatMap (h : ∀ a rest, read (s.write a ++ rest) = .ok (f a, rest)) {as : List α}
    {fuel : Nat} (hfuel : as.length ≤ fuel) (rest : List Token) :
    read.items fuel ((as.map s.write).flatMap (.comma :: ·) ++ .closeArray :: rest) =
      .ok (as.map f, rest) := by
  induction as generalizing fuel with
  | nil => cases fuel <;> rfl
  | cons a as ih =>
    cases fuel with
    | zero => simp at hfuel
    | succ fuel =>
      rw [List.map_cons, List.flatMap_cons, List.append_assoc, List.cons_append, items, h]
      simp only [refine, ih (Nat.le_of_succ_le_succ hfuel), List.map_cons]

/-- An array of objects is read element by element. -/
theorem array_writeList (h : ∀ a rest, read (s.write a ++ rest) = .ok (f a, rest))
    (opens : ∀ a, ∃ ts, s.write a = .openObject :: ts) (as : List α) (rest : List Token) :
    read.array (s.writeList as ++ rest) = .ok (as.map f, rest) := by
  cases as with
  | nil => rfl
  | cons a as =>
    obtain ⟨ts, hts⟩ := opens a
    have hlength := Fields.length_le_flatMap (as.map s.write)
    have hall : (a :: as).length ≤ (ts ++ ((as.map s.write).flatMap (.comma :: ·) ++
        .closeArray :: rest)).length + 2 := by
      simp only [List.length_map] at hlength
      simp only [List.length_cons, List.length_append]
      omega
    have hread := items_flatMap h hall rest
    simp only [List.map_cons, List.flatMap_cons, hts, List.cons_append, List.append_assoc] at hread
    simp only [Shape.writeList, List.map_cons, Fields.intercalate_comma, hts, List.cons_append,
      List.append_assoc, List.nil_append, array, List.length_cons]
    exact hread

end Reader

/-! ## One field -/

namespace Fields

/-- All that is looked at is the text that stands under this name. -/
def only (name : String) : Fields [String] := .cons (.required name Shape.text) .nil

/-- A member whose value is a text. -/
def textMember (p : String × String) : List Token :=
  [Token.ofString p.1, .colon, Token.ofString p.2]

variable {name value : String} {slots : PartialRow [String]}

/-- A member with another name is passed over. -/
theorem readMember_of_ne {p : String × String} (hne : name ≠ p.1) (slots : PartialRow [String])
    (ts : List Token) : (only name).readMember slots (textMember p ++ ts) = .ok (slots, ts) := by
  have hskip : Reader.skip (.text (p.2.toList.map .char) :: ts) = .ok ts := by
    simp [Reader.skip, Reader.skipFrom, Reader.advance, Reader.enterValue]
  have hplace : (only name).place? slots p.1 = none := by
    obtain ⟨slot, slots⟩ := slots
    exact if_neg hne
  simp [textMember, Token.ofString, readMember, hplace, hskip, Except.map]

theorem readMember_self (ts : List Token) :
    (only name).readMember (none, ()) (textMember (name, value) ++ ts) =
      .ok ((some value, ()), ts) := by
  have hplace : (only name).place? (none, ()) name = some (.ok
      (Reader.text.refine fun a => .ok (some a, ()))) := if_pos rfl
  simp [textMember, Token.ofString, readMember, hplace, Reader.refine, Reader.text]

theorem readMore_comma {slots slots' : PartialRow [String]} {ts ts' : List Token}
    (h : (only name).readMember slots ts = .ok (slots', ts')) (fuel : Nat) :
    (only name).readMore (fuel + 1) slots (.comma :: ts) =
      (only name).readMore fuel slots' ts' := by
  rw [readMore, h]

/-- Members with other names are passed over, one after the other. -/
theorem readMore_of_ne {others : List (String × String)} (hne : ∀ p ∈ others, name ≠ p.1)
    (slots : PartialRow [String]) {fuel : Nat} (hfuel : others.length ≤ fuel) (ts : List Token) :
    (only name).readMore fuel slots ((others.map textMember).flatMap (.comma :: ·) ++ ts) =
      (only name).readMore (fuel - others.length) slots ts := by
  induction others generalizing fuel with
  | nil => rfl
  | cons p rest ih =>
    obtain ⟨hp, hrest⟩ := List.forall_mem_cons.1 hne
    cases fuel with
    | zero => simp at hfuel
    | succ fuel =>
      rw [List.map_cons, List.flatMap_cons, List.append_assoc, List.cons_append,
        readMore_comma (readMember_of_ne hp slots _), ih hrest (Nat.le_of_succ_le_succ hfuel),
        List.length_cons, Nat.add_sub_add_right]

/-- The members of the object are read as those that follow a member. -/
theorem readObject_eq_readMore (fs : Fields [String]) (key : String) (ts : List Token) :
    fs.readObject (Token.ofString key :: ts) =
      fs.readMore ((Token.ofString key :: ts).length + 1) fs.nothing
        (.comma :: Token.ofString key :: ts) := by
  rw [readMore, Token.ofString, readObject]
  -- the object is not closed at once
  intro rest h
  cases h

/-- An object whose values are texts. -/
def textObject (members : List (String × String)) : List Token :=
  .openObject :: List.intercalate [.comma] (members.map textMember) ++ [.closeObject]

def readOnly (name : String) : Reader String :=
  (only name).read.refine fun (value, ()) => .ok value

/-- Of all members the one with this name is read. -/
theorem readMore_only {before after : List (String × String)} (hbefore : ∀ p ∈ before, name ≠ p.1)
    (hafter : ∀ p ∈ after, name ≠ p.1) {fuel : Nat}
    (hfuel : (before ++ (name, value) :: after).length ≤ fuel) (rest : List Token) :
    (only name).readMore fuel (none, ())
        (((before ++ (name, value) :: after).map textMember).flatMap (.comma :: ·) ++
          .closeObject :: rest) =
      .ok ((value, ()), rest) := by
  rw [List.length_append, List.length_cons] at hfuel
  obtain ⟨k, rfl⟩ : ∃ k, fuel = before.length + (k + 1) := ⟨fuel - before.length - 1, by omega⟩
  simp only [List.map_append, List.map_cons, List.flatMap_append, List.flatMap_cons,
    List.append_assoc]
  rw [readMore_of_ne hbefore (none, ()) (by omega), Nat.add_sub_cancel_left, List.cons_append,
    readMore_comma (readMember_self _), readMore_of_ne hafter (some value, ()) (by omega)]
  cases k - after.length <;> rfl

/-- The one value is read, wherever it stands in the object. -/
theorem readOnly_textObject {before after : List (String × String)}
    (hbefore : ∀ p ∈ before, name ≠ p.1) (hafter : ∀ p ∈ after, name ≠ p.1) (rest : List Token) :
    readOnly name (textObject (before ++ (name, value) :: after) ++ rest) = .ok (value, rest) := by
  obtain ⟨p, others, hall⟩ : ∃ p others, before ++ (name, value) :: after = p :: others := by
    cases before <;> exact ⟨_, _, rfl⟩
  have hread : (only name).read (textObject (before ++ (name, value) :: after) ++ rest) =
      (only name).readMore ((textMember p ++ ((others.map textMember).flatMap (.comma :: ·) ++
        .closeObject :: rest)).length + 1) (none, ())
        (((before ++ (name, value) :: after).map textMember).flatMap (.comma :: ·) ++
          .closeObject :: rest) := by
    rw [hall]
    simp only [textObject, List.map_cons, intercalate_comma, List.cons_append, List.append_assoc,
      List.nil_append, read, List.flatMap_cons]
    exact readObject_eq_readMore _ _ _
  have hlength := length_le_flatMap (others.map textMember)
  rw [List.length_map] at hlength
  rw [readMore_only hbefore hafter] at hread
  · rw [readOnly, Reader.refine, hread]
  · simp only [hall, List.length_cons, List.length_append]
    omega

end Fields
end BookingDesk.Json
