import BookingDesk.Proofs.Interleaving

/-!
# What a call concerns

Apart from lists and numbers of bookings, a call reads and writes one booking or one slot at most,
and besides only looks whom the desk knows or counts a booking for a customer. Main statements: what
lies outside its footprint a call leaves as it is (`answer_bookings`, `answer_slots`), its answer
hangs on the footprint alone (`answer_inside`), and so calls with footprints apart can be made in
either order (`answer_comm`).
-/
namespace BookingDesk

/-- A booking, and the slot that goes with it. -/
structure Footprint where
  booking : BookingId
  slot : Option SlotId
deriving DecidableEq, Repr

namespace Footprint

/-- Neither the booking nor the slot is shared. -/
def Apart (f g : Footprint) : Prop :=
  f.booking ≠ g.booking ∧ ∀ s, f.slot = some s → g.slot ≠ some s

instance (f g : Footprint) : Decidable (f.Apart g) :=
  decidable_of_iff (f.booking ≠ g.booking ∧ (f.slot = none ∨ f.slot ≠ g.slot)) <| by
    rw [Apart]
    cases f.slot <;> simp [eq_comm]

theorem Apart.symm {f g : Footprint} (h : f.Apart g) : g.Apart f :=
  ⟨h.1.symm, fun s hg hf => h.2 s hf hg⟩

end Footprint

/-- The call concerns no booking and no slot but these. -/
def Call.Inside (f : Footprint) : Call → Prop
  | isAvailable _ s | findSlot _ s | reserve s _ | release s => f.slot = some s
  | insert b | replace b _ => b.id = f.booking ∧ f.slot = some b.slot
  | find _ id | remove _ id => id = f.booking
  | customerExists _ _ | countBooking _ _ | staffExists _ _ => True
  | ofCustomer _ _ | ofStaff _ _ | ofBusiness _ | countStatus _ _ => False

/-- A booking that is found is this one, in this slot. -/
def Call.Fits (f : Footprint) : (c : Call) → Answer c → Prop
  | find _ _, .ok (some b) => b.id = f.booking ∧ f.slot = some b.slot
  | _, _ => True

/-- How many bookings of a customer the call adds to the number. -/
def Call.counts (k : BusinessId × CustomerId) : Call → Nat
  | countBooking business customer => if k = (business, customer) then 1 else 0
  | _ => 0

namespace World

/-- Both books hold the same, in whatever order the bookings came. -/
structure Same (v w : World) : Prop where
  bookings : ∀ id, v.bookings.get? id = w.bookings.get? id
  slots : ∀ s, v.slots.get? s = w.slots.get? s
  customers : ∀ k, v.customers.get? k = w.customers.get? k
  staff : v.staff = w.staff

/-- The books hold the same in the footprint, and know the same customers and staff. -/
structure SameIn (f : Footprint) (v w : World) : Prop where
  booking : v.bookings.get? f.booking = w.bookings.get? f.booking
  slot : ∀ s, f.slot = some s → v.slots.get? s = w.slots.get? s
  customers : ∀ k, v.customers.contains k = w.customers.contains k
  staff : v.staff = w.staff

/-- What is stored under the identifier is this booking, in this slot. -/
def Fits (f : Footprint) (w : World) : Prop :=
  ∀ b, w.bookings.get? f.booking = some b → b.id = f.booking ∧ f.slot = some b.slot

variable {u v w : World} {f g : Footprint} {c d : Call}

theorem Same.refl (w : World) : Same w w := ⟨fun _ => rfl, fun _ => rfl, fun _ => rfl, rfl⟩

theorem Same.symm (h : Same v w) : Same w v :=
  ⟨fun id => (h.bookings id).symm, fun s => (h.slots s).symm, fun k => (h.customers k).symm,
    h.staff.symm⟩

theorem Same.trans (h : Same u v) (g : Same v w) : Same u w :=
  ⟨fun id => (h.bookings id).trans (g.bookings id), fun s => (h.slots s).trans (g.slots s),
    fun k => (h.customers k).trans (g.customers k), h.staff.trans g.staff⟩

theorem Same.sameIn (h : Same v w) (f : Footprint) : SameIn f v w :=
  ⟨h.bookings _, fun s _ => h.slots s, fun k => congrArg Option.isSome (h.customers k), h.staff⟩

/-! ## Outside of the footprint -/

theorem get?_slots_setHolder (w : World) (slot : SlotId) (holder : Option BookingId) (s : SlotId) :
    (w.setHolder slot holder).slots.get? s =
      if s = slot then (w.slots.get? s).map ({ · with holder }) else w.slots.get? s := by
  rw [setHolder, Table.get?_modify]

/-- Other bookings stay as they are. -/
theorem answer_bookings (h : c.Inside f) {id : BookingId} (other : id ≠ f.booking) :
    (w.answer c).2.bookings.get? id = w.bookings.get? id := by
  cases c with
  | insert b =>
    simp only [answer]
    split
    · rfl
    · rename_i hfresh
      rw [get?_insert (Option.not_isSome_iff_eq_none.1 hfresh), if_neg (h.1 ▸ other)]
  | replace b expected =>
    simp only [answer]
    split
    · rw [get?_replace, if_neg (h.1 ▸ other)]
    · rfl
  | remove business id' =>
    simp only [answer]
    split
    · rw [get?_remove, if_neg (show id ≠ id' from h ▸ other)]
    · rfl
  | reserve _ _ | release _ | countBooking _ _ =>
    simp only [answer]
    split <;> rfl
  | _ => rfl

/-- Other slots stay as they are. -/
theorem answer_slots (h : c.Inside f) {s : SlotId} (other : f.slot ≠ some s) :
    (w.answer c).2.slots.get? s = w.slots.get? s := by
  cases c with
  | reserve slot _ | release slot =>
    have hne : s ≠ slot := by
      rintro rfl
      exact other h
    simp only [answer]
    split
    · rw [get?_slots_setHolder, if_neg hne]
    · rfl
  | insert _ | replace _ _ | remove _ _ | countBooking _ _ =>
    simp only [answer]
    split <;> rfl
  | _ => rfl

/-- A number of bookings changes by what the call adds to it. -/
theorem answer_customers (w : World) (c : Call) (k : BusinessId × CustomerId) :
    (w.answer c).2.customers.get? k = (w.customers.get? k).map (· + c.counts k) := by
  have hsame : ∀ o : Option Nat, o.map (· + 0) = o := by simp
  cases c with
  | countBooking business customer =>
    simp only [answer, Call.counts]
    split
    · rw [World.countBooking, Table.get?_modify]
      split
      · rfl
      · exact (hsame _).symm
    · rename_i hunknown
      split
      · rename_i hk
        rw [hk, Option.not_isSome_iff_eq_none.1 hunknown]
        rfl
      · exact (hsame _).symm
  | insert _ | replace _ _ | remove _ _ | reserve _ _ | release _ =>
    simp only [answer]
    split <;> exact (hsame _).symm
  | _ => exact (hsame _).symm

theorem answer_staff (w : World) (c : Call) : (w.answer c).2.staff = w.staff :=
  (sameGround_answer w c).staff

/-- What lies apart from a footprint is the same after a call inside it. -/
theorem sameIn_answer (apart : f.Apart g) (h : c.Inside g) : SameIn f (w.answer c).2 w where
  booking := answer_bookings h apart.1
  slot s hs := answer_slots h (apart.2 s hs)
  customers k := (sameGround_answer w c).customers k
  staff := answer_staff w c

/-! ## Inside of the footprint -/

theorem SameIn.isFree_eq (h : SameIn f v w) {s : SlotId} (hs : f.slot = some s) :
    v.isFree s = w.isFree s := by
  rw [isFree, isFree, h.slot s hs]

theorem SameIn.setHolder (h : SameIn f v w) (s : SlotId) (holder : Option BookingId) :
    SameIn f (v.setHolder s holder) (w.setHolder s holder) where
  booking := h.booking
  slot s' hs' := by rw [get?_slots_setHolder, get?_slots_setHolder, h.slot s' hs']
  customers := h.customers
  staff := h.staff

/-- Books that hold the same in the footprint give the same answer, and hold the same in it
afterwards. -/
theorem answer_inside (h : SameIn f v w) (inside : c.Inside f) :
    (v.answer c).1 = (w.answer c).1 ∧ SameIn f (v.answer c).2 (w.answer c).2 := by
  cases c with
  | isAvailable business s | findSlot business s =>
    simp only [answer, slot?, h.slot s inside]
    exact ⟨trivial, h⟩
  | reserve s id =>
    simp only [answer, h.isFree_eq inside]
    split
    · exact ⟨rfl, h.setHolder s _⟩
    · exact ⟨rfl, h⟩
  | release s =>
    have hsame : v.slots.contains s = w.slots.contains s :=
      congrArg Option.isSome (h.slot s inside)
    simp only [answer, hsame]
    split
    · exact ⟨rfl, h.setHolder s _⟩
    · exact ⟨rfl, h⟩
  | customerExists business customer =>
    simp only [answer, h.customers]
    exact ⟨trivial, h⟩
  | countBooking business customer =>
    have ground : ∀ u : World, ∀ k, (u.countBooking business customer).customers.contains k =
        u.customers.contains k := fun u => (sameGround_countBooking u business customer).customers
    simp only [answer, h.customers]
    split
    · exact ⟨rfl, h.booking, h.slot, fun k => by rw [ground, ground, h.customers], h.staff⟩
    · exact ⟨rfl, h⟩
  | staffExists business staff =>
    simp only [answer, h.staff]
    exact ⟨trivial, h⟩
  | insert b =>
    have hrow : v.bookings.get? b.id = w.bookings.get? b.id := inside.1 ▸ h.booking
    have hsame : v.bookings.contains b.id = w.bookings.contains b.id :=
      congrArg Option.isSome hrow
    simp only [answer, hsame]
    split
    · exact ⟨rfl, h⟩
    · rename_i hfresh
      have hfresh := Option.not_isSome_iff_eq_none.1 hfresh
      refine ⟨rfl, ?_, h.slot, h.customers, h.staff⟩
      rw [get?_insert hfresh, get?_insert (hrow.trans hfresh), h.booking]
  | find business id =>
    obtain rfl := inside
    simp only [answer, booking?, h.booking]
    exact ⟨trivial, h⟩
  | replace b expected =>
    have hrow : v.bookings.get? b.id = w.bookings.get? b.id := inside.1 ▸ h.booking
    have hsame : v.accepts b expected = w.accepts b expected := by rw [accepts, accepts, hrow]
    simp only [answer, hsame]
    split
    · refine ⟨rfl, ?_, h.slot, h.customers, h.staff⟩
      rw [get?_replace, get?_replace, h.booking]
    · exact ⟨rfl, h⟩
  | remove business id =>
    obtain rfl := inside
    have hsame : v.booking? business f.booking = w.booking? business f.booking := by
      rw [booking?, booking?, h.booking]
    simp only [answer, hsame]
    split
    · refine ⟨trivial, ?_, h.slot, h.customers, h.staff⟩
      rw [get?_remove, get?_remove, h.booking]
    · exact ⟨trivial, h⟩
  | ofCustomer _ _ | ofStaff _ _ | ofBusiness _ | countStatus _ _ => cases inside

/-- Books that hold the same answer alike and hold the same afterwards. -/
theorem Same.answer (h : Same v w) (inside : c.Inside f) :
    (v.answer c).1 = (w.answer c).1 ∧ Same (v.answer c).2 (w.answer c).2 := by
  obtain ⟨hanswer, hin⟩ := answer_inside (h.sameIn f) inside
  refine ⟨hanswer, fun id => ?_, fun s => ?_, fun k => ?_, hin.staff⟩
  · by_cases hid : id = f.booking
    · exact hid ▸ hin.booking
    · rw [answer_bookings inside hid, answer_bookings inside hid, h.bookings]
  · by_cases hs : f.slot = some s
    · exact hin.slot s hs
    · rw [answer_slots inside hs, answer_slots inside hs, h.slots]
  · rw [answer_customers, answer_customers, h.customers]

/-- Calls with footprints apart can be made in either order. -/
theorem answer_comm (apart : f.Apart g) (hc : c.Inside f) (hd : d.Inside g) :
    ((w.answer c).2.answer d).1 = (w.answer d).1 ∧
      ((w.answer d).2.answer c).1 = (w.answer c).1 ∧
      Same ((w.answer c).2.answer d).2 ((w.answer d).2.answer c).2 := by
  obtain ⟨hanswer, hin⟩ := answer_inside (sameIn_answer (w := w) apart.symm hc) hd
  obtain ⟨hanswer', hin'⟩ := answer_inside (sameIn_answer (w := w) apart hd) hc
  refine ⟨hanswer, hanswer', fun id => ?_, fun s => ?_, fun k => ?_, ?_⟩
  · by_cases hid : id = g.booking
    · subst id
      rw [hin.booking, answer_bookings hc apart.1.symm]
    · rw [answer_bookings hd hid]
      by_cases hid' : id = f.booking
      · subst id
        exact hin'.booking.symm
      · rw [answer_bookings hc hid', answer_bookings hc hid', answer_bookings hd hid]
  · by_cases hs : g.slot = some s
    · rw [hin.slot s hs, answer_slots hc (apart.symm.2 s hs)]
    · rw [answer_slots hd hs]
      by_cases hs' : f.slot = some s
      · exact (hin'.slot s hs').symm
      · rw [answer_slots hc hs', answer_slots hc hs', answer_slots hd hs]
  · simp only [answer_customers, Option.map_map, Function.comp_def, Nat.add_right_comm]
  · simp only [answer_staff]

/-! ## What is found in the footprint -/

theorem Fits.answer (h : w.Fits f) (inside : c.Inside f) :
    c.Fits f (w.answer c).1 ∧ (w.answer c).2.Fits f := by
  refine ⟨?_, fun row hrow => ?_⟩
  · cases c with
    | find business id =>
      obtain rfl := inside
      simp only [World.answer]
      cases hb : w.booking? business f.booking with
      | none => trivial
      | some b => exact h b (booking?_eq_some_iff.1 hb).1
    | _ => trivial
  · cases c with
    | insert b =>
      simp only [World.answer] at hrow
      split at hrow
      · exact h row hrow
      · rename_i hfresh
        rcases (get?_insert_eq_some_iff (Option.not_isSome_iff_eq_none.1 hfresh)).1 hrow with
          ⟨-, rfl⟩ | hrow
        · exact inside
        · exact h row hrow
    | replace b expected =>
      simp only [World.answer] at hrow
      split at hrow
      · rename_i haccepts
        obtain ⟨stored, hstored, -⟩ := accepts_iff.1 haccepts
        rcases (get?_replace_eq_some_iff hstored).1 hrow with ⟨-, rfl⟩ | ⟨-, hrow⟩
        · exact inside
        · exact h row hrow
      · exact h row hrow
    | remove business id =>
      simp only [World.answer] at hrow
      split at hrow
      · exact h row (get?_remove_eq_some_iff.1 hrow).2
      · exact h row hrow
    | reserve _ _ | release _ | countBooking _ _ =>
      simp only [World.answer] at hrow
      split at hrow <;> exact h row hrow
    | _ => exact h row hrow

theorem Fits.answer_apart (h : w.Fits f) (apart : f.Apart g) (inside : c.Inside g) :
    (w.answer c).2.Fits f := by
  intro row hrow
  rw [answer_bookings inside apart.1] at hrow
  exact h row hrow

end World
end BookingDesk
