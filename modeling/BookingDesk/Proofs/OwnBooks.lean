import BookingDesk.Proofs.Books

/-!
# What belongs to a business

All businesses keep their bookings, slots, customers and staff in the same books. The calls that are
made for a business name the business or one of its slots (`Call.Proper`), as long as a slot of a
booking belongs to the business of the booking (`World.SlotsOwn`). Main statements: such a call is
answered the same in all books that agree on what belongs to the business, and they still agree
afterwards (`World.answer_sameFor`); and it leaves what belongs to other businesses as it is
(`World.answer_sameFor_other`).
-/
namespace BookingDesk

/-- The same items, and in the same order if that counts. -/
def SameItems {α : Type} (inOrder : Bool) (l l' : List α) : Prop :=
  l.Perm l' ∧ (inOrder = true → l = l')

namespace SameItems

variable {α β : Type} {inOrder : Bool} {l l' l'' : List α}

theorem refl (l : List α) : SameItems inOrder l l := ⟨.refl l, fun _ => rfl⟩

theorem symm (h : SameItems inOrder l l') : SameItems inOrder l' l :=
  ⟨h.1.symm, fun ho => (h.2 ho).symm⟩

theorem trans (h : SameItems inOrder l l') (g : SameItems inOrder l' l'') :
    SameItems inOrder l l'' :=
  ⟨h.1.trans g.1, fun ho => (h.2 ho).trans (g.2 ho)⟩

theorem map (h : SameItems inOrder l l') (f : α → β) : SameItems inOrder (l.map f) (l'.map f) :=
  ⟨h.1.map f, fun ho => congrArg _ (h.2 ho)⟩

theorem filter (h : SameItems inOrder l l') (p : α → Bool) :
    SameItems inOrder (l.filter p) (l'.filter p) :=
  ⟨h.1.filter p, fun ho => congrArg _ (h.2 ho)⟩

theorem append (h : SameItems inOrder l l') (r : List α) :
    SameItems inOrder (l ++ r) (l' ++ r) :=
  ⟨h.1.append_right r, fun ho => congrArg (· ++ r) (h.2 ho)⟩

theorem mergeSort (h : SameItems inOrder l l') (le : α → α → Bool) :
    SameItems inOrder (l.mergeSort le) (l'.mergeSort le) :=
  ⟨(List.mergeSort_perm l le).trans (h.1.trans (List.mergeSort_perm l' le).symm),
    fun ho => congrArg (·.mergeSort le) (h.2 ho)⟩

end SameItems

namespace World

variable {u v w : World} {inOrder : Bool} {business : BusinessId}

/-- The bookings of a business, with the identifiers under which they stand. -/
def rowsOf (w : World) (business : BusinessId) : List (BookingId × Booking) :=
  w.bookings.entries.filter fun row => row.2.business = business

/-- The books agree on all that belongs to a business: its bookings, its slots and who holds them,
its customers and their numbers of bookings, and its staff. -/
structure SameFor (inOrder : Bool) (business : BusinessId) (v w : World) : Prop where
  bookings : SameItems inOrder (v.rowsOf business) (w.rowsOf business)
  slots : ∀ s, v.slot? business s = w.slot? business s
  customers : ∀ c, v.customers.get? (business, c) = w.customers.get? (business, c)
  staff : ∀ s, v.staff.contains (business, s) = w.staff.contains (business, s)

namespace SameFor

theorem refl (w : World) : SameFor inOrder business w w :=
  ⟨.refl _, fun _ => rfl, fun _ => rfl, fun _ => rfl⟩

theorem symm (h : SameFor inOrder business v w) : SameFor inOrder business w v :=
  ⟨h.bookings.symm, fun s => (h.slots s).symm, fun c => (h.customers c).symm,
    fun s => (h.staff s).symm⟩

theorem trans (h : SameFor inOrder business u v) (g : SameFor inOrder business v w) :
    SameFor inOrder business u w :=
  ⟨h.bookings.trans g.bookings, fun s => (h.slots s).trans (g.slots s),
    fun c => (h.customers c).trans (g.customers c), fun s => (h.staff s).trans (g.staff s)⟩

/-- Books that agree in order agree. -/
theorem of_inOrder (h : SameFor true business v w) : SameFor inOrder business v w :=
  ⟨⟨h.bookings.1, fun _ => h.bookings.2 rfl⟩, h.slots, h.customers, h.staff⟩

end SameFor

/-! ## The rows of a business -/

theorem mem_rowsOf_iff {id : BookingId} {b : Booking} :
    (id, b) ∈ w.rowsOf business ↔ w.bookings.get? id = some b ∧ b.business = business := by
  simp [rowsOf, Table.get?_eq_some_iff]

theorem SameFor.booking?_eq (h : SameFor inOrder business v w) (id : BookingId) :
    v.booking? business id = w.booking? business id := by
  ext b
  rw [booking?_eq_some_iff, booking?_eq_some_iff, ← mem_rowsOf_iff, ← mem_rowsOf_iff]
  exact h.bookings.1.mem_iff

theorem select_eq (w : World) (business : BusinessId) (wanted : Booking → Bool) :
    w.select business wanted = (((w.rowsOf business).map Prod.snd).filter wanted).mergeSort
      fun a b => a.start ≤ b.start := by
  rw [select, rowsOf, Table.values, List.filter_map, List.filter_map, List.filter_filter]
  simp only [Function.comp_def, Bool.and_comm]

theorem countP_eq (w : World) (business : BusinessId) (status : Status) :
    (w.bookings.values.countP fun b => b.business = business && b.status = status) =
      ((w.rowsOf business).map Prod.snd).countP (·.status = status) := by
  rw [rowsOf, Table.values, List.countP_map, List.countP_map, List.countP_filter]
  simp only [Function.comp_def, Bool.and_comm]

theorem rowsOf_insert {b : Booking} (fresh : w.bookings.get? b.id = none) :
    (w.insert b).rowsOf business =
      w.rowsOf business ++ if b.business = business then [(b.id, b)] else [] := by
  rw [rowsOf, insert, Table.insertNew, dif_neg (Table.get?_eq_none_iff.1 fresh), List.filter_append,
    rowsOf]
  by_cases h : b.business = business <;> simp [h]

/-- A new version belongs to the same business as the old one. -/
theorem rowsOf_replace {b stored : Booking} (found : w.bookings.get? b.id = some stored)
    (own : stored.business = b.business) :
    (w.replace b).rowsOf business =
      (w.rowsOf business).map fun row => (row.1, if row.1 = b.id then b else row.2) := by
  rw [rowsOf, replace, Table.modify, List.filter_map, rowsOf]
  refine congrArg _ (List.filter_congr fun row hrow => ?_)
  by_cases hid : row.1 = b.id
  · have hstored : row.2 = stored := by
      have := Table.get?_eq_some_iff.2 (show (row.1, row.2) ∈ w.bookings.entries from hrow)
      rw [hid, found] at this
      exact (Option.some.inj this).symm
    simp [hid, hstored, own]
  · simp [hid]

theorem rowsOf_remove (w : World) (id : BookingId) :
    (w.remove id).rowsOf business = (w.rowsOf business).filter (·.1 ≠ id) := by
  rw [rowsOf, remove, Table.erase, rowsOf, List.filter_filter, List.filter_filter]
  simp only [Bool.and_comm]

theorem slot?_setHolder (w : World) (slot : SlotId) (holder : Option BookingId) (s : SlotId) :
    (w.setHolder slot holder).slot? business s =
      if s = slot then (w.slot? business s).map ({ · with holder }) else w.slot? business s := by
  simp only [slot?, setHolder, Table.get?_modify]
  split
  · cases w.slots.get? s with
    | none => rfl
    | some entry => by_cases h : entry.slot.business = business <;> simp [Option.filter, h]
  · rfl

theorem get?_countBooking (w : World) (business : BusinessId) (customer : CustomerId)
    (k : BusinessId × CustomerId) :
    (w.countBooking business customer).customers.get? k =
      if k = (business, customer) then (w.customers.get? k).map (· + 1)
      else w.customers.get? k := by
  simp only [countBooking, Table.get?_modify]

theorem pairwise_mergeSort_start (l : List Booking) :
    (l.mergeSort fun a b => a.start ≤ b.start).Pairwise fun a b => a.start ≤ b.start := by
  refine (List.pairwise_mergeSort ?_ ?_ l).imp of_decide_eq_true
  · intro a b c hab hbc
    exact decide_eq_true (Instant.le_trans (of_decide_eq_true hab) (of_decide_eq_true hbc))
  · intro a b
    simpa using Instant.le_total a.start b.start

/-- Bookings that are listed in the order of their start have the same starts if they had them
before, in whatever order. -/
theorem starts_eq_of_perm {l l' : List Booking} (h : (l.map (·.start)).Perm (l'.map (·.start))) :
    (l.mergeSort fun a b => a.start ≤ b.start).map (·.start) =
      (l'.mergeSort fun a b => a.start ≤ b.start).map (·.start) := by
  have hsorted : ∀ l : List Booking,
      ((l.mergeSort fun a b => a.start ≤ b.start).map (·.start)).Pairwise (· ≤ ·) :=
    fun l => List.pairwise_map.2 (pairwise_mergeSort_start l)
  refine List.Perm.eq_of_pairwise (fun _ _ _ _ => Instant.le_antisymm) (hsorted l) (hsorted l') ?_
  exact ((List.mergeSort_perm l _).map _).trans (h.trans ((List.mergeSort_perm l' _).map _).symm)

/-- So they have them whichever comes first of those that start together. -/
theorem starts_eq {l l' : List Booking} (h : l.Perm l') :
    (l.mergeSort fun a b => a.start ≤ b.start).map (·.start) =
      (l'.mergeSort fun a b => a.start ≤ b.start).map (·.start) :=
  starts_eq_of_perm (h.map _)

namespace SameFor

theorem insert {b : Booking} (h : SameFor inOrder business v w)
    (hv : v.bookings.get? b.id = none) (hw : w.bookings.get? b.id = none) :
    SameFor inOrder business (v.insert b) (w.insert b) where
  bookings := by
    rw [rowsOf_insert hv, rowsOf_insert hw]
    exact h.bookings.append _
  slots := h.slots
  customers := h.customers
  staff := h.staff

theorem replace {b bv bw : Booking} (h : SameFor inOrder business v w)
    (hv : v.bookings.get? b.id = some bv) (ownv : bv.business = b.business)
    (hw : w.bookings.get? b.id = some bw) (ownw : bw.business = b.business) :
    SameFor inOrder business (v.replace b) (w.replace b) where
  bookings := by
    rw [rowsOf_replace hv ownv, rowsOf_replace hw ownw]
    exact h.bookings.map _
  slots := h.slots
  customers := h.customers
  staff := h.staff

theorem remove (h : SameFor inOrder business v w) (id : BookingId) :
    SameFor inOrder business (v.remove id) (w.remove id) where
  bookings := by
    rw [rowsOf_remove, rowsOf_remove]
    exact h.bookings.filter _
  slots := h.slots
  customers := h.customers
  staff := h.staff

theorem setHolder (h : SameFor inOrder business v w) (s : SlotId) (holder : Option BookingId) :
    SameFor inOrder business (v.setHolder s holder) (w.setHolder s holder) where
  bookings := h.bookings
  slots s' := by rw [slot?_setHolder, slot?_setHolder, h.slots]
  customers := h.customers
  staff := h.staff

theorem countBooking (h : SameFor inOrder business v w) (customer : CustomerId) :
    SameFor inOrder business (v.countBooking business customer)
      (w.countBooking business customer) where
  bookings := h.bookings
  slots := h.slots
  customers c := by rw [get?_countBooking, get?_countBooking, h.customers]
  staff := h.staff

end SameFor

/-! ## Calls that keep to a business -/

/-- The slot belongs to this business. -/
def Owns (w : World) (who : Option BusinessId) (s : SlotId) : Prop :=
  ∃ slot, w.slotOf? s = some slot ∧ who = some slot.business

/-- The slot of every booking belongs to the business of the booking. -/
def SlotsOwn (w : World) : Prop :=
  ∀ id b, w.bookings.get? id = some b → w.Owns (some b.business) b.slot

/-- Whatever stands under one of these identifiers belongs to the business. -/
def KeptFor (w : World) (business : BusinessId) (ids : BookingId → Prop) : Prop :=
  ∀ id, ids id → ∀ b, w.bookings.get? id = some b → b.business = business

theorem Owns.of_sameGround {who : Option BusinessId} {s : SlotId} (h : v.Owns who s)
    (ground : v.SameGround w) : w.Owns who s := by
  obtain ⟨slot, hslot, hwho⟩ := h
  exact ⟨slot, (ground.slots s).trans hslot, hwho⟩

theorem Owns.get?_slots {s : SlotId} (h : w.Owns (some business) s) :
    ∃ entry, w.slots.get? s = some entry ∧ entry.slot.business = business := by
  obtain ⟨slot, hslot, hwho⟩ := h
  obtain ⟨entry, hentry, rfl⟩ := Option.map_eq_some_iff.1 hslot
  exact ⟨entry, hentry, (Option.some.inj hwho).symm⟩

theorem slot?_eq_some_iff {s : SlotId} {entry : SlotEntry} :
    w.slot? business s = some entry ↔
      w.slots.get? s = some entry ∧ entry.slot.business = business := by
  simp [slot?, Option.filter_eq_some_iff]

/-- Books that agree for a business agree on which slots are its own, and on all about them. -/
theorem SameFor.get?_slots (h : SameFor inOrder business v w) {s : SlotId}
    (own : v.Owns (some business) s) : v.slots.get? s = w.slots.get? s := by
  obtain ⟨entry, hentry, hbusiness⟩ := own.get?_slots
  have hslot := (h.slots s).symm.trans (slot?_eq_some_iff.2 ⟨hentry, hbusiness⟩)
  rw [hentry, (slot?_eq_some_iff.1 hslot).1]

end World

/-- The call is made for this business: it names the business, or one of its slots. A booking that
it stores has an identifier that was drawn. -/
def Call.Proper (w : World) (who : Option BusinessId) (drawn : BookingId → Prop) : Call → Prop
  | isAvailable business _ | findSlot business _ | customerExists business _
  | countBooking business _ | staffExists business _ | find business _ | ofCustomer business _
  | ofStaff business _ | ofBusiness business | remove business _ | countStatus business _ =>
    who = some business
  | reserve s _ | release s => w.Owns who s
  | insert b => who = some b.business ∧ w.Owns who b.slot ∧ drawn b.id
  | replace b _ => who = some b.business ∧ w.Owns who b.slot

/-- A slot or a booking that is found belongs to this business. -/
def Call.Honest (w : World) (who : Option BusinessId) : (c : Call) → Answer c → Prop
  | findSlot _ s, .ok (some _) => w.Owns who s
  | find _ _, .ok (some b) => who = some b.business ∧ w.Owns who b.slot
  | _, _ => True

/-- The same list of bookings, or the same error. Bookings that start together may be listed in
another order, unless the order counts. -/
inductive SameListing (inOrder : Bool) {ε : Type} :
    Except ε (List Booking) → Except ε (List Booking) → Prop
  | error (e : ε) : SameListing inOrder (.error e) (.error e)
  | ok {bs bs' : List Booking} (items : SameItems inOrder bs bs')
      (starts : bs.map (·.start) = bs'.map (·.start)) : SameListing inOrder (.ok bs) (.ok bs')

def Call.SameAnswer (inOrder : Bool) : (c : Call) → Answer c → Answer c → Prop
  | ofCustomer _ _, x, y | ofStaff _ _, x, y | ofBusiness _, x, y => SameListing inOrder x y
  | _, x, y => x = y

namespace World

variable {u v w : World} {inOrder : Bool} {business : BusinessId} {who : Option BusinessId}
  {drawn ids : BookingId → Prop} {c : Call}

theorem proper_of_sameGround (h : c.Proper v who drawn) (ground : v.SameGround w) :
    c.Proper w who drawn := by
  cases c with
  | reserve s _ | release s => exact Owns.of_sameGround h ground
  | insert b => exact ⟨h.1, h.2.1.of_sameGround ground, h.2.2⟩
  | replace b _ => exact ⟨h.1, h.2.of_sameGround ground⟩
  | _ => exact h

theorem honest_of_sameGround {answer : Answer c} (h : c.Honest v who answer)
    (ground : v.SameGround w) : c.Honest w who answer := by
  cases c with
  | findSlot _ s =>
    rcases answer with f | _ | slot
    · trivial
    · trivial
    · exact Owns.of_sameGround h ground
  | find _ _ =>
    rcases answer with f | _ | b
    · trivial
    · trivial
    · exact ⟨h.1, h.2.of_sameGround ground⟩
  | _ => trivial

theorem answer_honest (own : w.SlotsOwn) (h : c.Proper w who drawn) :
    c.Honest w who (w.answer c).1 := by
  cases c with
  | findSlot business s =>
    rw [answer_findSlot]
    cases hslot : (w.slotOf? s).filter (·.business = business) with
    | none => trivial
    | some slot =>
      obtain ⟨hslot, hbusiness⟩ := Option.filter_eq_some_iff.1 hslot
      have hbusiness : slot.business = business := by simpa using hbusiness
      exact ⟨slot, hslot, h.trans (congrArg some hbusiness.symm)⟩
  | find business id =>
    rw [answer]
    cases hb : w.booking? business id with
    | none => trivial
    | some b =>
      obtain ⟨hrow, hbusiness⟩ := booking?_eq_some_iff.1 hb
      have hwho : who = some b.business := h.trans (congrArg some hbusiness.symm)
      exact ⟨hwho, hwho ▸ own id b hrow⟩
  | _ => trivial

theorem answer_slotsOwn (own : w.SlotsOwn) (h : c.Proper w who drawn) :
    (w.answer c).2.SlotsOwn := by
  have ground := sameGround_answer w c
  suffices hrows : ∀ id b, (w.answer c).2.bookings.get? id = some b →
      w.Owns (some b.business) b.slot from
    fun id b hrow => (hrows id b hrow).of_sameGround ground
  intro id b hrow
  cases c with
  | insert new =>
    obtain ⟨rfl, hslot, -⟩ := h
    simp only [answer] at hrow
    split at hrow
    · exact own id b hrow
    · rename_i hfresh
      rcases (get?_insert_eq_some_iff (Option.not_isSome_iff_eq_none.1 hfresh)).1 hrow with
        ⟨-, rfl⟩ | hrow
      · exact hslot
      · exact own id b hrow
  | replace new expected =>
    obtain ⟨rfl, hslot⟩ := h
    simp only [answer] at hrow
    split at hrow
    · rename_i haccepts
      obtain ⟨stored, hstored, -⟩ := accepts_iff.1 haccepts
      rcases (get?_replace_eq_some_iff hstored).1 hrow with ⟨-, rfl⟩ | ⟨-, hrow⟩
      · exact hslot
      · exact own id b hrow
    · exact own id b hrow
  | remove business booking =>
    simp only [answer] at hrow
    split at hrow
    · exact own id b (get?_remove_eq_some_iff.1 hrow).2
    · exact own id b hrow
  | reserve _ _ | release _ | countBooking _ _ =>
    simp only [answer] at hrow
    split at hrow <;> exact own id b hrow
  | _ => exact own id b hrow

/-- What stands under identifiers that nobody else draws stays the business's own. -/
theorem answer_keptFor (kept : w.KeptFor business ids) (h : c.Proper w who drawn)
    (apart : who = some business ∨ ∀ id, ids id → ¬ drawn id) :
    (w.answer c).2.KeptFor business ids := by
  intro id hid b hrow
  cases c with
  | insert new =>
    obtain ⟨hwho, -, hdrawn⟩ := h
    simp only [answer] at hrow
    split at hrow
    · exact kept id hid b hrow
    · rename_i hfresh
      rcases (get?_insert_eq_some_iff (Option.not_isSome_iff_eq_none.1 hfresh)).1 hrow with
        ⟨rfl, rfl⟩ | hrow
      · rcases apart with hmine | hother
        · exact Option.some.inj (hwho.symm.trans hmine)
        · exact absurd hdrawn (hother _ hid)
      · exact kept id hid b hrow
  | replace new expected =>
    simp only [answer] at hrow
    split at hrow
    · rename_i haccepts
      obtain ⟨stored, hstored, hown, -⟩ := accepts_iff.1 haccepts
      rcases (get?_replace_eq_some_iff hstored).1 hrow with ⟨rfl, rfl⟩ | ⟨-, hrow⟩
      · exact hown.symm.trans (kept _ hid stored hstored)
      · exact kept id hid b hrow
    · exact kept id hid b hrow
  | remove _ _ =>
    simp only [answer] at hrow
    split at hrow
    · exact kept id hid b (get?_remove_eq_some_iff.1 hrow).2
    · exact kept id hid b hrow
  | reserve _ _ | release _ | countBooking _ _ =>
    simp only [answer] at hrow
    split at hrow <;> exact kept id hid b hrow
  | _ => exact kept id hid b hrow

/-! ## Two books that agree for a business -/

namespace SameFor

theorem contains_customers (h : SameFor inOrder business v w) (c : CustomerId) :
    v.customers.contains (business, c) = w.customers.contains (business, c) :=
  congrArg Option.isSome (h.customers c)

theorem isFree_eq (h : SameFor inOrder business v w) {s : SlotId}
    (own : v.Owns (some business) s) : v.isFree s = w.isFree s := by
  rw [isFree, isFree, h.get?_slots own]

theorem accepts_eq (h : SameFor inOrder business v w) {b : Booking} (own : b.business = business)
    (expected : Status) : v.accepts b expected = w.accepts b expected := by
  rw [Bool.eq_iff_iff, accepts_iff, accepts_iff]
  subst business
  have hfound : ∀ stored, (v.bookings.get? b.id = some stored ∧ stored.business = b.business) ↔
      (w.bookings.get? b.id = some stored ∧ stored.business = b.business) := by
    intro stored
    rw [← booking?_eq_some_iff, ← booking?_eq_some_iff, h.booking?_eq]
  simp only [← and_assoc, hfound]

theorem get?_bookings (h : SameFor inOrder business v w) (keptv : v.KeptFor business ids)
    (keptw : w.KeptFor business ids) {id : BookingId} (hid : ids id) :
    v.bookings.get? id = w.bookings.get? id := by
  have hall : ∀ u : World, u.KeptFor business ids →
      u.booking? business id = u.bookings.get? id := by
    intro u kept
    ext b
    exact booking?_eq_some_iff.trans ⟨And.left, fun hb => ⟨hb, kept id hid b hb⟩⟩
  rw [← hall v keptv, ← hall w keptw, h.booking?_eq]

theorem select_same {ε : Type} (h : SameFor inOrder business v w) (wanted : Booking → Bool) :
    SameListing inOrder (ε := ε) (.ok (v.select business wanted))
      (.ok (w.select business wanted)) := by
  have hlists := (h.bookings.map Prod.snd).filter wanted
  rw [select_eq, select_eq]
  exact .ok (hlists.mergeSort _) (starts_eq hlists.1)

end SameFor

/-- A call for a business is answered the same by books that agree for it, and they agree
afterwards. -/
theorem answer_sameFor (h : SameFor inOrder business v w)
    (proper : c.Proper v (some business) drawn) (keptv : v.KeptFor business drawn)
    (keptw : w.KeptFor business drawn) :
    c.SameAnswer inOrder (v.answer c).1 (w.answer c).1 ∧
      SameFor inOrder business (v.answer c).2 (w.answer c).2 := by
  cases c with
  | isAvailable _ s | findSlot _ s =>
    cases proper
    simp only [answer, h.slots]
    exact ⟨rfl, h⟩
  | reserve s id =>
    simp only [answer, h.isFree_eq proper]
    split
    · exact ⟨rfl, h.setHolder s _⟩
    · exact ⟨rfl, h⟩
  | release s =>
    have hsame : v.slots.contains s = w.slots.contains s :=
      congrArg Option.isSome (h.get?_slots proper)
    simp only [answer, hsame]
    split
    · exact ⟨rfl, h.setHolder s _⟩
    · exact ⟨rfl, h⟩
  | customerExists _ customer =>
    cases proper
    simp only [answer, h.contains_customers]
    exact ⟨rfl, h⟩
  | countBooking _ customer =>
    cases proper
    simp only [answer, h.contains_customers]
    split
    · exact ⟨rfl, h.countBooking customer⟩
    · exact ⟨rfl, h⟩
  | staffExists _ staff =>
    cases proper
    simp only [answer, h.staff]
    exact ⟨rfl, h⟩
  | insert b =>
    have hsame := h.get?_bookings keptv keptw proper.2.2
    have hcontains : v.bookings.contains b.id = w.bookings.contains b.id :=
      congrArg Option.isSome hsame
    simp only [answer, hcontains]
    split
    · exact ⟨rfl, h⟩
    · rename_i hfresh
      have hfresh := Option.not_isSome_iff_eq_none.1 hfresh
      exact ⟨rfl, h.insert (hsame.trans hfresh) hfresh⟩
  | find _ id =>
    cases proper
    simp only [answer, h.booking?_eq]
    exact ⟨rfl, h⟩
  | ofCustomer _ _ | ofStaff _ _ | ofBusiness _ =>
    cases proper
    exact ⟨h.select_same _, h⟩
  | replace b expected =>
    have hsame := h.accepts_eq (Option.some.inj proper.1).symm expected
    simp only [answer, hsame]
    split
    · rename_i haccepts
      obtain ⟨bw, hw, ownw, -⟩ := accepts_iff.1 haccepts
      obtain ⟨bv, hv, ownv, -⟩ := accepts_iff.1 (hsame.trans haccepts)
      exact ⟨rfl, h.replace hv ownv hw ownw⟩
    · exact ⟨rfl, h⟩
  | remove _ id =>
    cases proper
    simp only [answer, h.booking?_eq]
    split
    · exact ⟨rfl, h.remove id⟩
    · exact ⟨rfl, h⟩
  | countStatus _ status =>
    cases proper
    simp only [answer, countP_eq]
    exact ⟨congrArg _ ((h.bookings.map Prod.snd).1.countP_eq _), h⟩

/-! ## What calls for others leave -/

theorem rowsOf_ne {id : BookingId} {b : Booking} (found : w.bookings.get? id = some b)
    (other : b.business ≠ business) {row : BookingId × Booking} (hrow : row ∈ w.rowsOf business) :
    row.1 ≠ id := by
  rintro rfl
  obtain ⟨hrow, hown⟩ := mem_rowsOf_iff.1 hrow
  rw [found, Option.some_inj] at hrow
  exact other (hrow ▸ hown)

theorem sameFor_addSlot (w : World) {slot : Slot} (other : slot.business ≠ business) :
    SameFor true business w (w.addSlot slot) := by
  refine ⟨.refl _, fun s => ?_, fun _ => rfl, fun _ => rfl⟩
  rw [slot?, slot?, addSlot, Table.get?_insertNew]
  split
  · subst s
    cases w.slots.get? slot.id <;> simp [Option.filter, other]
  · rfl

theorem sameFor_addCustomer (w : World) {their : BusinessId} (other : their ≠ business)
    (customer : CustomerId) : SameFor true business w (w.addCustomer their customer) := by
  refine ⟨.refl _, fun _ => rfl, fun c => ?_, fun _ => rfl⟩
  have hne : (business, c) ≠ (their, customer) := by
    rintro ⟨⟩
    exact other rfl
  rw [addCustomer, Table.get?_insertNew, if_neg hne]

theorem sameFor_addStaff (w : World) {their : BusinessId} (other : their ≠ business)
    (staff : StaffId) : SameFor true business w (w.addStaff their staff) := by
  refine ⟨.refl _, fun _ => rfl, fun _ => rfl, fun s => ?_⟩
  have hne : (business, s) ≠ (their, staff) := by
    rintro ⟨⟩
    exact other rfl
  rw [Table.contains, Table.contains, addStaff, Table.get?_insertNew, if_neg hne]

theorem sameFor_setHolder {s : SlotId} (own : w.Owns who s) (other : who ≠ some business)
    (holder : Option BookingId) : SameFor true business w (w.setHolder s holder) where
  bookings := .refl _
  slots s' := by
    rw [slot?_setHolder]
    split
    · rename_i hs
      have hnone : w.slot? business s' = none := by
        rw [Option.eq_none_iff_forall_ne_some]
        intro entry hentry
        obtain ⟨hentry, hbusiness⟩ := slot?_eq_some_iff.1 hentry
        obtain ⟨slot, hslot, hwho⟩ := own
        rw [slotOf?, ← hs, hentry] at hslot
        cases hslot
        exact other (hwho.trans (congrArg some hbusiness))
      rw [hnone]
      rfl
    · rfl
  customers _ := rfl
  staff _ := rfl

/-- A call for others changes nothing that belongs to the business. -/
theorem answer_sameFor_other (proper : c.Proper w who drawn) (other : who ≠ some business) :
    SameFor true business w (w.answer c).2 := by
  cases c with
  | reserve s _ | release s =>
    simp only [answer]
    split
    · exact sameFor_setHolder proper other _
    · exact .refl w
  | countBooking their customer =>
    simp only [answer]
    split
    · refine ⟨.refl _, fun _ => rfl, fun c => ?_, fun _ => rfl⟩
      have hne : (business, c) ≠ (their, customer) := by
        rintro ⟨⟩
        exact other proper
      rw [get?_countBooking, if_neg hne]
    · exact .refl w
  | insert b =>
    simp only [answer]
    split
    · exact .refl w
    · rename_i hfresh
      refine ⟨?_, fun _ => rfl, fun _ => rfl, fun _ => rfl⟩
      have hother : b.business ≠ business := fun h => other (h ▸ proper.1)
      rw [rowsOf_insert (Option.not_isSome_iff_eq_none.1 hfresh), if_neg hother, List.append_nil]
      exact .refl _
  | replace b expected =>
    simp only [answer]
    split
    · rename_i haccepts
      obtain ⟨stored, hstored, hown, -⟩ := accepts_iff.1 haccepts
      refine ⟨?_, fun _ => rfl, fun _ => rfl, fun _ => rfl⟩
      have hother : stored.business ≠ business := fun h => other (h ▸ hown ▸ proper.1)
      have hsame : ∀ row ∈ w.rowsOf business, (row.1, if row.1 = b.id then b else row.2) = row :=
        fun row hrow => by rw [if_neg (rowsOf_ne hstored hother hrow)]
      rw [rowsOf_replace hstored hown, List.map_congr_left hsame, List.map_id']
      exact .refl _
    · exact .refl w
  | remove their id =>
    simp only [answer]
    split
    · rename_i hfound
      obtain ⟨b, hb⟩ := Option.isSome_iff_exists.1 hfound
      obtain ⟨hrow, hown⟩ := booking?_eq_some_iff.1 hb
      refine ⟨?_, fun _ => rfl, fun _ => rfl, fun _ => rfl⟩
      have hother : b.business ≠ business := fun h => other (h ▸ hown ▸ proper)
      have hsame : (w.rowsOf business).filter (·.1 ≠ id) = w.rowsOf business :=
        List.filter_eq_self.2 fun row hrow' => decide_eq_true (rowsOf_ne hrow hother hrow')
      rw [rowsOf_remove, hsame]
      exact .refl _
    · exact .refl w
  | _ => exact .refl w

end World
end BookingDesk
