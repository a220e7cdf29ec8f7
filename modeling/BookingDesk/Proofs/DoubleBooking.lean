import BookingDesk.Proofs.Endangered

/-!
# Double bookings

Requests that leave room for a double booking are double booked in some order of their calls: the
first booking is stored, the second one made, the first one cancelled, the third one made
(`overlap`). Main statement: requests are safe in every order of their calls if and only if they
leave no room for this (`never_doubleBooked_iff`).
-/
namespace BookingDesk

namespace World

/-- The booking is made from start to end, with nobody else about. -/
def book (w : World) (b : Booking) : World :=
  ((w.insert b).setHolder b.slot (some b.id)).countBooking b.business b.customer

/-- The version in which a booking is cancelled is stored, and the slot is released. -/
def cancel (w : World) (b : Booking) : World := (w.replace b).setHolder b.slot none

variable {w : World} {b : Booking}

theorem get?_book (fresh : w.bookings.get? b.id = none) (id : BookingId) :
    (w.book b).bookings.get? id = if id = b.id then some b else w.bookings.get? id := by
  rw [book, bookings_countBooking, bookings_setHolder, get?_insert fresh]

theorem get?_cancel (w : World) (b : Booking) (id : BookingId) :
    (w.cancel b).bookings.get? id =
      if id = b.id then (w.bookings.get? id).map fun _ => b else w.bookings.get? id := by
  rw [cancel, bookings_setHolder, get?_replace]

theorem holder?_cancel (known : (w.slotOf? b.slot).isSome = true) :
    (w.cancel b).holder? b.slot = none := by
  rw [cancel, holder?_setHolder (w := w.replace b) known, if_pos rfl]

theorem sameGround_book (w : World) (b : Booking) : SameGround w (w.book b) :=
  ((sameGround_insert w b).trans (sameGround_setHolder _ _ _)).trans (sameGround_countBooking _ _ _)

theorem sameGround_cancel (w : World) (b : Booking) : SameGround w (w.cancel b) :=
  (sameGround_replace w b).trans (sameGround_setHolder _ _ _)

end World

namespace Stage

variable {w : World} {id : BookingId} {c : CreateBooking} {b : Booking} {ch : Change}

/-- Five turns bring a create to where its booking is stored and has no slot yet. -/
theorem turns_store (hmakes : c.Makes w id b) (free : w.holder? c.slot = none)
    (fresh : w.bookings.get? b.id = none) :
    Interleaving.turns (Stage.turn World.answer) 5 w (Request.create id c).start =
      (reserve b, w.insert b) := by
  obtain ⟨notes, slot, hn, hc, hs, hslot, hown, hb⟩ := hmakes
  have hstart : (Request.create id c).start = askSlot id c notes := by rw [Request.start, hn]
  simp only [Interleaving.turns, hstart, act_askSlot hslot hown free, act_askCustomer hc,
    act_askStaff hs, act_readSlot hslot hown hb, act_insert fresh]

theorem turns_book (hmakes : c.Makes w id b) (free : w.holder? c.slot = none)
    (fresh : w.bookings.get? b.id = none) :
    Interleaving.turns (Stage.turn World.answer) 7 w (Request.create id c).start =
      (booked b, w.book b) := by
  have hknown : ((w.insert b).slotOf? b.slot).isSome = true := hmakes.known.1
  have hfree : (w.insert b).holder? b.slot = none := by
    rw [World.holder?_insert, hmakes.slot_eq, free]
  have hcustomer : ((w.insert b).setHolder b.slot (some b.id)).customers.contains
      (b.business, b.customer) = true := hmakes.known.2
  obtain ⟨notes, slot, hn, hc, hs, hslot, hown, hb⟩ := hmakes
  have hstart : (Request.create id c).start = askSlot id c notes := by rw [Request.start, hn]
  simp only [Interleaving.turns, hstart, act_askSlot hslot hown free, act_askCustomer hc,
    act_askStaff hs, act_readSlot hslot hown hb, act_insert fresh, act_reserve hknown hfree,
    act_count hcustomer, World.book]

theorem turns_cancel (found : w.bookings.get? b.id = some b) (hid : ch.booking = b.id)
    (own : b.business = ch.business) (wanted : ch.wanted = some .cancelled)
    (active : b.status.isActive = true) (known : (w.slotOf? b.slot).isSome = true) :
    Interleaving.turns (Stage.turn World.answer) 3 w (load ch) =
      (changed (ch.result b), w.cancel (ch.result b)) := by
  have hstatus : (ch.result b).status = .cancelled := by
    rw [Change.status_result, wanted, Option.getD_some]
  have hadmitted : ch.admits b.status = true := by
    rw [Change.admits, wanted, Option.all_some]
    revert active
    cases b.status <;> simp [Status.allows, Status.isActive]
  have hreplaced : replaced (ch.result b) b.status = release (ch.result b) := by
    rw [replaced, if_pos (Change.givesUpSlot_iff.2 ⟨active, hstatus⟩)]
  have hfound : w.bookings.get? (ch.result b).id = some b := found
  have hown : b.business = (ch.result b).business := rfl
  have hknown : ((w.replace (ch.result b)).slotOf? (ch.result b).slot).isSome = true := known
  simp only [Interleaving.turns, act_load (hid ▸ found) own hadmitted, act_replace hfound hown rfl,
    hreplaced, act_release hknown, World.cancel]

end Stage

namespace Request

variable {requests : List Request} {w : World} {slot : SlotId} {id : BookingId}
  {business : BusinessId} {i j k l : Nat} {x y z : Booking} {ch : Change}

theorem Offers.makes (h : Offers requests w slot id business) :
    ∃ (i : Nat) (c : CreateBooking) (b : Booking), requests[i]? = some (create id c) ∧
      c.Makes w id b ∧ b.id = id ∧ b.slot = slot ∧ b.business = business := by
  obtain ⟨c, hc, heligible, rfl, rfl⟩ := h
  obtain ⟨i, hi⟩ := List.getElem?_of_mem hc
  obtain ⟨b, hb⟩ := (CreateBooking.exists_makes_iff id).2 heligible
  exact ⟨i, c, b, hi, hb, hb.id_eq, hb.slot_eq, hb.business_eq⟩

/-- The three creates and the request that cancels the first booking, by their places. -/
structure Overlap (requests : List Request) (w : World) (i j k l : Nat) (x y z : Booking)
    (ch : Change) : Prop where
  first : ∃ c, requests[i]? = some (create x.id c) ∧ c.Makes w x.id x
  second : ∃ c, requests[j]? = some (create y.id c) ∧ c.Makes w y.id y
  third : ∃ c, requests[k]? = some (create z.id c) ∧ c.Makes w z.id z
  change : ∃ r, requests[l]? = some r ∧ r.start = .load ch
  cancels : ch.wanted = some .cancelled ∧ x.business = ch.business ∧ ch.booking = x.id
  slots : y.slot = x.slot ∧ z.slot = x.slot
  ids : x.id ≠ y.id ∧ x.id ≠ z.id ∧ y.id ≠ z.id

theorem Endangered.exists_overlap (h : Endangered requests w) :
    ∃ i j k l x y z ch, Overlap requests w i j k l x y z ch := by
  obtain ⟨slot, _, _, _, business, _, _, hxy, hxz, hyz, hx, hy, hz, r, hr, ch, hasks, hwanted,
    rfl, hid⟩ := h
  obtain ⟨i, cx, x, hi, hmx, rfl, rfl, hbusiness⟩ := hx.makes
  obtain ⟨j, cy, y, hj, hmy, rfl, hyslot, -⟩ := hy.makes
  obtain ⟨k, cz, z, hk, hmz, rfl, hzslot, -⟩ := hz.makes
  obtain ⟨l, hl⟩ := List.getElem?_of_mem hr
  exact ⟨i, j, k, l, x, y, z, ch, ⟨cx, hi, hmx⟩, ⟨cy, hj, hmy⟩, ⟨cz, hk, hmz⟩, ⟨r, hl, hasks⟩,
    ⟨hwanted, hbusiness, hid⟩, ⟨hyslot, hzslot⟩, ⟨hxy, hxz, hyz⟩⟩

theorem ne_of_drawn {c c' : CreateBooking} {x y : BookingId} (hne : x ≠ y)
    (hi : requests[i]? = some (create x c)) (hj : requests[j]? = some (create y c')) : i ≠ j := by
  rintro rfl
  rw [hi, Option.some_inj] at hj
  injection hj with hxy
  exact hne hxy

theorem ne_of_load {r : Request} {c : CreateBooking} (hi : requests[i]? = some (create id c))
    (hl : requests[l]? = some r) (asks : r.start = .load ch) : i ≠ l := by
  rintro rfl
  rw [hi, Option.some_inj] at hl
  exact start_ne_load_of_create (hl ▸ asks)

/-- The first booking is stored, the second one is made, the first one is cancelled, and the third
one is made. -/
def overlap (i j k l : Nat) : List Nat :=
  List.replicate 5 i ++ (List.replicate 7 j ++ (List.replicate 3 l ++ List.replicate 7 k))

/-- What the books are after this. -/
def overlapped (w : World) (x y z : Booking) (ch : Change) : World :=
  (((w.insert x).book y).cancel (ch.result x)).book z

/-- The second booking is not there when it is its turn, -/
theorem Overlap.second_unused (h : Overlap requests w i j k l x y z ch)
    (empty : ∀ id, w.bookings.get? id = none) : (w.insert x).bookings.get? y.id = none := by
  obtain ⟨hxy, -, -⟩ := h.ids
  rw [World.get?_insert (empty _), if_neg (Ne.symm hxy), empty]

/-- nor is the third one. -/
theorem Overlap.third_unused (h : Overlap requests w i j k l x y z ch)
    (empty : ∀ id, w.bookings.get? id = none) :
    (((w.insert x).book y).cancel (ch.result x)).bookings.get? z.id = none := by
  obtain ⟨-, hxz, hyz⟩ := h.ids
  rw [World.get?_cancel, Change.id_result, if_neg (Ne.symm hxz),
    World.get?_book (h.second_unused empty), if_neg (Ne.symm hyz), World.get?_insert (empty _),
    if_neg (Ne.symm hxz), empty]

/-- In the end both are. -/
theorem Overlap.get?_overlapped (h : Overlap requests w i j k l x y z ch)
    (empty : ∀ id, w.bookings.get? id = none) :
    (overlapped w x y z ch).bookings.get? y.id = some y ∧
      (overlapped w x y z ch).bookings.get? z.id = some z := by
  obtain ⟨hxy, -, hyz⟩ := h.ids
  have hlast := World.get?_book (h.third_unused empty)
  constructor
  · rw [overlapped, hlast, if_neg hyz, World.get?_cancel, Change.id_result, if_neg (Ne.symm hxy),
      World.get?_book (h.second_unused empty), if_pos rfl]
  · rw [overlapped, hlast, if_pos rfl]

theorem Overlap.play (h : Overlap requests w i j k l x y z ch)
    (empty : ∀ id, w.bookings.get? id = none) (unheld : ∀ s, w.holder? s = none) :
    ((stages requests w).play (Stage.turn World.answer) (overlap i j k l)).world =
        overlapped w x y z ch ∧
      ((stages requests w).play (Stage.turn World.answer) (overlap i j k l)).strands[j]? =
        some (.booked y) ∧
      ((stages requests w).play (Stage.turn World.answer) (overlap i j k l)).strands[k]? =
        some (.booked z) := by
  have hgety := h.second_unused empty
  have hgetz := h.third_unused empty
  obtain ⟨⟨cx, hi, hx⟩, ⟨cy, hj, hy⟩, ⟨cz, hk, hz⟩, ⟨r, hl, asks⟩, ⟨wanted, own, hid⟩,
    ⟨hyslot, hzslot⟩, hxy, hxz, hyz⟩ := h
  have hij := ne_of_drawn hxy hi hj
  have hik := ne_of_drawn hxz hi hk
  have hjk := ne_of_drawn hyz hj hk
  have hil := ne_of_load hi hl asks
  have hjl := ne_of_load hj hl asks
  have hkl := ne_of_load hk hl asks
  have hstart : ∀ (n : Nat) (r : Request), requests[n]? = some r →
      (requests.map start)[n]? = some r.start := by
    intro n r hn
    rw [List.getElem?_map, hn, Option.map_some]
  have hgetx : ((w.insert x).book y).bookings.get? x.id = some x := by
    rw [World.get?_book hgety, if_neg hxy, World.get?_insert (empty _), if_pos rfl]
  have ground₁ := World.sameGround_insert w x
  have ground₂ := ground₁.trans (World.sameGround_book _ y)
  have ground₃ := ground₂.trans (World.sameGround_cancel _ (ch.result x))
  have hknown := (hx.of_sameGround ground₂).known.1
  have hfreez : (((w.insert x).book y).cancel (ch.result x)).holder? cz.slot = none := by
    rw [← hz.slot_eq, hzslot]
    exact World.holder?_cancel hknown
  -- the four parts
  have hfirst : (stages requests w).play (Stage.turn World.answer) (List.replicate 5 i) =
      ⟨w.insert x, (requests.map start).set i (.reserve x)⟩ :=
    Interleaving.play_replicate (hstart i _ hi) (Stage.turns_store hx (unheld _) (empty _))
  have hsecond := Interleaving.play_replicate
    (d := ⟨w.insert x, (requests.map start).set i (.reserve x)⟩)
    ((List.getElem?_set_ne hij).trans (hstart j _ hj))
    (Stage.turns_book (hy.of_sameGround ground₁) (unheld _) hgety)
  have hthird := Interleaving.play_replicate
    (d := ⟨(w.insert x).book y, ((requests.map start).set i (.reserve x)).set j (.booked y)⟩)
    ((List.getElem?_set_ne hjl).trans ((List.getElem?_set_ne hil).trans
      ((hstart l _ hl).trans (congrArg some asks))))
    (Stage.turns_cancel hgetx hid own wanted (by rw [hx.status_eq]; rfl) hknown)
  have hfourth := Interleaving.play_replicate
    (d := ⟨((w.insert x).book y).cancel (ch.result x), (((requests.map start).set i
      (.reserve x)).set j (.booked y)).set l (.changed (ch.result x))⟩)
    ((List.getElem?_set_ne (Ne.symm hkl)).trans ((List.getElem?_set_ne hjk).trans
      ((List.getElem?_set_ne hik).trans (hstart k _ hk))))
    (Stage.turns_book (hz.of_sameGround ground₃) hfreez hgetz)
  rw [overlap, Interleaving.play_append, Interleaving.play_append, Interleaving.play_append,
    hfirst, hsecond, hthird, hfourth]
  refine ⟨rfl, ?_, ?_⟩
  · have hj' : j < (requests.map start).length := (List.getElem?_eq_some_iff.1 (hstart j _ hj)).1
    rw [List.getElem?_set_ne (Ne.symm hjk), List.getElem?_set_ne (Ne.symm hjl),
      List.getElem?_set_self (by simpa using hj')]
  · have hk' : k < (requests.map start).length := (List.getElem?_eq_some_iff.1 (hstart k _ hk)).1
    rw [List.getElem?_set_self (by simpa using hk')]

theorem Overlap.doubleBooked (h : Overlap requests w i j k l x y z ch)
    (empty : ∀ id, w.bookings.get? id = none) (unheld : ∀ s, w.holder? s = none) :
    DoubleBooked requests
      ((courses requests w).play (Course.turn World.answer) (overlap i j k l)) := by
  obtain ⟨hworld, hyover, hzover⟩ := h.play empty unheld
  obtain ⟨hgety, hgetz⟩ := h.get?_overlapped empty
  have halike := play_requests requests w World.answer (overlap i j k l)
  obtain ⟨-, ⟨cy, hj, hy⟩, ⟨cz, hk, hz⟩, -, -, ⟨hyslot, hzslot⟩, -, -, hyz⟩ := h
  refine ⟨y.id, z.id, y, z, hyz, ?_, ?_, by rw [hyslot, hzslot], ?_, ?_, ⟨j, cy, y, hj, ?_⟩,
    ⟨k, cz, z, hk, ?_⟩⟩
  · rw [halike.1, hworld, hgety]
  · rw [halike.1, hworld, hgetz]
  · rw [hy.status_eq]
    rfl
  · rw [hz.status_eq]
    rfl
  · rw [halike.result?_eq, hyover]
    rfl
  · rw [halike.result?_eq, hzover]
    rfl

/-- No order of their calls leads requests to a double booking if and only if they do not leave room
for three creates of one slot of which one is cancelled. -/
theorem never_doubleBooked_iff (apart : (requests.filterMap drawn?).Nodup)
    (empty : ∀ id, w.bookings.get? id = none) (unheld : ∀ s, w.holder? s = none) :
    (∀ schedule, ¬ DoubleBooked requests
      ((courses requests w).play (Course.turn World.answer) schedule)) ↔
      ¬ Endangered requests w := by
  have fresh : Fresh requests w := ⟨apart, fun id _ => empty id⟩
  constructor
  · intro hsafe hendangered
    obtain ⟨i, j, k, l, x, y, z, ch, hoverlap⟩ := hendangered.exists_overlap
    exact hsafe _ (hoverlap.doubleBooked empty unheld)
  · intro hsafe schedule hdouble
    exact hsafe (hdouble.endangered fresh empty schedule)

theorem Offers.mem_drawn (h : Offers requests w slot id business) :
    id ∈ requests.filterMap drawn? := by
  obtain ⟨c, hc, -⟩ := h
  exact List.mem_filterMap.2 ⟨_, hc, rfl⟩

/-- With two creates a cancellation does no harm. -/
theorem never_doubleBooked_two :
    let requests := [create (Sample.name _ 1) Sample.book, create (Sample.name _ 2) Sample.book,
      cancel ⟨Sample.book.business, Sample.name _ 1, Sample.book.requestedAt⟩]
    (requests.filterMap drawn?).Nodup ∧ (∀ id, Sample.world.bookings.get? id = none) ∧
      (∀ s, Sample.world.holder? s = none) ∧
      ∀ schedule, ¬ DoubleBooked requests
        ((courses requests Sample.world).play (Course.turn World.answer) schedule) := by
  intro requests
  have apart : (requests.filterMap drawn?).Nodup := by decide
  refine ⟨apart, fun _ => rfl, Sample.holder?_world,
    (never_doubleBooked_iff apart (fun _ => rfl) Sample.holder?_world).2 ?_⟩
  rintro ⟨slot, x, y, z, _, _, _, hxy, hxz, hyz, hx, hy, hz, -⟩
  have hdrawn : ∀ id, id ∈ requests.filterMap drawn? →
      id = Sample.name _ 1 ∨ id = Sample.name _ 2 := by
    intro id hid
    rcases List.mem_cons.1 hid with h | h
    · exact .inl h
    · exact .inr (List.mem_singleton.1 h)
  rcases hdrawn x hx.mem_drawn with rfl | rfl <;> rcases hdrawn y hy.mem_drawn with rfl | rfl <;>
    rcases hdrawn z hz.mem_drawn with rfl | rfl <;> contradiction

/-- A booking that is cancelled between being stored and taking its slot frees the slot of another
one, and a third one takes it. -/
theorem doubleBooked_of_cancelled_underway :
    ¬ ∀ (requests : List Request) (w : World), (requests.filterMap drawn?).Nodup →
      (∀ id, w.bookings.get? id = none) → (∀ s, w.holder? s = none) → ∀ schedule,
        ¬ DoubleBooked requests
          ((courses requests w).play (Course.turn World.answer) schedule) := by
  intro hsafe
  refine hsafe
    [create (Sample.name _ 1) Sample.book, create (Sample.name _ 2) Sample.book,
      create (Sample.name _ 3) Sample.book,
      cancel ⟨Sample.book.business, Sample.name _ 1, Sample.book.requestedAt⟩]
    Sample.world (by decide) (fun _ => rfl) Sample.holder?_world (overlap 0 1 2 3) ?_
  exact ⟨Sample.name _ 2, Sample.name _ 3, _, _, by decide, rfl, rfl, rfl, rfl, rfl,
    ⟨1, _, _, rfl, rfl⟩, ⟨2, _, _, rfl, rfl⟩⟩

end Request
end BookingDesk
