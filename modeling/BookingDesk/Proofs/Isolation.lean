import BookingDesk.Proofs.Within

/-!
# Businesses do not see each other

Errands of one business are run among errands of others, over books that all of them share. What
the business is told, and what becomes of all that belongs to it, hangs only on its own part of the
books and on its own errands. The proof runs two desks side by side that agree on the part of the
business (`Matched`); a turn for another business is taken on one of them only. Main statement:
`noninterference`.
-/
namespace BookingDesk

/-- Books that come about by filling them and by running errands, whether or not all of these have
come to an end. -/
inductive World.Reachable : World → Prop
  | empty : Reachable .empty
  | addSlot {w} (slot : Slot) : Reachable w → Reachable (w.addSlot slot)
  | addCustomer {w} (business : BusinessId) (customer : CustomerId) :
      Reachable w → Reachable (w.addCustomer business customer)
  | addStaff {w} (business : BusinessId) (staff : StaffId) :
      Reachable w → Reachable (w.addStaff business staff)
  | run {w} (errands : List Errand) (schedule : List Nat) : Reachable w →
      Reachable ((Errand.courses errands w).play (Course.turn World.answer) schedule).world

/-! ## Errands that are run -/

namespace Errand

/-- Every strand keeps to the business of its errand, and so does every booking. -/
structure Confined (errands : List Errand) (w : World) (inOrder : Bool)
    (d : Interleaving (Course Receipt)) : Prop where
  ground : w.SameGround d.world
  own : d.world.SlotsOwn
  length : d.strands.length = errands.length
  within : ∀ {i : Nat} {e c}, errands[i]? = some e → d.strands[i]? = some c →
    c.Within w e.business? (e.drawn? = some ·) inOrder (Receipt.Same inOrder)

variable {errands : List Errand} {w : World} {inOrder : Bool} {d : Interleaving (Course Receipt)}
  {i : Nat} {c : Course Receipt}

theorem confined_courses (errands : List Errand) (own : w.SlotsOwn) :
    Confined errands w inOrder (courses errands w) where
  ground := .refl w
  own := own
  length := by simp [courses]
  within {i e c} he hc := by
    rw [courses, List.getElem?_map, he] at hc
    cases hc
    exact e.within

theorem Confined.errand (h : Confined errands w inOrder d) (hc : d.strands[i]? = some c) :
    ∃ e, errands[i]? = some e := by
  have hi : i < errands.length := h.length ▸ (List.getElem?_eq_some_iff.1 hc).1
  exact ⟨errands[i], List.getElem?_eq_getElem hi⟩

/-- The next call is made for the business of the errand. -/
theorem Confined.proper {e : Errand} {call : Call} {next : Answer call → Course Receipt}
    (h : Confined errands w inOrder d) (he : errands[i]? = some e)
    (hc : d.strands[i]? = some (.calling call next)) :
    call.Proper d.world e.business? (e.drawn? = some ·) :=
  World.proper_of_sameGround (h.within he hc).1 h.ground

theorem Confined.turn (h : Confined errands w inOrder d) (i : Nat) :
    Confined errands w inOrder (d.turn (Course.turn World.answer) i) := by
  obtain heq | ⟨call, next, hc, heq⟩ := d.turn_cases World.answer i
  · rwa [heq]
  · obtain ⟨e, he⟩ := h.errand hc
    have proper := h.proper he hc
    rw [heq]
    refine ⟨h.ground.trans (World.sameGround_answer d.world call),
      World.answer_slotsOwn h.own proper, ?_, fun {j ej cj} hej hcj => ?_⟩
    · rw [List.length_set, h.length]
    · rcases (Interleaving.getElem?_set_eq_some_iff hc).1 hcj with ⟨rfl, rfl⟩ | ⟨-, hcj⟩
      · rw [he, Option.some_inj] at hej
        subst ej
        have honest := World.answer_honest h.own proper
        exact (h.within he hc).2.2 _ (World.honest_of_sameGround honest h.ground.symm)
      · exact h.within hej hcj

theorem Confined.play (h : Confined errands w inOrder d) (schedule : List Nat) :
    Confined errands w inOrder (d.play (Course.turn World.answer) schedule) :=
  Interleaving.play_keeps _ (fun _ i _ h _ => h.turn i) h schedule

end Errand

/-- Wherever the books come from, the slot of each booking belongs to the business of the
booking. -/
theorem World.Reachable.slotsOwn {w : World} (h : w.Reachable) : w.SlotsOwn := by
  induction h with
  | empty => exact nofun
  | addSlot slot _ ih =>
    intro id b hrow
    obtain ⟨known, hknown, hwho⟩ := ih id b hrow
    refine ⟨known, ?_, hwho⟩
    obtain ⟨entry, hentry, hslot⟩ := Option.map_eq_some_iff.1 hknown
    rw [slotOf?, World.addSlot, Table.get?_insertNew]
    split
    · rename_i hs
      rw [← hs, hentry, Option.getD_some, Option.map_some, hslot]
    · rw [hentry, Option.map_some, hslot]
  | addCustomer _ _ _ ih | addStaff _ _ _ ih => exact ih
  | run errands schedule _ ih =>
    have confined : Errand.Confined errands _ true _ := Errand.confined_courses errands ih
    exact (confined.play schedule).own

/-! ## One business among others -/

namespace Errand

/-- Errands of one business among errands of others. Identifiers that are drawn for the business are
drawn for no other one, and no booking of another one has them. -/
structure Separate (business : BusinessId) (mine theirs : List Errand) (w : World) : Prop where
  reachable : w.Reachable
  own : ∀ e ∈ mine, e.business? = some business
  others : ∀ e ∈ theirs, e.business? ≠ some business
  apart : ∀ id ∈ mine.filterMap drawn?, ∀ e ∈ theirs, e.drawn? ≠ some id
  kept : w.KeptFor business (· ∈ mine.filterMap drawn?)

/-- They are being run, and the identifiers that are drawn for the business are still its own. -/
structure Sharing (business : BusinessId) (mine theirs : List Errand) (w : World)
    (inOrder : Bool) (d : Interleaving (Course Receipt)) : Prop where
  separate : Separate business mine theirs w
  confined : Confined (mine ++ theirs) w inOrder d
  kept : d.world.KeptFor business (· ∈ mine.filterMap drawn?)

variable {business : BusinessId} {mine theirs theirs' : List Errand} {v w : World}
  {inOrder : Bool} {d d' : Interleaving (Course Receipt)} {i : Nat}

theorem Separate.sharing (h : Separate business mine theirs w) :
    Sharing business mine theirs w inOrder (courses (mine ++ theirs) w) :=
  ⟨h, confined_courses _ h.reachable.slotsOwn, h.kept⟩

namespace Sharing

theorem mine_or_theirs {e : Errand} (h : Sharing business mine theirs w inOrder d)
    (he : (mine ++ theirs)[i]? = some e) :
    i < mine.length ∧ e.business? = some business ∧
        (∀ id, e.drawn? = some id → id ∈ mine.filterMap drawn?) ∨
      mine.length ≤ i ∧ e.business? ≠ some business ∧
        ∀ id ∈ mine.filterMap drawn?, e.drawn? ≠ some id := by
  by_cases hi : i < mine.length
  · rw [List.getElem?_append_left hi] at he
    have hmem := List.mem_of_getElem? he
    exact .inl ⟨hi, h.separate.own e hmem, fun id hid => List.mem_filterMap.2 ⟨e, hmem, hid⟩⟩
  · have hi : mine.length ≤ i := by omega
    rw [List.getElem?_append_right hi] at he
    have hmem := List.mem_of_getElem? he
    exact .inr ⟨hi, h.separate.others e hmem, fun id hid => h.separate.apart id hid e hmem⟩

theorem turn (h : Sharing business mine theirs w inOrder d) (i : Nat) :
    Sharing business mine theirs w inOrder (d.turn (Course.turn World.answer) i) := by
  refine ⟨h.separate, h.confined.turn i, ?_⟩
  obtain heq | ⟨call, next, hc, heq⟩ := d.turn_cases World.answer i
  · rw [heq]
    exact h.kept
  · obtain ⟨e, he⟩ := h.confined.errand hc
    rw [heq]
    refine World.answer_keptFor h.kept (h.confined.proper he hc) ?_
    rcases h.mine_or_theirs he with ⟨-, hbusiness, -⟩ | ⟨-, -, hdrawn⟩
    · exact .inl hbusiness
    · exact .inr hdrawn

theorem play (h : Sharing business mine theirs w inOrder d) (schedule : List Nat) :
    Sharing business mine theirs w inOrder (d.play (Course.turn World.answer) schedule) :=
  Interleaving.play_keeps _ (fun _ i _ h _ => h.turn i) h schedule

/-- A turn for another business leaves what belongs to this one as it is. -/
theorem turn_other (h : Sharing business mine theirs w inOrder d) (hi : mine.length ≤ i) :
    d.world.SameFor true business (d.turn (Course.turn World.answer) i).world := by
  obtain heq | ⟨call, next, hc, heq⟩ := d.turn_cases World.answer i
  · rw [heq]
    exact .refl _
  · obtain ⟨e, he⟩ := h.confined.errand hc
    rw [heq]
    rcases h.mine_or_theirs he with ⟨hlt, -⟩ | ⟨-, hother, -⟩
    · omega
    · exact World.answer_sameFor_other (h.confined.proper he hc) hother

end Sharing

/-- The two desks agree on all that belongs to the business, and on how far each of its first `n`
strands has come. -/
structure Matched (business : BusinessId) (inOrder : Bool) (n : Nat)
    (d d' : Interleaving (Course Receipt)) : Prop where
  world : d.world.SameFor inOrder business d'.world
  strands : ∀ i < n, ∃ c c', d.strands[i]? = some c ∧ d'.strands[i]? = some c' ∧
    c.Agree (Receipt.Same inOrder) c'

namespace Matched

/-- A turn for others on one of the desks changes nothing. -/
theorem turn_other_left (h : Matched business inOrder mine.length d d')
    (sharing : Sharing business mine theirs w inOrder d) (hi : mine.length ≤ i) :
    Matched business inOrder mine.length (d.turn (Course.turn World.answer) i) d' := by
  refine ⟨(sharing.turn_other hi).symm.of_inOrder.trans h.world, fun j hj => ?_⟩
  obtain ⟨c, c', hc, hc', hagree⟩ := h.strands j hj
  exact ⟨c, c', by rw [Interleaving.getElem?_turn_of_ne (by omega), hc], hc', hagree⟩

/-- A turn for others on the other desk changes nothing either. -/
theorem turn_other_right (h : Matched business inOrder mine.length d d')
    (sharing : Sharing business mine theirs w inOrder d') (hi : mine.length ≤ i) :
    Matched business inOrder mine.length d (d'.turn (Course.turn World.answer) i) := by
  refine ⟨h.world.trans (sharing.turn_other hi).of_inOrder, fun j hj => ?_⟩
  obtain ⟨c, c', hc, hc', hagree⟩ := h.strands j hj
  exact ⟨c, c', hc, by rw [Interleaving.getElem?_turn_of_ne (by omega), hc'], hagree⟩

/-- A turn for the business is the same on both desks. -/
theorem turn (h : Matched business inOrder mine.length d d')
    (sharing : Sharing business mine theirs v inOrder d)
    (sharing' : Sharing business mine theirs' w inOrder d') (hi : i < mine.length) :
    Matched business inOrder mine.length (d.turn (Course.turn World.answer) i)
      (d'.turn (Course.turn World.answer) i) := by
  obtain ⟨c, c', hc, hc', rfl | ⟨a, b, rfl, rfl, hab⟩⟩ := h.strands i hi
  · cases c with
    | ended r => rwa [Interleaving.turn_of_ended hc, Interleaving.turn_of_ended hc']
    | calling call next =>
      obtain ⟨e, he⟩ := sharing.confined.errand hc
      rcases sharing.mine_or_theirs he with ⟨-, hbusiness, hdrawn⟩ | ⟨hle, -⟩
      · have proper := sharing.confined.proper he hc
        rw [hbusiness] at proper
        obtain ⟨hanswer, hworld⟩ := World.answer_sameFor h.world proper
          (fun id hid => sharing.kept id (hdrawn id hid))
          (fun id hid => sharing'.kept id (hdrawn id hid))
        have hagree := (sharing.confined.within he hc).2.1 _ _ hanswer
        rw [Interleaving.turn_of_some hc, Interleaving.turn_of_some hc']
        refine ⟨hworld, fun j hj => ?_⟩
        by_cases hji : j = i
        · subst j
          exact ⟨_, _, (Interleaving.getElem?_set_eq_some_iff hc).2 (.inl ⟨rfl, rfl⟩),
            (Interleaving.getElem?_set_eq_some_iff hc').2 (.inl ⟨rfl, rfl⟩), hagree⟩
        · obtain ⟨cj, cj', hcj, hcj', hagree⟩ := h.strands j hj
          exact ⟨cj, cj', (Interleaving.getElem?_set_eq_some_iff hc).2 (.inr ⟨hji, hcj⟩),
            (Interleaving.getElem?_set_eq_some_iff hc').2 (.inr ⟨hji, hcj'⟩), hagree⟩
      · omega
  · rwa [Interleaving.turn_of_ended hc, Interleaving.turn_of_ended hc']

theorem play_others {schedule : List Nat} (h : Matched business inOrder mine.length d d')
    (sharing : Sharing business mine theirs w inOrder d')
    (others : ∀ i ∈ schedule, mine.length ≤ i) :
    Matched business inOrder mine.length d (d'.play (Course.turn World.answer) schedule) := by
  induction schedule generalizing d' with
  | nil => exact h
  | cons i rest ih =>
    have hi := others i List.mem_cons_self
    exact ih (h.turn_other_right sharing hi) (sharing.turn i)
      fun j hj => others j (List.mem_cons_of_mem i hj)

/-- If the turns for the business come in the same order on both desks, the desks stay matched,
whichever turns for others come between them. -/
theorem play {s s' : List Nat} (h : Matched business inOrder mine.length d d')
    (sharing : Sharing business mine theirs v inOrder d)
    (sharing' : Sharing business mine theirs' w inOrder d')
    (turns : s.filter (· < mine.length) = s'.filter (· < mine.length)) :
    Matched business inOrder mine.length (d.play (Course.turn World.answer) s)
      (d'.play (Course.turn World.answer) s') := by
  induction s generalizing d d' s' with
  | nil =>
    refine h.play_others sharing' fun i hi => ?_
    have hnot := List.filter_eq_nil_iff.1 turns.symm i hi
    simpa using hnot
  | cons i rest ih =>
    by_cases hi : i < mine.length
    · -- the same turn comes on the other desk, after some for others
      rw [List.filter_cons_of_pos (by simpa using hi)] at turns
      obtain ⟨before, after, rfl, hbefore, -, hrest⟩ := List.filter_eq_cons_iff.1 turns.symm
      have hothers : ∀ j ∈ before, mine.length ≤ j := fun j hj => by simpa using hbefore j hj
      have sharing'' := sharing'.play before
      rw [Interleaving.play_append, Interleaving.play_cons, Interleaving.play_cons]
      exact ih ((h.play_others sharing' hothers).turn sharing sharing'' hi) (sharing.turn i)
        (sharing''.turn i) hrest.symm
    · rw [List.filter_cons_of_neg (by simpa using hi)] at turns
      exact ih (h.turn_other_left sharing (by omega)) (sharing.turn i) sharing' turns

end Matched

/-- What errands of a business come to, and what becomes of all that belongs to it, hangs only on
what belongs to it: other businesses may have any bookings, slots, customers and staff, and run any
errands at any time. None of their calls changes anything of this business. If its bookings agree in
their order too, the results are equal (`Receipt.same_true_iff`); otherwise lists may differ in the
order of bookings that start together. -/
theorem noninterference (hv : Separate business mine theirs v)
    (hw : Separate business mine theirs' w)
    (agree : v.SameFor inOrder business w) {s s' : List Nat}
    (turns : s.filter (· < mine.length) = s'.filter (· < mine.length)) :
    let d := (courses (mine ++ theirs) v).play (Course.turn World.answer) s
    let d' := (courses (mine ++ theirs') w).play (Course.turn World.answer) s'
    (∀ i < mine.length, Option.Rel (Receipt.Same inOrder) (d.result? i) (d'.result? i)) ∧
      d.world.SameFor inOrder business d'.world ∧
      ∀ i, mine.length ≤ i →
        d.world.SameFor true business (d.turn (Course.turn World.answer) i).world := by
  intro d d'
  have sharing : Sharing business mine theirs v inOrder _ := hv.sharing
  have sharing' : Sharing business mine theirs' w inOrder _ := hw.sharing
  have start : Matched business inOrder mine.length (courses (mine ++ theirs) v)
      (courses (mine ++ theirs') w) := by
    refine ⟨agree, fun i hi => ⟨mine[i].service.course, mine[i].service.course, ?_, ?_, .inl rfl⟩⟩
    · simp [courses, List.getElem?_append_left, hi]
    · simp [courses, List.getElem?_append_left, hi]
  have hmatched := start.play sharing sharing' turns
  refine ⟨fun i hi => ?_, hmatched.world, fun i hi => (sharing.play s).turn_other hi⟩
  obtain ⟨c, c', hc, hc', hagree⟩ := hmatched.strands i hi
  rw [Interleaving.result?, Interleaving.result?, hc, hc']
  obtain rfl | ⟨a, b, rfl, rfl, hab⟩ := hagree
  · cases c with
    | ended r => exact .some (.refl r)
    | calling _ _ => exact .none
  · exact .some hab

/-- On one desk another business asks in vain for a slot of this one; on the other desk it has a
slot of its own and books it. -/
theorem noninterference_two_desks :
    let slot : Slot := { Sample.slot with id := Sample.name _ 2, business := Sample.name _ 2 }
    let v := Sample.world
    let w := ((v.addSlot slot).addCustomer slot.business (Sample.name _ 1)).addStaff slot.business
      (Sample.name _ 1)
    let mine := [request (.create (Sample.name _ 1) Sample.book),
      question (.booking Sample.book.business (Sample.name _ 1))]
    let theirs :=
      [request (.create (Sample.name _ 2) { Sample.book with business := slot.business })]
    let theirs' := [request (.create (Sample.name _ 3)
      { Sample.book with business := slot.business, slot := slot.id })]
    let d := (courses (mine ++ theirs) v).play (Course.turn World.answer)
      [0, 2, 0, 0, 0, 0, 0, 0, 1]
    let d' := (courses (mine ++ theirs') w).play (Course.turn World.answer)
      [2, 2, 2, 2, 0, 2, 0, 0, 0, 0, 2, 0, 0, 1, 2]
    Separate Sample.book.business mine theirs v ∧ Separate Sample.book.business mine theirs' w ∧
      v.SameFor true Sample.book.business w ∧ Option.Rel (Receipt.Same true) (d.result? 1)
        (d'.result? 1) ∧ d.world.SameFor true Sample.book.business d'.world := by
  intro slot v w mine theirs theirs' d d'
  have hv : v.Reachable := (((World.Reachable.empty).addSlot _).addCustomer _ _).addStaff _ _
  have hw : w.Reachable := ((hv.addSlot _).addCustomer _ _).addStaff _ _
  have separate : Separate Sample.book.business mine theirs v :=
    ⟨hv, by decide, by decide, by decide, nofun⟩
  have separate' : Separate Sample.book.business mine theirs' w :=
    ⟨hw, by decide, by decide, by decide, nofun⟩
  have agree : v.SameFor true Sample.book.business w :=
    ((World.sameFor_addSlot v (by decide)).trans (World.sameFor_addCustomer _ (by decide) _)).trans
      (World.sameFor_addStaff _ (by decide) _)
  obtain ⟨hresults, hworld, -⟩ := noninterference separate separate' agree
    (show [0, 2, 0, 0, 0, 0, 0, 0, 1].filter (· < mine.length) =
      [2, 2, 2, 2, 0, 2, 0, 0, 0, 0, 2, 0, 0, 1, 2].filter (· < mine.length) by decide)
  exact ⟨separate, separate', agree, hresults 1 (by decide), hworld⟩

end Errand
end BookingDesk
