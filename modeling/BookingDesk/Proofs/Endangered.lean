import BookingDesk.Proofs.Reached

/-!
# What a double booking needs

A release frees a slot whoever holds it. A booking that is cancelled after it was stored and before
it took its slot therefore frees the slot of somebody else, and a third booking can take it. This is
the only way to a double booking: as long as it is still stored and active, a booking that took its
slot holds it, or was stripped of it by such a cancellation (`Guarded`). Main statement: only
requests that leave room for three creates of one slot and a cancellation are double booked
(`DoubleBooked.endangered`).
-/
namespace BookingDesk

/-- The booking is stored and still needs its slot. -/
def World.Live (w : World) (id : BookingId) : Prop :=
  ∃ row, w.bookings.get? id = some row ∧ row.status.isActive = true

/-- The new version that a change stores or has stored. -/
def Stage.version? : Stage → Option Booking
  | replace b _ | release b => some b
  | _ => none

/-- A new version is made of what is stored when it is loaded. -/
theorem Stage.Turns.version {w w' : World} {g g' : Stage} {b : Booking} (h : Turns w g g' w')
    (hb : g'.version? = some b) :
    g.version? = some b ∨
      ∃ ch stored, g = load ch ∧ w.bookings.get? ch.booking = some stored ∧
        b = ch.result stored := by
  cases h with
  | loaded found own admitted =>
    cases hb
    exact .inr ⟨_, _, rfl, found, rfl⟩
  | replaced _ _ _ =>
    rw [Stage.replaced] at hb
    split at hb
    · exact .inl hb
    · cases hb
  | rests _ => exact .inl hb
  | _ => cases hb

/-- Only a change that has just been stored and that cancels is about to release a slot. -/
theorem Stage.Turns.release {w w' : World} {g : Stage} {b : Booking}
    (h : Turns w g (.release b) w') :
    ∃ before stored, g = replace b before ∧ w.bookings.get? b.id = some stored ∧
      Booking.givesUpSlot before b.status = true ∧ w' = w.replace b := by
  generalize hg : Stage.release b = g' at h
  cases h with
  | replaced found own same =>
    rw [Stage.replaced] at hg
    split at hg
    · rename_i hgives
      cases hg
      exact ⟨_, _, rfl, found, hgives, rfl⟩
    · cases hg
  | rests ended =>
    subst hg
    cases ended
  | _ => cases hg

namespace Request

/-- The create of the booking has been told that it is made. -/
def Acknowledged (requests : List Request) (d : Interleaving (Course Outcome)) (id : BookingId) :
    Prop :=
  ∃ (i : Nat) (c : CreateBooking) (b : Booking),
    requests[i]? = some (create id c) ∧ d.result? i = some (.ok b)

/-- Two bookings of one slot are active, and both are acknowledged. -/
def DoubleBooked (requests : List Request) (d : Interleaving (Course Outcome)) : Prop :=
  ∃ x y row row', x ≠ y ∧
    d.world.bookings.get? x = some row ∧ d.world.bookings.get? y = some row' ∧
    row.slot = row'.slot ∧ row.status.isActive = true ∧ row'.status.isActive = true ∧
    Acknowledged requests d x ∧ Acknowledged requests d y

/-- The request asks to cancel this booking. -/
def Cancels (r : Request) (business : BusinessId) (id : BookingId) : Prop :=
  ∃ ch, r.start = .load ch ∧ ch.wanted = some .cancelled ∧ ch.business = business ∧
    ch.booking = id

/-- A create that could be carried out, of this booking in this slot. -/
def Offers (requests : List Request) (w : World) (slot : SlotId) (id : BookingId)
    (business : BusinessId) : Prop :=
  ∃ c, create id c ∈ requests ∧ c.Eligible w ∧ c.slot = slot ∧ c.business = business

/-- Three creates could be carried out for one slot, and one of them may be cancelled. -/
def Endangered (requests : List Request) (w : World) : Prop :=
  ∃ slot x y z business businessY businessZ, x ≠ y ∧ x ≠ z ∧ y ≠ z ∧
    Offers requests w slot x business ∧ Offers requests w slot y businessY ∧
    Offers requests w slot z businessZ ∧ ∃ r ∈ requests, r.Cancels business x

variable {requests : List Request} {w v : World} {d : Interleaving Stage} {i j : Nat}
  {id : BookingId} {c : CreateBooking} {g g' : Stage} {b : Booking}

/-! ## Where rows come from -/

/-- The booking, or an earlier version of it, was made by one of the creates. -/
def Descends (requests : List Request) (w : World) (id : BookingId) (row : Booking) : Prop :=
  ∃ c b, create id c ∈ requests ∧ c.Makes w id b ∧ row.IsVersionOf b

theorem Descends.id_eq {row : Booking} (h : Descends requests w id row) : row.id = id := by
  obtain ⟨c, b, -, hmakes, hversion⟩ := h
  rw [hversion.id_eq, hmakes.id_eq]

theorem Descends.offers {row : Booking} (h : Descends requests w id row) :
    Offers requests w row.slot id row.business := by
  obtain ⟨c, b, hc, hmakes, hversion⟩ := h
  refine ⟨c, hc, hmakes.eligible, ?_, ?_⟩
  · rw [hversion.slot_eq, hmakes.slot_eq]
  · rw [hversion.business_eq, hmakes.business_eq]

/-- All rows, and all versions of rows that are on their way, were made by creates. -/
structure Traced (requests : List Request) (w : World) (d : Interleaving Stage) : Prop where
  rows : ∀ {id row}, d.world.bookings.get? id = some row → Descends requests w id row
  versions : ∀ {i : Nat} {r : Request} {g : Stage} {b}, requests[i]? = some r →
    d.strands[i]? = some g → g.version? = some b →
    Descends requests w b.id b ∧ ∃ ch, r.start = .load ch ∧ ch.booking = b.id

@[simp] theorem version?_start (r : Request) : r.start.version? = none := by
  cases r with
  | create id c => rw [start]; cases c.validate <;> rfl
  | update c => rw [start]; cases c.validate <;> rfl
  | _ => rfl

theorem traced_stages (empty : ∀ id, w.bookings.get? id = none) :
    Traced requests w (stages requests w) where
  rows := by
    intro id row hrow
    rw [stages, empty] at hrow
    cases hrow
  versions := by
    intro i r g b hr hg hb
    obtain ⟨r', -, rfl⟩ := strand_stages hg
    rw [version?_start] at hb
    cases hb

theorem Traced.turn (h : Traced requests w d) (under : Underway requests w d)
    (hg : d.strands[i]? = some g) (t : Stage.Turns d.world g g' v) :
    Traced requests w ⟨v, d.strands.set i g'⟩ where
  rows := by
    intro id row hrow
    obtain ⟨r, hr, hreach⟩ := under.request hg
    rcases t.row_cases hrow with hrow | ⟨rfl, ⟨rfl, -⟩ | ⟨stored, rfl, -⟩⟩
    · exact h.rows hrow
    · obtain ⟨c, rfl, hmakes⟩ := hreach.create_of_insert
      exact ⟨c, row, List.mem_of_getElem? hr, hmakes, .refl row⟩
    · exact (h.versions hr hg rfl).1
  versions := by
    intro j r gj b hr hj hb
    rcases (Interleaving.getElem?_set_eq_some_iff hg).1 hj with ⟨rfl, rfl⟩ | ⟨-, hj⟩
    · rcases t.version hb with hversion | ⟨ch, stored, rfl, hstored, rfl⟩
      · exact h.versions hr hg hversion
      · have hdescends := h.rows hstored
        have hid : (ch.result stored).id = ch.booking := hdescends.id_eq
        obtain ⟨c, made, hc, hmakes, hversion⟩ := hdescends
        refine ⟨hid.symm ▸ ⟨c, made, hc, hmakes, (ch.isVersionOf_result stored).trans hversion⟩, ?_⟩
        cases under.reached hr hg with
        | load asks => exact ⟨ch, asks, hid.symm⟩
    · exact h.versions hr hj hb

/-! ## What becomes of a booking -/

/-- No booking comes back to life: one that is live has been, or is just being stored. -/
theorem Reaches.live {r : Request} (h : r.Reaches w g) (t : Stage.Turns d.world g g' v)
    (hlive : v.Live id) : d.world.Live id ∨ ∃ b, g = .insert b ∧ g' = .reserve b ∧ b.id = id := by
  obtain ⟨row, hrow, hactive⟩ := hlive
  rcases t.row_cases hrow with hrow | ⟨rfl, ⟨rfl, rfl⟩ | ⟨stored, hg, hstored⟩⟩
  · exact .inl ⟨row, hrow, hactive⟩
  · exact .inr ⟨row, rfl, rfl, rfl⟩
  · refine .inl ⟨stored, hstored, ?_⟩
    subst g
    generalize hbefore : stored.status = before at h
    cases h with
    | @replace _ ch old asks own admitted =>
      rcases Change.status_of_admits admitted with hsame | hallowed
      · rwa [← hsame]
      · revert hallowed hactive
        cases old.status <;> cases (ch.result old).status <;> decide

/-- The booking is not live and never will be again: its create has stored it long ago. -/
structure Gone (requests : List Request) (d : Interleaving Stage) (id : BookingId) : Prop where
  notLive : ¬ d.world.Live id
  late : ∀ (i : Nat) (c : CreateBooking) (g : Stage), requests[i]? = some (create id c) →
    d.strands[i]? = some g → g.isEarly = false

theorem Gone.turn (h : Gone requests d id) (under : Underway requests w d)
    (hg : d.strands[i]? = some g) (t : Stage.Turns d.world g g' v) :
    Gone requests ⟨v, d.strands.set i g'⟩ id where
  notLive := by
    intro hlive
    obtain ⟨r, hr, hreach⟩ := under.request hg
    rcases hreach.live t hlive with hlive | ⟨b, rfl, -, rfl⟩
    · exact h.notLive hlive
    · obtain ⟨c, rfl, -⟩ := hreach.create_of_insert
      cases h.late i c _ hr hg
  late := by
    intro j c gj hr hj
    rcases (Interleaving.getElem?_set_eq_some_iff hg).1 hj with ⟨rfl, rfl⟩ | ⟨-, hj⟩
    · refine Bool.eq_false_iff.2 fun hearly => ?_
      have hlate := h.late _ c g hr hg
      rw [(t.isEarly hearly).1] at hlate
      cases hlate
    · exact h.late j c gj hr hj

/-- A booking that has just been cancelled is gone. -/
theorem Underway.gone_of_release (under : Underway requests w d) (fresh : Fresh requests w)
    (hg : d.strands[i]? = some g) (t : Stage.Turns d.world g (.release b) v) :
    Gone requests ⟨v, d.strands.set i (.release b)⟩ b.id := by
  obtain ⟨before, stored, rfl, hstored, hgives, rfl⟩ := t.release
  refine ⟨?_, ?_⟩
  · rintro ⟨row, hrow, hactive⟩
    rw [World.get?_replace, if_pos rfl, hstored] at hrow
    cases hrow
    rw [(Change.givesUpSlot_iff.1 hgives).2] at hactive
    cases hactive
  · intro k c gk hk hgk
    refine Bool.eq_false_iff.2 fun hearly => ?_
    have hnone := (under.turn fresh hg t).early hk hgk hearly
    rw [World.get?_replace, if_pos rfl, hstored] at hnone
    cases hnone

/-- A create that has taken its slot had a live booking before this turn, if it has one now. -/
theorem Underway.live_of_took {gj : Stage} (under : Underway requests w d)
    (fresh : Fresh requests w) (hg : d.strands[i]? = some g) (t : Stage.Turns d.world g g' v)
    (hj : (d.strands.set i g')[j]? = some gj) (hb : gj.took? = some b) (hlive : v.Live b.id) :
    d.world.Live b.id := by
  obtain ⟨r, hri, hreach⟩ := under.request hg
  obtain ⟨rj, hrj, hreachj⟩ := (under.turn fresh hg t).request hj
  obtain ⟨cj, rfl, -⟩ := hreachj.create_of_kept (Stage.kept?_of_took? hb)
  rcases hreach.live t hlive with hlive | ⟨b', rfl, rfl, hid⟩
  · exact hlive
  obtain ⟨c', rfl, -⟩ := hreach.create_of_insert
  obtain rfl := fresh.unique (hid ▸ hri) hrj
  rw [Interleaving.getElem?_set hg, if_pos rfl] at hj
  cases hj
  cases hb

/-! ## Who holds the slots -/

/-- Another booking was cancelled under way, and its release may have freed the slot of this one. -/
def Stripped (requests : List Request) (w : World) (d : Interleaving Stage) (slot : SlotId)
    (id : BookingId) : Prop :=
  ∃ x business, x ≠ id ∧ Offers requests w slot x business ∧
    (∃ r ∈ requests, r.Cancels business x) ∧ Gone requests d x

/-- A live booking that took its slot still holds it, or was stripped of it. Two such bookings of
one slot are only there if the requests leave room for this. -/
structure Guarded (requests : List Request) (w : World) (d : Interleaving Stage) : Prop where
  released : ∀ {i : Nat} {b : Booking}, d.strands[i]? = some (.release b) → Gone requests d b.id
  holding : ∀ {i : Nat} {g : Stage} {b : Booking}, d.strands[i]? = some g → g.took? = some b →
    d.world.Live b.id → d.world.holder? b.slot = some b.id ∨ Stripped requests w d b.slot b.id
  pairs : ∀ {i j : Nat} {g g' : Stage} {b b' : Booking}, i ≠ j → d.strands[i]? = some g →
    d.strands[j]? = some g' → g.took? = some b → g'.took? = some b' → b.slot = b'.slot →
    d.world.Live b.id → d.world.Live b'.id → Endangered requests w

theorem Stripped.turn {slot : SlotId} (h : Stripped requests w d slot id)
    (under : Underway requests w d) (hg : d.strands[i]? = some g)
    (t : Stage.Turns d.world g g' v) :
    Stripped requests w ⟨v, d.strands.set i g'⟩ slot id := by
  obtain ⟨x, business, hne, hoffers, hcancels, hgone⟩ := h
  exact ⟨x, business, hne, hoffers, hcancels, hgone.turn under hg t⟩

/-- A release strips whoever holds the slot, if not of the booking that is cancelled. -/
theorem Traced.stripped (h : Traced requests w d) (under : Underway requests w d)
    (hg : d.strands[i]? = some (.release b)) (hgone : Gone requests d b.id) (hne : b.id ≠ id) :
    Stripped requests w d b.slot id := by
  obtain ⟨r, hr, hreach⟩ := under.request hg
  obtain ⟨hdescends, ch, hasks, hid⟩ := h.versions hr hg rfl
  refine ⟨b.id, b.business, hne, hdescends.offers, ⟨r, List.mem_of_getElem? hr, ?_⟩, hgone⟩
  cases hreach with
  | release asks own cancelled =>
    rw [hasks] at asks
    cases asks
    exact ⟨ch, hasks, Change.wanted_of_givesUpSlot cancelled, own.symm, hid⟩

theorem guarded_stages : Guarded requests w (stages requests w) := by
  refine ⟨?_, ?_, ?_⟩
  · intro i b hg
    obtain ⟨r, -, hr⟩ := strand_stages hg
    have hversion := version?_start r
    rw [← hr] at hversion
    cases hversion
  · intro i g b hg hb
    obtain ⟨r, -, rfl⟩ := strand_stages hg
    have hkept := Stage.kept?_of_took? hb
    rw [kept?_start] at hkept
    cases hkept
  · intro i j g g' b b' _ hg _ hb
    obtain ⟨r, -, rfl⟩ := strand_stages hg
    have hkept := Stage.kept?_of_took? hb
    rw [kept?_start] at hkept
    cases hkept

/-- Whoever is about to take a free slot has a rival only if that one was stripped. -/
theorem Guarded.endangered {b' : Booking} (h : Guarded requests w d)
    (under : Underway requests w d) (fresh : Fresh requests w)
    (hi : d.strands[i]? = some (.reserve b)) (hfree : d.world.holder? b.slot = none)
    (hlive : d.world.Live b.id)
    (hj : d.strands[j]? = some g') (hb' : g'.took? = some b') (hslot : b.slot = b'.slot)
    (hlive' : d.world.Live b'.id) : Endangered requests w := by
  obtain ⟨r, hr, hreach⟩ := under.request hi
  obtain ⟨c, rfl, hmakes⟩ := hreach.create_of_kept rfl
  obtain ⟨r', hr', hreach'⟩ := under.request hj
  obtain ⟨c', rfl, hmakes'⟩ := hreach'.create_of_kept (Stage.kept?_of_took? hb')
  rcases h.holding hj hb' hlive' with hholds | ⟨x, business, hne, hoffers, hcancels, hgone⟩
  · rw [← hslot, hfree] at hholds
    cases hholds
  have hnex : x ≠ b.id := by
    rintro rfl
    exact hgone.notLive hlive
  have hneb : b.id ≠ b'.id := by
    intro hid
    obtain rfl := under.unique fresh hi hj rfl (Stage.kept?_of_took? hb') hid
    rw [hi] at hj
    cases hj
    cases hb'
  exact ⟨b'.slot, x, b.id, b'.id, business, _, _, hnex, hne, hneb, hoffers,
    ⟨c, List.mem_of_getElem? hr, hmakes.eligible, by rw [← hmakes.slot_eq, hslot], rfl⟩,
    ⟨c', List.mem_of_getElem? hr', hmakes'.eligible, hmakes'.slot_eq.symm, rfl⟩, hcancels⟩

theorem Guarded.turn (h : Guarded requests w d) (traced : Traced requests w d)
    (under : Underway requests w d) (fresh : Fresh requests w) (hg : d.strands[i]? = some g)
    (t : Stage.Turns d.world g g' v) : Guarded requests w ⟨v, d.strands.set i g'⟩ where
  released := by
    intro j b hj
    rcases (Interleaving.getElem?_set_eq_some_iff hg).1 hj with ⟨rfl, rfl⟩ | ⟨-, hj⟩
    · -- the version that has just been stored is cancelled
      exact under.gone_of_release fresh hg t
    · exact (h.released hj).turn under hg t
  holding := by
    intro j gj b hj hb hlive'
    have hlive := under.live_of_took fresh hg t hj hb hlive'
    have hbefore : ∀ gj, d.strands[j]? = some gj → gj.took? = some b →
        d.world.holder? b.slot = some b.id ∨
          Stripped requests w ⟨v, d.strands.set i g'⟩ b.slot b.id := by
      intro gj hj hb
      rcases h.holding hj hb hlive with hholds | hstripped
      · exact .inl hholds
      · exact .inr (hstripped.turn under hg t)
    rcases (Interleaving.getElem?_set_eq_some_iff hg).1 hj with ⟨rfl, rfl⟩ | ⟨-, hj⟩
    · rcases t.took hb with htook | ⟨rfl, -, hv⟩
      · rcases t.holders with heq | ⟨b', rfl, -⟩ | ⟨b', rfl, -⟩
        · exact heq ▸ hbefore g hg htook
        · cases htook
        · cases htook
      · exact .inl (by rw [hv, if_pos rfl])
    · rcases hbefore gj hj hb with hholds | hstripped
      · rcases t.holders with heq | ⟨b', rfl, -, hfree, hv⟩ | ⟨b', rfl, -, hv⟩
        · exact .inl (heq ▸ hholds)
        · refine .inl ?_
          rw [hv, if_neg ?_, hholds]
          intro hslot
          rw [← hslot, hholds] at hfree
          cases hfree
        · by_cases hslot : b.slot = b'.slot
          · -- the booking that is cancelled is another one, for this one is live
            have hgone := h.released hg
            have hne : b'.id ≠ b.id := by
              intro hid
              exact hgone.notLive (hid ▸ hlive)
            rw [hslot]
            exact .inr ((traced.stripped under hg hgone hne).turn under hg t)
          · exact .inl (by rw [hv, if_neg hslot, hholds])
      · exact .inr hstripped
  pairs := by
    intro j k gj gk b b' hne hj hk hb hb' hslot hlive hlive'
    have hlived := under.live_of_took fresh hg t hj hb hlive
    have hlived' := under.live_of_took fresh hg t hk hb' hlive'
    rcases (Interleaving.getElem?_set_eq_some_iff hg).1 hj with ⟨rfl, rfl⟩ | ⟨-, hj'⟩ <;>
      rcases (Interleaving.getElem?_set_eq_some_iff hg).1 hk with ⟨rfl, rfl⟩ | ⟨-, hk'⟩
    · exact absurd rfl hne
    · rcases t.took hb with htook | ⟨rfl, hfree, -⟩
      · exact h.pairs hne hg hk' htook hb' hslot hlived hlived'
      · exact h.endangered under fresh hg hfree hlived hk' hb' hslot hlived'
    · rcases t.took hb' with htook | ⟨rfl, hfree, -⟩
      · exact h.pairs hne hj' hg hb htook hslot hlived hlived'
      · exact h.endangered under fresh hg hfree hlived' hj' hb hslot.symm hlived
    · exact h.pairs hne hj' hk' hb hb' hslot hlived hlived'

/-! ## Only endangered requests are double booked -/

theorem Descends.isVersionOf {row : Booking} (h : Descends requests w id row)
    (fresh : Fresh requests w) (hr : requests[i]? = some (create id c)) (hmakes : c.Makes w id b) :
    row.IsVersionOf b := by
  obtain ⟨c', b', hc', hmakes', hversion⟩ := h
  obtain ⟨j, hj⟩ := List.getElem?_of_mem hc'
  obtain rfl := fresh.unique hr hj
  rw [hr] at hj
  cases hj
  exact hmakes.unique hmakes' ▸ hversion

/-- A booking that is stored and acknowledged has taken its slot. -/
theorem Acknowledged.took {courses : Interleaving (Course Outcome)} {row : Booking}
    (h : Acknowledged requests courses id)
    (alike : Interleaving.Alike Course.Follows courses d) (under : Underway requests w d)
    (traced : Traced requests w d) (fresh : Fresh requests w)
    (hrow : d.world.bookings.get? id = some row) :
    ∃ (i : Nat) (b : Booking),
      d.strands[i]? = some (.booked b) ∧ b.id = id ∧ b.slot = row.slot := by
  obtain ⟨i, c, b, hr, hresult⟩ := h
  obtain ⟨g, hg, hreach⟩ := under.strand hr
  rw [alike.result?_eq, hg, Option.bind_some] at hresult
  cases hreach with
  | booked hmakes =>
    refine ⟨i, _, hg, hmakes.id_eq, ?_⟩
    exact ((traced.rows hrow).isVersionOf fresh hr hmakes).slot_eq.symm
  | changed asks _ => exact absurd asks start_ne_load_of_create
  | _ => cases hresult

theorem DoubleBooked.endangered (fresh : Fresh requests w)
    (empty : ∀ id, w.bookings.get? id = none) (schedule : List Nat)
    (h : DoubleBooked requests
      ((courses requests w).play (Course.turn World.answer) schedule)) :
    Endangered requests w := by
  have halike := play_requests requests w World.answer schedule
  obtain ⟨under, traced, guarded⟩ := stages_keep
    (fun d => Traced requests w d ∧ Guarded requests w d) fresh
    ⟨traced_stages empty, guarded_stages⟩
    (fun d i g g' v under ⟨traced, guarded⟩ hg t =>
      ⟨traced.turn under hg t, guarded.turn traced under fresh hg t⟩) schedule
  obtain ⟨x, y, row, row', hne, hx, hy, hslot, hactive, hactive', hack, hack'⟩ := h
  rw [halike.1] at hx hy
  obtain ⟨i, b, hi, rfl, hb⟩ := hack.took halike under traced fresh hx
  obtain ⟨j, b', hj, rfl, hb'⟩ := hack'.took halike under traced fresh hy
  refine guarded.pairs ?_ hi hj rfl rfl (by rw [hb, hb', hslot]) ⟨row, hx, hactive⟩
    ⟨row', hy, hactive'⟩
  rintro rfl
  rw [hi] at hj
  cases hj
  exact hne rfl

end Request

end BookingDesk
