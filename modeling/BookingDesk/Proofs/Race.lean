import BookingDesk.Proofs.Reached

/-!
# The race for a slot

Any number of creates may be under way, in any order of their calls, while nobody changes a booking.
A row that is added belongs to a create that keeps it (`RowsKept`), and a slot that is taken belongs
to a create that took it (`SlotsHeld`). Main statement: when all are over, exactly one create has
got each free slot that was asked for, and the others have left no trace (`creates_race`).
-/
namespace BookingDesk.Request

variable {requests : List Request} {w v : World} {d : Interleaving Stage} {i j : Nat}
  {id : BookingId} {c : CreateBooking} {g g' : Stage} {b : Booking}

/-- Nobody changes a booking. -/
def OnlyCreates (requests : List Request) : Prop := ∀ r ∈ requests, ∃ id c, r = create id c

theorem OnlyCreates.start_ne_load {r : Request} {ch : Change} (only : OnlyCreates requests)
    (hr : requests[i]? = some r) : r.start ≠ .load ch := by
  obtain ⟨id, c, rfl⟩ := only r (List.mem_of_getElem? hr)
  exact start_ne_load_of_create

theorem OnlyCreates.ne_replace {before : Status} (only : OnlyCreates requests)
    (under : Underway requests w d) (hg : d.strands[i]? = some g) : g ≠ .replace b before := by
  rintro rfl
  obtain ⟨r, hr, hreach⟩ := under.request hg
  cases hreach with
  | replace asks _ _ => exact only.start_ne_load hr asks

theorem OnlyCreates.ne_release (only : OnlyCreates requests) (under : Underway requests w d)
    (hg : d.strands[i]? = some g) : g ≠ .release b := by
  rintro rfl
  obtain ⟨r, hr, hreach⟩ := under.request hg
  cases hreach with
  | release asks _ _ => exact only.start_ne_load hr asks

/-! ## Rows -/

/-- The rows that there were are still there, and each row that was added is kept by a create. -/
structure RowsKept (w : World) (d : Interleaving Stage) : Prop where
  old : ∀ {id row}, w.bookings.get? id = some row → d.world.bookings.get? id = some row
  kept : ∀ {i : Nat} {g : Stage} {b}, d.strands[i]? = some g → g.kept? = some b →
    d.world.bookings.get? b.id = some b
  added : ∀ {id row}, d.world.bookings.get? id = some row → w.bookings.get? id = some row ∨
    ∃ (i : Nat) (g : Stage), d.strands[i]? = some g ∧ g.kept? = some row ∧ row.id = id

theorem rowsKept_stages : RowsKept w (stages requests w) where
  old h := h
  added h := .inl h
  kept := by
    intro i g b hg hb
    obtain ⟨r, -, rfl⟩ := strand_stages hg
    rw [kept?_start] at hb
    cases hb

/-- Whoever takes a booking back takes back one that was not there at the start. -/
theorem Underway.unused (under : Underway requests w d) (fresh : Fresh requests w)
    (hg : d.strands[i]? = some g) (hb : g.kept? = some b) : w.bookings.get? b.id = none := by
  obtain ⟨r, hr, hreach⟩ := under.request hg
  obtain ⟨c, rfl, -⟩ := hreach.create_of_kept hb
  exact fresh.unused _ (mem_drawn hr)

theorem RowsKept.turn (h : RowsKept w d) (under : Underway requests w d)
    (fresh : Fresh requests w) (only : OnlyCreates requests) (hg : d.strands[i]? = some g)
    (t : Stage.Turns d.world g g' v) : RowsKept w ⟨v, d.strands.set i g'⟩ where
  old := by
    intro id row hrow
    have hold := h.old hrow
    rcases t.rows with hrows | ⟨b, rfl, -, hfresh, rfl⟩ | ⟨b, e, rfl, -, rfl⟩ |
      ⟨b, before, stored, rfl, -⟩
    · rw [hrows, hold]
    · exact (World.get?_insert_eq_some_iff hfresh).2 (.inr hold)
    · refine World.get?_remove_eq_some_iff.2 ⟨?_, hold⟩
      rintro rfl
      rw [under.unused fresh hg rfl] at hrow
      cases hrow
    · exact absurd rfl (only.ne_replace under hg)
  kept := by
    intro j gj b hj hb
    rcases (Interleaving.getElem?_set_eq_some_iff hg).1 hj with ⟨rfl, rfl⟩ | ⟨hne, hj'⟩
    · rcases t.kept hb with hkept | ⟨rfl, rfl⟩
      · have hold := h.kept hg hkept
        rcases t.rows with hrows | ⟨b', rfl, -⟩ | ⟨b', e, -, rfl, -⟩ | ⟨b', before, stored, rfl, -⟩
        · rw [hrows, hold]
        · cases hkept
        · cases hb
        · exact absurd rfl (only.ne_replace under hg)
      · exact (World.get?_insert_eq_some_iff (under.get?_insert hg)).2 (.inl ⟨rfl, rfl⟩)
    · have hold := h.kept hj' hb
      rcases t.rows with hrows | ⟨b', rfl, -, hfresh, rfl⟩ | ⟨b', e, rfl, -, rfl⟩ |
        ⟨b', before, stored, rfl, -⟩
      · rw [hrows, hold]
      · exact (World.get?_insert_eq_some_iff hfresh).2 (.inr hold)
      · exact World.get?_remove_eq_some_iff.2
          ⟨fun hid => hne (under.unique fresh hj' hg hb rfl hid), hold⟩
      · exact absurd rfl (only.ne_replace under hg)
  added := by
    intro id row hrow
    -- a row that was there is kept by the same create as before, unless this turn takes it back
    have hbefore : d.world.bookings.get? id = some row →
        (∀ e, g = .takeBack row e → g' = .failed e → row.id ≠ id) →
        w.bookings.get? id = some row ∨ ∃ (j : Nat) (gj : Stage),
          (d.strands.set i g')[j]? = some gj ∧ gj.kept? = some row ∧ row.id = id := by
      intro hd hstays
      rcases h.added hd with hold | ⟨j, gj, hj, hkept, hid⟩
      · exact .inl hold
      refine .inr ?_
      by_cases hji : j = i
      · subst j
        rw [hg, Option.some_inj] at hj
        subst gj
        refine ⟨i, g', (Interleaving.getElem?_set_eq_some_iff hg).2 (.inl ⟨rfl, rfl⟩), ?_, hid⟩
        rcases t.keeps hkept with hkept' | ⟨e, he, hf, -⟩
        · exact hkept'
        · exact absurd hid (hstays e he hf)
      · exact ⟨j, gj, (Interleaving.getElem?_set_eq_some_iff hg).2 (.inr ⟨hji, hj⟩), hkept, hid⟩
    rcases t.rows with hrows | ⟨b, rfl, rfl, hfresh, rfl⟩ | ⟨b, e, rfl, rfl, rfl⟩ |
      ⟨b, before, stored, rfl, -⟩
    · rw [hrows] at hrow
      refine hbefore hrow ?_
      rintro e rfl rfl rfl
      -- nothing is taken back although the booking is stored
      rcases t.keeps rfl with hkept | ⟨_, -, -, rfl | ⟨-, habsent⟩⟩
      · cases hkept
      · exact (World.get?_remove_eq_some_iff.1 (hrows ▸ hrow)).1 rfl
      · exact habsent row hrow rfl
    · rcases (World.get?_insert_eq_some_iff hfresh).1 hrow with ⟨rfl, rfl⟩ | hrow
      · exact .inr ⟨i, _, (Interleaving.getElem?_set_eq_some_iff hg).2 (.inl ⟨rfl, rfl⟩), rfl, rfl⟩
      · exact hbefore hrow fun _ he => by cases he
    · obtain ⟨hid, hrow⟩ := World.get?_remove_eq_some_iff.1 hrow
      refine hbefore hrow ?_
      rintro e' ⟨⟩ - rfl
      exact hid rfl
    · exact absurd rfl (only.ne_replace under hg)

/-! ## Holders -/

/-- The slots that had a holder still have it, and each slot that was taken is held for the create
that took it. A create that could have been carried out but was not has found its slot taken. -/
structure SlotsHeld (requests : List Request) (w : World) (d : Interleaving Stage) : Prop where
  old : ∀ {s holder}, w.holder? s = some holder → d.world.holder? s = some holder
  took : ∀ {i : Nat} {g : Stage} {b}, d.strands[i]? = some g → g.took? = some b →
    w.holder? b.slot = none ∧ d.world.holder? b.slot = some b.id
  taken : ∀ {s holder}, d.world.holder? s = some holder → w.holder? s = some holder ∨
    ∃ (i : Nat) (g : Stage) (b : Booking), d.strands[i]? = some g ∧ g.took? = some b ∧
      b.slot = s ∧ b.id = holder
  lost : ∀ {i : Nat} {id c} {g : Stage}, requests[i]? = some (create id c) → c.Eligible w →
    d.strands[i]? = some g → g.isLost = true → d.world.holder? c.slot ≠ none

theorem slotsHeld_stages : SlotsHeld requests w (stages requests w) where
  old h := h
  taken h := .inl h
  took := by
    intro i g b hg hb
    obtain ⟨r, -, rfl⟩ := strand_stages hg
    have hkept := Stage.kept?_of_took? hb
    rw [kept?_start] at hkept
    cases hkept
  lost := by
    rintro i id c g hr ⟨⟨notes, hn⟩, -⟩ hg hlost
    obtain ⟨r, hr', rfl⟩ := strand_stages hg
    rw [hr, Option.some_inj] at hr'
    subst r
    rw [start, hn] at hlost
    cases hlost

/-- A create that loses its slot finds that somebody has it. -/
theorem Reaches.lost (h : (create id c).Reaches w g) (eligible : c.Eligible w)
    (ground : w.SameGround d.world) (fresh : ∀ b, g = .insert b → d.world.bookings.get? b.id = none)
    (t : Stage.Turns d.world g g' v) (hlost : g'.isLost = true) :
    g.isLost = true ∨ d.world.holder? c.slot ≠ none := by
  obtain ⟨hvalid, hcustomer, hstaff, slot, hslot, hown, hlt⟩ := eligible
  rw [← ground.slots] at hslot
  cases t with
  | slotTaken taken =>
    cases h with
    | askSlot _ => exact .inr (taken slot hslot hown)
  | customerUnknown unknown =>
    cases h with
    | askCustomer _ =>
      rw [ground.customers, hcustomer] at unknown
      cases unknown
  | staffUnknown unknown =>
    cases h with
    | askStaff _ _ =>
      rw [ground.staff, hstaff] at unknown
      cases unknown
  | slotRefused refused =>
    cases h with
    | readSlot _ _ _ => exact absurd hlt (refused slot hslot hown)
  | notInserted stored => exact absurd (fresh _ rfl) stored
  | raceLost taken =>
    cases h with
    | reserve makes =>
      rw [makes.slot_eq] at taken
      exact .inr (taken (by rw [hslot]; rfl))
  | takenBack _ _ => exact .inl rfl
  | nothingToTakeBack _ => exact .inl rfl
  | rests _ => exact .inl hlost
  | notFound _ | refused _ _ _ | loaded _ _ _ =>
    cases h with
    | load asks => exact absurd asks start_ne_load_of_create
  | replaced _ _ _ | overtaken _ =>
    cases h with
    | replace asks _ _ => exact absurd asks start_ne_load_of_create
  | _ => cases hlost

theorem SlotsHeld.turn (h : SlotsHeld requests w d) (under : Underway requests w d)
    (only : OnlyCreates requests) (hg : d.strands[i]? = some g)
    (t : Stage.Turns d.world g g' v) : SlotsHeld requests w ⟨v, d.strands.set i g'⟩ := by
  have hstays : ∀ {s holder}, d.world.holder? s = some holder → v.holder? s = some holder := by
    intro s holder hs
    rcases t.holders with heq | ⟨b, rfl, -, hfree, hv⟩ | ⟨b, rfl, -⟩
    · rw [heq, hs]
    · rw [hv, if_neg ?_, hs]
      rintro rfl
      rw [hs] at hfree
      cases hfree
    · exact absurd rfl (only.ne_release under hg)
  refine ⟨fun hs => hstays (h.old hs), ?_, ?_, ?_⟩
  · intro j gj b hj hb
    rcases (Interleaving.getElem?_set_eq_some_iff hg).1 hj with ⟨rfl, rfl⟩ | ⟨-, hj⟩
    · rcases t.took hb with htook | ⟨rfl, hfree, hv⟩
      · exact ⟨(h.took hg htook).1, hstays (h.took hg htook).2⟩
      refine ⟨Option.eq_none_iff_forall_ne_some.2 fun holder hold => ?_, by rw [hv, if_pos rfl]⟩
      rw [h.old hold] at hfree
      cases hfree
    · exact ⟨(h.took hj hb).1, hstays (h.took hj hb).2⟩
  · intro s holder hs
    -- a create that took a slot before this turn has it afterwards too
    have hbefore : d.world.holder? s = some holder → w.holder? s = some holder ∨
        ∃ (j : Nat) (gj : Stage) (b : Booking), (d.strands.set i g')[j]? = some gj ∧
          gj.took? = some b ∧ b.slot = s ∧ b.id = holder := by
      intro hd
      rcases h.taken hd with hold | ⟨j, gj, b, hj, htook, hslot⟩
      · exact .inl hold
      refine .inr ?_
      by_cases hji : j = i
      · subst j
        rw [hg, Option.some_inj] at hj
        subst gj
        exact ⟨i, g', b, (Interleaving.getElem?_set_eq_some_iff hg).2 (.inl ⟨rfl, rfl⟩),
          t.holds htook, hslot⟩
      · exact ⟨j, gj, b, (Interleaving.getElem?_set_eq_some_iff hg).2 (.inr ⟨hji, hj⟩), htook,
          hslot⟩
    rcases t.holders with heq | ⟨b, rfl, rfl, hfree, hv⟩ | ⟨b, rfl, -⟩
    · exact hbefore (heq ▸ hs)
    · rw [hv] at hs
      split at hs
      · rename_i hslot
        cases hs
        exact .inr ⟨i, _, b, (Interleaving.getElem?_set_eq_some_iff hg).2 (.inl ⟨rfl, rfl⟩), rfl,
          hslot.symm, rfl⟩
      · exact hbefore hs
    · exact absurd rfl (only.ne_release under hg)
  · intro j id c gj hr heligible hj hlost
    have htaken : d.world.holder? c.slot ≠ none := by
      rcases (Interleaving.getElem?_set_eq_some_iff hg).1 hj with ⟨rfl, rfl⟩ | ⟨-, hj⟩
      · have hfresh : ∀ b, g = .insert b → d.world.bookings.get? b.id = none := by
          rintro b rfl
          exact under.get?_insert hg
        rcases (under.reached hr hg).lost heligible under.ground hfresh t hlost with hlost' | htaken
        · exact h.lost hr heligible hg hlost'
        · exact htaken
      · exact h.lost hr heligible hj hlost
    obtain ⟨holder, hholder⟩ := Option.ne_none_iff_exists'.1 htaken
    rw [hstays hholder]
    exact Option.some_ne_none _

/-! ## The end of the race -/

/-- The create could be carried out, and asks for this slot. -/
def Contends (w : World) (slot : SlotId) (r : Request) : Prop :=
  ∃ id c, r = create id c ∧ c.Eligible w ∧ c.slot = slot

/-- One create has got the slot: its booking is the only row of the slot that was added. All others
that could have got it were told that it is not available. -/
structure Won (requests : List Request) (w : World) (d : Interleaving (Course Outcome))
    (slot : SlotId) (i : Nat) (b : Booking) : Prop where
  contends : ∃ r : Request, requests[i]? = some r ∧ r.Contends w slot
  returned : d.result? i = some (.ok b)
  pending : b.status = .pending
  holder : d.world.holder? slot = some b.id
  others : ∀ j (r : Request), j ≠ i → requests[j]? = some r → r.Contends w slot →
    d.result? j = some (.error .slotUnavailable)
  added : b.slot = slot ∧ w.bookings.get? b.id = none
  rows : ∀ id row, row.slot = slot →
    (d.world.bookings.get? id = some row ↔ id = b.id ∧ row = b ∨ w.bookings.get? id = some row)

/-- The slot is still held as at the start, and no row of it was added. All that could have got it
were told that it is not available. -/
structure Lost (requests : List Request) (w : World) (d : Interleaving (Course Outcome))
    (slot : SlotId) (holder : BookingId) : Prop where
  holder : d.world.holder? slot = some holder
  all : ∀ j (r : Request), requests[j]? = some r → r.Contends w slot →
    d.result? j = some (.error .slotUnavailable)
  rows : ∀ id row, row.slot = slot →
    (d.world.bookings.get? id = some row ↔ w.bookings.get? id = some row)

/-- A create that could be carried out has got its slot in the end, or was told that it is not
available. -/
theorem Reaches.ended (h : (create id c).Reaches w g) (eligible : c.Eligible w)
    (ended : g.outcome?.isSome = true) :
    (∃ b, g = .booked b ∧ c.Makes w id b) ∨ g = .failed .slotUnavailable := by
  cases h with
  | booked makes => exact .inl ⟨_, rfl, makes⟩
  | failed why => exact .inr (by rw [why id c rfl eligible])
  | changed asks _ => exact absurd asks start_ne_load_of_create
  | _ => cases ended

/-- How the creates stand when all are over, and what they were told. -/
structure Over (requests : List Request) (w : World) (d : Interleaving (Course Outcome))
    (e : Interleaving Stage) : Prop where
  world : d.world = e.world
  result : ∀ i : Nat, d.result? i = e.strands[i]?.bind Stage.outcome?
  under : Underway requests w e
  rows : RowsKept w e
  slots : SlotsHeld requests w e
  ended : ∀ (i : Nat) (g : Stage), e.strands[i]? = some g → g.outcome?.isSome = true

namespace Over

variable {d : Interleaving (Course Outcome)} {e : Interleaving Stage} {slot : SlotId} {r : Request}

/-- A booking that is still kept has been made: its create has got the slot. -/
theorem took_of_kept (h : Over requests w d e) (hg : e.strands[i]? = some g)
    (hb : g.kept? = some b) : g = .booked b := by
  have hended := h.ended i g hg
  cases g with
  | booked b' => cases hb; rfl
  | reserve b' | count b' | takeBack b' e => cases hended
  | _ => cases hb

theorem contender (h : Over requests w d e) (hr : requests[i]? = some r)
    (hc : r.Contends w slot) :
    (∃ b, r.Contends w slot ∧ d.result? i = some (.ok b) ∧ e.strands[i]? = some (.booked b) ∧
      b.slot = slot ∧ b.status = .pending) ∨
    d.result? i = some (.error .slotUnavailable) ∧ e.world.holder? slot ≠ none := by
  have hcontends := hc
  obtain ⟨id, c, rfl, heligible, rfl⟩ := hc
  obtain ⟨g, hg, hreach⟩ := h.under.strand hr
  rw [h.result, hg, Option.bind_some]
  rcases hreach.ended heligible (h.ended i g hg) with ⟨b, rfl, hmakes⟩ | rfl
  · exact .inl ⟨b, hcontends, rfl, rfl, hmakes.slot_eq, hmakes.status_eq⟩
  · exact .inr ⟨rfl, h.slots.lost hr heligible hg rfl⟩

/-- A booking that was made is the only one that was added for its slot. -/
theorem get?_iff (h : Over requests w d e) (fresh : Fresh requests w)
    (hg : e.strands[i]? = some (.booked b)) (id : BookingId) (row : Booking)
    (hslot : row.slot = b.slot) :
    e.world.bookings.get? id = some row ↔
      id = b.id ∧ row = b ∨ w.bookings.get? id = some row := by
  constructor
  · intro hrow
    rcases h.rows.added hrow with hold | ⟨j, gj, hj, hkept, rfl⟩
    · exact .inr hold
    cases h.took_of_kept hj hkept
    have hsame := (h.slots.took hj rfl).2
    rw [hslot, (h.slots.took hg rfl).2, Option.some_inj] at hsame
    cases h.under.unique fresh hg hj rfl rfl hsame
    rw [hg] at hj
    cases hj
    exact .inl ⟨rfl, rfl⟩
  · rintro (⟨rfl, rfl⟩ | hold)
    · exact h.rows.kept hg rfl
    · exact h.rows.old hold

theorem won (h : Over requests w d e) (fresh : Fresh requests w) (free : w.holder? slot = none)
    (hr : requests[i]? = some r) (hc : r.Contends w slot) : ∃ i b, Won requests w d slot i b := by
  -- whether or not this create has got the slot, somebody has
  have hheld : ∃ holder, e.world.holder? slot = some holder := by
    rcases h.contender hr hc with ⟨b, -, -, hg, rfl, -⟩ | ⟨-, hheld⟩
    · exact ⟨b.id, (h.slots.took hg rfl).2⟩
    · exact Option.ne_none_iff_exists'.1 hheld
  obtain ⟨holder, hholder⟩ := hheld
  rcases h.slots.taken hholder with hold | ⟨k, g, b, hg, htook, rfl, rfl⟩
  · rw [free] at hold
    cases hold
  cases h.took_of_kept hg (Stage.kept?_of_took? htook)
  obtain ⟨rk, hrk, hreach⟩ := h.under.request hg
  obtain ⟨c, rfl, hmakes⟩ := hreach.create_of_kept rfl
  refine ⟨k, b, ⟨_, hrk, _, _, rfl, hmakes.eligible, hmakes.slot_eq.symm⟩, ?_, hmakes.status_eq,
    h.world ▸ hholder, ?_, ⟨rfl, fresh.unused _ (mem_drawn hrk)⟩, h.world ▸ h.get?_iff fresh hg⟩
  · rw [h.result, hg]
    rfl
  · intro j rj hne hrj hcj
    rcases h.contender hrj hcj with ⟨b', -, -, hj, hslot, -⟩ | ⟨hlost, -⟩
    · have hsame := (h.slots.took hj rfl).2
      rw [hslot, hholder, Option.some_inj] at hsame
      exact absurd (h.under.unique fresh hj hg rfl rfl hsame.symm) hne
    · exact hlost

theorem lost (h : Over requests w d e) {holder : BookingId} (held : w.holder? slot = some holder) :
    Lost requests w d slot holder := by
  refine ⟨h.world ▸ h.slots.old held, ?_, ?_⟩
  · intro j r hr hc
    rcases h.contender hr hc with ⟨b, -, -, hg, rfl, -⟩ | ⟨hlost, -⟩
    · have hfree := (h.slots.took hg rfl).1
      rw [held] at hfree
      cases hfree
    · exact hlost
  · rintro id row rfl
    rw [h.world]
    constructor
    · intro hrow
      rcases h.rows.added hrow with hold | ⟨j, g, hg, hkept, rfl⟩
      · exact hold
      cases h.took_of_kept hg hkept
      have hfree := (h.slots.took hg rfl).1
      rw [held] at hfree
      cases hfree
    · exact fun hold => h.rows.old hold

end Over

/-- When all creates are over, one of them has got each slot that was free and that any of them
could have got; a slot that was held is held by the same booking. -/
theorem creates_race (fresh : Fresh requests w) (only : OnlyCreates requests) (schedule : List Nat)
    (ended : ∀ i < requests.length,
      (((courses requests w).play (Course.turn World.answer) schedule).result? i).isSome = true)
    (slot : SlotId) :
    (w.holder? slot = none →
      (∃ (i : Nat) (r : Request), requests[i]? = some r ∧ r.Contends w slot) → ∃ i b,
        Won requests w ((courses requests w).play (Course.turn World.answer) schedule) slot i b) ∧
    ∀ holder, w.holder? slot = some holder →
      Lost requests w ((courses requests w).play (Course.turn World.answer) schedule) slot
        holder := by
  have halike := play_requests requests w World.answer schedule
  generalize (courses requests w).play (Course.turn World.answer) schedule = d at ended halike ⊢
  obtain ⟨hunder, hrows, hslots⟩ := stages_keep
    (fun d => RowsKept w d ∧ SlotsHeld requests w d) fresh ⟨rowsKept_stages, slotsHeld_stages⟩
    (fun d i g g' v under ⟨hrows, hslots⟩ hg t =>
      ⟨hrows.turn under fresh only hg t, hslots.turn under only hg t⟩) schedule
  generalize (stages requests w).play (Stage.turn World.answer) schedule = e at *
  have hresult := halike.result?_eq
  have hover : Over requests w d e := by
    refine ⟨halike.1, hresult, hunder, hrows, hslots, fun i g hg => ?_⟩
    have hi := ended i (hunder.length ▸ (List.getElem?_eq_some_iff.1 hg).1)
    rwa [hresult, hg, Option.bind_some] at hi
  constructor
  · rintro free ⟨i, r, hr, hc⟩
    exact hover.won fresh free hr hc
  · exact fun holder held => hover.lost held

/-- Two creates, of which each makes a call before the other makes its next one. -/
theorem creates_race_two :
    let requests := [create (Sample.name _ 1) Sample.book, create (Sample.name _ 2) Sample.book]
    let schedule := (List.replicate 8 [0, 1]).flatten
    Fresh requests Sample.world ∧ OnlyCreates requests ∧
      (∀ i < requests.length, (((courses requests Sample.world).play (Course.turn World.answer)
        schedule).result? i).isSome = true) ∧
      ∃ i b, Won requests Sample.world
        ((courses requests Sample.world).play (Course.turn World.answer) schedule)
        Sample.slot.id i b := by
  intro requests schedule
  have fresh : Fresh requests Sample.world := ⟨by decide, by decide⟩
  have only : OnlyCreates requests := by
    intro r hr
    rcases List.mem_cons.1 hr with rfl | hr
    · exact ⟨_, _, rfl⟩
    · cases List.mem_singleton.1 hr
      exact ⟨_, _, rfl⟩
  have ended : ∀ i < requests.length, (((courses requests Sample.world).play
      (Course.turn World.answer) schedule).result? i).isSome = true := by decide
  have eligible : Sample.book.Eligible Sample.world :=
    ⟨⟨_, rfl⟩, by decide, by decide, Sample.slot, by decide, by decide, by decide⟩
  exact ⟨fresh, only, ended, (creates_race fresh only schedule ended Sample.slot.id).1 rfl
    ⟨0, _, rfl, _, _, rfl, eligible, rfl⟩⟩

end BookingDesk.Request
