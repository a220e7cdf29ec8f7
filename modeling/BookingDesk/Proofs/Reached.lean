import BookingDesk.Proofs.Turns

/-!
# How far a request can come

Whoever else is about, a request only ever comes to stages that fit what it asks for and the ground
on which it started (`Request.Reaches`). The other half of the module looks at a turn from the
books: which turns write rows, which write holders, and when the booking of a create begins to be
stored and to hold its slot. Main statement: an invariant of interleaved requests need only be
checked for turns of stages that can be reached (`Request.stages_keep`).
-/
namespace BookingDesk

/-! ## What a request has got -/

namespace Stage

/-- The booking is not stored yet. -/
def isEarly : Stage → Bool
  | askSlot _ _ _ | askCustomer _ _ _ | askStaff _ _ _ | readSlot _ _ _ | insert _ => true
  | _ => false

/-- The booking of a create, from when it has been stored until it is taken back. -/
def kept? : Stage → Option Booking
  | reserve b | count b | takeBack b _ | booked b => some b
  | _ => none

/-- The booking of a create that has taken its slot. -/
def took? : Stage → Option Booking
  | count b | booked b => some b
  | _ => none

/-- The booking has not been made, or is about to be taken back. -/
def isLost : Stage → Bool
  | takeBack _ _ | failed _ => true
  | _ => false

/-- The change has been made; at most a slot is left to release. -/
def HasMade (new : Booking) (g : Stage) : Prop := g = release new ∨ g = changed new

theorem hasMade_replaced (b : Booking) (before : Status) : (replaced b before).HasMade b := by
  rw [replaced]
  split
  · exact .inl rfl
  · exact .inr rfl

theorem kept?_of_took? {g : Stage} {b : Booking} (h : g.took? = some b) : g.kept? = some b := by
  cases g <;> first | exact h | cases h

end Stage

/-! ## Stages that can be reached -/

namespace Request

inductive Reaches (w : World) : Request → Stage → Prop
  | askSlot {id c notes} (valid : c.validate = .ok notes) :
      Reaches w (create id c) (.askSlot id c notes)
  | askCustomer {id c notes} (valid : c.validate = .ok notes) :
      Reaches w (create id c) (.askCustomer id c notes)
  | askStaff {id c notes} (valid : c.validate = .ok notes)
      (customer : w.customers.contains (c.business, c.customer) = true) :
      Reaches w (create id c) (.askStaff id c notes)
  | readSlot {id c notes} (valid : c.validate = .ok notes)
      (customer : w.customers.contains (c.business, c.customer) = true)
      (staff : w.staff.contains (c.business, c.staff) = true) :
      Reaches w (create id c) (.readSlot id c notes)
  | insert {id c b} (makes : c.Makes w id b) : Reaches w (create id c) (.insert b)
  | reserve {id c b} (makes : c.Makes w id b) : Reaches w (create id c) (.reserve b)
  | count {id c b} (makes : c.Makes w id b) : Reaches w (create id c) (.count b)
  | takeBack {id c b} (makes : c.Makes w id b) :
      Reaches w (create id c) (.takeBack b .slotUnavailable)
  | booked {id c b} (makes : c.Makes w id b) : Reaches w (create id c) (.booked b)
  | load {r ch} (asks : r.start = .load ch) : Reaches w r (.load ch)
  | replace {r ch b} (asks : r.start = .load ch) (own : b.business = ch.business)
      (admitted : ch.admits b.status = true) : Reaches w r (.replace (ch.result b) b.status)
  | release {r ch b} (asks : r.start = .load ch) (own : b.business = ch.business)
      (cancelled : Booking.givesUpSlot b.status (ch.result b).status = true) :
      Reaches w r (.release (ch.result b))
  | changed {r ch b} (asks : r.start = .load ch) (own : b.business = ch.business) :
      Reaches w r (.changed (ch.result b))
  /-- A create that could have been carried out fails for one reason only. -/
  | failed {r e} (why : ∀ id c, r = create id c → c.Eligible w → e = .slotUnavailable) :
      Reaches w r (.failed e)

variable {w v v' : World} {r : Request} {g g' : Stage}

theorem start_ne_load_of_create {id : BookingId} {c : CreateBooking} {ch : Change} :
    (create id c).start ≠ .load ch := by
  rw [start]
  cases c.validate with
  | error e => exact Stage.noConfusion
  | ok notes => exact Stage.noConfusion

@[simp] theorem kept?_start (r : Request) : r.start.kept? = none := by
  cases r with
  | create id c => rw [start]; cases c.validate <;> rfl
  | update c => rw [start]; cases c.validate <;> rfl
  | _ => rfl

theorem reaches_start (w : World) (r : Request) : r.Reaches w r.start := by
  cases r with
  | create id c =>
    rw [start]
    cases h : c.validate with
    | ok notes => exact .askSlot h
    | error e =>
      refine .failed ?_
      rintro _ _ ⟨⟩ ⟨⟨notes, hn⟩, -⟩
      rw [h] at hn
      cases hn
  | update c =>
    cases h : c.validate with
    | ok notes =>
      have hs : (update c).start =
          .load ⟨c.business, c.booking, c.status, notes, c.requestedAt, false⟩ := by
        rw [start, h]
      exact hs ▸ .load hs
    | error e =>
      rw [start, h]
      exact .failed fun _ _ hr => by cases hr
  | confirm c => exact .load rfl
  | cancel c => exact .load rfl
  | complete c => exact .load rfl

/-- A turn on the same ground leads to a stage that can be reached, if no other booking has the
identifier of the one that is stored. -/
theorem Reaches.turn (h : r.Reaches w g) (ground : w.SameGround v)
    (fresh : ∀ b, g = .insert b → v.bookings.get? b.id = none) (t : Stage.Turns v g g' v') :
    r.Reaches w g' := by
  have hcustomers := ground.customers
  have hslots := ground.slots
  cases t with
  | slotFree _ _ _ =>
    cases h with
    | askSlot valid => exact .askCustomer valid
  | slotTaken _ =>
    cases h with
    | askSlot valid => exact .failed fun _ _ _ _ => rfl
  | customerKnown known =>
    cases h with
    | askCustomer valid => exact .askStaff valid (by rw [← hcustomers, known])
  | customerUnknown unknown =>
    cases h with
    | askCustomer valid =>
      refine .failed ?_
      rintro _ _ ⟨⟩ ⟨-, customer, -⟩
      rw [hcustomers, customer] at unknown
      cases unknown
  | staffKnown known =>
    cases h with
    | askStaff valid customer => exact .readSlot valid customer (by rw [← ground.staff, known])
  | staffUnknown unknown =>
    cases h with
    | askStaff valid customer =>
      refine .failed ?_
      rintro _ _ ⟨⟩ ⟨-, -, staff, -⟩
      rw [ground.staff, staff] at unknown
      cases unknown
  | slotRead known own made =>
    cases h with
    | readSlot valid customer staff =>
      rw [hslots] at known
      exact .insert ⟨_, _, valid, customer, staff, known, own, made⟩
  | slotRefused refused =>
    cases h with
    | readSlot valid customer staff =>
      refine .failed ?_
      rintro _ _ ⟨⟩ ⟨-, -, -, slot, hs, hown, hlt⟩
      rw [← hslots] at hs
      exact absurd hlt (refused slot hs hown)
  | inserted _ =>
    cases h with
    | insert makes => exact .reserve makes
  | notInserted stored => exact absurd (fresh _ rfl) stored
  | reserved _ _ =>
    cases h with
    | reserve makes => exact .count makes
  | raceLost _ =>
    cases h with
    | reserve makes => exact .takeBack makes
  | counted =>
    cases h with
    | count makes => exact .booked makes
  | notCounted =>
    cases h with
    | count makes => exact .booked makes
  | takenBack _ _ =>
    cases h with
    | takeBack makes => exact .failed fun _ _ _ _ => rfl
  | nothingToTakeBack _ =>
    cases h with
    | takeBack makes => exact .failed fun _ _ _ _ => rfl
  | notFound _ =>
    cases h with
    | load asks => exact .failed fun _ _ hr => absurd (hr ▸ asks) start_ne_load_of_create
  | refused _ _ _ =>
    cases h with
    | load asks => exact .failed fun _ _ hr => absurd (hr ▸ asks) start_ne_load_of_create
  | loaded _ own admitted =>
    cases h with
    | load asks => exact .replace asks own admitted
  | replaced _ _ _ =>
    cases h with
    | replace asks own admitted =>
      rw [Stage.replaced]
      split
      · rename_i hgives
        exact .release asks own hgives
      · exact .changed asks own
  | overtaken _ =>
    cases h with
    | replace asks own admitted =>
      exact .failed fun _ _ hr => absurd (hr ▸ asks) start_ne_load_of_create
  | released _ =>
    cases h with
    | release asks own cancelled => exact .changed asks own
  | nothingToRelease _ =>
    cases h with
    | release asks own cancelled => exact .changed asks own
  | rests _ => exact h

end Request

/-! ## What a turn writes -/

namespace Stage

namespace Turns

variable {w w' : World} {g g' : Stage}

theorem sameGround (h : Turns w g g' w') : w.SameGround w' := by
  cases h with
  | inserted _ => exact World.sameGround_insert w _
  | reserved _ _ => exact World.sameGround_setHolder w _ _
  | counted => exact World.sameGround_countBooking w _ _
  | takenBack _ _ => exact World.sameGround_remove w _
  | replaced _ _ _ => exact World.sameGround_replace w _
  | released _ => exact World.sameGround_setHolder w _ _
  | _ => exact .refl w

/-- A turn stores a booking, takes one back, stores a new version of one, or leaves all bookings as
they are. -/
theorem rows (h : Turns w g g' w') :
    w'.bookings = w.bookings ∨
      (∃ b, g = insert b ∧ g' = reserve b ∧ w.bookings.get? b.id = none ∧ w' = w.insert b) ∨
      (∃ b e, g = takeBack b e ∧ g' = failed e ∧ w' = w.remove b.id) ∨
      ∃ b before stored, g = replace b before ∧ g' = Stage.replaced b before ∧
        w.bookings.get? b.id = some stored ∧ stored.business = b.business ∧
        stored.status = before ∧ w' = w.replace b := by
  cases h with
  | inserted fresh => exact .inr (.inl ⟨_, rfl, rfl, fresh, rfl⟩)
  | takenBack _ _ => exact .inr (.inr (.inl ⟨_, _, rfl, rfl, rfl⟩))
  | replaced found own same =>
    exact .inr (.inr (.inr ⟨_, _, _, rfl, rfl, found, own, same, rfl⟩))
  | _ => exact .inl rfl

/-- A row was there before, or it is stored in this turn: as a new one or over an old one. -/
theorem row_cases {id : BookingId} {row : Booking} (h : Turns w g g' w')
    (hrow : w'.bookings.get? id = some row) :
    w.bookings.get? id = some row ∨ id = row.id ∧ (g = insert row ∧ g' = reserve row ∨
      ∃ stored, g = replace row stored.status ∧ w.bookings.get? id = some stored) := by
  rcases h.rows with hrows | ⟨b, rfl, rfl, hfresh, rfl⟩ | ⟨b, e, -, -, rfl⟩ |
    ⟨b, before, stored, rfl, -, hstored, -, rfl, rfl⟩
  · exact .inl (hrows ▸ hrow)
  · rcases (World.get?_insert_eq_some_iff hfresh).1 hrow with ⟨rfl, rfl⟩ | hrow
    · exact .inr ⟨rfl, .inl ⟨rfl, rfl⟩⟩
    · exact .inl hrow
  · exact .inl (World.get?_remove_eq_some_iff.1 hrow).2
  · rcases (World.get?_replace_eq_some_iff hstored).1 hrow with ⟨rfl, rfl⟩ | ⟨-, hrow⟩
    · exact .inr ⟨rfl, .inr ⟨stored, rfl, hstored⟩⟩
    · exact .inl hrow

/-- A row stays, if not in the same version, until it is taken back. -/
theorem row_stays {id : BookingId} {row : Booking} (h : Turns w g g' w')
    (hrow : w.bookings.get? id = some row) :
    (∃ row', w'.bookings.get? id = some row' ∧ row'.business = row.business) ∨
      ∃ b e, g = takeBack b e ∧ g' = failed e ∧ id = b.id := by
  rcases h.rows with hrows | ⟨b, -, -, hfresh, rfl⟩ | ⟨b, e, rfl, rfl, rfl⟩ |
    ⟨b, before, stored, -, -, hstored, hown, -, rfl⟩
  · exact .inl ⟨row, hrows ▸ hrow, rfl⟩
  · exact .inl ⟨row, (World.get?_insert_eq_some_iff hfresh).2 (.inr hrow), rfl⟩
  · by_cases hid : id = b.id
    · exact .inr ⟨b, e, rfl, rfl, hid⟩
    · exact .inl ⟨row, World.get?_remove_eq_some_iff.2 ⟨hid, hrow⟩, rfl⟩
  · by_cases hid : id = b.id
    · rw [hid, hstored] at hrow
      cases hrow
      exact .inl ⟨b, (World.get?_replace_eq_some_iff hstored).2 (.inl ⟨hid, rfl⟩), hown.symm⟩
    · exact .inl ⟨row, (World.get?_replace_eq_some_iff hstored).2 (.inr ⟨hid, hrow⟩), rfl⟩

/-- A row that is not there is not there until it is stored as a new one. -/
theorem row_absent {id : BookingId} (h : Turns w g g' w') (hnone : w.bookings.get? id = none) :
    w'.bookings.get? id = none ∨ ∃ b, g = insert b ∧ id = b.id := by
  cases hrow : w'.bookings.get? id with
  | none => exact .inl rfl
  | some row =>
    rcases h.row_cases hrow with hold | ⟨hid, ⟨hg, -⟩ | ⟨stored, -, hstored⟩⟩
    · rw [hnone] at hold
      cases hold
    · exact .inr ⟨row, hg, hid⟩
    · rw [hnone] at hstored
      cases hstored

/-- A turn takes a slot for a booking, releases one, or leaves all holders as they are. -/
theorem holders (h : Turns w g g' w') :
    w'.holder? = w.holder? ∨
      (∃ b, g = reserve b ∧ g' = count b ∧ w.holder? b.slot = none ∧
        ∀ s, w'.holder? s = if s = b.slot then some b.id else w.holder? s) ∨
      ∃ b, g = release b ∧ g' = changed b ∧
        ∀ s, w'.holder? s = if s = b.slot then none else w.holder? s := by
  cases h with
  | reserved known free =>
    exact .inr (.inl ⟨_, rfl, rfl, free, World.holder?_setHolder known _⟩)
  | released known => exact .inr (.inr ⟨_, rfl, rfl, World.holder?_setHolder known _⟩)
  | _ => exact .inl rfl

/-- A booking that is kept was kept before, or has just been stored. -/
theorem kept {b : Booking} (h : Turns w g g' w') (hb : g'.kept? = some b) :
    g.kept? = some b ∨ g = insert b ∧ w' = w.insert b := by
  cases h with
  | inserted fresh => cases hb; exact .inr ⟨rfl, rfl⟩
  | reserved _ _ => exact .inl hb
  | raceLost _ => exact .inl hb
  | counted => exact .inl hb
  | notCounted => exact .inl hb
  | replaced _ _ _ =>
    rw [Stage.replaced] at hb
    split at hb <;> cases hb
  | rests _ => exact .inl hb
  | _ => cases hb

/-- A booking that has its slot had it before, or has just taken it. -/
theorem took {b : Booking} (h : Turns w g g' w') (hb : g'.took? = some b) :
    g.took? = some b ∨ g = reserve b ∧ w.holder? b.slot = none ∧
      ∀ s, w'.holder? s = if s = b.slot then some b.id else w.holder? s := by
  cases h with
  | reserved known free =>
    cases hb
    exact .inr ⟨rfl, free, World.holder?_setHolder known _⟩
  | counted => exact .inl hb
  | notCounted => exact .inl hb
  | replaced _ _ _ =>
    rw [Stage.replaced] at hb
    split at hb <;> cases hb
  | rests _ => exact .inl hb
  | _ => cases hb

/-- A create keeps its booking until it takes it back. -/
theorem keeps {b : Booking} (h : Turns w g g' w') (hb : g.kept? = some b) :
    g'.kept? = some b ∨
      ∃ e, g = takeBack b e ∧ g' = failed e ∧
        (w' = w.remove b.id ∨
          w' = w ∧ ∀ stored, w.bookings.get? b.id = some stored →
            stored.business ≠ b.business) := by
  cases h with
  | reserved _ _ => exact .inl hb
  | raceLost _ => exact .inl hb
  | counted => exact .inl hb
  | notCounted => exact .inl hb
  | takenBack _ _ => cases hb; exact .inr ⟨_, rfl, rfl, .inl rfl⟩
  | nothingToTakeBack absent => cases hb; exact .inr ⟨_, rfl, rfl, .inr ⟨rfl, absent⟩⟩
  | rests _ => exact .inl hb
  | _ => cases hb

/-- A create that has taken its slot never lets it go. -/
theorem holds {b : Booking} (h : Turns w g g' w') (hb : g.took? = some b) : g'.took? = some b := by
  cases h with
  | counted => exact hb
  | notCounted => exact hb
  | rests _ => exact hb
  | _ => cases hb

theorem isEarly (h : Turns w g g' w') (hg : g'.isEarly = true) :
    g.isEarly = true ∧ w'.bookings = w.bookings := by
  cases h with
  | replaced _ _ _ =>
    rw [Stage.replaced] at hg
    split at hg <;> cases hg
  | rests _ => exact ⟨hg, rfl⟩
  | slotFree _ _ _ => exact ⟨rfl, rfl⟩
  | customerKnown _ => exact ⟨rfl, rfl⟩
  | staffKnown _ => exact ⟨rfl, rfl⟩
  | slotRead _ _ _ => exact ⟨rfl, rfl⟩
  | _ => cases hg

end Turns

theorem HasMade.turn {w w' : World} {g g' : Stage} {new : Booking} (h : g.HasMade new)
    (t : Turns w g g' w') :
    g'.HasMade new ∧ w'.bookings = w.bookings := by
  rcases h with rfl | rfl
  · cases t with
    | released _ => exact ⟨.inr rfl, rfl⟩
    | nothingToRelease _ => exact ⟨.inr rfl, rfl⟩
    | rests ended => cases ended
  · cases t with
    | rests _ => exact ⟨.inr rfl, rfl⟩

end Stage

/-! ## Requests under way -/

/-- If nothing is drawn twice, one identifier is drawn in one place. -/
theorem getElem?_inj_of_nodup_filterMap {α β : Type} {f : α → Option β} {l : List α} {i j : Nat}
    {a a' : α} {x : β} (h : (l.filterMap f).Nodup) (hi : l[i]? = some a) (hj : l[j]? = some a')
    (fa : f a = some x) (fa' : f a' = some x) : i = j := by
  have hpair := List.pairwise_iff_getElem.1 (List.pairwise_filterMap.1 h)
  obtain ⟨hil, rfl⟩ := List.getElem?_eq_some_iff.1 hi
  obtain ⟨hjl, rfl⟩ := List.getElem?_eq_some_iff.1 hj
  rcases Nat.lt_trichotomy i j with hlt | heq | hgt
  · exact absurd rfl (hpair i j hil hjl hlt x fa x fa')
  · exact heq
  · exact absurd rfl (hpair j i hjl hil hgt x fa' x fa)

namespace Request

/-- No identifier is drawn twice, and none that is drawn is in use. -/
structure Fresh (requests : List Request) (w : World) : Prop where
  apart : (requests.filterMap drawn?).Nodup
  unused : ∀ id ∈ requests.filterMap drawn?, w.bookings.get? id = none

variable {requests : List Request} {w : World} {d : Interleaving Stage} {i j : Nat}
  {id : BookingId} {c c' : CreateBooking}

theorem mem_drawn (h : requests[i]? = some (create id c)) : id ∈ requests.filterMap drawn? :=
  List.mem_filterMap.2 ⟨_, List.mem_of_getElem? h, rfl⟩

theorem Fresh.unique (h : Fresh requests w) (hi : requests[i]? = some (create id c))
    (hj : requests[j]? = some (create id c')) : i = j :=
  getElem?_inj_of_nodup_filterMap h.apart hi hj rfl rfl

/-- The requests have come to stages that they can reach, and a booking that a create is yet to
store is not stored. -/
structure Underway (requests : List Request) (w : World) (d : Interleaving Stage) : Prop where
  ground : w.SameGround d.world
  length : d.strands.length = requests.length
  reached : ∀ {i : Nat} {r : Request} {g : Stage}, requests[i]? = some r →
    d.strands[i]? = some g → r.Reaches w g
  early : ∀ {i : Nat} {id c} {g : Stage}, requests[i]? = some (create id c) →
    d.strands[i]? = some g → g.isEarly = true → d.world.bookings.get? id = none

theorem Underway.request {g : Stage} (h : Underway requests w d) (hg : d.strands[i]? = some g) :
    ∃ r, requests[i]? = some r ∧ r.Reaches w g := by
  have hi : i < requests.length := h.length ▸ (List.getElem?_eq_some_iff.1 hg).1
  exact ⟨requests[i], List.getElem?_eq_getElem hi, h.reached (List.getElem?_eq_getElem hi) hg⟩

theorem Underway.strand {r : Request} (h : Underway requests w d) (hr : requests[i]? = some r) :
    ∃ g, d.strands[i]? = some g ∧ r.Reaches w g := by
  have hi : i < d.strands.length := h.length ▸ (List.getElem?_eq_some_iff.1 hr).1
  exact ⟨d.strands[i], List.getElem?_eq_getElem hi, h.reached hr (List.getElem?_eq_getElem hi)⟩

theorem strand_stages {g : Stage} (h : (stages requests w).strands[i]? = some g) :
    ∃ r, requests[i]? = some r ∧ g = r.start := by
  rw [stages, List.getElem?_map, Option.map_eq_some_iff] at h
  obtain ⟨r, hr, hg⟩ := h
  exact ⟨r, hr, hg.symm⟩

theorem underway_stages (fresh : Fresh requests w) : Underway requests w (stages requests w) where
  ground := .refl w
  length := by simp [stages]
  reached := by
    intro i r g hr hg
    obtain ⟨r', hr', rfl⟩ := strand_stages hg
    rw [hr, Option.some_inj] at hr'
    exact hr' ▸ reaches_start w r
  early hr _ _ := fresh.unused _ (mem_drawn hr)

theorem Reaches.create_of_insert {r : Request} {b : Booking} (h : r.Reaches w (.insert b)) :
    ∃ c, r = create b.id c ∧ c.Makes w b.id b := by
  cases h with
  | insert makes =>
    cases makes.id_eq
    exact ⟨_, rfl, makes⟩

theorem Reaches.create_of_kept {r : Request} {g : Stage} {b : Booking} (h : r.Reaches w g)
    (hb : g.kept? = some b) : ∃ c, r = create b.id c ∧ c.Makes w b.id b := by
  cases h with
  | reserve makes | count makes | takeBack makes | booked makes =>
    cases hb
    cases makes.id_eq
    exact ⟨_, rfl, makes⟩
  | _ => cases hb

/-- Two creates that keep a booking of the same identifier are one. -/
theorem Underway.unique {g g' : Stage} {b b' : Booking} (h : Underway requests w d)
    (fresh : Fresh requests w) (hi : d.strands[i]? = some g) (hj : d.strands[j]? = some g')
    (hb : g.kept? = some b) (hb' : g'.kept? = some b') (hid : b.id = b'.id) : i = j := by
  obtain ⟨r, hr, hreach⟩ := h.request hi
  obtain ⟨r', hr', hreach'⟩ := h.request hj
  obtain ⟨c, rfl, -⟩ := hreach.create_of_kept hb
  obtain ⟨c', rfl, -⟩ := hreach'.create_of_kept hb'
  exact fresh.unique hr (hid ▸ hr')

/-- A booking that is about to be stored is not stored. -/
theorem Underway.get?_insert {b : Booking} (h : Underway requests w d)
    (hg : d.strands[i]? = some (.insert b)) : d.world.bookings.get? b.id = none := by
  obtain ⟨r, hr, hreach⟩ := h.request hg
  obtain ⟨c, rfl, -⟩ := hreach.create_of_insert
  exact h.early hr hg rfl

theorem Underway.turn {g g' : Stage} {v : World} (fresh : Fresh requests w)
    (h : Underway requests w d) (hg : d.strands[i]? = some g)
    (t : Stage.Turns d.world g g' v) : Underway requests w ⟨v, d.strands.set i g'⟩ where
  ground := h.ground.trans t.sameGround
  length := by rw [List.length_set, h.length]
  reached := by
    intro j r gj hr hj
    rcases (Interleaving.getElem?_set_eq_some_iff hg).1 hj with ⟨rfl, rfl⟩ | ⟨-, hj⟩
    · refine (h.reached hr hg).turn h.ground ?_ t
      rintro b rfl
      exact h.get?_insert hg
    · exact h.reached hr hj
  early := by
    intro j id c gj hr hj hearly
    rcases (Interleaving.getElem?_set_eq_some_iff hg).1 hj with ⟨rfl, rfl⟩ | ⟨hne, hj⟩
    · obtain ⟨hearly, hrows⟩ := t.isEarly hearly
      exact hrows ▸ h.early hr hg hearly
    · rcases t.row_absent (h.early hr hj hearly) with hnone | ⟨b, rfl, rfl⟩
      · exact hnone
      · obtain ⟨r, hri, hreach⟩ := h.request hg
        obtain ⟨c', rfl, -⟩ := hreach.create_of_insert
        exact absurd (fresh.unique hr hri) hne

/-- What the turns of stages keep that can be reached, every schedule keeps. -/
theorem stages_keep (P : Interleaving Stage → Prop) (fresh : Fresh requests w)
    (start : P (stages requests w))
    (keeps : ∀ d i g g' v, Underway requests w d → P d → d.strands[i]? = some g →
      Stage.Turns d.world g g' v → P ⟨v, d.strands.set i g'⟩) (schedule : List Nat) :
    Underway requests w ((stages requests w).play (Stage.turn World.answer) schedule) ∧
      P ((stages requests w).play (Stage.turn World.answer) schedule) := by
  refine Interleaving.play_keeps (fun d => Underway requests w d ∧ P d) ?_
    ⟨underway_stages fresh, start⟩ schedule
  rintro d i g ⟨hunder, hP⟩ hg
  rw [Interleaving.turn_of_some hg]
  have t := Stage.turns d.world g
  exact ⟨hunder.turn fresh hg t, keeps d i g _ _ hunder hP hg t⟩

end Request
end BookingDesk
