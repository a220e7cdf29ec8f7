import BookingDesk.Proofs.Copies
import BookingDesk.Proofs.Endangered
import BookingDesk.Proofs.Leaving
import BookingDesk.Proofs.LostUpdate
import BookingDesk.Proofs.Seen

/-!
# Slots that are released

A slot is released by the request whose new version cancels a booking, and this can happen once: the
booking is not active after that, and never will be again. A booking is therefore in one of three
phases: it has not been cancelled, its slot is about to be released, or it has been released
(`Visit.Phase`). The slot of a new version is the one that the booking was ordered for (`Aimed`).
Main statement: slots are released once for each booking that is cancelled, and for nobody else
(`Visit.releases_once`).
-/
namespace BookingDesk

/-! ## Turns that cancel -/

namespace Stage

variable {w w' : World} {g g' : Stage} {id : BookingId} {b : Booking}

/-- A turn cancels an active booking if it leaves the slot of the booking to be released. -/
theorem Turns.cancels_iff (h : Turns w g g' w') :
    (∃ old new, w.bookings.get? id = some old ∧ old.status.isActive = true ∧
        w'.bookings.get? id = some new ∧ new.status = .cancelled) ↔
      ∃ b, g' = Stage.release b ∧ b.id = id := by
  constructor
  · rintro ⟨old, new, hold, hactive, hnew, hcancelled⟩
    have hchanged : w.bookings.get? id ≠ some new := by
      rw [hold]
      rintro ⟨⟩
      rw [hcancelled] at hactive
      cases hactive
    rcases h.rows with hrows | ⟨b, -, -, hfresh, rfl⟩ | ⟨b, e, -, -, rfl⟩ |
      ⟨b, before, stored, -, rfl, hstored, -, rfl, rfl⟩
    · exact absurd (hrows ▸ hnew) hchanged
    · rcases (World.get?_insert_eq_some_iff hfresh).1 hnew with ⟨rfl, rfl⟩ | hkept
      · rw [hfresh] at hold
        cases hold
      · exact absurd hkept hchanged
    · exact absurd (World.get?_remove_eq_some_iff.1 hnew).2 hchanged
    · rcases (World.get?_replace_eq_some_iff hstored).1 hnew with ⟨rfl, rfl⟩ | ⟨-, hkept⟩
      · rw [hstored] at hold
        cases hold
        exact ⟨new, if_pos (Change.givesUpSlot_iff.2 ⟨hactive, hcancelled⟩), rfl⟩
      · exact absurd hkept hchanged
  · rintro ⟨b, rfl, rfl⟩
    obtain ⟨before, stored, rfl, hstored, hgives, rfl⟩ := h.release
    obtain hfailed | ⟨stored', hstored', rfl, -⟩ := h.of_replace
    · cases hfailed
    · obtain ⟨hactive, hcancelled⟩ := Change.givesUpSlot_iff.1 hgives
      exact ⟨stored', b, hstored', hactive,
        (World.get?_replace_eq_some_iff hstored).2 (.inl ⟨rfl, rfl⟩), hcancelled⟩

theorem Turns.eq_of_call?_none (h : Turns w g g' w') (hcall : g.call? = none) :
    g' = g ∧ w' = w := by
  cases h with
  | rests _ => exact ⟨rfl, rfl⟩
  | _ => cases hcall

theorem call?_eq_release_iff {slot : SlotId} :
    g.call? = some (.release slot) ↔ ∃ b, g = release b ∧ b.slot = slot := by
  cases g <;> simp [call?]

/-- The request has nothing to release any more. -/
def Settled (g : Stage) : Prop :=
  g.call? = none ∨ ∃ b before, g = replace b before ∧ before.isActive = false

theorem Settled.turn (h : g.Settled) (t : Turns w g g' w') : g'.Settled := by
  rcases h with hcall | ⟨b, before, rfl, hbefore⟩
  · obtain ⟨rfl, -⟩ := t.eq_of_call?_none hcall
    exact .inl hcall
  · rcases t.of_replace with rfl | ⟨stored, -, -, rfl, -⟩
    · exact .inl rfl
    · rw [replaced, Booking.givesUpSlot, hbefore]
      exact .inl rfl

theorem Settled.ne_release (h : g.Settled) (b : Booking) : g ≠ release b := by
  rintro rfl
  rcases h with hcall | ⟨_, _, hreplace, -⟩
  · cases hcall
  · cases hreplace

/-- Whoever comes across a booking that is cancelled already has nothing to release. -/
theorem Turns.settled_of_cancelled {call : Call} {row : Booking} (h : Turns w g g' w')
    (hcall : g.call? = some call)
    (hconcerns : (∃ business, call = .find business id) ∨
      ∃ b before, call = .replace b before ∧ b.id = id)
    (hrow : w.bookings.get? id = some row) (hcancelled : row.status = .cancelled) :
    g'.Settled := by
  rcases hconcerns with ⟨business, rfl⟩ | ⟨b, before, rfl, rfl⟩
  · cases g with
    | load ch =>
      cases hcall
      cases h with
      | notFound _ | refused _ _ _ => exact .inl rfl
      | loaded found own admitted =>
        obtain rfl := Option.some.inj (hrow.symm.trans found)
        exact .inr ⟨_, _, rfl, by rw [hcancelled]; rfl⟩
      | rests ended => cases ended
    | _ => cases hcall
  · cases g with
    | replace b before =>
      cases hcall
      rcases h.of_replace with rfl | ⟨stored, hstored, rfl, rfl, -⟩
      · exact .inl rfl
      · obtain rfl := Option.some.inj (hrow.symm.trans hstored)
        rw [Stage.replaced, Booking.givesUpSlot, hcancelled]
        exact .inl rfl
    | _ => cases hcall

end Stage

namespace Request

/-- The request asks for a booking to be cancelled. -/
def wantsCancelled : Request → Bool
  | cancel _ => true
  | update c => c.status = some .cancelled
  | _ => false

/-- The slot that the request orders for this booking. -/
def orderedSlot? (id : BookingId) : Request → Option SlotId
  | create drawn c => if drawn = id then some c.slot else none
  | _ => none

/-- The slot of a booking: the one that it has from the start, or that its create orders. -/
def ownSlot? (requests : List Request) (w : World) (id : BookingId) : Option SlotId :=
  match w.bookings.get? id with
  | some row => some row.slot
  | none => requests.findSome? (orderedSlot? id)

variable {requests : List Request} {w v : World} {d : Interleaving Stage} {i : Nat} {r : Request}
  {g g' : Stage} {b : Booking} {ch : Change} {id : BookingId}

theorem orderedSlot?_eq_some_iff {slot : SlotId} :
    r.orderedSlot? id = some slot ↔ ∃ c, r = create id c ∧ c.slot = slot := by
  cases r with
  | create drawn c =>
    unfold orderedSlot?
    split <;> grind
  | _ => grind [orderedSlot?]

theorem ownSlot?_of_create {c : CreateBooking} (fresh : Fresh requests w)
    (hr : requests[i]? = some (create id c)) : ownSlot? requests w id = some c.slot := by
  unfold ownSlot?
  rw [fresh.unused id (mem_drawn hr)]
  cases hslot : requests.findSome? (orderedSlot? id) with
  | none =>
    have hnone := List.findSome?_eq_none_iff.1 hslot _ (List.mem_of_getElem? hr)
    rw [orderedSlot?_eq_some_iff.2 ⟨c, rfl, rfl⟩] at hnone
    cases hnone
  | some slot =>
    -- the create that orders it is the one at `i`, since no identifier is drawn twice
    obtain ⟨r', hmem, hr'⟩ := List.exists_of_findSome?_eq_some hslot
    obtain ⟨c', rfl, rfl⟩ := orderedSlot?_eq_some_iff.1 hr'
    obtain ⟨j, hj⟩ := List.mem_iff_getElem?.1 hmem
    obtain rfl := fresh.unique hr hj
    cases hr.symm.trans hj
    rfl

theorem target?_of_load (asks : r.start = .load ch) : r.target? = some ch.booking := by
  cases r with
  | create _ _ => exact absurd asks start_ne_load_of_create
  | update c =>
    rw [start] at asks
    split at asks
    · cases asks
    · cases asks
      rfl
  | confirm c | cancel c | complete c =>
    cases asks
    rfl

theorem wantsCancelled_of_load (asks : r.start = .load ch) (h : ch.wanted = some .cancelled) :
    r.wantsCancelled = true := by
  cases r with
  | create _ _ => exact absurd asks start_ne_load_of_create
  | update c =>
    rw [start] at asks
    split at asks
    · cases asks
    · cases asks
      exact decide_eq_true h
  | cancel c => rfl
  | confirm c | complete c =>
    cases asks
    cases h

/-- Every row stands under its identifier and has the slot that the booking was ordered for, and so
have new versions, each of the booking that its request asks to change. -/
structure Aimed (requests : List Request) (w : World) (d : Interleaving Stage) : Prop where
  keyed : d.world.Keyed
  rows : ∀ {id row}, d.world.bookings.get? id = some row → ownSlot? requests w id = some row.slot
  versions : ∀ {i : Nat} {r : Request} {g : Stage} {b}, requests[i]? = some r →
    d.strands[i]? = some g → g.version? = some b →
    r.target? = some b.id ∧ ownSlot? requests w b.id = some b.slot

theorem aimed_stages (keyed : w.Keyed) : Aimed requests w (stages requests w) where
  keyed := keyed
  rows := by
    intro id row hrow
    have hstart : w.bookings.get? id = some row := hrow
    rw [ownSlot?, hstart]
  versions := by
    intro i r g b _ hg hb
    obtain ⟨r', -, rfl⟩ := strand_stages hg
    rw [version?_start] at hb
    cases hb

theorem Aimed.turn (h : Aimed requests w d) (fresh : Fresh requests w)
    (under : Underway requests w d) (hg : d.strands[i]? = some g)
    (t : Stage.Turns d.world g g' v) : Aimed requests w ⟨v, d.strands.set i g'⟩ where
  keyed id row hrow := by
    rcases t.row_cases hrow with hrow | ⟨hid, -⟩
    · exact h.keyed id row hrow
    · exact hid.symm
  rows := by
    intro id row hrow
    obtain ⟨r, hr, hreach⟩ := under.request hg
    rcases t.row_cases hrow with hrow | ⟨rfl, ⟨rfl, -⟩ | ⟨stored, rfl, -⟩⟩
    · exact h.rows hrow
    · obtain ⟨c, rfl, makes⟩ := hreach.create_of_insert
      rw [makes.slot_eq]
      exact ownSlot?_of_create fresh hr
    · exact (h.versions hr hg rfl).2
  versions := by
    intro j r gj b hr hj hb
    rcases (Interleaving.getElem?_set_eq_some_iff hg).1 hj with ⟨rfl, rfl⟩ | ⟨-, hj⟩
    · rcases t.version hb with hversion | ⟨ch, stored, rfl, hstored, rfl⟩
      · exact h.versions hr hg hversion
      · cases under.reached hr hg with
        | load asks =>
          rw [Change.id_result, Change.slot_result, h.keyed _ _ hstored]
          exact ⟨target?_of_load asks, h.rows hstored⟩
    · exact h.versions hr hj hb

namespace Visit

/-! ## Releases -/

/-- The caller on whose behalf a slot is released in this turn. -/
def releaser? (v : Visit) (n : Nat) : Option Nat :=
  match v.called? n with
  | some (i, .release _) => some i
  | _ => none

/-- How often a slot has been released on behalf of a caller. -/
def releasesBy (v : Visit) (i n : Nat) : Nat :=
  (List.range n).countP fun m => v.releaser? m = some i

/-- The booking whose slot is released in this turn: the one that the caller asked to change, if the
slot is its own. -/
def released? (v : Visit) (n : Nat) : Option BookingId :=
  match v.called? n with
  | some (i, .release slot) =>
    (v.requests[i]?.bind target?).filter fun id => ownSlot? v.requests v.start id = some slot
  | _ => none

/-- How often the slot of a booking has been released, by whoever asked to change the booking. -/
def releasesOf (v : Visit) (id : BookingId) (n : Nat) : Nat :=
  (List.range n).countP fun m => v.released? m = some id

/-- In this turn an active booking is cancelled. -/
def Cancels (v : Visit) (n : Nat) (id : BookingId) : Prop :=
  ∃ old new, v.row n id = some old ∧ old.status.isActive = true ∧
    v.row (n + 1) id = some new ∧ new.status = .cancelled

/-- The slots of cancelled bookings are released once, and no others. -/
structure ReleasesOnce (v : Visit) : Prop where
  /-- The slot of a booking is the one that it is stored with. -/
  slot : ∀ {n id row}, v.row n id = some row → ownSlot? v.requests v.start id = some row.slot
  /-- Only the slot of the booking is released that the caller asked to change. -/
  own : ∀ {n i slot}, v.called? n = some (i, .release slot) → ∃ id, v.released? n = some id
  atMostOnce : ∀ id n, v.releasesOf id n ≤ 1
  cancelled : ∀ {id n}, v.releasesOf id n = 1 → ∃ m < n, v.Cancels m id
  /-- When no task is under way, the slot of each cancelled booking has been released. -/
  settled : ∀ {id n}, ¬ v.Outstanding n → (v.releasesOf id n = 1 ↔ ∃ m < n, v.Cancels m id)
  /-- Nothing is released for a caller who is told of an error. -/
  refused : ∀ {i n e}, v.result? n i = some (.error e) → ∀ m, v.releasesBy i m = 0
  /-- Nor for one who comes across a booking that is cancelled already, when it is looked up or when
  the new version is to be stored. -/
  already : ∀ {i n call id row}, v.called? n = some (i, call) →
    (∃ business, call = .find business id) ∨ (∃ b before, call = .replace b before ∧ b.id = id) →
    v.row n id = some row → row.status = .cancelled → ∀ m, v.releasesBy i m = 0
  others : ∀ {i r}, v.requests[i]? = some r → r.wantsCancelled = false →
    ∀ m, v.releasesBy i m = 0

variable {v : Visit} {i j n m : Nat} {call : Call}

theorem releasesBy_succ (v : Visit) (i n : Nat) :
    v.releasesBy i (n + 1) = v.releasesBy i n + if v.releaser? n = some i then 1 else 0 := by
  rw [releasesBy, List.range_succ, List.countP_append, List.countP_singleton]
  simp [releasesBy]

theorem releasesOf_succ (v : Visit) (id : BookingId) (n : Nat) :
    v.releasesOf id (n + 1) = v.releasesOf id n + if v.released? n = some id then 1 else 0 := by
  rw [releasesOf, List.range_succ, List.countP_append, List.countP_singleton]
  simp [releasesOf]

theorem releaser?_of_none (h : v.called? n = none) : v.releaser? n = none := by
  rw [releaser?, h]

theorem released?_of_none (h : v.called? n = none) : v.released? n = none := by
  rw [released?, h]

/-- A slot is released by a stage that is there to release it. -/
theorem releaser?_eq_some_iff (hcalled : v.called? n = some (i, call))
    (hcall : g.call? = some call) : v.releaser? n = some j ↔ j = i ∧ ∃ b, g = .release b := by
  rw [releaser?, hcalled]
  constructor
  · intro h
    split at h
    · rename_i slot heq
      cases heq
      cases h
      obtain ⟨b, hb, -⟩ := Stage.call?_eq_release_iff.1 hcall
      exact ⟨rfl, b, hb⟩
    · cases h
  · rintro ⟨rfl, b, rfl⟩
    cases hcall
    rfl

theorem cancels_iff {w : World} {g g' : Stage} {id : BookingId}
    (t : Stage.Turns (v.stagesAfter n).world g g' w)
    (hstages : v.stagesAfter (n + 1) = ⟨w, (v.stagesAfter n).strands.set i g'⟩) :
    v.Cancels n id ↔ ∃ b, g' = .release b ∧ b.id = id := by
  rw [← t.cancels_iff, Cancels, row_eq, row_eq, hstages]

theorem not_cancels_of_none {id : BookingId} (hstages : v.stagesAfter (n + 1) = v.stagesAfter n) :
    ¬ v.Cancels n id := by
  rintro ⟨old, new, hold, hactive, hnew, hcancelled⟩
  rw [row_eq, hstages, ← row_eq, hold] at hnew
  cases hnew
  rw [hcancelled] at hactive
  cases hactive

/-! ## Release by release -/

/-- What has become of the slot of a booking, if it had one. -/
inductive Phase (v : Visit) (id : BookingId) (n : Nat) : Prop
  | kept (never : ∀ m < n, ¬ v.Cancels m id) (none : v.releasesOf id n = 0)
      (idle : ∀ (i : Nat) b, (v.stagesAfter n).strands[i]? = some (.release b) → b.id ≠ id)
  | releasing {i : Nat} {b : Booking} (cancelled : ∃ m < n, v.Cancels m id)
      (gone : Gone v.requests (v.stagesAfter n) id) (none : v.releasesOf id n = 0)
      (there : (v.stagesAfter n).strands[i]? = some (.release b)) (hid : b.id = id)
      (only : ∀ (j : Nat) b, (v.stagesAfter n).strands[j]? = some (.release b) → b.id = id → j = i)
  | released (cancelled : ∃ m < n, v.Cancels m id) (gone : Gone v.requests (v.stagesAfter n) id)
      (once : v.releasesOf id n = 1)
      (idle : ∀ (i : Nat) b, (v.stagesAfter n).strands[i]? = some (.release b) → b.id ≠ id)

theorem exists_cancels_succ {id : BookingId} (h : ∃ m < n, v.Cancels m id) :
    ∃ m < n + 1, v.Cancels m id :=
  h.imp fun _ hm => ⟨Nat.lt_succ_of_lt hm.1, hm.2⟩

/-- A turn that neither cancels the booking nor releases its slot. -/
theorem Phase.stay {id : BookingId} (h : v.Phase id n) (hcancels : ¬ v.Cancels n id)
    (hcount : v.releasesOf id (n + 1) = v.releasesOf id n)
    (hsame : ∀ (j : Nat) b, b.id = id → ((v.stagesAfter (n + 1)).strands[j]? = some (.release b) ↔
      (v.stagesAfter n).strands[j]? = some (.release b)))
    (hgone : Gone v.requests (v.stagesAfter n) id → Gone v.requests (v.stagesAfter (n + 1)) id) :
    v.Phase id (n + 1) := by
  have hidle : (∀ (i : Nat) b, (v.stagesAfter n).strands[i]? = some (.release b) → b.id ≠ id) →
      ∀ (i : Nat) b, (v.stagesAfter (n + 1)).strands[i]? = some (.release b) → b.id ≠ id :=
    fun idle j b hb hid => idle j b ((hsame j b hid).1 hb) hid
  cases h with
  | kept never none idle =>
    refine .kept (fun m hm => ?_) (hcount.trans none) (hidle idle)
    obtain hlt | rfl := Nat.lt_succ_iff_lt_or_eq.1 hm
    · exact never m hlt
    · exact hcancels
  | releasing cancelled gone none there hid only =>
    exact .releasing (exists_cancels_succ cancelled) (hgone gone) (hcount.trans none)
      ((hsame _ _ hid).2 there) hid fun j b hb hid => only j b ((hsame j b hid).1 hb) hid
  | released cancelled gone once idle =>
    exact .released (exists_cancels_succ cancelled) (hgone gone) (hcount.trans once) (hidle idle)

/-- A turn that cancels the booking, whose slot is then about to be released. -/
theorem Phase.cancel {b : Booking} (h : v.Phase b.id n) (hnow : v.Cancels n b.id)
    (hgone : Gone v.requests (v.stagesAfter (n + 1)) b.id)
    (hcount : v.releasesOf b.id (n + 1) = v.releasesOf b.id n)
    (hself : (v.stagesAfter (n + 1)).strands[i]? = some (.release b))
    (hother : ∀ j : Nat, j ≠ i →
      (v.stagesAfter (n + 1)).strands[j]? = (v.stagesAfter n).strands[j]?) :
    v.Phase b.id (n + 1) := by
  have hlive : (v.stagesAfter n).world.Live b.id := by
    obtain ⟨old, _, hold, hactive, -⟩ := hnow
    exact ⟨old, v.row_eq n _ ▸ hold, hactive⟩
  cases h with
  | kept _ none idle =>
    refine .releasing ⟨n, Nat.lt_succ_self n, hnow⟩ hgone (hcount.trans none) hself rfl ?_
    intro j b' hb' hid
    by_cases hj : j = i
    · exact hj
    · exact absurd hid (idle j b' (hother j hj ▸ hb'))
  | releasing _ gone | released _ gone => exact absurd hlive gone.notLive

/-- A turn that releases the slot of the booking. -/
theorem Phase.release {b : Booking} (h : v.Phase b.id n)
    (hgone : Gone v.requests (v.stagesAfter n) b.id →
      Gone v.requests (v.stagesAfter (n + 1)) b.id)
    (hcount : v.releasesOf b.id (n + 1) = v.releasesOf b.id n + 1)
    (hbefore : (v.stagesAfter n).strands[i]? = some (.release b))
    (hself : ∀ b', (v.stagesAfter (n + 1)).strands[i]? = some (.release b') → b'.id ≠ b.id)
    (hother : ∀ j : Nat, j ≠ i →
      (v.stagesAfter (n + 1)).strands[j]? = (v.stagesAfter n).strands[j]?) :
    v.Phase b.id (n + 1) := by
  cases h with
  | kept _ _ idle | released _ _ _ idle => exact absurd rfl (idle i b hbefore)
  | releasing cancelled gone none there hid only =>
    obtain rfl := only i b hbefore rfl
    refine .released (exists_cancels_succ cancelled) (hgone gone) (by rw [hcount, none]) ?_
    intro j b' hb' hid'
    by_cases hj : j = i
    · subst j
      exact hself b' hb' hid'
    · exact hj (only j b' (hother j hj ▸ hb') hid')

/-- What is known of a visit after so many turns. -/
structure Counted (v : Visit) (n : Nat) : Prop where
  aimed : Aimed v.requests v.start (v.stagesAfter n)
  phase : ∀ id, v.Phase id n
  /-- Only requests that ask for it, and that have done all they do, have released a slot. -/
  spent : ∀ {i : Nat} {r : Request} {g : Stage}, v.requests[i]? = some r →
    (v.stagesAfter n).strands[i]? = some g →
    v.releasesBy i n = 0 ∨ r.wantsCancelled = true ∧ ∃ b, g = .changed b

section

variable {r : Request} {g g' : Stage} {w : World} {id : BookingId}
  (under : Underway v.requests v.start (v.stagesAfter n)) (hr : v.requests[i]? = some r)
  (hcalled : v.called? n = some (i, call)) (hg : (v.stagesAfter n).strands[i]? = some g)
  (hcall : g.call? = some call) (t : Stage.Turns (v.stagesAfter n).world g g' w)
  (hstages : v.stagesAfter (n + 1) = ⟨w, (v.stagesAfter n).strands.set i g'⟩)
include hr hcalled hg hcall

/-- The slot that is released is that of the booking which the new version is of. -/
theorem Aimed.released_iff (aimed : Aimed v.requests v.start (v.stagesAfter n)) :
    v.released? n = some id ↔ ∃ b, g = .release b ∧ b.id = id := by
  unfold released?
  rw [hcalled]
  constructor
  · intro h
    split at h
    · rename_i slot heq
      cases heq
      obtain ⟨b, rfl, rfl⟩ := Stage.call?_eq_release_iff.1 hcall
      rw [hr, Option.bind_some, (aimed.versions hr hg rfl).1] at h
      exact ⟨b, rfl, Option.some.inj (Option.eq_some_of_filter_eq_some h)⟩
    · cases h
  · rintro ⟨b, rfl, rfl⟩
    obtain ⟨htarget, hslot⟩ := aimed.versions hr hg rfl
    cases hcall
    simp [hr, htarget, hslot]

include under t hstages

theorem Counted.phase_turn (h : v.Counted n) (fresh : Fresh v.requests v.start) :
    v.Phase id (n + 1) := by
  have hreleased : v.released? n = some id ↔ _ := Aimed.released_iff hr hcalled hg hcall h.aimed
  have hcancels : v.Cancels n id ↔ _ := cancels_iff t hstages
  have hgone : Gone v.requests (v.stagesAfter n) id → Gone v.requests (v.stagesAfter (n + 1)) id :=
    fun gone => hstages ▸ gone.turn under hg t
  have hself : (v.stagesAfter (n + 1)).strands[i]? = some g' := by
    rw [hstages, Interleaving.getElem?_set hg, if_pos rfl]
  have hother : ∀ j : Nat, j ≠ i →
      (v.stagesAfter (n + 1)).strands[j]? = (v.stagesAfter n).strands[j]? := by
    intro j hne
    rw [hstages, Interleaving.getElem?_set hg, if_neg hne]
  by_cases hcancel : ∃ b, g' = .release b ∧ b.id = id
  · -- the booking is cancelled, and was not before
    have hnow := hcancels.2 hcancel
    obtain ⟨b, rfl, rfl⟩ := hcancel
    obtain ⟨before, stored, rfl, -⟩ := t.release
    refine (h.phase b.id).cancel hnow (hstages ▸ under.gone_of_release fresh hg t) ?_ hself hother
    rw [releasesOf_succ, if_neg fun hrel => by obtain ⟨_, ⟨⟩, -⟩ := hreleased.1 hrel]
    rfl
  by_cases hrelease : ∃ b, g = .release b ∧ b.id = id
  · -- the slot of the booking is released
    have hcount : v.releasesOf id (n + 1) = v.releasesOf id n + 1 := by
      rw [releasesOf_succ, if_pos (hreleased.2 hrelease)]
    obtain ⟨b, rfl, rfl⟩ := hrelease
    refine (h.phase b.id).release hgone hcount hg ?_ hother
    intro b' hb' hid
    rw [hself] at hb'
    cases hb'
    exact hcancel ⟨b', rfl, hid⟩
  · refine (h.phase id).stay (fun hnow => hcancel (hcancels.1 hnow)) ?_ (fun j b hid => ?_) hgone
    · rw [releasesOf_succ, if_neg fun hrel => hrelease (hreleased.1 hrel)]
      rfl
    · by_cases hj : j = i
      · subst j
        rw [hself, hg]
        constructor
        · rintro ⟨⟩
          exact absurd ⟨b, rfl, hid⟩ hcancel
        · rintro ⟨⟩
          exact absurd ⟨b, rfl, hid⟩ hrelease
      · rw [hother j hj]

/-- Only the caller who releases a slot has released one more. -/
theorem Counted.spent_turn {k : Nat} {rk : Request} {gk : Stage} (h : v.Counted n)
    (hrk : v.requests[k]? = some rk) (hgk : (v.stagesAfter (n + 1)).strands[k]? = some gk) :
    v.releasesBy k (n + 1) = 0 ∨ rk.wantsCancelled = true ∧ ∃ b, gk = .changed b := by
  rw [hstages] at hgk
  rcases (Interleaving.getElem?_set_eq_some_iff hg).1 hgk with ⟨rfl, rfl⟩ | ⟨hne, hgk⟩
  · obtain rfl := Option.some.inj (hr.symm.trans hrk)
    by_cases hrelease : ∃ b, g = .release b
    · obtain ⟨b, rfl⟩ := hrelease
      refine .inr ⟨?_, b, ?_⟩
      · cases under.reached hr hg with
        | release asks own cancelled =>
          exact wantsCancelled_of_load asks (Change.wanted_of_givesUpSlot cancelled)
      · cases t with
        | released _ | nothingToRelease _ => rfl
        | rests ended => cases ended
    · refine .inl ?_
      have hidle : ¬ v.releaser? n = some k := fun hrel =>
        hrelease ((releaser?_eq_some_iff hcalled hcall).1 hrel).2
      rw [releasesBy_succ, if_neg hidle]
      rcases h.spent hr hg with hzero | ⟨-, b, rfl⟩
      · exact hzero
      · cases hcall
  · rw [releasesBy_succ, if_neg fun hrel => hne ((releaser?_eq_some_iff hcalled hcall).1 hrel).1]
    exact h.spent hrk hgk

theorem Counted.turn (h : v.Counted n) (fresh : Fresh v.requests v.start) : v.Counted (n + 1) where
  aimed := hstages ▸ h.aimed.turn fresh under hg t
  phase _ := h.phase_turn under hr hcalled hg hcall t hstages fresh
  spent := h.spent_turn under hr hcalled hg hcall t hstages

end

theorem Counted.rest (h : v.Counted n) (hcalled : v.called? n = none)
    (hstages : v.stagesAfter (n + 1) = v.stagesAfter n) : v.Counted (n + 1) where
  aimed := hstages ▸ h.aimed
  phase id := by
    refine (h.phase id).stay (not_cancels_of_none hstages) ?_ (fun _ _ _ => by rw [hstages])
      fun gone => hstages ▸ gone
    rw [releasesOf_succ, released?_of_none hcalled]
    rfl
  spent := by
    intro i r g hr hg
    rw [releasesBy_succ, releaser?_of_none hcalled]
    exact h.spent hr (hstages ▸ hg)

theorem counted_zero (keyed : v.start.Keyed) : v.Counted 0 where
  aimed := aimed_stages keyed
  phase id := by
    refine .kept (fun m hm => absurd hm (Nat.not_lt_zero m)) rfl fun i b hb => ?_
    obtain ⟨r, -, hr⟩ := strand_stages hb
    have hversion := version?_start r
    rw [← hr] at hversion
    cases hversion
  spent _ _ := .inl rfl

theorem counted (fresh : Fresh v.requests v.start) (keyed : v.start.Keyed) (n : Nat) :
    Underway v.requests v.start (v.stagesAfter n) ∧ v.Counted n := by
  refine keeps fresh (counted_zero keyed) (fun n hcalled hstages h => h.rest hcalled hstages) ?_ n
  intro n i call g g' w under hcalled hg hcall hact hstages h
  obtain ⟨r, hr, -⟩ := under.request hg
  exact h.turn under hr hcalled hg hcall (Stage.turns_of_act hact) hstages fresh

/-! ## Callers for whom nothing is released any more -/

theorem releasesBy_mono (v : Visit) (i : Nat) (h : m ≤ n) :
    v.releasesBy i m ≤ v.releasesBy i n :=
  (List.range_sublist.2 h).countP_le

theorem releasesBy_of_settled {g : Stage} (hg : (v.stagesAfter n).strands[i]? = some g)
    (settled : g.Settled) (k : Nat) :
    v.releasesBy i (n + k) = v.releasesBy i n := by
  suffices h : v.releasesBy i (n + k) = v.releasesBy i n ∧
      ∃ g, (v.stagesAfter (n + k)).strands[i]? = some g ∧ g.Settled from h.1
  induction k with
  | zero => exact ⟨rfl, g, hg, settled⟩
  | succ k ih =>
    obtain ⟨hcount, g, hg, settled⟩ := ih
    rw [← Nat.add_assoc, releasesBy_succ, hcount]
    rcases v.turn_cases (n + k) with ⟨hcalled, hstages⟩ | ⟨j, call, gj, hcalled, hj, hcall, hstages⟩
    · rw [releaser?_of_none hcalled, hstages]
      exact ⟨rfl, g, hg, settled⟩
    · have t := Stage.turns (v.stagesAfter (n + k)).world gj
      rw [hstages]
      refine ⟨?_, ?_⟩
      · rw [if_neg fun hrel => ?_]
        · rfl
        · obtain ⟨rfl, b, rfl⟩ := (releaser?_eq_some_iff hcalled hcall).1 hrel
          obtain rfl := Option.some.inj (hg.symm.trans hj)
          exact settled.ne_release b rfl
      · by_cases hji : i = j
        · subst j
          obtain rfl := Option.some.inj (hg.symm.trans hj)
          exact ⟨_, (Interleaving.getElem?_set_eq_some_iff hg).2 (.inl ⟨rfl, rfl⟩), settled.turn t⟩
        · exact ⟨g, (Interleaving.getElem?_set_eq_some_iff hj).2 (.inr ⟨hji, hg⟩), settled⟩

theorem releasesBy_eq_zero {g : Stage} (hg : (v.stagesAfter n).strands[i]? = some g)
    (settled : g.Settled) (hzero : v.releasesBy i n = 0) (m : Nat) : v.releasesBy i m = 0 := by
  have hlater := releasesBy_of_settled hg settled m
  have hmono := v.releasesBy_mono i (Nat.le_add_left m n)
  omega

/-- Nothing is released for a caller who is told of an error. -/
theorem releasesBy_of_error (fresh : Fresh v.requests v.start) (keyed : v.start.Keyed)
    {e : ServiceError} (herror : v.result? n i = some (.error e)) (m : Nat) :
    v.releasesBy i m = 0 := by
  obtain ⟨under, h⟩ := counted fresh keyed n
  obtain ⟨c, hc, hresult⟩ := Option.bind_eq_some_iff.1 herror
  obtain ⟨g, hg, hfollows⟩ := (v.alike_after n).strand hc
  obtain ⟨_, hended, rfl⟩ := hfollows.result?_eq hresult
  obtain ⟨r, hr, -⟩ := under.request hg
  refine releasesBy_eq_zero hg (.inl (Stage.call?_eq_none_iff.2 ⟨_, hended⟩)) ?_ m
  rcases h.spent hr hg with hzero | ⟨-, b, rfl⟩
  · exact hzero
  · cases hended

/-- Nothing is released for one who comes across a booking that is cancelled already. -/
theorem releasesBy_of_cancelled (fresh : Fresh v.requests v.start) (keyed : v.start.Keyed)
    {id : BookingId} {row : Booking} (hcalled : v.called? n = some (i, call))
    (hconcerns : (∃ business, call = .find business id) ∨
      ∃ b before, call = .replace b before ∧ b.id = id)
    (hrow : v.row n id = some row) (hcancelled : row.status = .cancelled) (m : Nat) :
    v.releasesBy i m = 0 := by
  obtain ⟨under, h⟩ := counted fresh keyed n
  have hidle : v.releaser? n = none := by
    rw [releaser?, hcalled]
    rcases hconcerns with ⟨_, rfl⟩ | ⟨_, _, rfl, -⟩ <;> rfl
  obtain ⟨g, hg, hcall, hstages⟩ := turn_of_called hcalled
  have settled := (Stage.turns (v.stagesAfter n).world g).settled_of_cancelled hcall hconcerns
    (v.row_eq n id ▸ hrow) hcancelled
  have hnext : (v.stagesAfter (n + 1)).strands[i]? = some (g.act (v.stagesAfter n).world).1 := by
    rw [hstages, Interleaving.getElem?_set hg, if_pos rfl]
  refine releasesBy_eq_zero hnext settled ?_ m
  rw [releasesBy_succ, hidle]
  obtain ⟨r, hr, -⟩ := under.request hg
  rcases h.spent hr hg with hzero | ⟨-, b, rfl⟩
  · exact hzero
  · cases hcall

/-! ## All releases -/

/-- When no task is under way, no slot is about to be released. -/
theorem Phase.settled {id : BookingId} (h : v.Phase id n) (hidle : ¬ v.Outstanding n) :
    v.releasesOf id n = 1 ↔ ∃ m < n, v.Cancels m id := by
  cases h with
  | kept never none =>
    refine ⟨fun hone => by omega, ?_⟩
    rintro ⟨m, hm, hcancels⟩
    exact absurd hcancels (never m hm)
  | releasing _ _ _ there =>
    obtain ⟨c, hc, hfollows⟩ := (v.alike_after n).strand_right there
    have htask := hfollows.task?_eq rfl rfl
    exact absurd ⟨_, c, hc, by rw [htask]; rfl⟩ hidle
  | released cancelled _ once => exact ⟨fun _ => cancelled, fun _ => once⟩

/-- Whichever slot is released, it is that of the booking which the caller asked to change. -/
theorem exists_released (fresh : Fresh v.requests v.start) (keyed : v.start.Keyed)
    {slot : SlotId} (hcalled : v.called? n = some (i, .release slot)) :
    ∃ id, v.released? n = some id := by
  obtain ⟨under, h⟩ := counted fresh keyed n
  obtain ⟨g, hg, hcall, -⟩ := turn_of_called hcalled
  obtain ⟨b, rfl, rfl⟩ := Stage.call?_eq_release_iff.1 hcall
  obtain ⟨r, hr, -⟩ := under.request hg
  exact ⟨b.id, (Aimed.released_iff hr hcalled hg hcall h.aimed).2 ⟨b, rfl, rfl⟩⟩

/-- In every visit, slots are released once for each booking that is cancelled, and for nobody
else. -/
theorem releases_once (v : Visit) (fresh : Fresh v.requests v.start) (keyed : v.start.Keyed) :
    v.ReleasesOnce where
  slot {n id row} hrow := (counted fresh keyed n).2.aimed.rows (v.row_eq n id ▸ hrow)
  own := exists_released fresh keyed
  atMostOnce id n := by
    cases (counted fresh keyed n).2.phase id <;> omega
  cancelled {id n} hone := by
    cases (counted fresh keyed n).2.phase id with
    | kept _ none => omega
    | releasing cancelled | released cancelled => exact cancelled
  settled {id n} := ((counted fresh keyed n).2.phase id).settled
  refused := releasesBy_of_error fresh keyed
  already := releasesBy_of_cancelled fresh keyed
  others {i r} hr hwants m := by
    obtain ⟨under, h⟩ := counted fresh keyed m
    obtain ⟨g, hg, -⟩ := under.strand hr
    rcases h.spent hr hg with hzero | ⟨hwanted, -⟩
    · exact hzero
    · rw [hwants] at hwanted
      cases hwanted

/-- A booking is made and cancelled by a caller who leaves; the slot is released all the same. -/
theorem releases_once_left :
    let cancel := ChangeStatus.mk Sample.book.business (Sample.name _ 1) (.ofSecond 0)
    let v : Visit := ⟨[.create (Sample.name _ 1) Sample.book, .cancel cancel], Sample.world,
      List.replicate 7 (0, false) ++ [(1, false), (1, true), (1, false), (1, false)]⟩
    Fresh v.requests v.start ∧ v.start.Keyed ∧ v.releasesOf (Sample.name _ 1) 11 = 1 ∧
      v.ReleasesOnce := by
  intro cancel v
  have fresh : Fresh v.requests v.start := ⟨by decide, fun _ _ => rfl⟩
  exact ⟨fresh, keyed_sample, by decide +kernel, releases_once v fresh keyed_sample⟩

end Visit

end Request
end BookingDesk
