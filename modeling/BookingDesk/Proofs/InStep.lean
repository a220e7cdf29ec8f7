import BookingDesk.Proofs.Keyed
import BookingDesk.Proofs.Troubled
import BookingDesk.Proofs.Turns
import Mathlib.Data.List.Induction

/-!
# Bookings and slots in step

The keepers of bookings and of slots know nothing of each other. As long as one request is served
after another, what they keep goes together all the same, whichever calls fail: a stored booking
holds its slot until it is cancelled, and a slot is held by a stored booking of it (`InStep`). Only
a call to release a slot that fails leaves it with a cancelled booking (`ReleaseFailed`). Between
two calls of a request the books may be out of step, but its stage tells by how much
(`Stage.KeepsStep`). Main statement: after any sequence of requests they are in step
(`served_in_step`).
-/
namespace BookingDesk

variable {w v : World} {stuck : BookingId → Prop} {b old : Booking}

/-! ## Releases that fail -/

/-- The booking was active in the books `w` and is cancelled in `v`, and of the calls that were made
in between, with these effects, the one that releases its slot failed. -/
def World.Unreleased (w v : World) (met : List (Call × Effect)) (id : BookingId) : Prop :=
  ∃ old new message, w.bookings.get? id = some old ∧ old.status.isActive = true ∧
    v.bookings.get? id = some new ∧ new.status = .cancelled ∧
    (Call.release new.slot, Effect.fail message) ∈ met

/-- Serves one request after another to its end, each with its own faults. -/
def Timeline.serve (t : Timeline) (requests : List (Faults × Request)) : Timeline :=
  requests.foldl (fun t p => (run none p.2.service { t with faults := p.1 }).2) t

/-- One of these requests cancelled the booking, and its call to release the slot failed. -/
def ReleaseFailed (t : Timeline) (requests : List (Faults × Request)) (id : BookingId) : Prop :=
  ∃ earlier fs r later made, requests = earlier ++ (fs, r) :: later ∧
    (t.serve (earlier ++ [(fs, r)])).calls = (t.serve earlier).calls ++ made ∧
    (t.serve earlier).world.Unreleased (t.serve (earlier ++ [(fs, r)])).world (fs.effects made) id

theorem ReleaseFailed.append {t : Timeline} {requests : List (Faults × Request)} {id : BookingId}
    (h : ReleaseFailed t requests id) (p : Faults × Request) :
    ReleaseFailed t (requests ++ [p]) id := by
  obtain ⟨earlier, fs, r, later, made, rfl, h⟩ := h
  exact ⟨earlier, fs, r, later ++ [p], made, by simp, h⟩

theorem Timeline.serve_append (t : Timeline) (requests : List (Faults × Request)) (fs : Faults)
    (r : Request) : t.serve (requests ++ [(fs, r)]) =
      (run none r.service { t.serve requests with faults := fs }).2 := by
  rw [serve, List.foldl_append]
  rfl

/-! ## What keeps them in step -/

/-- Bookings that are not cancelled hold their slots; slots are held by stored bookings of them, and
of the cancelled ones by those only that are stuck with theirs. -/
structure InStep (w : World) (stuck : BookingId → Prop) : Prop where
  keyed : w.Keyed
  held : ∀ {id row}, w.bookings.get? id = some row → row.status ≠ .cancelled →
    w.holder? row.slot = some id
  stored : ∀ {slot id}, w.holder? slot = some id → ∃ row, w.bookings.get? id = some row ∧
    row.slot = slot ∧ (row.status = .cancelled → stuck id)

namespace InStep

theorem start (empty : ∀ id, w.bookings.get? id = none) (unheld : ∀ s, w.holder? s = none) :
    InStep w stuck := by
  refine ⟨?_, ?_, ?_⟩
  · intro id row h
    rw [empty] at h
    cases h
  · intro id row h
    rw [empty] at h
    cases h
  · intro slot id h
    rw [unheld] at h
    cases h

theorem mono {stuck' : BookingId → Prop} (h : InStep w stuck)
    (more : ∀ id, stuck id → stuck' id) : InStep w stuck' := by
  refine ⟨h.keyed, h.held, fun hs => ?_⟩
  obtain ⟨row, hrow, hslot, hstuck⟩ := h.stored hs
  exact ⟨row, hrow, hslot, fun hc => more _ (hstuck hc)⟩

theorem countBooking (h : InStep w stuck) (business : BusinessId) (customer : CustomerId) :
    InStep (w.countBooking business customer) stuck :=
  ⟨h.keyed, h.held, h.stored⟩

/-- A new booking is stored and takes a free slot. -/
theorem book (h : InStep w stuck) (fresh : w.bookings.get? b.id = none)
    (active : b.status ≠ .cancelled) (known : (w.slotOf? b.slot).isSome = true)
    (free : w.holder? b.slot = none) :
    InStep ((w.insert b).setHolder b.slot (some b.id)) stuck := by
  have hholder := World.holder?_setHolder (w := w.insert b) known (some b.id)
  have hrows : ∀ {id row}, ((w.insert b).setHolder b.slot (some b.id)).bookings.get? id = some row ↔
      id = b.id ∧ row = b ∨ w.bookings.get? id = some row :=
    World.get?_insert_eq_some_iff fresh
  refine ⟨?_, ?_, ?_⟩
  · intro id row hrow
    rcases hrows.1 hrow with ⟨rfl, rfl⟩ | hrow
    · rfl
    · exact h.keyed _ _ hrow
  · intro id row hrow hactive
    rw [hholder]
    rcases hrows.1 hrow with ⟨rfl, rfl⟩ | hrow
    · exact if_pos rfl
    · have hheld := h.held hrow hactive
      rw [if_neg ?_, World.holder?_insert, hheld]
      intro hslot
      rw [hslot, free] at hheld
      cases hheld
  · intro slot id hs
    rw [hholder] at hs
    split at hs
    · rename_i hslot
      cases hs
      exact ⟨b, hrows.2 (.inl ⟨rfl, rfl⟩), hslot.symm, fun hc => absurd hc active⟩
    · obtain ⟨row, hrow, hrest⟩ := h.stored hs
      exact ⟨row, hrows.2 (.inr hrow), hrest⟩

/-- A new version is stored; if it cancels the booking, that is stuck with its slot. -/
theorem replace_of_stuck (h : InStep w stuck) (found : w.bookings.get? b.id = some old)
    (same : b.slot = old.slot) (hactive : b.status ≠ .cancelled → old.status ≠ .cancelled)
    (hstuck : b.status = .cancelled → old.status ≠ .cancelled → stuck b.id) :
    InStep (w.replace b) stuck := by
  have hrows : ∀ {id row}, (w.replace b).bookings.get? id = some row ↔
      id = b.id ∧ row = b ∨ id ≠ b.id ∧ w.bookings.get? id = some row :=
    World.get?_replace_eq_some_iff found
  refine ⟨?_, ?_, ?_⟩
  · intro id row hrow
    rcases hrows.1 hrow with ⟨rfl, rfl⟩ | ⟨-, hrow⟩
    · rfl
    · exact h.keyed _ _ hrow
  · intro id row hrow hc
    rw [World.holder?_replace]
    rcases hrows.1 hrow with ⟨rfl, rfl⟩ | ⟨-, hrow⟩
    · exact same ▸ h.held found (hactive hc)
    · exact h.held hrow hc
  · intro slot id hs
    obtain ⟨row, hrow, hslot, hbefore⟩ := h.stored hs
    by_cases hid : id = b.id
    · subst hid
      rw [found, Option.some_inj] at hrow
      subst hrow
      refine ⟨b, hrows.2 (.inl ⟨rfl, rfl⟩), same.trans hslot, fun hc => ?_⟩
      by_cases hold : old.status = .cancelled
      · exact hbefore hold
      · exact hstuck hc hold
    · exact ⟨row, hrows.2 (.inr ⟨hid, hrow⟩), hslot, hbefore⟩

/-- A new version is stored that is cancelled if and only if the old one is. -/
theorem replace (h : InStep w stuck) (found : w.bookings.get? b.id = some old)
    (same : b.slot = old.slot) (hstatus : b.status = .cancelled ↔ old.status = .cancelled) :
    InStep (w.replace b) stuck :=
  h.replace_of_stuck found same (fun hc hold => hc (hstatus.2 hold))
    (fun hc hold => absurd (hstatus.1 hc) hold)

/-- A booking is cancelled and its slot released. -/
theorem cancel (h : InStep w stuck) (found : w.bookings.get? b.id = some old)
    (same : b.slot = old.slot) (active : old.status ≠ .cancelled)
    (cancelled : b.status = .cancelled) : InStep ((w.replace b).setHolder b.slot none) stuck := by
  -- nobody else holds the slot, for the booking held it
  have hheld : w.holder? b.slot = some b.id := same ▸ h.held found active
  have hholder := World.holder?_setHolder (w := w.replace b) (World.isSome_slotOf?_of_holder? hheld)
    none
  have hrows : ∀ {id row}, ((w.replace b).setHolder b.slot none).bookings.get? id = some row ↔
      id = b.id ∧ row = b ∨ id ≠ b.id ∧ w.bookings.get? id = some row :=
    World.get?_replace_eq_some_iff found
  refine ⟨?_, ?_, ?_⟩
  · intro id row hrow
    rcases hrows.1 hrow with ⟨rfl, rfl⟩ | ⟨-, hrow⟩
    · rfl
    · exact h.keyed _ _ hrow
  · intro id row hrow hactive
    rcases hrows.1 hrow with ⟨rfl, rfl⟩ | ⟨hid, hrow⟩
    · exact absurd cancelled hactive
    · have hrest := h.held hrow hactive
      rw [hholder, if_neg ?_, World.holder?_replace, hrest]
      intro hslot
      rw [hslot, hheld, Option.some_inj] at hrest
      exact hid hrest.symm
  · intro slot id hs
    rw [hholder] at hs
    split at hs
    · cases hs
    · rename_i hslot
      obtain ⟨row, hrow, hrest⟩ := h.stored hs
      refine ⟨row, hrows.2 (.inr ⟨?_, hrow⟩), hrest⟩
      rintro rfl
      rw [found, Option.some_inj] at hrow
      exact hslot (by rw [same, hrow, hrest.1])

end InStep

/-! ## Every call keeps them in step -/

theorem Status.ne_cancelled_of_isActive {s : Status} (h : s.isActive = true) : s ≠ .cancelled := by
  rintro rfl
  cases h

/-- A change that does not give up the slot does not cancel. -/
theorem Change.cancelled_iff {ch : Change} (admitted : ch.admits b.status = true)
    (keeps : ¬ Booking.givesUpSlot b.status (ch.result b).status = true) :
    (ch.result b).status = .cancelled ↔ b.status = .cancelled := by
  rw [Change.givesUpSlot_iff] at keeps
  rcases Change.status_of_admits admitted with hsame | hallowed
  · rw [hsame]
  · revert hallowed keeps
    cases b.status <;> cases (ch.result b).status <;> decide

namespace Stage

variable {g g' : Stage} {c : Call} {met : List (Call × Effect)}

/-- What a request has done to the books `w` when it has come to a stage, its calls having met these
effects. The books are in step but for a booking that waits for its slot, and for a slot that is
about to be released. -/
def KeepsStep (stuck : BookingId → Prop) (w v : World) (met : List (Call × Effect)) : Stage → Prop
  | askSlot _ _ _ | askCustomer _ _ _ | askStaff _ _ _ | readSlot _ _ _ | load _ => v = w
  | insert b => v = w ∧ b.status ≠ .cancelled
  | reserve b | takeBack b _ =>
    v = w.insert b ∧ w.bookings.get? b.id = none ∧ b.status ≠ .cancelled
  | replace b before => v = w ∧ ∃ (ch : Change) (old : Booking), w.bookings.get? old.id = some old ∧
      ch.admits old.status = true ∧ b = ch.result old ∧ before = old.status
  | release b => v = w.replace b ∧ ∃ old, w.bookings.get? b.id = some old ∧ b.slot = old.slot ∧
      old.status.isActive = true ∧ b.status = .cancelled
  | count _ | booked _ | failed _ => InStep v stuck
  | changed _ => InStep v fun id => stuck id ∨ w.Unreleased v met id

namespace KeepsStep

/-- A call that is answered by the books. -/
theorem turns (h : g.KeepsStep stuck w v met) (step : InStep w stuck) (hc : g.call? = some c)
    {v' : World} (t : Turns v g g' v') (met' : List (Call × Effect)) :
    g'.KeepsStep stuck w v' met' := by
  cases t with
  | slotFree _ _ _ | customerKnown _ | staffKnown _ => exact h
  | slotTaken _ | customerUnknown _ | staffUnknown _ | slotRefused _ | notFound _
  | refused _ _ _ =>
    obtain rfl : v = w := h
    exact step
  | slotRead _ _ made =>
    obtain ⟨-, rfl⟩ := CreateBooking.booking_eq_ok_iff.1 made
    exact ⟨h, Status.noConfusion⟩
  | inserted fresh =>
    obtain ⟨rfl, active⟩ := h
    exact ⟨rfl, fresh, active⟩
  | notInserted _ | overtaken _ =>
    obtain ⟨rfl, -⟩ := h
    exact step
  | reserved known free =>
    obtain ⟨rfl, fresh, active⟩ := h
    exact step.book fresh active known free
  | raceLost _ => exact h
  | counted => exact InStep.countBooking h _ _
  | notCounted => exact h
  | takenBack _ _ =>
    obtain ⟨rfl, fresh, -⟩ := h
    exact (World.remove_insert fresh).symm ▸ step
  | nothingToTakeBack absent =>
    -- the booking is there, for it was stored before
    obtain ⟨rfl, fresh, -⟩ := h
    exact absurd rfl (absent _ (by rw [World.get?_insert fresh, if_pos rfl]))
  | loaded found own admitted =>
    obtain rfl : v = w := h
    exact ⟨rfl, _, _, (step.keyed _ _ found).symm ▸ found, admitted, rfl, rfl⟩
  | replaced found own same =>
    obtain ⟨rfl, ch, old, hold, admitted, rfl, rfl⟩ := h
    rw [Stage.replaced]
    split
    · rename_i hgives
      obtain ⟨active, cancelled⟩ := Change.givesUpSlot_iff.1 hgives
      exact ⟨rfl, old, hold, rfl, active, cancelled⟩
    · rename_i hkeeps
      exact (step.replace (b := ch.result old) hold rfl (Change.cancelled_iff admitted hkeeps)).mono
        fun _ => .inl
  | released _ =>
    obtain ⟨rfl, old, found, same, active, cancelled⟩ := h
    exact (step.cancel found same (Status.ne_cancelled_of_isActive active) cancelled).mono
      fun _ => .inl
  | nothingToRelease unknown =>
    -- the slot is there, for the booking held it
    obtain ⟨rfl, old, found, same, active, -⟩ := h
    have hheld := step.held found (Status.ne_cancelled_of_isActive active)
    have hknown := World.isSome_slotOf?_of_holder? (same.symm ▸ hheld)
    have hnone : w.slotOf? _ = none := unknown
    rw [hnone] at hknown
    cases hknown
  | rests ended =>
    rw [call?_eq_none_iff.2 ⟨_, ended⟩] at hc
    cases hc

/-- A call that fails without being carried out. -/
theorem next_error (h : g.KeepsStep stuck w v met) (step : InStep w stuck)
    (hc : g.call? = some c) (hkind : c.kind ≠ .remove) (message : String) :
    (g.next c (.error ⟨message⟩)).KeepsStep stuck w v (met ++ [(c, .fail message)]) := by
  cases g with
  | askSlot _ _ _ | askCustomer _ _ _ | askStaff _ _ _ | readSlot _ _ _ | load _ =>
    cases hc
    obtain rfl : v = w := h
    exact step
  | insert _ | replace _ _ =>
    cases hc
    obtain ⟨rfl, -⟩ := h
    exact step
  | reserve _ | count _ =>
    cases hc
    exact h
  | release b =>
    cases hc
    obtain ⟨rfl, old, found, same, active, cancelled⟩ := h
    have hrow : (w.replace b).bookings.get? b.id = some b :=
      (World.get?_replace_eq_some_iff found).2 (.inl ⟨rfl, rfl⟩)
    refine (step.mono fun _ => .inl).replace_of_stuck found same
      (fun hc => absurd cancelled hc) fun _ _ => .inr ?_
    exact ⟨old, b, message, found, active, hrow, cancelled, by simp⟩
  | takeBack _ _ =>
    cases hc
    exact absurd rfl hkind
  | booked _ | changed _ | failed _ => cases hc

theorem inStep (h : g.KeepsStep stuck w v met) {outcome : Outcome}
    (ended : g.outcome? = some outcome) :
    InStep v fun id => stuck id ∨ w.Unreleased v met id := by
  cases g with
  | booked _ | failed _ => exact InStep.mono h fun _ => .inl
  | changed _ => exact h
  | _ => cases ended

end KeepsStep

theorem keepsStep_start (stuck : BookingId → Prop) (step : InStep w stuck) (r : Request) :
    r.start.KeepsStep stuck w w [] := by
  rcases r.start_cases with ⟨e, hstart⟩ | ⟨id, c, notes, -, -, hstart⟩ | ⟨ch, hstart⟩
  · exact hstart ▸ step
  · exact hstart ▸ rfl
  · exact hstart ▸ rfl

end Stage

/-! ## One request after another -/

namespace Timeline

variable {t : Timeline} {fs : Faults}

/-- Every request keeps bookings and slots in step, whichever of its calls fail. -/
theorem run_in_step (idle : t.Idle w fs) (clean : fs.Clean) (step : InStep w stuck) (r : Request) :
    ∃ outcome t' v fs' made, run none r.service t = (.finished outcome, t') ∧ t'.Idle v fs' ∧
      t'.calls = t.calls ++ made ∧
      InStep v fun id => stuck id ∨ w.Unreleased v (fs.effects made) id := by
  obtain ⟨t', hrun, hidle, hcalls⟩ := run_recorded (s := r.service) idle clean.steady
  obtain ⟨g, hended, -, hkept⟩ := (follows_start r).recorded
    (P := fun g now v met => now.Clean ∧ g.KeepsStep stuck w v met)
    (fun g now v met c ⟨hnow, h⟩ hc => by
      refine ⟨hnow.afterCall _, ?_⟩
      rcases hnow.current c.kind with hnone | ⟨hkind, message, hfail⟩
      · rw [hnone]
        exact h.turns step hc (Stage.turns_of_call? hc v) _
      · rw [hfail]
        exact h.next_error step hc hkind message)
    [] ⟨clean, Stage.keepsStep_start stuck step r⟩
  exact ⟨_, t', _, _, _, hrun, hidle, hcalls, hkept.inStep hended⟩

theorem serve_in_step (idle : t.Idle w fs) (step : InStep w fun _ => False)
    (requests : List (Faults × Request)) (clean : ∀ p ∈ requests, p.1.Clean) :
    ∃ v fs', (t.serve requests).Idle v fs' ∧ InStep v (ReleaseFailed t requests) := by
  induction requests using List.reverseRecOn with
  | nil => exact ⟨w, fs, idle, step.mono fun _ => False.elim⟩
  | append_singleton requests p ih =>
    obtain ⟨fs, r⟩ := p
    obtain ⟨v, fs₁, hidle, hstep⟩ := ih fun q hq => clean q (List.mem_append_left _ hq)
    obtain ⟨outcome, t', v', fs', made, hrun, hidle', hcalls, hstep'⟩ :=
      run_in_step (hidle.equip fs) (clean (fs, r) (by simp)) hstep r
    have hserve : t.serve (requests ++ [(fs, r)]) = t' := by rw [serve_append, hrun]
    rw [hserve]
    refine ⟨v', fs', hidle', hstep'.mono fun id hstuck => ?_⟩
    rcases hstuck with hearlier | hnow
    · exact hearlier.append _
    · refine ⟨requests, fs, r, [], made, rfl, ?_, ?_⟩
      · rw [hserve, hcalls]
      · rw [hserve, hidle.world, hidle'.world]
        exact hnow

end Timeline

/-- At most one stored booking of a slot is not cancelled. -/
theorem InStep.unique (h : InStep w stuck) {x y : BookingId} {row row' : Booking}
    (hx : w.bookings.get? x = some row) (hy : w.bookings.get? y = some row')
    (hslot : row.slot = row'.slot) (active : row.status ≠ .cancelled)
    (active' : row'.status ≠ .cancelled) : x = y := by
  have hheld := h.held hx active
  rw [hslot, h.held hy active'] at hheld
  exact (Option.some_inj.1 hheld).symm

/-- If no release failed, a slot is available exactly if no booking of it is not cancelled. -/
theorem InStep.isAvailable_iff (h : InStep w stuck) (released : ∀ id, ¬ stuck id)
    {slot : Slot} {s : SlotId} (known : w.slotOf? s = some slot) :
    (w.answer (.isAvailable slot.business s)).1 = .ok true ↔
      ∀ id row, w.bookings.get? id = some row → row.slot = s → row.status = .cancelled := by
  have hanswer : (w.answer (.isAvailable slot.business s)).1 = .ok true ↔ w.holder? s = none := by
    rw [World.answer_isAvailable, known]
    simp
  rw [hanswer]
  constructor
  · rintro hfree id row hrow rfl
    by_cases hc : row.status = .cancelled
    · exact hc
    · rw [h.held hrow hc] at hfree
      cases hfree
  · intro hall
    refine Option.eq_none_iff_forall_ne_some.2 fun id hs => ?_
    obtain ⟨row, hrow, hslot, hstuck⟩ := h.stored hs
    exact released id (hstuck (hall id row hrow hslot))

/-- Between two requests that are served one after another, nothing is under way, the next request
will come to its end, and bookings and slots are in step: a slot is held by a cancelled booking only
if the call to release it was made when the booking was cancelled, and failed. -/
theorem served_in_step (empty : ∀ id, w.bookings.get? id = none)
    (unheld : ∀ s, w.holder? s = none) (requests : List (Faults × Request))
    (clean : ∀ p ∈ requests, p.1.Clean) :
    let t := (Timeline.start w).serve requests
    (t.ready = [] ∧ t.asleep = [] ∧ ∀ (fs : Faults) (r : Request), fs.Clean →
      ∃ outcome t', Timeline.run none r.service { t with faults := fs } = (.finished outcome, t')) ∧
    (∀ id row, t.world.bookings.get? id = some row → row.status ≠ .cancelled →
      t.world.holder? row.slot = some id) ∧
    (∀ s id, t.world.holder? s = some id → ∃ row, t.world.bookings.get? id = some row ∧
      row.slot = s ∧ (row.status = .cancelled → ReleaseFailed (.start w) requests id)) ∧
    (∀ x y row row', t.world.bookings.get? x = some row → t.world.bookings.get? y = some row' →
      row.slot = row'.slot → row.status ≠ .cancelled → row'.status ≠ .cancelled → x = y) ∧
    ((∀ id, ¬ ReleaseFailed (.start w) requests id) → ∀ s slot, t.world.slotOf? s = some slot →
      ((t.world.answer (.isAvailable slot.business s)).1 = .ok true ↔
        ∀ id row, t.world.bookings.get? id = some row → row.slot = s →
          row.status = .cancelled)) := by
  intro t
  obtain ⟨v, fs₁, idle, h⟩ := Timeline.serve_in_step (Timeline.idle_start w)
    (InStep.start empty unheld) requests clean
  have hends : ∀ (fs : Faults) (r : Request), fs.Clean → ∃ outcome t',
      Timeline.run none r.service { t with faults := fs } = (.finished outcome, t') := by
    intro fs r hfs
    obtain ⟨t', hrun, -⟩ := Timeline.run_troubled (s := r.service) (idle.equip fs) hfs.steady
    exact ⟨_, t', hrun⟩
  refine ⟨⟨idle.ready, idle.asleep, hends⟩, ?_⟩
  rw [idle.world]
  exact ⟨fun _ _ => h.held, fun _ _ => h.stored,
    fun _ _ _ _ hx hy hslot active active' => h.unique hx hy hslot active active',
    fun released _ _ known => h.isAvailable_iff released known⟩

/-- The slot cannot be taken; then it can; then the booking is cancelled, but the slot cannot be
released. -/
def Sample.troubled : List (Faults × Request) :=
  [(Faults.set .empty .reserve ⟨0, none, 20, .fail "down"⟩, .create (name _ 1) book),
    (.empty, .create (name _ 2) book),
    (Faults.set .empty .release ⟨0, none, 0, .fail "down"⟩,
      .cancel ⟨book.business, name _ 2, .ofSecond 1⟩)]

/-- The cancelled booking goes on holding its slot, for the release failed. -/
theorem served_in_step_troubled :
    ((∀ id, Sample.world.bookings.get? id = none) ∧ (∀ s, Sample.world.holder? s = none) ∧
      ∀ p ∈ Sample.troubled, p.1.Clean) ∧
    let t := (Timeline.start Sample.world).serve Sample.troubled
    t.world.holder? Sample.slot.id = some (Sample.name _ 2) ∧
    ∃ row, t.world.bookings.get? (Sample.name _ 2) = some row ∧ row.slot = Sample.slot.id ∧
      row.status = .cancelled ∧
      ReleaseFailed (.start Sample.world) Sample.troubled (Sample.name _ 2) := by
  have empty : ∀ id, Sample.world.bookings.get? id = none := fun _ => rfl
  have clean : ∀ p ∈ Sample.troubled, p.1.Clean := by
    intro p hp
    simp only [Sample.troubled, List.mem_cons, List.not_mem_nil, or_false] at hp
    rcases hp with rfl | rfl | rfl
    · exact Faults.clean_empty.set (.inr ⟨by decide, _, rfl⟩)
    · exact Faults.clean_empty
    · exact Faults.clean_empty.set (.inr ⟨by decide, _, rfl⟩)
  refine ⟨⟨empty, Sample.holder?_world, clean⟩, ?_⟩
  intro t
  have hheld : t.world.holder? Sample.slot.id = some (Sample.name _ 2) := by decide +kernel
  have hcancelled : (t.world.bookings.get? (Sample.name _ 2)).map Booking.status =
      some .cancelled := by decide +kernel
  obtain ⟨row, hrow, hslot, hstuck⟩ :=
    (served_in_step empty Sample.holder?_world Sample.troubled clean).2.2.1 _ _ hheld
  have hstatus : row.status = .cancelled := by
    rw [hrow, Option.map_some, Option.some_inj] at hcancelled
    exact hcancelled
  exact ⟨hheld, row, hrow, hslot, hstatus, hstuck hstatus⟩

end BookingDesk
