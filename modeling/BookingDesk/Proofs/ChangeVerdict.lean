import BookingDesk.Proofs.GivenUp
import BookingDesk.Proofs.Seen

/-!
# What becomes of a change

Everything that can stand in the way of a change of a booking is listed in the order in which it is
told, the calls that fail among it. If there is anything, the change fails with the first of the
list and leaves the books as they were; otherwise the new version is stored, and the slot of a
booking that was cancelled is released unless that call fails. Main statement:
`Request.change_verdict`.
-/
namespace BookingDesk

/-! ## Calls that fail -/

theorem Faults.Clean.struck {fs : Faults} {c : Call} (clean : fs.Clean)
    (h : fs.failure? c.kind = none) (w : World) :
    World.struck (fs.current c.kind).2 w c = w.answer c := by
  rcases clean.current c.kind with hnone | ⟨-, message, hfail⟩
  · rw [hnone]
    rfl
  · rw [Faults.failure?, hfail] at h
    cases h

/-! ## The books with one version in place of another -/

/-- The books `v` are the books `w` with this version of a booking in place of the one before, and
its slot is released or not. -/
structure World.Changed (w : World) (b : Booking) (released : Bool) (v : World) : Prop where
  row : v.bookings.get? b.id = some b
  rows : ∀ id, id ≠ b.id → v.bookings.get? id = w.bookings.get? id
  slots : ∀ s, v.slots.get? s =
    if s = b.slot ∧ released then (w.slots.get? s).map ({ · with holder := none })
    else w.slots.get? s
  customers : v.customers = w.customers
  staff : v.staff = w.staff

namespace World

variable {w v : World} {b old : Booking}

theorem changed_replace (found : w.bookings.get? b.id = some old) :
    w.Changed b false (w.replace b) where
  row := by rw [get?_replace, if_pos rfl, found, Option.map_some]
  rows id hid := by rw [get?_replace, if_neg hid]
  slots s := by simp [replace]
  customers := rfl
  staff := rfl

theorem Changed.release (h : w.Changed b false v) : w.Changed b true (v.setHolder b.slot none) where
  row := h.row
  rows := h.rows
  slots s := by
    have := h.slots s
    by_cases hs : s = b.slot
    · subst s
      simp_all [setHolder, Table.get?_modify]
    · simp_all [setHolder, Table.get?_modify]
  customers := h.customers
  staff := h.staff

/-- Where there is no slot, there is nothing to release. -/
theorem Changed.of_no_slot (h : w.Changed b false v) (none : v.slots.get? b.slot = none) :
    w.Changed b true v where
  row := h.row
  rows := h.rows
  slots s := by
    have := h.slots s
    by_cases hs : s = b.slot
    · subst s
      simp_all
    · simp_all
  customers := h.customers
  staff := h.staff

end World

/-! ## Objections -/

/-- What is asked of a booking that there is, before its notes are looked at. -/
structure Amendment where
  business : BusinessId
  booking : BookingId
  wanted : Option Status
  notes : Option String
  time : Instant
  /-- Whether the status that the booking has already is refused too. -/
  strict : Bool
deriving DecidableEq, Repr

/-- Every request but a create asks something of a booking. -/
def Request.amendment? : Request → Option Amendment
  | create _ _ => none
  | update c => some ⟨c.business, c.booking, c.status, c.notes, c.requestedAt, false⟩
  | confirm c => some ⟨c.business, c.booking, some .confirmed, none, c.requestedAt, true⟩
  | cancel c => some ⟨c.business, c.booking, some .cancelled, none, c.requestedAt, true⟩
  | complete c => some ⟨c.business, c.booking, some .completed, none, c.requestedAt, true⟩

namespace Amendment

def admits (a : Amendment) (s : Status) : Bool :=
  a.wanted.all fun t => s.allows t || (!a.strict && t = s)

def change (a : Amendment) (notes : Option Notes) : Change :=
  ⟨a.business, a.booking, a.wanted, notes, a.time, a.strict⟩

/-- All that can stand in the way of a change. Each objection is told only if there is none before
it. -/
def objections (a : Amendment) (w : World) (fs : Faults) : List (Option ServiceError) :=
  let stored := w.booking? a.business a.booking
  [(a.notes.filter (500 < ·.length)).map fun s => .invalid (.notesTooLong 500 s.length),
    (fs.failure? .find).map .bookingsFailed,
    if stored = none then some .bookingNotFound else none,
    (stored.filter fun b => !a.admits b.status).map fun b =>
      .forbidden ⟨b.status, a.wanted.getD b.status⟩,
    (fs.failure? .replace).map .bookingsFailed]

/-- The first objection that there is. -/
def objection? (a : Amendment) (w : World) (fs : Faults) : Option ServiceError :=
  (a.objections w fs).findSome? id

/-- Whether the slot is released when this booking is changed: it is cancelled now and was not
before, and the call does not fail. -/
def releases (a : Amendment) (fs : Faults) (b : Booking) : Bool :=
  b.status ≠ .cancelled && a.wanted.getD b.status = .cancelled && (fs.failure? .release).isNone

variable {a : Amendment} {w v : World} {fs now : Faults} {notes : Option Notes} {b : Booking}
  {course : Course Outcome}

theorem objection?_of_error {e : InvalidInput} (h : Notes.ofString? a.notes = .error e) :
    a.objection? w fs = some (.invalid e) := by
  cases hnotes : a.notes with
  | none =>
    rw [hnotes] at h
    cases h
  | some s =>
    rw [hnotes, Notes.ofString?] at h
    by_cases hs : s.length ≤ 500
    · rw [Notes.ofString, dif_pos hs] at h
      cases h
    · rw [Notes.ofString_eq_error (Nat.lt_of_not_le hs)] at h
      cases h
      simp [objection?, objections, hnotes, Option.filter_some, Nat.lt_of_not_le hs]

/-! ## A change that is alone -/

/-- The slot is released, or that fails, and the change has succeeded. -/
theorem release_troubled (h : course.Follows (.release b)) (clean : now.Clean)
    (changed : w.Changed b false v) :
    (course.troubled now v).1 = .ok b ∧
      w.Changed b (now.failure? .release).isNone (course.troubled now v).2.1 := by
  obtain ⟨rest, hrest, htroubled⟩ := h.troubled_of_call? rfl now v
  rw [htroubled, hrest.troubled_of_outcome? rfl]
  refine ⟨rfl, ?_⟩
  cases hfail : now.failure? .release with
  | some f =>
    rw [World.struck_of_failure? (c := .release b.slot) hfail]
    exact changed
  | none =>
    rw [clean.struck (c := .release b.slot) hfail, World.answer]
    split
    · exact changed.release
    · rename_i hslot
      exact changed.of_no_slot (Option.not_isSome_iff_eq_none.1 hslot)

/-- A change that is admitted and cancels the booking finds it active. -/
theorem givesUpSlot_eq (admitted : a.admits b.status = true) :
    Booking.givesUpSlot b.status (a.wanted.getD b.status) =
      (b.status ≠ .cancelled && a.wanted.getD b.status = .cancelled) := by
  rcases hw : a.wanted with _ | t
  · cases hs : b.status <;> simp [Booking.givesUpSlot, Status.isActive]
  · rw [admits, hw, Option.all_some] at admitted
    cases hs : b.status <;> cases t <;>
      simp_all [Booking.givesUpSlot, Status.isActive, Status.allows]

/-- The new version is stored, unless the call fails. -/
theorem replace_troubled
    (h : course.Follows (.replace ((a.change notes).result b) b.status)) (clean : now.Clean)
    (found : w.bookings.get? b.id = some b) (admitted : a.admits b.status = true) :
    match now.failure? .replace with
    | some f => (course.troubled now w).1 = .error (.bookingsFailed f) ∧
        (course.troubled now w).2.1 = w
    | none => (course.troubled now w).1 = .ok ((a.change notes).result b) ∧
        w.Changed ((a.change notes).result b) (a.releases now b) (course.troubled now w).2.1 := by
  obtain ⟨rest, hrest, htroubled⟩ := h.troubled_of_call? rfl now w
  rw [htroubled]
  cases hfail : now.failure? .replace with
  | some f =>
    rw [World.struck_of_failure? (c := .replace _ _) hfail] at hrest ⊢
    rw [hrest.troubled_of_outcome? rfl]
    exact ⟨rfl, rfl⟩
  | none =>
    have accepted : w.accepts ((a.change notes).result b) b.status = true :=
      World.accepts_iff.2 ⟨b, found, rfl, rfl⟩
    have changed := World.changed_replace (b := (a.change notes).result b) found
    rw [clean.struck (c := .replace _ _) hfail, World.answer, if_pos accepted] at hrest ⊢
    have hreleases : a.releases now b = (Booking.givesUpSlot b.status
        ((a.change notes).result b).status && (now.failure? .release).isNone) := by
      rw [Change.status_result]
      exact congrArg (· && _) (givesUpSlot_eq admitted).symm
    rw [hreleases]
    simp only [Stage.next, Stage.replaced] at hrest
    split at hrest
    · rename_i hgives
      have hlast := release_troubled hrest (clean.afterCall .replace) changed
      rw [Faults.failure?_afterCall Call.Kind.noConfusion] at hlast
      rw [hgives, Bool.true_and]
      exact hlast
    · rename_i hkeeps
      rw [hrest.troubled_of_outcome? rfl, Bool.eq_false_iff.2 hkeeps]
      exact ⟨rfl, changed⟩

/-- The booking is looked up; then it is refused, or its new version is stored. -/
theorem load_troubled (h : course.Follows (.load (a.change notes))) (clean : fs.Clean)
    (keyed : w.Keyed) (short : ∀ s ∈ a.notes, s.length ≤ 500) :
    match a.objection? w fs with
    | some e => (course.troubled fs w).1 = .error e ∧ (course.troubled fs w).2.1 = w
    | none => ∃ b, w.booking? a.business a.booking = some b ∧
        (course.troubled fs w).1 = .ok ((a.change notes).result b) ∧
        w.Changed ((a.change notes).result b) (a.releases fs b) (course.troubled fs w).2.1 := by
  have hshort : a.notes.filter (500 < ·.length) = none := by
    rw [Option.filter_eq_none_iff]
    intro s hs
    simpa using short s hs
  obtain ⟨rest, hrest, htroubled⟩ := h.troubled_of_call? rfl fs w
  rw [htroubled]
  cases hfind : fs.failure? .find with
  | some f =>
    have hno : a.objection? w fs = some (.bookingsFailed f) := by
      simp [objection?, objections, hshort, hfind]
    rw [World.struck_of_failure? (c := .find _ _) hfind] at hrest ⊢
    rw [hno, hrest.troubled_of_outcome? rfl]
    exact ⟨rfl, rfl⟩
  | none =>
    rw [clean.struck (c := .find _ _) hfind] at hrest ⊢
    have hfound : rest.Follows (.found (a.change notes) (w.booking? a.business a.booking)) := hrest
    cases hstored : w.booking? a.business a.booking with
    | none =>
      have hno : a.objection? w fs = some .bookingNotFound := by
        simp [objection?, objections, hshort, hfind, hstored]
      rw [hstored] at hfound
      rw [hno, hfound.troubled_of_outcome? rfl]
      exact ⟨rfl, rfl⟩
    | some b =>
      -- whether the change is admitted does not hang on the notes
      rw [hstored, Stage.found, Change.apply] at hfound
      cases admitted : a.admits b.status with
      | false =>
        have hno : a.objection? w fs =
            some (.forbidden ⟨b.status, a.wanted.getD b.status⟩) := by
          simp [objection?, objections, hshort, hfind, hstored, admitted, Option.filter_some]
        have refused : (a.change notes).admits b.status = false := admitted
        rw [refused] at hfound
        rw [hno, hfound.troubled_of_outcome? rfl]
        exact ⟨rfl, rfl⟩
      | true =>
        have hno : a.objection? w fs = (fs.failure? .replace).map .bookingsFailed := by
          simp [objection?, objections, hshort, hfind, hstored, admitted, Option.filter_some]
        have hadmits : (a.change notes).admits b.status = true := admitted
        obtain ⟨hrow, -⟩ := World.booking?_eq_some_iff.1 hstored
        have found : w.bookings.get? b.id = some b := keyed _ _ hrow ▸ hrow
        rw [hadmits] at hfound
        have hreplaced := replace_troubled hfound (clean.afterCall .find) found admitted
        have hreleases : a.releases (fs.afterCall .find) b = a.releases fs b := by
          rw [releases, Faults.failure?_afterCall Call.Kind.noConfusion, releases]
        rw [hreleases, Faults.failure?_afterCall Call.Kind.noConfusion] at hreplaced
        rw [hno]
        cases hreplace : fs.failure? .replace with
        | some f =>
          rw [hreplace] at hreplaced
          exact hreplaced
        | none =>
          rw [hreplace] at hreplaced
          exact ⟨b, rfl, hreplaced⟩

end Amendment

/-! ## Requests -/

namespace Request

theorem start_of_amendment? {r : Request} {a : Amendment} (asks : r.amendment? = some a) :
    r.start = match Notes.ofString? a.notes with
      | .error e => .failed (.invalid e)
      | .ok notes => .load (a.change notes) := by
  cases r with
  | create id c => cases asks
  | update c | confirm c | cancel c | complete c =>
    cases asks
    rfl

open Amendment in
/-- A change that is alone comes to its end, whichever calls fail without being carried out. If
there is an objection, it fails with the first one and changes nothing. Otherwise it stores the
booking as it was, but for status, notes and the time of the last change, and nothing else in the
books changes but that the slot of a booking that was cancelled is released. -/
theorem change_verdict {t : Timeline} {w : World} {fs : Faults} (idle : t.Idle w fs)
    (clean : fs.Clean) (keyed : w.Keyed) {r : Request} {a : Amendment}
    (asks : r.amendment? = some a) :
    ∃ outcome t', Timeline.run none r.service t = (.finished outcome, t') ∧
      match a.objection? w fs with
      | some e => outcome = .error e ∧ t'.world = w
      | none => ∃ (b new : Booking) (notes : Option Notes),
          w.booking? a.business a.booking = some b ∧ notes.map Notes.text = a.notes ∧
          new = { b with
            status := a.wanted.getD b.status, notes := notes.getD b.notes, updatedAt := a.time } ∧
          outcome = .ok new ∧ w.Changed new (a.releases fs b) t'.world := by
  obtain ⟨t', hrun, hidle⟩ := Timeline.run_troubled (s := r.service) idle clean.steady
  refine ⟨_, t', hrun, ?_⟩
  rw [hidle.world]
  have follows := follows_start r
  rw [start_of_amendment? asks] at follows
  cases hnotes : Notes.ofString? a.notes with
  | error e =>
    rw [hnotes] at follows
    rw [follows.troubled_of_outcome? rfl, objection?_of_error hnotes]
    exact ⟨rfl, rfl⟩
  | ok notes =>
    obtain ⟨htext, short⟩ := Notes.of_ofString?_eq_ok hnotes
    rw [hnotes] at follows
    have hload := load_troubled follows clean keyed short
    cases hobjection : a.objection? w fs with
    | some e =>
      rw [hobjection] at hload
      exact hload
    | none =>
      rw [hobjection] at hload
      obtain ⟨b, hstored, hresult⟩ := hload
      exact ⟨b, _, notes, hstored, htext, rfl, hresult⟩

/-- A booking is cancelled although its slot cannot be released, and goes on holding it. -/
theorem change_verdict_unreleased :
    let b := Sample.booking
    let w := (Sample.world.insert b).setHolder b.slot (some b.id)
    let fs := Faults.set .empty .release ⟨0, none, 0, .fail "down"⟩
    let t : Timeline := { Timeline.start w with faults := fs }
    let r : Request := .cancel ⟨b.business, b.id, .ofSecond 1⟩
    let a : Amendment := ⟨b.business, b.id, some .cancelled, none, .ofSecond 1, true⟩
    (t.Idle w fs ∧ fs.Clean ∧ w.Keyed ∧ r.amendment? = some a) ∧
    ∃ new t', Timeline.run none r.service t = (.finished (.ok new), t') ∧
      new.status = .cancelled ∧ t'.world.holder? b.slot = some b.id := by
  intro b w fs t r a
  have idle : t.Idle w fs := (Timeline.idle_start w).equip fs
  have clean : fs.Clean := Faults.clean_empty.set (.inr ⟨Call.Kind.noConfusion, _, rfl⟩)
  have keyed : w.Keyed := by
    intro id row hrow
    have hinsert : (Sample.world.bookings.insertNew b.id b).get? id = some row := hrow
    rw [Table.get?_insertNew] at hinsert
    split at hinsert
    · rename_i hid
      cases hinsert
      exact hid.symm
    · cases hinsert
  refine ⟨⟨idle, clean, keyed, rfl⟩, ?_⟩
  obtain ⟨outcome, t', hrun, hverdict⟩ := change_verdict idle clean keyed (r := r) (a := a) rfl
  have hnone : a.objection? w fs = none := by decide
  rw [hnone] at hverdict
  obtain ⟨old, new, notes, hstored, -, hnew, rfl, changed⟩ := hverdict
  obtain rfl : b = old := Option.some_inj.1 hstored
  have hkept : a.releases fs b = false := by decide
  have hslot := changed.slots b.slot
  rw [hkept, if_neg (by simp)] at hslot
  refine ⟨new, t', hrun, hnew ▸ rfl, ?_⟩
  rw [World.holder?_eq, hslot]
  rfl

end Request
end BookingDesk
