import BookingDesk.Proofs.Keyed
import BookingDesk.Proofs.LostUpdate
import BookingDesk.Proofs.Seen
import BookingDesk.Proofs.TwoWays
import BookingDesk.Proofs.Within

/-!
# Updates that are given again

An update that succeeded has set everything that it asks for. Whoever gives it again, not knowing
that, finds the booking as it left it, and storing it again changes nothing, even where the booking
can change no more and its slot is somebody else's by then. The booking stays as it is while others
are served whose errands are not about it (`Stage.Spares`). Main statement: each time it is given
again, an update succeeds with the same booking and leaves the books as they are
(`UpdateBooking.resubmitted`).
-/
namespace BookingDesk

/-! ## A row that is stored again -/

theorem Table.modify_self {κ α : Type} [DecidableEq κ] {t : Table κ α} {k : κ} {a : α}
    (h : t.get? k = some a) : (t.modify k fun _ => a) = t := by
  have hentries : ∀ p ∈ t.entries, (p.1, if p.1 = k then a else p.2) = p := by
    intro p hp
    split
    · rename_i hk
      have hvalue : t.get? k = some p.2 := hk ▸ Table.get?_eq_some_iff.2 hp
      rw [h, Option.some_inj] at hvalue
      rw [hvalue]
    · rfl
  obtain ⟨es, nodup⟩ := t
  simp only [Table.modify, Table.mk.injEq]
  exact (List.map_congr_left hentries).trans (List.map_id es)

theorem World.replace_self {w : World} {b : Booking} (h : w.bookings.get? b.id = some b) :
    w.replace b = w := by
  rw [replace, Table.modify_self h]

namespace Change

variable {ch : Change}

/-- A change asks for nothing more of what it has made. -/
theorem result_idem (ch : Change) (b : Booking) : ch.result (ch.result b) = ch.result b := by
  obtain ⟨_, _, wanted, notes, _, _⟩ := ch
  cases wanted <;> cases notes <;> rfl

/-- Unless it refuses the status that a booking has already, it admits what it has made. -/
theorem admits_result (lenient : ch.strict = false) (b : Booking) :
    ch.admits (ch.result b).status = true := by
  cases hw : ch.wanted with
  | none => rw [admits, hw, Option.all_none]
  | some s => simp [admits, status_result, hw, lenient]

end Change

/-! ## What a request comes to alone -/

section

variable {w : World} {r : Request} {ch : Change} {b : Booking}

/-- What each turn keeps, the course of a caller who is alone keeps. -/
theorem Course.Follows.alone_keeps {P : Stage → World → Prop}
    (keeps : ∀ g w, P g w → P (g.act w).1 (g.act w).2) {course : Course Outcome} {g : Stage}
    (h : course.Follows g) (start : P g w) : ∃ g', P g' (course.alone w).2 := by
  induction course generalizing g w with
  | ended outcome => exact ⟨g, start⟩
  | calling c next ih =>
    have hturn : g.act w = (g.next c (w.answer c).1, (w.answer c).2) := by
      rw [Stage.act, Stage.turn, h.1]
    have hkept := keeps g w start
    rw [hturn] at hkept
    exact ih _ (h.2 _) hkept

namespace Request

/-- A change that succeeds alone has made the booking that it found. -/
theorem admits_of_alone_ok (asks : r.start = .load ch)
    (ok : (r.service.course.alone w).1 = .ok b) :
    ∃ old, w.bookings.get? ch.booking = some old ∧ old.business = ch.business ∧
      ch.admits old.status = true := by
  cases hfound : w.booking? ch.business ch.booking with
  | none =>
    have hturns : Interleaving.turns (Stage.turn World.answer) 1 w (.load ch) =
        (.failed .bookingNotFound, w) := by
      simp [Interleaving.turns, Stage.turn, Stage.call?, World.answer, hfound, Stage.next,
        Stage.found]
    rw [(follows_start r).alone (asks ▸ hturns) rfl] at ok
    cases ok
  | some old =>
    obtain ⟨hrow, hown⟩ := World.booking?_eq_some_iff.1 hfound
    cases hadmits : ch.admits old.status with
    | true => exact ⟨old, hrow, hown, hadmits⟩
    | false =>
      obtain ⟨e, halone⟩ := alone_of_not_admits asks hrow hown hadmits
      rw [halone] at ok
      cases ok

/-- A change that finds what it makes leaves everything as it is. -/
theorem alone_of_result_eq (asks : r.start = .load ch) (found : w.bookings.get? ch.booking = some b)
    (hid : b.id = ch.booking) (own : b.business = ch.business)
    (admitted : ch.admits b.status = true) (same : ch.result b = b) :
    r.service.course.alone w = (.ok b, w) := by
  have hrow : w.bookings.get? b.id = some b := hid ▸ found
  have hturns : Interleaving.turns (Stage.turn World.answer) 2 w (.load ch) =
      (.changed b, w) := by
    simp only [Interleaving.turns, Stage.act_load found own admitted, same,
      Stage.act_replace hrow rfl rfl, World.replace_self hrow, Stage.replaced,
      Booking.givesUpSlot_self, Bool.false_eq_true, if_false]
  exact (follows_start r).alone (asks ▸ hturns) rfl

end Request

end

/-! ## Errands that are about something else -/

/-- The stage is about no booking of the business with this identifier. -/
def Stage.Spares (business : BusinessId) (id : BookingId) : Stage → Prop
  | load ch => ¬ (ch.business = business ∧ ch.booking = id)
  | reserve b | takeBack b _ | replace b _ => b.id ≠ id
  | _ => True

/-- A row stays as it is while a request goes on that is about something else. A create that draws
its identifier fails. -/
theorem Stage.Turns.spares {w w' : World} {g g' : Stage} {b : Booking} (h : Turns w g g' w')
    (keyed : w.Keyed) (stored : w.bookings.get? b.id = some b)
    (spares : g.Spares b.business b.id) :
    g'.Spares b.business b.id ∧ w'.bookings.get? b.id = some b := by
  cases h with
  | @inserted b' fresh =>
    have hne : b'.id ≠ b.id := by
      intro hid
      rw [hid, stored] at fresh
      cases fresh
    refine ⟨hne, ?_⟩
    rw [World.get?_insert fresh, if_neg hne.symm, stored]
  | raceLost _ => exact ⟨spares, stored⟩
  | takenBack _ _ =>
    refine ⟨trivial, ?_⟩
    rw [World.get?_remove, if_neg (Ne.symm spares), stored]
  | @loaded ch old found own admitted =>
    refine ⟨fun hid => spares ⟨?_, ?_⟩, stored⟩
    · rw [Change.id_result] at hid
      rw [← keyed _ _ found, hid] at found
      rw [stored, Option.some_inj] at found
      rw [← own, found]
    · rw [← keyed _ _ found]
      exact hid
  | @replaced b' before old found own same =>
    refine ⟨?_, ?_⟩
    · rw [Stage.replaced]
      split <;> trivial
    · rw [World.get?_replace, if_neg (Ne.symm spares), stored]
  | rests _ => exact ⟨spares, stored⟩
  | _ => exact ⟨trivial, stored⟩

theorem World.Keyed.act {w : World} (h : w.Keyed) (g : Stage) : (g.act w).2.Keyed := by
  rw [Stage.act, Stage.turn]
  split
  · exact h
  · exact h.answer _

/-- The request asks for a change of this booking. -/
def Request.IsAbout (business : BusinessId) (id : BookingId) (r : Request) : Prop :=
  r.business = business ∧ r.target? = some id

theorem Request.spares_start {business : BusinessId} {id : BookingId} {r : Request}
    (h : ¬ r.IsAbout business id) : r.start.Spares business id := by
  cases r with
  | create _ c =>
    rw [start]
    split <;> trivial
  | update c =>
    rw [start]
    split
    · trivial
    · exact fun habout => h ⟨habout.1, congrArg some habout.2⟩
  | confirm c | cancel c | complete c =>
    exact fun habout => h ⟨habout.1, congrArg some habout.2⟩

/-- A request or question that does not change this booking. What comes over HTTP is left out. -/
def Errand.Spares (business : BusinessId) (id : BookingId) : Errand → Prop
  | request r => ¬ r.IsAbout business id
  | question _ => True
  | http _ _ _ => False

theorem Service.Asks.alone_world {α : Type} {s : Service α} (h : s.Asks) (w : World) :
    (s.course.alone w).2 = w := by
  have hnone : ∀ k, Table.get? (.empty : Faults) k = none := fun _ => rfl
  obtain ⟨fs, halone, -⟩ := s.course.troubled_of_none (w := w) hnone
  have hworld : (s.course.troubled .empty w).2.1 = w := h.troubled_world
  rwa [halone] at hworld

/-- The books in which this booking stands. -/
def World.Keeps (b : Booking) (w : World) : Prop :=
  w.Keyed ∧ w.bookings.get? b.id = some b

theorem Errand.Spares.alone {e : Errand} {b : Booking} {w : World}
    (h : e.Spares b.business b.id) (keeps : w.Keeps b) : (e.service.course.alone w).2.Keeps b := by
  cases e with
  | request r =>
    rw [service, Service.course_map, Course.alone_map]
    have hturn : ∀ g w, Stage.Spares b.business b.id g ∧ w.Keeps b →
        (Stage.act w g).1.Spares b.business b.id ∧ (Stage.act w g).2.Keeps b := by
      rintro g w ⟨spares, keyed, stored⟩
      obtain ⟨hspares, hstored⟩ := (Stage.turns w g).spares keyed stored spares
      exact ⟨hspares, keyed.act g, hstored⟩
    obtain ⟨g, -, hkeeps⟩ :=
      (follows_start r).alone_keeps hturn ⟨Request.spares_start h, keeps⟩
    exact hkeeps
  | question q => rwa [service, q.asks.alone_world]
  | http _ _ _ => cases h

/-! ## Callers who come one after another -/

namespace Timeline

/-- Serves callers one after the other, each of whom waits to the end. -/
def attend (t : Timeline) (errands : List Errand) : Timeline :=
  errands.foldl (fun t e => (run none e.service t).2) t

theorem Plain.attend {P : World → Prop} {t : Timeline} {w : World} {errands : List Errand}
    (h : t.Plain w []) (start : P w)
    (keeps : ∀ e ∈ errands, ∀ w, P w → P (e.service.course.alone w).2) :
    ∃ v, (t.attend errands).Plain v [] ∧ P v := by
  induction errands generalizing t w with
  | nil => exact ⟨w, h, start⟩
  | cons e rest ih =>
    obtain ⟨t', hrun, hplain⟩ := run_alone (s := e.service) h
    have hfirst := keeps e (List.mem_cons_self ..) w start
    have hrest := ih hplain hfirst fun e he => keeps e (List.mem_cons_of_mem _ he)
    rwa [Timeline.attend, List.foldl_cons, hrun]

end Timeline

/-! ## The same update once more -/

namespace UpdateBooking

open Timeline

variable {c : UpdateBooking} {b : Booking} {w : World} {t t₁ : Timeline}

/-- The booking is what the update makes of it. -/
structure Settles (c : UpdateBooking) (b : Booking) : Prop where
  booking : b.id = c.booking
  business : b.business = c.business
  again : ∃ notes, c.validate = .ok notes ∧ b.update c.status notes c.requestedAt = .ok b

/-- What an update makes of a booking, it settles. -/
theorem settles_of_ok (keyed : w.Keyed) (ok : ((Service.update c).course.alone w).1 = .ok b) :
    c.Settles b ∧ ((Service.update c).course.alone w).2.Keeps b := by
  cases hn : c.validate with
  | error e =>
    rw [Service.update, hn] at ok
    cases ok
  | ok notes =>
    let ch : Change := ⟨c.business, c.booking, c.status, notes, c.requestedAt, false⟩
    have asks : (Request.update c).start = .load ch := by rw [Request.start, hn]
    obtain ⟨old, found, own, admitted⟩ := Request.admits_of_alone_ok asks ok
    have hid := keyed _ _ found
    obtain ⟨v, halone, hrow⟩ := Request.alone_of_admits asks found hid own admitted
    have hkeyed : v.Keyed := by
      obtain ⟨-, hkeyed⟩ := (follows_start (.update c)).alone_keeps
        (P := fun _ w => w.Keyed) (fun g w h => h.act g) keyed
      rwa [halone] at hkeyed
    have hmade : b = ch.result old := by
      rw [Request.service] at halone
      rw [halone] at ok
      exact (Except.ok.inj ok).symm
    subst hmade
    have hagain : (ch.result old).update c.status notes c.requestedAt = .ok (ch.result old) := by
      rw [Change.apply_of_update _ c.business c.booking, Change.apply_eq_ok_iff]
      exact ⟨Change.admits_result rfl old, (ch.result_idem old).symm⟩
    rw [Request.service] at halone
    rw [halone]
    exact ⟨⟨hid, own, notes, hn, hagain⟩, hkeyed, hid ▸ hrow⟩

/-- Where the booking stands that it settles, the update succeeds and leaves everything as it is. -/
theorem Settles.alone (h : c.Settles b) (keeps : w.Keeps b) :
    (Service.update c).course.alone w = (.ok b, w) := by
  obtain ⟨notes, hn, hagain⟩ := h.again
  rw [Change.apply_of_update _ c.business c.booking, Change.apply_eq_ok_iff] at hagain
  refine Request.alone_of_result_eq (r := .update c) ?_ ?_ h.booking h.business hagain.1
    hagain.2.symm
  · rw [Request.start, hn]
  · exact h.booking ▸ keeps.2

/-- It makes two calls: it looks the booking up and stores it again. -/
theorem Settles.calls (h : c.Settles b) (plain : t.Plain w []) (keeps : w.Keeps b) :
    (run none (Service.update c) t).2.calls =
      t.calls ++ [.find c.business c.booking, .replace b b.status] := by
  obtain ⟨notes, hn, hagain⟩ := h.again
  have hfound : w.booking? c.business c.booking = some b :=
    World.booking?_eq_some_iff.2 ⟨h.booking ▸ keeps.2, h.business⟩
  have hlooked : (run none (Service.lookUp c.business c.booking) t).1 =
      .finished (.ok (some b)) := by
    obtain ⟨t', hrun, -⟩ := run_alone (s := Service.lookUp c.business c.booking) plain
    rw [hrun, ← hfound]
    rfl
  obtain ⟨hidle, hcalls⟩ := plain.idle.run_lookUp c.business c.booking none
  have hstore := Service.revise_of_status_eq (f := (·.update c.status notes c.requestedAt))
    hagain rfl .updated
  simp only [Service.update, hn]
  rw [run_change_of_found hlooked, hstore, hidle.calls_storeAgain, hcalls, List.append_assoc,
    List.singleton_append]

/-- An update that succeeded is given again, when others have been served whose errands were not
about its booking. It succeeds with the same booking and leaves the books as they are. -/
theorem resubmitted (plain : t.Plain w []) (keyed : w.Keyed)
    (first : run none (Service.update c) t = (.finished (.ok b), t₁)) {later : List Errand}
    (spared : ∀ e ∈ later, e = .request (.update c) ∨ e.Spares c.business c.booking) :
    ∃ t₃, run none (Service.update c) (t₁.attend later) = (.finished (.ok b), t₃) ∧
      t₃.world = (t₁.attend later).world ∧
      (t₁.attend later).world.booking? c.business c.booking = some b ∧
      t₃.calls = (t₁.attend later).calls ++
        [.find c.business c.booking, .replace b b.status] := by
  obtain ⟨t', hrun, hplain⟩ := run_alone (s := Service.update c) plain
  rw [first] at hrun
  obtain ⟨hok, rfl⟩ := Prod.mk.inj hrun
  obtain ⟨settles, hkeeps⟩ := settles_of_ok keyed (Ending.finished.inj hok).symm
  obtain ⟨v, hattend, hstands⟩ := hplain.attend hkeeps fun e he w keeps => by
    rcases spared e he with rfl | hspares
    · rw [Errand.service, Service.course_map, Course.alone_map, Request.service,
        settles.alone keeps]
      exact keeps
    · rw [← settles.business, ← settles.booking] at hspares
      exact hspares.alone keeps
  obtain ⟨t₃, hagain, hlast⟩ := run_alone (s := Service.update c) hattend
  rw [settles.alone hstands] at hagain hlast
  have hcalls := settles.calls hattend hstands
  rw [hagain] at hcalls
  refine ⟨t₃, hagain, hlast.world.trans hattend.world.symm, ?_, hcalls⟩
  rw [hattend.world, World.booking?_eq_some_iff]
  exact ⟨settles.booking ▸ hstands.2, settles.business⟩

/-- A booking is cancelled, somebody else takes its slot, and then it is cancelled twice more. -/
theorem resubmitted_cancel :
    let w := (Sample.world.insert Sample.booking).setHolder Sample.slot.id (some Sample.booking.id)
    let c : UpdateBooking :=
      ⟨Sample.booking.business, Sample.booking.id, some .cancelled, none, .ofSecond 1⟩
    let b : Booking := { Sample.booking with status := .cancelled, updatedAt := .ofSecond 1 }
    let later : List Errand :=
      [.request (.create (Sample.name _ 2) Sample.book), .request (.update c)]
    let first := run none (Service.update c) (start w)
    let t₂ := first.2.attend later
    (w.Keyed ∧ first.1 = .finished (.ok b) ∧
      t₂.world.holder? Sample.slot.id = some (Sample.name _ 2)) ∧
    ∃ t₃, run none (Service.update c) t₂ = (.finished (.ok b), t₃) ∧ t₃.world = t₂.world ∧
      t₂.world.booking? c.business c.booking = some b ∧
      t₃.calls = t₂.calls ++ [.find c.business c.booking, .replace b .cancelled] := by
  intro w c b later first t₂
  have keyed : w.Keyed := Table.KeyedBy.insertNew Request.keyed_sample rfl
  have hcancelled : ((Service.update c).course.alone w).1 = .ok b := rfl
  obtain ⟨t₁, hrun, -⟩ := run_alone (s := Service.update c) (plain_start w)
  have hfirst : first.1 = .finished (.ok b) := by
    rw [← hcancelled]
    exact congrArg Prod.fst hrun
  have taken : t₂.world.holder? Sample.slot.id = some (Sample.name _ 2) := by decide +kernel
  have spared : ∀ e ∈ later, e = .request (.update c) ∨ e.Spares c.business c.booking := by
    simp [later, Errand.Spares, Request.IsAbout, Request.target?]
  exact ⟨⟨keyed, hfirst, taken⟩, resubmitted (plain_start w) keyed (Prod.ext hfirst rfl) spared⟩

end UpdateBooking
end BookingDesk
