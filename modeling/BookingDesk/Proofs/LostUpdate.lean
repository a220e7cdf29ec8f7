import BookingDesk.Proofs.Courses
import BookingDesk.Proofs.Reached

/-!
# Two changes of one booking

A new version is stored only if the status is still the one that was loaded; notes are not looked
at. Of two changes that are both told that they succeeded, each has therefore worked on what the
other stored, with one exception: a change that gives notes and keeps the status goes unseen by
another one that loaded before, and its notes are lost if that one gives none. Main statement: this
is the only exception (`changes_in_turn_iff`).
-/
namespace BookingDesk

/-! ## One change alone -/

/-- A course with nobody else about ends as its stages do. -/
theorem Course.Follows.alone {course : Course Outcome} {g g' : Stage} {w w' : World} {n : Nat}
    {outcome : Outcome} (h : course.Follows g)
    (hturns : Interleaving.turns (Stage.turn World.answer) n w g = (g', w'))
    (ended : g'.outcome? = some outcome) : course.alone w = (outcome, w') := by
  induction n generalizing course g w with
  | zero =>
    cases hturns
    cases course with
    | ended o =>
      have ho : g'.outcome? = some o := h
      rw [ended, Option.some_inj] at ho
      rw [Course.alone, ho]
    | calling c next =>
      have hc := Stage.call?_eq_none_iff.2 ⟨outcome, ended⟩
      rw [h.1] at hc
      cases hc
  | succ n ih =>
    have hnext := h.turn World.answer w
    have hrest := ih hnext.2 hturns
    cases course with
    | ended o => rwa [← hnext.1] at hrest
    | calling c next => rwa [← hnext.1] at hrest

/-- Whether or not a slot is released, the change is over with the next turn. -/
theorem Stage.act_replaced (w : World) (b : Booking) (before : Status) :
    ∃ v, act w (replaced b before) = (changed b, v) ∧ v.bookings = w.bookings := by
  rw [replaced]
  split
  · by_cases known : (w.slotOf? b.slot).isSome = true
    · exact ⟨_, act_release known, rfl⟩
    · refine ⟨w, ?_, rfl⟩
      simp only [act, turn, call?, World.answer, World.contains_slots_iff, if_neg known, next]
  · exact ⟨w, rfl, rfl⟩

namespace Request

variable {w : World} {r : Request} {ch : Change} {b : Booking}

/-- What a change that is admitted leaves in the row when nobody else is about. -/
theorem alone_of_admits (asks : r.start = .load ch) (found : w.bookings.get? ch.booking = some b)
    (hid : b.id = ch.booking) (own : b.business = ch.business)
    (admitted : ch.admits b.status = true) :
    ∃ v, r.service.course.alone w = (.ok (ch.result b), v) ∧
      v.bookings.get? ch.booking = some (ch.result b) := by
  have hfound : w.bookings.get? (ch.result b).id = some b := hid ▸ found
  obtain ⟨v, hlast, hrows⟩ := Stage.act_replaced (w.replace (ch.result b)) (ch.result b) b.status
  have hturns : Interleaving.turns (Stage.turn World.answer) 3 w (.load ch) =
      (.changed (ch.result b), v) := by
    simp only [Interleaving.turns, Stage.act_load found own admitted,
      Stage.act_replace hfound rfl rfl]
    exact hlast
  refine ⟨v, (follows_start r).alone (asks ▸ hturns) rfl, ?_⟩
  rw [hrows, World.get?_replace, Change.id_result, if_pos hid.symm, found, Option.map_some]

/-- A change that is refused when nobody else is about. -/
theorem alone_of_not_admits (asks : r.start = .load ch)
    (found : w.bookings.get? ch.booking = some b) (own : b.business = ch.business)
    (refused : ch.admits b.status = false) :
    ∃ e, r.service.course.alone w = (.error e, w) := by
  have hturns : Interleaving.turns (Stage.turn World.answer) 1 w (.load ch) =
      (.failed (.forbidden ⟨b.status, ch.wanted.getD b.status⟩), w) := by
    simp [Interleaving.turns, Stage.turn, Stage.call?, World.answer,
      World.booking?_eq_some_iff.2 ⟨found, own⟩, Stage.next, Stage.found, Change.apply, refused]
  exact ⟨_, (follows_start r).alone (asks ▸ hturns) rfl⟩

end Request
/-! ## Two changes -/

/-- The change has not been made. If the booking has been loaded, it was a version like this. -/
inductive Stage.Awaits (ch : Change) (seen : Booking → Prop) : Stage → Prop
  | load : Awaits ch seen (.load ch)
  | replace {old} (saw : seen old) (admitted : ch.admits old.status = true) :
      Awaits ch seen (.replace (ch.result old) old.status)
  | failed {e} : Awaits ch seen (.failed e)

/-- Two changes of a booking, of which the first is the first to be made: what is stored, and where
they stand. Either the second has worked on what the first stored, or it has not seen it. -/
inductive Pair (b : Booking) (ch ch' : Change) : Booking → Stage → Stage → Prop
  | neither {g g' : Stage} (h : g.Awaits ch (· = b)) (h' : g'.Awaits ch' (· = b)) :
      Pair b ch ch' b g g'
  | one {g g' : Stage} (admitted : ch.admits b.status = true) (made : g.HasMade (ch.result b))
      (h' : g'.Awaits ch' fun v => v = b ∨ v = ch.result b) : Pair b ch ch' (ch.result b) g g'
  | both {g g' : Stage} (admitted : ch.admits b.status = true) (made : g.HasMade (ch.result b))
      (admitted' : ch'.admits (ch.result b).status = true)
      (made' : g'.HasMade (ch'.result (ch.result b))) :
      Pair b ch ch' (ch'.result (ch.result b)) g g'
  | unseen {g g' : Stage} (admitted : ch.admits b.status = true) (made : g.HasMade (ch.result b))
      (same : (ch.result b).status = b.status) (admitted' : ch'.admits b.status = true)
      (made' : g'.HasMade (ch'.result b)) : Pair b ch ch' (ch'.result b) g g'

section

variable {w w' : World} {g g' g₁ : Stage} {ch ch' : Change} {b new now : Booking}
  {seen seen' : Booking → Prop}

theorem Stage.Awaits.mono (h : Awaits ch seen g) (hseen : ∀ v, seen v → seen' v) :
    Awaits ch seen' g := by
  cases h with
  | load => exact .load
  | replace saw admitted => exact .replace (hseen _ saw) admitted
  | failed => exact .failed

/-- A change is made on a version that it has seen, if the status is still the same. -/
theorem Stage.Awaits.turn (h : Awaits ch seen g) (found : w.bookings.get? ch.booking = some now)
    (ids : ∀ v, seen v → v.id = ch.booking) (t : Turns w g g' w') :
    (Awaits ch (fun v => seen v ∨ v = now) g' ∧ w'.bookings = w.bookings) ∨
      ∃ old, seen old ∧ ch.admits old.status = true ∧ now.status = old.status ∧
        HasMade (ch.result old) g' ∧ w'.bookings.get? ch.booking = some (ch.result old) := by
  cases h with
  | load =>
    cases t with
    | notFound _ => exact .inl ⟨.failed, rfl⟩
    | refused _ _ _ => exact .inl ⟨.failed, rfl⟩
    | loaded hfound own admitted =>
      rw [found, Option.some_inj] at hfound
      exact .inl ⟨.replace (.inr hfound.symm) admitted, rfl⟩
    | rests ended => cases ended
  | failed =>
    cases t with
    | rests _ => exact .inl ⟨.failed, rfl⟩
  | @replace old saw admitted =>
    have hid := ids old saw
    generalize hn : ch.result old = new at t
    generalize hs : old.status = before at t
    cases t with
    | overtaken _ => exact .inl ⟨.failed, rfl⟩
    | rests ended => cases ended
    | @replaced _ _ stored hfound own same =>
      subst hn hs
      rw [Change.id_result, hid, found, Option.some_inj] at hfound
      refine .inr ⟨old, saw, admitted, hfound ▸ same, Stage.hasMade_replaced _ _, ?_⟩
      rw [World.get?_replace, Change.id_result, if_pos hid.symm, found, Option.map_some]

theorem Pair.turn_first (h : Pair b ch ch' now g g') (hid : ch.booking = b.id)
    (found : w.bookings.get? b.id = some now) (t : Stage.Turns w g g₁ w') :
    ∃ now', w'.bookings.get? b.id = some now' ∧ Pair b ch ch' now' g₁ g' := by
  cases h with
  | neither h h' =>
    rcases h.turn (hid ▸ found) (fun v hv => by rw [hv, hid]) t with
      ⟨h, hrows⟩ | ⟨old, rfl, admitted, -, made, hrow⟩
    · exact ⟨b, hrows ▸ found, .neither (h.mono fun v hv => hv.elim id id) h'⟩
    · exact ⟨_, hid ▸ hrow, .one admitted made (h'.mono fun v hv => .inl hv)⟩
  | one admitted made h' =>
    obtain ⟨made, hrows⟩ := made.turn t
    exact ⟨_, hrows ▸ found, .one admitted made h'⟩
  | both admitted made admitted' made' =>
    obtain ⟨made, hrows⟩ := made.turn t
    exact ⟨_, hrows ▸ found, .both admitted made admitted' made'⟩
  | unseen admitted made same admitted' made' =>
    obtain ⟨made, hrows⟩ := made.turn t
    exact ⟨_, hrows ▸ found, .unseen admitted made same admitted' made'⟩

theorem Pair.turn_second (h : Pair b ch ch' now g g') (hid : ch'.booking = b.id)
    (found : w.bookings.get? b.id = some now) (t : Stage.Turns w g' g₁ w') :
    ∃ now', w'.bookings.get? b.id = some now' ∧
      (Pair b ch ch' now' g g₁ ∨ Pair b ch' ch now' g₁ g) := by
  cases h with
  | neither h h' =>
    rcases h'.turn (hid ▸ found) (fun v hv => by rw [hv, hid]) t with
      ⟨h', hrows⟩ | ⟨old, rfl, admitted, -, made, hrow⟩
    · exact ⟨b, hrows ▸ found, .inl (.neither h (h'.mono fun v hv => hv.elim id id))⟩
    · exact ⟨_, hid ▸ hrow, .inr (.one admitted made (h.mono fun v hv => .inl hv))⟩
  | one admitted made h' =>
    have ids : ∀ v, v = b ∨ v = ch.result b → v.id = ch'.booking := by
      rintro v (rfl | rfl)
      · exact hid.symm
      · exact hid.symm
    rcases h'.turn (hid ▸ found) ids t with
      ⟨h', hrows⟩ | ⟨old, rfl | rfl, admitted', same, made', hrow⟩
    · exact ⟨_, hrows ▸ found, .inl (.one admitted made (h'.mono fun v hv => hv.elim id .inr))⟩
    · exact ⟨_, hid ▸ hrow, .inl (.unseen admitted made same admitted' made')⟩
    · exact ⟨_, hid ▸ hrow, .inl (.both admitted made admitted' made')⟩
  | both admitted made admitted' made' =>
    obtain ⟨made', hrows⟩ := made'.turn t
    exact ⟨_, hrows ▸ found, .inl (.both admitted made admitted' made')⟩
  | unseen admitted made same admitted' made' =>
    obtain ⟨made', hrows⟩ := made'.turn t
    exact ⟨_, hrows ▸ found, .inl (.unseen admitted made same admitted' made')⟩

end

namespace Change

variable {ch ch' : Change} {b : Booking}

/-- A change that leaves the status and whose notes, if any, are replaced leaves nothing. -/
theorem result_result (same : (ch.result b).status = b.status)
    (hnotes : (ch.result b).notes = b.notes ∨ ch'.notes ≠ none) :
    ch'.result (ch.result b) = ch'.result b := by
  have hboth : ch'.result (ch.result b) =
      { ch'.result b with
        status := ch'.wanted.getD (ch.result b).status
        notes := ch'.notes.getD (ch.result b).notes } := rfl
  rw [hboth, same]
  rcases hnotes with hsame | hgiven
  · rw [hsame]
    rfl
  · obtain ⟨notes, hn⟩ := Option.ne_none_iff_exists'.1 hgiven
    simp only [result, hn, Option.getD_some]

theorem notes_result_of_none (h : ch.notes = none) (b : Booking) :
    (ch.result b).notes = b.notes := by
  rw [notes_result, h, Option.getD_none]

end Change

namespace Request

/-- The booking that is to be changed. -/
def target? : Request → Option BookingId
  | create _ _ => none
  | update c => some c.booking
  | confirm c | cancel c | complete c => some c.booking

/-- Served one after the other, both requests succeed, and then this booking is stored. -/
def InTurn (w : World) (first second : Request) (now : Booking) : Prop :=
  ∃ made made' t t',
    Timeline.run none first.service (Timeline.start w) = (.finished (.ok made), t) ∧
    Timeline.run none second.service t = (.finished (.ok made'), t') ∧
    t'.world.bookings.get? now.id = some now

/-- The first request changes the notes and keeps the status. The second gives no notes, and what is
stored is what it makes of the booking as it was before both. -/
def Overwrites (b : Booking) (first second : Request) (now : Booking) : Prop :=
  ∃ ch ch', first.start = .load ch ∧ second.start = .load ch' ∧
    (ch.result b).status = b.status ∧ (ch.result b).notes ≠ b.notes ∧ ch'.notes = none ∧
    now = ch'.result b

/-- Notes that the first request gives and the second does not are stored. -/
def KeepsNotes (first second : Request) (now : Booking) : Prop :=
  ∀ ch ch' notes, first.start = .load ch → second.start = .load ch' → ch.notes = some notes →
    ch'.notes = none → now.notes = notes

/-- The requests have been made in turn if and only if none overwrites the other, and then no notes
are lost. -/
def InTurnUnlessOverwritten (w : World) (b : Booking) (r r' : Request) (now : Booking) : Prop :=
  ((InTurn w r r' now ∨ InTurn w r' r now) ↔ ¬ (Overwrites b r r' now ∨ Overwrites b r' r now)) ∧
    (InTurn w r r' now ∨ InTurn w r' r now → KeepsNotes r r' now ∧ KeepsNotes r' r now)

variable {w : World} {r r' : Request} {ch ch' : Change} {b now : Booking}

/-- Served one after the other, requests do what their courses do alone. -/
theorem inTurn_iff_alone :
    InTurn w r r' now ↔ (r.service.course.alone w).1.isOk = true ∧
      (r'.service.course.alone (r.service.course.alone w).2).1.isOk = true ∧
      (r'.service.course.alone (r.service.course.alone w).2).2.bookings.get? now.id =
        some now := by
  obtain ⟨t, hrun, hplain⟩ := Timeline.run_alone (s := r.service) (Timeline.plain_start w)
  obtain ⟨t', hrun', hplain'⟩ := Timeline.run_alone (s := r'.service) hplain
  rw [InTurn, hrun, ← hplain'.world]
  constructor
  · rintro ⟨made, made', _, _, hfirst, hsecond, hnow⟩
    obtain ⟨hmade, rfl⟩ := Prod.mk.inj hfirst
    rw [hrun'] at hsecond
    obtain ⟨hmade', rfl⟩ := Prod.mk.inj hsecond
    injection hmade with hmade
    injection hmade' with hmade'
    rw [hmade, hmade']
    exact ⟨rfl, rfl, hnow⟩
  · rintro ⟨hok, hok', hnow⟩
    cases hmade : (r.service.course.alone w).1 with
    | error e =>
      rw [hmade] at hok
      cases hok
    | ok made =>
      cases hmade' : (r'.service.course.alone (r.service.course.alone w).2).1 with
      | error e =>
        rw [hmade'] at hok'
        cases hok'
      | ok made' => exact ⟨made, made', t, t', rfl, hmade' ▸ hrun', hnow⟩

theorem inTurn_iff (asks : r.start = .load ch) (asks' : r'.start = .load ch')
    (hid : ch.booking = b.id) (hid' : ch'.booking = b.id) (own : b.business = ch.business)
    (own' : b.business = ch'.business) (stored : w.bookings.get? b.id = some b)
    (hnow : now.id = b.id) :
    InTurn w r r' now ↔ ch.admits b.status = true ∧ ch'.admits (ch.result b).status = true ∧
      now = ch'.result (ch.result b) := by
  rw [inTurn_iff_alone]
  cases hadmits : ch.admits b.status with
  | false =>
    obtain ⟨e, he⟩ := alone_of_not_admits asks (hid ▸ stored) own hadmits
    simp [he, Except.isOk, Except.toBool]
  | true =>
    obtain ⟨v, hv, hrow⟩ := alone_of_admits asks (hid ▸ stored) hid.symm own hadmits
    rw [hid, ← hid'] at hrow
    rw [hv]
    cases hadmits' : ch'.admits (ch.result b).status with
    | false =>
      obtain ⟨e, he⟩ := alone_of_not_admits asks' hrow own' hadmits'
      simp [he, Except.isOk, Except.toBool]
    | true =>
      obtain ⟨v', hv', hrow'⟩ := alone_of_admits asks' hrow hid'.symm own' hadmits'
      rw [hid'] at hrow'
      simp [hv', hnow, hrow', Except.isOk, Except.toBool, eq_comm]

theorem overwrites_iff (asks : r.start = .load ch) (asks' : r'.start = .load ch') :
    Overwrites b r r' now ↔ (ch.result b).status = b.status ∧ (ch.result b).notes ≠ b.notes ∧
      ch'.notes = none ∧ now = ch'.result b := by
  constructor
  · rintro ⟨_, _, h, h', hrest⟩
    rw [asks] at h
    rw [asks'] at h'
    cases h
    cases h'
    exact hrest
  · exact fun h => ⟨ch, ch', asks, asks', h⟩

theorem keepsNotes_iff (asks : r.start = .load ch) (asks' : r'.start = .load ch') :
    KeepsNotes r r' now ↔
      ∀ notes, ch.notes = some notes → ch'.notes = none → now.notes = notes := by
  constructor
  · exact fun h notes => h ch ch' notes asks asks'
  · rintro h _ _ notes hr hr'
    rw [asks] at hr
    rw [asks'] at hr'
    cases hr
    cases hr'
    exact h notes

/-- Notes that were lost are not those of either order. -/
theorem not_overwrites_of_notes (asks : r.start = .load ch) (asks' : r'.start = .load ch')
    (h : ∀ notes, ch.notes = some notes → ch'.notes = none → now.notes = notes) :
    ¬ Overwrites b r r' now := by
  rw [overwrites_iff asks asks']
  rintro ⟨-, hnotes, hnone, rfl⟩
  cases hn : ch.notes with
  | none => exact hnotes (Change.notes_result_of_none hn b)
  | some notes =>
    have hkept := h notes hn hnone
    rw [Change.notes_result_of_none hnone] at hkept
    rw [Change.notes_result, hn, hkept] at hnotes
    exact hnotes rfl

/-- Made in turn, each keeps the notes of the other if it gives none. -/
theorem notes_result_result (h : now = ch'.result (ch.result b)) :
    (∀ notes, ch.notes = some notes → ch'.notes = none → now.notes = notes) ∧
      ∀ notes, ch'.notes = some notes → ch.notes = none → now.notes = notes := by
  subst h
  constructor
  · intro notes hn hnone
    rw [Change.notes_result_of_none hnone, Change.notes_result, hn, Option.getD_some]
  · intro notes hn _
    rw [Change.notes_result, hn, Option.getD_some]

/-- When both are made, the first before the second. -/
theorem inTurn_of_pair {x y : Booking} (h : Pair b ch ch' now (.changed x) (.changed y))
    (asks : r.start = .load ch) (asks' : r'.start = .load ch') (hid : ch.booking = b.id)
    (hid' : ch'.booking = b.id) (own : b.business = ch.business) (own' : b.business = ch'.business)
    (stored : w.bookings.get? b.id = some b) :
    InTurnUnlessOverwritten w b r r' now := by
  have hnow : now.id = b.id := by cases h <;> rfl
  have hinturn := inTurn_iff asks asks' hid hid' own own' stored hnow
  have hinturn' := inTurn_iff asks' asks hid' hid own' own stored hnow
  have hkept : InTurn w r r' now ∨ InTurn w r' r now →
      KeepsNotes r r' now ∧ KeepsNotes r' r now := by
    rw [keepsNotes_iff asks asks', keepsNotes_iff asks' asks]
    rintro (hr | hr)
    · exact notes_result_result (hinturn.1 hr).2.2
    · exact And.symm (notes_result_result (hinturn'.1 hr).2.2)
  refine ⟨⟨fun hr => ?_, fun hr => ?_⟩, hkept⟩
  · have hnotes := hkept hr
    rw [keepsNotes_iff asks asks', keepsNotes_iff asks' asks] at hnotes
    rintro (hover | hover)
    · exact not_overwrites_of_notes asks asks' hnotes.1 hover
    · exact not_overwrites_of_notes asks' asks hnotes.2 hover
  · cases h with
    | neither h _ => cases h
    | one _ _ h' => cases h'
    | both admitted _ admitted' _ => exact .inl (hinturn.2 ⟨admitted, admitted', rfl⟩)
    | unseen admitted _ same admitted' _ =>
      -- the second has not seen the first, but might as well have
      have hnotes : (ch.result b).notes = b.notes ∨ ch'.notes ≠ none := by
        by_cases hn : (ch.result b).notes = b.notes
        · exact .inl hn
        · refine .inr fun hnone => hr (.inl ?_)
          exact (overwrites_iff asks asks').2 ⟨same, hn, hnone, rfl⟩
      exact .inl (hinturn.2 ⟨admitted, same ▸ admitted', (Change.result_result same hnotes).symm⟩)

theorem InTurnUnlessOverwritten.symm (h : InTurnUnlessOverwritten w b r r' now) :
    InTurnUnlessOverwritten w b r' r now := by
  obtain ⟨hiff, hkept⟩ := h
  refine ⟨?_, fun hr => And.symm (hkept (Or.symm hr))⟩
  rw [or_comm, hiff, or_comm]

theorem business_of_pair {x y : Booking} (h : Pair b ch ch' now (.changed x) (.changed y)) :
    x.business = b.business ∧ y.business = b.business := by
  cases h with
  | neither h _ => cases h
  | one _ _ h' => cases h'
  | both _ made _ made' | unseen _ made _ _ made' =>
    obtain made | made := made
    · cases made
    obtain made' | made' := made'
    · cases made'
    cases made
    cases made'
    exact ⟨rfl, rfl⟩

theorem booking_of_target {id : BookingId} (h : r.target? = some id) (asks : r.start = .load ch) :
    ch.booking = id := by
  cases r with
  | create _ _ => cases h
  | update c =>
    rw [start] at asks
    split at asks
    · cases asks
    · cases asks
      cases h
      rfl
  | confirm c | cancel c | complete c =>
    cases asks
    cases h
    rfl

/-- Two changes of one booking, in any order of their calls. -/
def PairUnderway (b : Booking) (ch ch' : Change) (d : Interleaving Stage) : Prop :=
  ∃ now g g', d.strands = [g, g'] ∧ d.world.bookings.get? b.id = some now ∧
    (Pair b ch ch' now g g' ∨ Pair b ch' ch now g' g)

theorem PairUnderway.turn {d : Interleaving Stage} {i : Nat} {s s' : Stage} {v : World}
    (h : PairUnderway b ch ch' d) (hid : ch.booking = b.id) (hid' : ch'.booking = b.id)
    (hs : d.strands[i]? = some s) (t : Stage.Turns d.world s s' v) :
    PairUnderway b ch ch' ⟨v, d.strands.set i s'⟩ := by
  obtain ⟨now, g, g', hstrands, hnow, hpair⟩ := h
  rw [hstrands] at hs ⊢
  match i, hs with
  | 0, hs =>
    cases hs
    rcases hpair with hpair | hpair
    · obtain ⟨now', hnow', hpair'⟩ := hpair.turn_first hid hnow t
      exact ⟨now', s', g', rfl, hnow', .inl hpair'⟩
    · obtain ⟨now', hnow', hpair'⟩ := hpair.turn_second hid hnow t
      exact ⟨now', s', g', rfl, hnow', hpair'.symm⟩
  | 1, hs =>
    cases hs
    rcases hpair with hpair | hpair
    · obtain ⟨now', hnow', hpair'⟩ := hpair.turn_second hid' hnow t
      exact ⟨now', g, s', rfl, hnow', hpair'⟩
    · obtain ⟨now', hnow', hpair'⟩ := hpair.turn_first hid' hnow t
      exact ⟨now', g, s', rfl, hnow', .inr hpair'⟩

/-- A change that succeeds has loaded a booking of its business and made it. -/
theorem Underway.change_of_ok {requests : List Request} {d : Interleaving (Course Outcome)}
    {e : Interleaving Stage} {i : Nat} {id : BookingId} {made : Booking}
    (under : Underway requests w e) (alike : Interleaving.Alike Course.Follows d e)
    (hr : requests[i]? = some r) (target : r.target? = some id)
    (ok : d.result? i = some (.ok made)) :
    ∃ ch, r.start = .load ch ∧ ch.booking = id ∧ e.strands[i]? = some (.changed made) ∧
      made.business = ch.business := by
  obtain ⟨g, hg, hreach⟩ := under.strand hr
  rw [alike.result?_eq, hg, Option.bind_some] at ok
  cases hreach with
  | changed asks own =>
    cases ok
    exact ⟨_, asks, booking_of_target target asks, hg, own⟩
  | booked makes => cases target
  | _ => cases ok

/-- Of two changes of a stored booking that both succeed, in whatever order they make their calls,
one has worked on what the other stored, unless it overwrites it. -/
theorem changes_in_turn_iff {made made' : Booking} (stored : w.bookings.get? b.id = some b)
    (target : r.target? = some b.id) (target' : r'.target? = some b.id) (schedule : List Nat)
    (ok : ((courses [r, r'] w).play (Course.turn World.answer) schedule).result? 0 =
      some (.ok made))
    (ok' : ((courses [r, r'] w).play (Course.turn World.answer) schedule).result? 1 =
      some (.ok made')) :
    ∃ now,
      ((courses [r, r'] w).play (Course.turn World.answer) schedule).world.bookings.get? b.id =
        some now ∧
      ((InTurn w r r' now ∨ InTurn w r' r now) ↔
        ¬ (Overwrites b r r' now ∨ Overwrites b r' r now)) ∧
      (InTurn w r r' now ∨ InTurn w r' r now → KeepsNotes r r' now ∧ KeepsNotes r' r now) := by
  have hdrawn : [r, r'].filterMap drawn? = [] := by
    cases r <;> cases r' <;> first | rfl | cases target | cases target'
  have fresh : Fresh [r, r'] w := ⟨by simp [hdrawn], by simp [hdrawn]⟩
  have halike := play_requests [r, r'] w World.answer schedule
  obtain ⟨under, -⟩ := stages_keep (fun _ => True) fresh trivial (fun _ _ _ _ _ _ _ _ _ => trivial)
    schedule
  obtain ⟨ch, asks, hid, hmade, hown⟩ := under.change_of_ok halike rfl target ok
  obtain ⟨ch', asks', hid', hmade', hown'⟩ := under.change_of_ok halike rfl target' ok'
  have hstart : PairUnderway b ch ch' (stages [r, r'] w) :=
    ⟨b, .load ch, .load ch', by rw [← asks, ← asks']; rfl, stored, .inl (.neither .load .load)⟩
  obtain ⟨-, now, g, g', hstrands, hnow, hpair⟩ := stages_keep (PairUnderway b ch ch') fresh hstart
    (fun d i s s' v _ h hs t => h.turn hid hid' hs t) schedule
  rw [hstrands] at hmade hmade'
  cases hmade
  cases hmade'
  refine ⟨now, halike.1 ▸ hnow, ?_⟩
  rcases hpair with hpair | hpair
  · obtain ⟨hb, hb'⟩ := business_of_pair hpair
    exact inTurn_of_pair hpair asks asks' hid hid' (hb ▸ hown) (hb' ▸ hown') stored
  · obtain ⟨hb', hb⟩ := business_of_pair hpair
    exact (inTurn_of_pair hpair asks' asks hid' hid (hb' ▸ hown') (hb ▸ hown) stored).symm

/-- Notes are given, and the booking is confirmed after that. -/
theorem changes_in_turn_notes_then_confirm :
    let r := update ⟨Sample.booking.business, Sample.booking.id, none, some "window", .ofSecond 1⟩
    let r' := confirm ⟨Sample.booking.business, Sample.booking.id, .ofSecond 2⟩
    let w := Sample.world.insert Sample.booking
    let d := (courses [r, r'] w).play (Course.turn World.answer) [0, 0, 1, 1]
    (w.bookings.get? Sample.booking.id = some Sample.booking ∧
      r.target? = some Sample.booking.id ∧ r'.target? = some Sample.booking.id ∧
      (∃ made, d.result? 0 = some (.ok made)) ∧ ∃ made', d.result? 1 = some (.ok made')) ∧
    ∃ now, d.world.bookings.get? Sample.booking.id = some now ∧
      ((InTurn w r r' now ∨ InTurn w r' r now) ↔
        ¬ (Overwrites Sample.booking r r' now ∨ Overwrites Sample.booking r' r now)) ∧
      (InTurn w r r' now ∨ InTurn w r' r now → KeepsNotes r r' now ∧ KeepsNotes r' r now) :=
  ⟨⟨rfl, rfl, rfl, ⟨_, rfl⟩, ⟨_, rfl⟩⟩,
    changes_in_turn_iff (b := Sample.booking) rfl rfl rfl [0, 0, 1, 1] rfl rfl⟩

/-- A confirmation loads the booking, notes are given and stored, and the confirmation is stored
over them. -/
theorem notes_lost_by_confirm :
    ¬ ∀ (w : World) (b : Booking) (r r' : Request) (schedule : List Nat) (made made' : Booking),
      w.bookings.get? b.id = some b → r.target? = some b.id → r'.target? = some b.id →
      ((courses [r, r'] w).play (Course.turn World.answer) schedule).result? 0 =
        some (.ok made) →
      ((courses [r, r'] w).play (Course.turn World.answer) schedule).result? 1 =
        some (.ok made') →
      ∃ now,
        ((courses [r, r'] w).play (Course.turn World.answer) schedule).world.bookings.get? b.id =
          some now ∧
        (InTurn w r r' now ∨ InTurn w r' r now) := by
  intro hserial
  obtain ⟨now, hnow, hturn⟩ := hserial (Sample.world.insert Sample.booking) Sample.booking
    (update ⟨Sample.booking.business, Sample.booking.id, none, some "window", .ofSecond 1⟩)
    (confirm ⟨Sample.booking.business, Sample.booking.id, .ofSecond 2⟩) [1, 0, 0, 1] _ _
    rfl rfl rfl rfl rfl
  have hlost : now = { Sample.booking with status := .confirmed, updatedAt := .ofSecond 2 } :=
    Option.some_inj.1 (hnow.symm.trans rfl)
  subst hlost
  rw [inTurn_iff_alone, inTurn_iff_alone] at hturn
  rcases hturn with ⟨-, -, h⟩ | ⟨-, -, h⟩
  · exact absurd h (by decide)
  · exact absurd h (by decide)

end Request

end BookingDesk
