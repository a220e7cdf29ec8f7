import BookingDesk.Proofs.Leaving
import BookingDesk.Proofs.Troubled
import BookingDesk.Proofs.Within

/-!
# Stored bookings are well formed

A new version of a booking is written over the old one as a whole. It was made of a booking that was
looked up, which was stored under that identifier, and this goes back to the one create that drew
the identifier. So where a row comes from is asked, and not what the row is: it is a version of what
an order asked for (`Errand.Ordered`), whatever calls fail, with or without effect, and whoever
leaves. Main statement: stored bookings are well formed, and two versions of one booking differ in
status, notes and the time of the last change at most (`Errand.bookings_wellFormed`).
-/
namespace BookingDesk

variable {w : World} {id : BookingId} {b row : Booking} {call : Call}

/-! ## Well-formed bookings -/

/-- The times are in order, the notes are short, everything that a booking refers to is named, and
the booking has the business and the times of its slot. -/
structure Booking.WellFormed (w : World) (b : Booking) : Prop where
  times : b.start < b.finish
  notes : b.notes.text.length ≤ 500
  business : b.business ≠ .none
  customer : b.customer ≠ .none
  staff : b.staff ≠ .none
  service : b.service ≠ .none
  named : b.slot ≠ .none
  slot : ∃ slot, w.slotOf? b.slot = some slot ∧ slot.business = b.business ∧
    slot.start = b.start ∧ slot.finish = b.finish

namespace CreateBooking

/-- The booking that the command asks for in its slot, which is its business's own. Whether customer
and staff are known is left open. -/
def Shapes (w : World) (c : CreateBooking) (id : BookingId) (b : Booking) : Prop :=
  ∃ notes slot, c.validate = .ok notes ∧ w.slotOf? c.slot = some slot ∧
    slot.business = c.business ∧ c.booking id notes slot.start slot.finish = .ok b

variable {c : CreateBooking} {b' : Booking}

theorem Shapes.unique (h : c.Shapes w id b) (h' : c.Shapes w id b') : b = b' := by
  obtain ⟨notes, slot, hnotes, hslot, -, hb⟩ := h
  obtain ⟨notes', slot', hnotes', hslot', -, hb'⟩ := h'
  cases hnotes.symm.trans hnotes'
  cases hslot.symm.trans hslot'
  exact Except.ok.inj (hb.symm.trans hb')

theorem Shapes.id_eq (h : c.Shapes w id b) : b.id = id := by
  obtain ⟨_, _, -, -, -, hb⟩ := h
  rw [(booking_eq_ok_iff.1 hb).2]

theorem named_of_validate {notes : Notes} (h : c.validate = .ok notes) :
    c.business ≠ .none ∧ c.customer ≠ .none ∧ c.staff ≠ .none ∧ c.service ≠ .none ∧
      c.slot ≠ .none := by
  have hne : ∀ {e : Entity} {i : Id e}, i.isNone = false → i ≠ .none := by
    rintro e i hsome rfl
    simp [Id.isNone, Id.none] at hsome
  rw [validate] at h
  split at h
  · cases h
  split at h
  · cases h
  split at h
  · cases h
  split at h
  · cases h
  split at h
  · cases h
  simp only [Bool.not_eq_true] at *
  exact ⟨hne ‹_›, hne ‹_›, hne ‹_›, hne ‹_›, hne ‹_›⟩

/-- What a command shapes is well formed, and so are all versions of it. -/
theorem Shapes.wellFormed (h : c.Shapes w id b) (version : row.IsVersionOf b) :
    row.WellFormed w := by
  obtain ⟨notes, slot, hnotes, hslot, hown, hb⟩ := h
  obtain ⟨hlt, rfl⟩ := booking_eq_ok_iff.1 hb
  obtain ⟨hbusiness, hcustomer, hstaff, hservice, hnamed⟩ := named_of_validate hnotes
  rw [version]
  exact ⟨hlt, row.notes.bounded, hbusiness, hcustomer, hstaff, hservice, hnamed, slot, hslot, hown,
    rfl, rfl⟩

end CreateBooking

theorem Booking.WellFormed.of_sameGround {v : World} (h : b.WellFormed w)
    (ground : w.SameGround v) : b.WellFormed v := by
  obtain ⟨times, notes, business, customer, staff, service, named, slot, hslot, hrest⟩ := h
  exact ⟨times, notes, business, customer, staff, service, named, slot,
    (ground.slots _).trans hslot, hrest⟩

/-! ## Calls that fail -/

/-- What is found is there. -/
def Call.Truthful (w : World) : (c : Call) → Answer c → Prop
  | .find business id, .ok (some b) => w.booking? business id = some b
  | .findSlot business s, .ok (some slot) => w.slotOf? s = some slot ∧ slot.business = business
  | _, _ => True

namespace World

theorem truthful_answer (w : World) (c : Call) : c.Truthful w (w.answer c).1 := by
  cases c with
  | find business id =>
    rw [answer]
    cases hb : w.booking? business id with
    | none => trivial
    | some b => exact hb
  | findSlot business s =>
    rw [answer_findSlot]
    cases hslot : (w.slotOf? s).filter (·.business = business) with
    | none => trivial
    | some slot =>
      obtain ⟨hslot, hbusiness⟩ := Option.filter_eq_some_iff.1 hslot
      exact ⟨hslot, of_decide_eq_true hbusiness⟩
  | _ => trivial

theorem truthful_error (w : World) (c : Call) (f : Failure) : c.Truthful w (.error f) := by
  cases c <;> trivial

/-- Whatever becomes of a call, what it finds is there. -/
theorem struck_truthful (e : Effect) (w : World) (c : Call) : c.Truthful w (struck e w c).1 := by
  cases e with
  | none | crash => exact w.truthful_answer c
  | fail message | failAfter message => exact w.truthful_error c _
  | answer value =>
    rw [struck]
    split
    · cases c <;> trivial
    · exact w.truthful_answer c
  | nothing =>
    rw [struck]
    split
    · rename_i reply hreply
      cases c <;> cases hreply <;> trivial
    · exact w.truthful_answer c

/-- A row was there before, or the call stores it. -/
theorem row_of_answer (h : (w.answer call).2.bookings.get? id = some row) :
    w.bookings.get? id = some row ∨
      id = row.id ∧ (call = .insert row ∨ ∃ before, call = .replace row before) := by
  cases call with
  | insert b =>
    simp only [answer] at h
    split at h
    · exact .inl h
    · rename_i hfresh
      have hfresh : w.bookings.get? b.id = none := Option.not_isSome_iff_eq_none.1 hfresh
      rcases (get?_insert_eq_some_iff hfresh).1 h with ⟨rfl, rfl⟩ | hrow
      · exact .inr ⟨rfl, .inl rfl⟩
      · exact .inl hrow
  | replace b before =>
    simp only [answer] at h
    split at h
    · rename_i haccepts
      obtain ⟨stored, hstored, -, -⟩ := accepts_iff.1 haccepts
      rcases (get?_replace_eq_some_iff hstored).1 h with ⟨rfl, rfl⟩ | ⟨-, hrow⟩
      · exact .inr ⟨rfl, .inr ⟨before, rfl⟩⟩
      · exact .inl hrow
    · exact .inl h
  | remove business booking =>
    simp only [answer] at h
    split at h
    · exact .inl (get?_remove_eq_some_iff.1 h).2
    · exact .inl h
  | reserve slot booking | release slot | countBooking business customer =>
    simp only [answer] at h
    split at h <;> exact .inl h
  | _ => exact .inl h

theorem row_of_struck {e : Effect} (h : (struck e w call).2.bookings.get? id = some row) :
    w.bookings.get? id = some row ∨
      id = row.id ∧ (call = .insert row ∨ ∃ before, call = .replace row before) := by
  rcases struck_snd e w call with hsame | hdone
  · exact .inl (hsame ▸ h)
  · exact row_of_answer (hdone ▸ h)

theorem sameGround_struck (e : Effect) (w : World) (c : Call) : w.SameGround (struck e w c).2 := by
  rcases struck_snd e w c with hsame | hdone
  · rw [hsame]
    exact .refl w
  · rw [hdone]
    exact sameGround_answer w c

end World

/-! ## Where rows come from -/

namespace Errand

variable {errands : List Errand} {e : Errand}

/-- Callers with these errands, none of whom has made a call yet. -/
def callers (errands : List Errand) (w : World) : Interleaving (Caller Receipt) :=
  ⟨w, errands.map fun e => e.service.caller⟩

/-- After these turns, in each of which a caller leaves or a call is made and struck. -/
def after (errands : List Errand) (w : World) (turns : List (Nat × Option Effect)) :
    Interleaving (Caller Receipt) :=
  (callers errands w).playWith (fun e => Caller.step (e.map World.struck)) turns

/-- The booking, or an earlier version of it, is what one of the errands orders. -/
def Ordered (errands : List Errand) (w : World) (id : BookingId) (row : Booking) : Prop :=
  ∃ e ∈ errands, ∃ c b, e.Orders id c ∧ c.Shapes w id b ∧ row.IsVersionOf b

theorem drawn?_of_orders {c : CreateBooking} (h : e.Orders id c) : e.drawn? = some id := by
  cases e with
  | request r =>
    rw [drawn?, h]
    rfl
  | question q => cases h
  | http fresh now r =>
    rw [drawn?, h.1]

theorem Ordered.id_eq (h : Ordered errands w id row) : row.id = id := by
  obtain ⟨e, -, c, b, -, shapes, version⟩ := h
  exact version.id_eq.trans shapes.id_eq

theorem Ordered.wellFormed (h : Ordered errands w id row) : row.WellFormed w := by
  obtain ⟨e, -, c, b, -, shapes, version⟩ := h
  exact shapes.wellFormed version

theorem Ordered.result (h : Ordered errands w id row) (ch : Change) :
    Ordered errands w id (ch.result row) := by
  obtain ⟨e, he, c, b, orders, shapes, version⟩ := h
  exact ⟨e, he, c, b, orders, shapes, (ch.isVersionOf_result row).trans version⟩

/-- The books are those of `w` with rows that were ordered. -/
structure Books (errands : List Errand) (w v : World) : Prop where
  ground : w.SameGround v
  rows : ∀ {id row}, v.bookings.get? id = some row → Ordered errands w id row

end Errand

/-- What the stage is about to store is what the errand orders, or a version of what was ordered. -/
def Stage.Sound (errands : List Errand) (w : World) (e : Errand) : Stage → Prop
  | askSlot id c notes | askCustomer id c notes | askStaff id c notes | readSlot id c notes =>
    e.Orders id c ∧ c.validate = .ok notes
  | insert b => ∃ c, e.Orders b.id c ∧ c.Shapes w b.id b
  | replace b _ => Errand.Ordered errands w b.id b
  | _ => True

/-- The caller does the work of the errand, or asks and writes nothing. -/
inductive Caller.Stands (errands : List Errand) (w : World) (e : Errand) : Caller Receipt → Prop
  | works {c : Caller Receipt} {f : Outcome → Receipt} {g : Stage} (follows : c.Follows f g)
      (sound : g.Sound errands w e) : Stands errands w e c
  | asking {c : Call} {next : Answer c → Service Receipt} (question : c.isWrite = false)
      (asks : ∀ answer, (next answer).Asks) : Stands errands w e (.asks c next)
  | ended {receipt : Receipt} : Stands errands w e (.ended receipt)
  | gone : Stands errands w e .gone

section

variable {errands : List Errand} {e : Errand} {v : World} {g : Stage} {c : Caller Receipt}

theorem Stage.sound_start {r : Request} (h : ∀ id c, r = .create id c → e.Orders id c) :
    r.start.Sound errands w e := by
  rcases r.start_cases with ⟨error, hstart⟩ | ⟨id, c, notes, rfl, hvalid, hstart⟩ | ⟨ch, hstart⟩
  · rw [hstart]
    trivial
  · rw [hstart]
    exact ⟨h id c rfl, hvalid⟩
  · rw [hstart]
    trivial

/-- When the slot is known, the booking is shaped as the errand orders it. -/
theorem Stage.sound_made {id : BookingId} {cmd : CreateBooking} {notes : Notes} {slot : Slot}
    (orders : e.Orders id cmd) (valid : cmd.validate = .ok notes)
    (hslot : w.slotOf? cmd.slot = some slot) (own : slot.business = cmd.business) :
    (made id cmd notes (some slot)).Sound errands w e := by
  rw [made]
  cases hb : cmd.booking id notes slot.start slot.finish with
  | error e => trivial
  | ok b =>
    obtain rfl : b.id = id := by rw [(CreateBooking.booking_eq_ok_iff.1 hb).2]
    exact ⟨cmd, orders, notes, slot, valid, hslot, own, hb⟩

/-- When the booking has been looked up, the new version is one of what was ordered. -/
theorem Stage.sound_found {ch : Change} (h : Errand.Ordered errands w id b) :
    (found ch (some b)).Sound errands w e := by
  rw [found]
  cases hb : ch.apply b with
  | error e => trivial
  | ok new =>
    obtain ⟨-, rfl⟩ := Change.apply_eq_ok_iff.1 hb
    show Errand.Ordered errands w (ch.result b).id (ch.result b)
    rw [Change.id_result, h.id_eq]
    exact h.result ch

/-- An answer that tells the truth leads to a sound stage. -/
theorem Stage.Sound.next (h : g.Sound errands w e) (hc : g.call? = some call)
    (books : Errand.Books errands w v) {answer : Answer call} (truthful : call.Truthful v answer) :
    (g.next call answer).Sound errands w e := by
  cases g with
  | askSlot id cmd _ | askCustomer id cmd _ | askStaff id cmd _ =>
    cases hc
    rcases answer with f | _ | _
    · trivial
    · trivial
    · exact h
  | readSlot id cmd notes =>
    cases hc
    rcases answer with f | _ | slot
    · trivial
    · trivial
    · obtain ⟨hslot, own⟩ := truthful
      exact sound_made h.1 h.2 ((books.ground.slots _).symm.trans hslot) own
  | load ch =>
    cases hc
    rcases answer with f | _ | b
    · trivial
    · trivial
    · exact sound_found (books.rows (World.booking?_eq_some_iff.1 truthful).1)
  | insert b =>
    cases hc
    rcases answer with f | _ <;> trivial
  | reserve b =>
    cases hc
    rcases answer with f | _ | _ <;> trivial
  | count b | takeBack b _ | release b =>
    cases hc
    trivial
  | replace b before =>
    cases hc
    rcases answer with f | _ | _
    · trivial
    · trivial
    · show (replaced b before).Sound errands w e
      rw [replaced]
      split <;> trivial
  | booked _ | changed _ | failed _ => cases hc

/-- Whatever becomes of the call of a sound stage, it stores nothing but what was ordered. -/
theorem Errand.Books.struck (books : Errand.Books errands w v) (he : e ∈ errands)
    (sound : g.Sound errands w e) (hc : g.call? = some call) (effect : Effect) :
    Errand.Books errands w (World.struck effect v call).2 where
  ground := books.ground.trans (World.sameGround_struck effect v call)
  rows {id row} hrow := by
    rcases World.row_of_struck hrow with hrow | ⟨rfl, hstores⟩
    · exact books.rows hrow
    rcases hstores with rfl | ⟨before, rfl⟩
    · obtain rfl : g = .insert row := by
        cases g <;> cases hc
        rfl
      obtain ⟨c, orders, shapes⟩ := sound
      exact ⟨e, he, c, row, orders, shapes, .refl row⟩
    · obtain rfl : g = .replace row before := by
        cases g <;> cases hc
        rfl
      exact sound

namespace Caller

theorem stands_of_asks {s : Service Receipt} (h : s.Asks) : s.caller.Stands errands w e := by
  induction s with
  | done a => exact .ended
  | note n rest ih => exact ih h
  | ask c next => exact .asking h.1 h.2
  | handOver task next => cases h

theorem stands_of_serves {s : Service Receipt} (serves : s.Serves e.Orders) :
    s.caller.Stands errands w e := by
  have handsOver := serves.handsOver
  cases serves with
  | request r ordered quiet =>
    obtain ⟨f, hf⟩ := Classical.skolem.1 fun outcome => (quiet outcome).exists_course_eq
    have follows := (follows_start r).map f
    rw [← r.service.course_andThen hf] at follows
    exact .works (Service.follows_caller handsOver follows) (Stage.sound_start ordered)
  | asks asks => exact stands_of_asks asks

/-- In each turn, whatever becomes of the call, the caller goes on as it should and the books are
kept. -/
theorem Stands.step (h : c.Stands errands w e) (he : e ∈ errands)
    (books : Errand.Books errands w v) (effect : Option Effect) :
    (Caller.step (effect.map World.struck) v c).1.Stands errands w e ∧
      Errand.Books errands w (Caller.step (effect.map World.struck) v c).2 := by
  cases h with
  | works follows sound =>
    rcases follows.step (effect.map World.struck) v with
      ⟨hworld, hnext, -⟩ | ⟨answer, call, hreply, -, hcall, hworld, hnext⟩
    · exact ⟨.works hnext sound, hworld.symm ▸ books⟩
    · obtain ⟨effect, -, rfl⟩ := Option.map_eq_some_iff.1 hreply
      rw [Stage.turn, hcall] at hworld hnext
      exact ⟨.works hnext (sound.next hcall books (World.struck_truthful effect v call)),
        hworld.symm ▸ books.struck he sound hcall effect⟩
  | @asking call next question asks =>
    cases effect with
    | none => exact ⟨.gone, books⟩
    | some effect =>
      refine ⟨stands_of_asks (asks _), ?_⟩
      have hsame := World.struck_snd_of_not_isWrite question effect v
      exact hsame.symm ▸ books
  | ended => cases effect <;> exact ⟨.ended, books⟩
  | gone => cases effect <;> exact ⟨.gone, books⟩

end Caller

end

/-! ## Callers who take turns -/

namespace Errand

variable {errands : List Errand} {d : Interleaving (Caller Receipt)}

/-- Every caller does the work of one of the errands, and the books are kept. -/
structure Attended (errands : List Errand) (w : World) (d : Interleaving (Caller Receipt)) :
    Prop where
  books : Books errands w d.world
  callers : ∀ c ∈ d.strands, ∃ e ∈ errands, c.Stands errands w e

theorem attended_callers (empty : ∀ id, w.bookings.get? id = none) :
    Attended errands w (callers errands w) where
  books := ⟨.refl w, fun {id row} hrow => by
    have hnone : (callers errands w).world.bookings.get? id = none := empty id
    rw [hnone] at hrow
    cases hrow⟩
  callers c hc := by
    obtain ⟨e, he, rfl⟩ := List.mem_map.1 hc
    exact ⟨e, he, Caller.stands_of_serves e.serves⟩

/-- Whoever's turn it is, and whatever becomes of the call, all this is kept. -/
theorem Attended.turn (h : Attended errands w d) (i : Nat) (effect : Option Effect) :
    Attended errands w (d.turn (Caller.step (effect.map World.struck)) i) := by
  cases hc : d.strands[i]? with
  | none =>
    rw [Interleaving.turn_of_none hc]
    exact h
  | some c =>
    obtain ⟨e, he, stands⟩ := h.callers c (List.mem_of_getElem? hc)
    obtain ⟨hnext, hbooks⟩ := stands.step he h.books effect
    rw [Interleaving.turn_of_some hc]
    refine ⟨hbooks, fun c' hc' => ?_⟩
    rcases List.mem_or_eq_of_mem_set hc' with hother | rfl
    · exact h.callers c' hother
    · exact ⟨e, he, hnext⟩

/-- So it is after any number of turns. -/
theorem Attended.playWith (h : Attended errands w d) (turns : List (Nat × Option Effect)) :
    Attended errands w
      (d.playWith (fun effect => Caller.step (effect.map World.struck)) turns) := by
  induction turns generalizing d with
  | nil => exact h
  | cons p turns ih => exact ih (h.turn p.1 p.2)

/-- What comes of one errand is one booking. -/
theorem Ordered.isVersionOf {row' : Booking} (h : Ordered errands w id row)
    (h' : Ordered errands w id row') (apart : (errands.filterMap drawn?).Nodup) :
    row'.IsVersionOf row := by
  obtain ⟨e, he, c, b, orders, shapes, version⟩ := h
  obtain ⟨e', he', c', b', orders', shapes', version'⟩ := h'
  obtain ⟨i, hi⟩ := List.getElem?_of_mem he
  obtain ⟨j, hj⟩ := List.getElem?_of_mem he'
  obtain rfl := getElem?_inj_of_nodup_filterMap apart hi hj (drawn?_of_orders orders)
    (drawn?_of_orders orders')
  cases hi.symm.trans hj
  obtain ⟨-, rfl⟩ := orders.unique orders'
  obtain rfl := shapes.unique shapes'
  exact version'.of_common version

/-- Requests and questions of callers who may leave, with calls that may fail: all bookings that are
stored are well formed, and if no identifier is drawn twice, what is stored under an identifier
later is another version of what was stored there. -/
theorem bookings_wellFormed (errands : List Errand) (w : World)
    (empty : ∀ id, w.bookings.get? id = none) (turns : List (Nat × Option Effect))
    (id : BookingId) (row : Booking)
    (h : (after errands w turns).world.bookings.get? id = some row) :
    row.id = id ∧ row.WellFormed (after errands w turns).world ∧
      ((errands.filterMap drawn?).Nodup → ∀ more row',
        (after errands w (turns ++ more)).world.bookings.get? id = some row' →
          row'.IsVersionOf row) := by
  have hbooks : ∀ turns, Books errands w (after errands w turns).world := fun turns =>
    ((attended_callers empty).playWith turns).books
  have hordered := (hbooks turns).rows h
  refine ⟨hordered.id_eq, hordered.wellFormed.of_sameGround (hbooks turns).ground, ?_⟩
  intro apart more row' h'
  exact hordered.isVersionOf ((hbooks _).rows h') apart

/-- The caller leaves when the booking has been stored, and the booking is then confirmed. Two calls
fail when they have been carried out. -/
theorem bookings_wellFormed_confirmed :
    let errands := [request (.create (Sample.name _ 1) Sample.book),
      request (.confirm ⟨Sample.book.business, Sample.name _ 1, .ofSecond 1⟩)]
    let turns := List.replicate 5 (0, some .none)
    let more := [(0, none), (0, some .none), (0, some (.failAfter "down")), (1, some .none),
      (1, some (.failAfter "down"))]
    let confirmed := { Sample.booking with status := .confirmed, updatedAt := .ofSecond 1 }
    (errands.filterMap drawn?).Nodup ∧ (∀ id, Sample.world.bookings.get? id = none) ∧
      (after errands Sample.world turns).world.bookings.get? (Sample.name _ 1) =
        some Sample.booking ∧
      (after errands Sample.world (turns ++ more)).world.bookings.get? (Sample.name _ 1) =
        some confirmed ∧
      Sample.booking.id = Sample.name _ 1 ∧
      Sample.booking.WellFormed (after errands Sample.world turns).world ∧
      confirmed.IsVersionOf Sample.booking := by
  intro errands turns more confirmed
  have apart : (errands.filterMap drawn?).Nodup := by decide
  have before : (after errands Sample.world turns).world.bookings.get? (Sample.name _ 1) =
      some Sample.booking := by decide +kernel
  have later : (after errands Sample.world (turns ++ more)).world.bookings.get?
      (Sample.name _ 1) = some confirmed := by decide +kernel
  obtain ⟨hid, wellFormed, hlater⟩ :=
    bookings_wellFormed errands Sample.world (fun _ => rfl) turns _ _ before
  exact ⟨apart, fun _ => rfl, before, later, hid, wellFormed, hlater apart more confirmed later⟩

end Errand

end BookingDesk
