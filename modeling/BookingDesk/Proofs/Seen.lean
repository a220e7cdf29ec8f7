import BookingDesk.Proofs.Errands
import BookingDesk.Proofs.Keyed
import BookingDesk.Proofs.Reached

/-!
# What a caller has seen

A booking can be read as soon as it is stored, and its create may still lose the slot and take it
back. So a booking that somebody has seen is gone later if its create fails, and only then. The
proof looks at the stages of the requests, since questions change nothing: a booking is stored or
its create has failed once it is on its way to a caller (`Accounted`). Main statement: this holds of
any requests and questions, in any order of their calls (`seen_stays_iff`).
-/
namespace BookingDesk

/-- The receipt shows the booking with this identifier. -/
def Receipt.Shows (r : Receipt) (id : BookingId) : Prop :=
  match r with
  | .booking (.ok b) => b.id = id
  | .bookings (.ok bs) => ∃ b ∈ bs, b.id = id
  | _ => False

/-- Some caller has been told of the booking. -/
def Seen (d : Interleaving (Course Receipt)) (id : BookingId) : Prop :=
  ∃ i receipt, d.result? i = some receipt ∧ receipt.Shows id

/-! ## Where a booking is -/

namespace Stage

variable {w w' : World} {g g' : Stage} {b : Booking}

/-- The booking that a caller is told of, or will be. -/
def told? : Stage → Option Booking
  | booked b | release b | changed b => some b
  | _ => none

theorem Turns.told (h : Turns w g g' w') (hb : g'.told? = some b) :
    g.told? = some b ∨ g.kept? = some b ∧ w'.bookings = w.bookings ∨
      ∃ stored, w.bookings.get? b.id = some stored ∧ w' = w.replace b := by
  cases h with
  | counted | notCounted => exact .inr (.inl ⟨hb, rfl⟩)
  | replaced found own same =>
    rw [Stage.replaced] at hb
    split at hb
    · cases hb
      exact .inr (.inr ⟨_, found, rfl⟩)
    · cases hb
      exact .inr (.inr ⟨_, found, rfl⟩)
  | released _ | nothingToRelease _ | rests _ => exact .inl hb
  | _ => cases hb

/-- How a request comes to fail. -/
theorem Turns.of_failed {e : ServiceError} (h : Turns w g (.failed e) w') :
    w'.bookings = w.bookings ∧ (g = .failed e ∨ g.isEarly = true) ∨
      (∃ b, g = takeBack b e ∧ (w' = w.remove b.id ∨ w' = w ∧ ∀ stored,
        w.bookings.get? b.id = some stored → stored.business ≠ b.business)) ∨
      (∃ ch, g = load ch) ∨ ∃ b before, g = replace b before := by
  generalize hg : Stage.failed e = g' at h
  cases h with
  | slotTaken _ | customerUnknown _ | staffUnknown _ | slotRefused _ | notInserted _ =>
    exact .inl ⟨rfl, .inr rfl⟩
  | takenBack _ _ =>
    cases hg
    exact .inr (.inl ⟨_, rfl, .inl rfl⟩)
  | nothingToTakeBack absent =>
    cases hg
    exact .inr (.inl ⟨_, rfl, .inr ⟨rfl, absent⟩⟩)
  | notFound _ | refused _ _ _ => exact .inr (.inr (.inl ⟨_, rfl⟩))
  | overtaken _ => exact .inr (.inr (.inr ⟨_, _, rfl⟩))
  | replaced _ _ _ =>
    rw [Stage.replaced] at hg
    split at hg <;> cases hg
  | rests _ => exact .inl ⟨rfl, .inl rfl⟩
  | _ => cases hg

end Stage

namespace Request

/-- The create of the booking has failed. -/
def Undone (requests : List Request) (d : Interleaving Stage) (id : BookingId) : Prop :=
  ∃ (i : Nat) (c : CreateBooking) (e : ServiceError),
    requests[i]? = some (create id c) ∧ d.strands[i]? = some (.failed e)

/-- The booking is stored, unless its create has failed. -/
def Standing (requests : List Request) (d : Interleaving Stage) (id : BookingId) : Prop :=
  (∃ row, d.world.bookings.get? id = some row) ∨ Undone requests d id

/-- If it is one of the requests that create the booking, it has taken the slot. -/
def Settled (requests : List Request) (d : Interleaving Stage) (id : BookingId) : Prop :=
  ∀ (i : Nat) (c : CreateBooking), requests[i]? = some (create id c) →
    ∃ (g : Stage) (b : Booking), d.strands[i]? = some g ∧ g.took? = some b

variable {requests : List Request} {w v : World} {d : Interleaving Stage} {i j : Nat}
  {id : BookingId} {g g' : Stage} {b : Booking}

theorem Settled.turn (h : Settled requests d id) (hg : d.strands[i]? = some g)
    (t : Stage.Turns d.world g g' v) : Settled requests ⟨v, d.strands.set i g'⟩ id := by
  intro j c hr
  obtain ⟨gj, b, hj, hb⟩ := h j c hr
  by_cases hji : j = i
  · subst j
    rw [hg] at hj
    cases hj
    exact ⟨g', b, (Interleaving.getElem?_set_eq_some_iff hg).2 (.inl ⟨rfl, rfl⟩), t.holds hb⟩
  · exact ⟨gj, b, (Interleaving.getElem?_set_eq_some_iff hg).2 (.inr ⟨hji, hj⟩), hb⟩

theorem Settled.not_undone (h : Settled requests d id) : ¬ Undone requests d id := by
  rintro ⟨i, c, e, hr, hfailed⟩
  obtain ⟨g, b, hg, hb⟩ := h i c hr
  rw [hfailed] at hg
  cases hg
  cases hb

theorem Undone.turn (h : Undone requests d id) (hg : d.strands[i]? = some g)
    (t : Stage.Turns d.world g g' v) : Undone requests ⟨v, d.strands.set i g'⟩ id := by
  obtain ⟨j, c, e, hr, hj⟩ := h
  refine ⟨j, c, e, hr, (Interleaving.getElem?_set_eq_some_iff hg).2 ?_⟩
  by_cases hji : j = i
  · subst j
    rw [hg] at hj
    cases hj
    cases t with
    | rests _ => exact .inl ⟨rfl, rfl⟩
  · exact .inr ⟨hji, hj⟩

/-- Only its create takes a booking back. -/
theorem Standing.turn (h : Standing requests d id) (under : Underway requests w d)
    (hg : d.strands[i]? = some g) (t : Stage.Turns d.world g g' v) :
    Standing requests ⟨v, d.strands.set i g'⟩ id := by
  obtain ⟨row, hrow⟩ | hundone := h
  · rcases t.row_stays hrow with ⟨row', hrow', -⟩ | ⟨b, e, rfl, rfl, rfl⟩
    · exact .inl ⟨row', hrow'⟩
    · obtain ⟨r, hr, hreach⟩ := under.request hg
      obtain ⟨c, rfl, -⟩ := hreach.create_of_kept rfl
      exact .inr ⟨i, c, e, hr, (Interleaving.getElem?_set_eq_some_iff hg).2 (.inl ⟨rfl, rfl⟩)⟩
  · exact .inr (hundone.turn hg t)

/-- A booking that a create keeps is stored, one that a create has failed to make is not, and one
that a caller is told of is stored unless its create has failed. -/
structure Accounted (requests : List Request) (d : Interleaving Stage) : Prop where
  keyed : d.world.Keyed
  kept : ∀ {i : Nat} {g : Stage} {b}, d.strands[i]? = some g → g.kept? = some b →
    ∃ row, d.world.bookings.get? b.id = some row ∧ row.business = b.business
  undone : ∀ {id}, Undone requests d id → d.world.bookings.get? id = none
  told : ∀ {i : Nat} {g : Stage} {b}, d.strands[i]? = some g → g.told? = some b →
    Standing requests d b.id

theorem accounted_stages (keyed : w.Keyed) (fresh : Fresh requests w) :
    Accounted requests (stages requests w) where
  keyed := keyed
  kept {i g b} hg hb := by
    obtain ⟨r, -, rfl⟩ := strand_stages hg
    rw [kept?_start] at hb
    cases hb
  undone := by
    rintro id ⟨i, c, e, hr, -⟩
    exact fresh.unused id (mem_drawn hr)
  told {i g b} hg hb := by
    obtain ⟨r, -, rfl⟩ := strand_stages hg
    obtain ⟨e, he⟩ | ⟨_, _, _, -, -, hask⟩ | ⟨ch, hload⟩ := r.start_cases
    · rw [he] at hb
      cases hb
    · rw [hask] at hb
      cases hb
    · rw [hload] at hb
      cases hb

theorem Accounted.kept_turn {gj : Stage} (h : Accounted requests d)
    (under : Underway requests w d) (fresh : Fresh requests w) (hg : d.strands[i]? = some g)
    (t : Stage.Turns d.world g g' v) (hj : (d.strands.set i g')[j]? = some gj)
    (hb : gj.kept? = some b) :
    ∃ row, v.bookings.get? b.id = some row ∧ row.business = b.business := by
  -- the booking was kept before the turn, unless it is stored in it
  have hbefore : (∃ gj', d.strands[j]? = some gj' ∧ gj'.kept? = some b) ∨
      g = .insert b ∧ v = d.world.insert b := by
    rcases (Interleaving.getElem?_set_eq_some_iff hg).1 hj with ⟨rfl, rfl⟩ | ⟨-, hj⟩
    · rcases t.kept hb with hb | hinsert
      · exact .inl ⟨g, hg, hb⟩
      · exact .inr hinsert
    · exact .inl ⟨gj, hj, hb⟩
  rcases hbefore with ⟨gj', hj', hb'⟩ | ⟨rfl, rfl⟩
  · obtain ⟨row, hrow, hbusiness⟩ := h.kept hj' hb'
    rcases t.row_stays hrow with ⟨row', hrow', hsame⟩ | ⟨b', e, rfl, rfl, hid⟩
    · exact ⟨row', hrow', hsame.trans hbusiness⟩
    · obtain rfl := under.unique fresh hj' hg hb' rfl hid
      rw [Interleaving.getElem?_set hg, if_pos rfl] at hj
      cases hj
      cases hb
  · exact ⟨b, (World.get?_insert_eq_some_iff (under.get?_insert hg)).2 (.inl ⟨rfl, rfl⟩), rfl⟩

theorem Accounted.undone_turn (h : Accounted requests d) (under : Underway requests w d)
    (fresh : Fresh requests w) (hg : d.strands[i]? = some g) (t : Stage.Turns d.world g g' v)
    (hundone : Undone requests ⟨v, d.strands.set i g'⟩ id) : v.bookings.get? id = none := by
  obtain ⟨j, c, e, hr, hj⟩ := hundone
  rcases (Interleaving.getElem?_set_eq_some_iff hg).1 hj with ⟨rfl, rfl⟩ | ⟨hne, hj⟩
  · have hreach := under.reached hr hg
    rcases t.of_failed with ⟨hrows, rfl | hearly⟩ | ⟨b, rfl, rfl | ⟨rfl, absent⟩⟩ | ⟨ch, rfl⟩ |
      ⟨b, before, rfl⟩
    · rw [hrows]
      exact h.undone ⟨j, c, e, hr, hg⟩
    · rw [hrows]
      exact under.early hr hg hearly
    · obtain ⟨_, heq, -⟩ := hreach.create_of_kept rfl
      cases heq
      rw [World.get?_remove, if_pos rfl]
    · obtain ⟨_, heq, -⟩ := hreach.create_of_kept rfl
      cases heq
      obtain ⟨row, hrow, hbusiness⟩ := h.kept hg rfl
      exact absurd hbusiness (absent row hrow)
    · cases hreach with
      | load asks => exact absurd asks start_ne_load_of_create
    · cases hreach with
      | replace asks _ _ => exact absurd asks start_ne_load_of_create
  · rcases t.row_absent (h.undone ⟨j, c, e, hr, hj⟩) with hnone | ⟨b, rfl, rfl⟩
    · exact hnone
    · obtain ⟨r, hri, hreach⟩ := under.request hg
      obtain ⟨c', rfl, -⟩ := hreach.create_of_insert
      exact absurd (fresh.unique hr hri) hne

theorem Accounted.turn (h : Accounted requests d) (under : Underway requests w d)
    (fresh : Fresh requests w) (hg : d.strands[i]? = some g) (t : Stage.Turns d.world g g' v) :
    Accounted requests ⟨v, d.strands.set i g'⟩ where
  keyed id row hrow := by
    rcases t.row_cases hrow with hrow | ⟨hid, -⟩
    · exact h.keyed id row hrow
    · exact hid.symm
  kept hj hb := h.kept_turn under fresh hg t hj hb
  undone hundone := h.undone_turn under fresh hg t hundone
  told {j gj b} hj hb := by
    have hstanding : Standing requests d b.id → Standing requests ⟨v, d.strands.set i g'⟩ b.id :=
      fun h => h.turn under hg t
    rcases (Interleaving.getElem?_set_eq_some_iff hg).1 hj with ⟨rfl, rfl⟩ | ⟨-, hj⟩
    · rcases t.told hb with hb | ⟨hb, hrows⟩ | ⟨stored, hstored, rfl⟩
      · exact hstanding (h.told hg hb)
      · obtain ⟨row, hrow, -⟩ := h.kept hg hb
        exact .inl ⟨row, hrows ▸ hrow⟩
      · exact .inl ⟨b, (World.get?_replace_eq_some_iff hstored).2 (.inl ⟨rfl, rfl⟩)⟩
    · exact hstanding (h.told hj hb)

end Request

/-! ## What questions show -/

/-- No call of the course changes the books, and a receipt that it ends with shows only bookings
that were stored when the last call was made. -/
def Course.Reports : Course Receipt → Prop
  | .ended _ => True
  | .calling c next => c.isWrite = false ∧ ∀ answer, (next answer).Reports ∧
      ∀ (w : World) receipt id, w.Keyed → (w.answer c).1 = answer → next answer = .ended receipt →
        receipt.Shows id → ∃ row, w.bookings.get? id = some row

theorem World.Keyed.mem_select {w : World} (h : w.Keyed) {business : BusinessId}
    {wanted : Booking → Bool} {b : Booking} (hb : b ∈ w.select business wanted) :
    ∃ row, w.bookings.get? b.id = some row := by
  rw [select, List.mem_mergeSort, List.mem_filter, Table.mem_values_iff] at hb
  obtain ⟨⟨id, hrow⟩, -⟩ := hb
  exact ⟨b, h id b hrow ▸ hrow⟩

theorem reports_countEach (business : BusinessId) (statuses : List Status)
    {f : Except ServiceError (List (Status × Nat)) → Receipt} (hf : ∀ a id, ¬ (f a).Shows id) :
    ((Service.countEach business statuses).course.map f).Reports := by
  induction statuses generalizing f with
  | nil => trivial
  | cons s rest ih =>
    rw [Service.course_countEach_cons]
    refine ⟨rfl, fun answer => ⟨?_, fun _ receipt id _ _ hended hshows => ?_⟩⟩
    · rcases answer with failure | n
      · trivial
      · show ((Course.map _ _).map f).Reports
        rw [Course.map_map]
        exact ih fun a id => hf _ id
    · obtain ⟨a, -, rfl⟩ := Course.map_eq_ended_iff.1 hended
      exact absurd hshows (hf a id)

/-- Whatever is asked, only stored bookings are shown. -/
theorem reports_question (q : Question) : q.service.course.Reports := by
  cases q with
  | booking business booking =>
    refine ⟨rfl, fun answer => ?_⟩
    rcases answer with f | _ | b
    · exact ⟨trivial, fun _ _ _ _ _ hended hshows => by cases hended; cases hshows⟩
    · exact ⟨trivial, fun _ _ _ _ _ hended hshows => by cases hended; cases hshows⟩
    · refine ⟨trivial, fun w receipt id keyed hanswer hended hshows => ?_⟩
      cases hended
      cases hshows
      have hfound : w.booking? business booking = some b := Except.ok.inj hanswer
      have hrow := (World.booking?_eq_some_iff.1 hfound).1
      exact ⟨b, keyed booking b hrow ▸ hrow⟩
  | ofCustomer _ _ | ofStaff _ _ | ofBusiness _ =>
    refine ⟨rfl, fun answer => ?_⟩
    rcases answer with f | bs
    · exact ⟨trivial, fun _ _ _ _ _ hended hshows => by cases hended; cases hshows⟩
    · refine ⟨trivial, fun w receipt id keyed hanswer hended hshows => ?_⟩
      cases hended
      obtain ⟨b, hb, rfl⟩ := hshows
      cases hanswer
      exact keyed.mem_select hb
  | counts business =>
    rw [Question.service, Service.course_map]
    exact reports_countEach business Status.all fun _ _ hshows => hshows


/-! ## Requests and questions together -/

/-- The strands of `d` are the requests whose stages are those of `e`, and then questions. -/
structure Mirror (d : Interleaving (Course Receipt)) (e : Interleaving Stage) : Prop where
  world : d.world = e.world
  working : ∀ {i : Nat} {g}, e.strands[i]? = some g →
    ∃ c : Course Outcome, d.strands[i]? = some (c.map .booking) ∧ c.Follows g
  asking : ∀ {i : Nat} {c}, e.strands.length ≤ i → d.strands[i]? = some c → c.Reports

namespace Mirror

variable {d : Interleaving (Course Receipt)} {e : Interleaving Stage} {i : Nat} {g : Stage}

theorem result?_eq (h : Mirror d e) (hg : e.strands[i]? = some g) :
    d.result? i = g.outcome?.map .booking := by
  obtain ⟨c, hc, hfollows⟩ := h.working hg
  rw [Interleaving.result?, hc, Option.bind_some, Course.result?_map, hfollows.result?_eq]

/-- A caller whose request has ended was told of no other booking than the one that it made. -/
theorem told (h : Mirror d e) (hg : e.strands[i]? = some g) {receipt : Receipt} {id : BookingId}
    (hended : d.result? i = some receipt) (hshows : receipt.Shows id) :
    ∃ b, g.told? = some b ∧ b.id = id := by
  rw [h.result?_eq hg, Option.map_eq_some_iff] at hended
  obtain ⟨outcome, houtcome, rfl⟩ := hended
  cases g with
  | booked b | changed b =>
    cases houtcome
    exact ⟨b, rfl, hshows⟩
  | failed e =>
    cases houtcome
    cases hshows
  | _ => cases houtcome

theorem call?_eq (h : Mirror d e) (hg : e.strands[i]? = some g) : d.call? i = g.call? := by
  obtain ⟨c, hc, hfollows⟩ := h.working hg
  rw [Interleaving.call?, hc, Option.bind_some, Course.call?_map, hfollows.call?_eq]

/-- When a request takes a turn, so does its stage. -/
theorem turn_request (h : Mirror d e) (hg : e.strands[i]? = some g) :
    Mirror (d.turn (Course.turn World.answer) i)
      ⟨(g.act e.world).2, e.strands.set i (g.act e.world).1⟩ := by
  obtain ⟨c, hc, hfollows⟩ := h.working hg
  obtain ⟨hworld, hnext⟩ := hfollows.turn World.answer e.world
  have hstrand : ∀ j : Nat, (d.turn (Course.turn World.answer) i).strands[j]? =
      if j = i then some ((c.turn World.answer e.world).1.map .booking) else d.strands[j]? := by
    intro j
    rw [Interleaving.getElem?_turn hc, Course.turn_map, h.world]
  refine ⟨?_, fun {j gj} hj => ?_, fun {j cj} hj hcj => ?_⟩
  · rw [Interleaving.turn_of_some hc, Course.turn_map, h.world]
    exact hworld
  · rcases (Interleaving.getElem?_set_eq_some_iff hg).1 hj with ⟨rfl, rfl⟩ | ⟨hne, hj⟩
    · exact ⟨_, by rw [hstrand, if_pos rfl], hnext⟩
    · obtain ⟨cj, hcj, hfollowsj⟩ := h.working hj
      exact ⟨cj, by rw [hstrand, if_neg hne, hcj], hfollowsj⟩
  · rw [List.length_set] at hj
    have hi := (List.getElem?_eq_some_iff.1 hg).1
    rw [hstrand, if_neg (by omega)] at hcj
    exact h.asking hj hcj

/-- When a question is asked, no stage changes. -/
theorem turn_question (h : Mirror d e) (hi : e.strands.length ≤ i) :
    Mirror (d.turn (Course.turn World.answer) i) e := by
  obtain heq | ⟨call, next, hc, heq⟩ := d.turn_cases World.answer i
  · rwa [heq]
  · obtain ⟨hread, hreports⟩ := h.asking hi hc
    rw [heq]
    refine ⟨?_, fun {j g} hg => ?_, fun {j cj} hj hcj => ?_⟩
    · exact (World.answer_snd_of_not_isWrite _ hread).trans h.world
    · have hj := (List.getElem?_eq_some_iff.1 hg).1
      obtain ⟨cj, hcj, hfollows⟩ := h.working hg
      exact ⟨cj, (Interleaving.getElem?_set_eq_some_iff hc).2 (.inr ⟨by omega, hcj⟩), hfollows⟩
    · rcases (Interleaving.getElem?_set_eq_some_iff hc).1 hcj with ⟨rfl, rfl⟩ | ⟨-, hcj⟩
      · exact (hreports _).1
      · exact h.asking hj hcj

end Mirror

namespace Request

variable {requests : List Request} {questions : List Question} {w : World}
  {d : Interleaving (Course Receipt)} {e : Interleaving Stage} {id : BookingId}

/-- The requests, with the questions after them, and none of them has made a call yet. -/
def withQuestions (requests : List Request) (questions : List Question) (w : World) :
    Interleaving (Course Receipt) :=
  Errand.courses (requests.map .request ++ questions.map .question) w

theorem mirror_withQuestions (requests : List Request) (questions : List Question) (w : World) :
    Mirror (withQuestions requests questions w) (stages requests w) where
  world := rfl
  working {i g} hg := by
    obtain ⟨r, hr, rfl⟩ := strand_stages hg
    refine ⟨r.service.course, ?_, follows_start r⟩
    simp only [withQuestions, Errand.courses, List.map_append, List.map_map]
    rw [List.getElem?_append_left (by simpa using (List.getElem?_eq_some_iff.1 hr).1),
      List.getElem?_map, hr]
    exact congrArg some (Service.course_map _ _)
  asking {i c} hi hc := by
    simp only [stages, List.length_map] at hi
    simp only [withQuestions, Errand.courses, List.map_append, List.map_map] at hc
    rw [List.getElem?_append_right (by simpa using hi), List.getElem?_map,
      Option.map_eq_some_iff] at hc
    obtain ⟨q, -, rfl⟩ := hc
    exact reports_question q

theorem Accounted.seen {i : Nat} {g : Stage} {receipt : Receipt} (h : Accounted requests e)
    (mirror : Mirror d e) (hg : e.strands[i]? = some g) (hended : d.result? i = some receipt)
    (hshows : receipt.Shows id) : Standing requests e id := by
  obtain ⟨b, hb, rfl⟩ := mirror.told hg hended hshows
  exact h.told hg hb

/-- All is accounted for, and so is every booking that somebody has seen. -/
structure Watched (requests : List Request) (w : World) (d : Interleaving (Course Receipt))
    (e : Interleaving Stage) : Prop where
  mirror : Mirror d e
  under : Underway requests w e
  accounted : Accounted requests e
  seen : ∀ {id}, Seen d id → Standing requests e id

theorem watched_withQuestions (questions : List Question) (keyed : w.Keyed)
    (fresh : Fresh requests w) :
    Watched requests w (withQuestions requests questions w) (stages requests w) where
  mirror := mirror_withQuestions requests questions w
  under := underway_stages fresh
  accounted := accounted_stages keyed fresh
  seen {id} := by
    rintro ⟨i, receipt, hended, hshows⟩
    cases hg : (stages requests w).strands[i]? with
    | some g =>
      exact (accounted_stages keyed fresh).seen (mirror_withQuestions requests questions w) hg
        hended hshows
    | none =>
      -- a question that has not been asked yet has no answer
      simp only [stages, List.getElem?_eq_none_iff, List.length_map] at hg
      simp only [Interleaving.result?_eq_some_iff, withQuestions, Errand.courses, List.map_append,
        List.map_map] at hended
      rw [List.getElem?_append_right (by simpa using hg), List.getElem?_map] at hended
      obtain ⟨q, -, hq⟩ := Option.map_eq_some_iff.1 hended
      cases q <;> cases hq

/-- A question that has its answer by now shows a booking that somebody saw before, or that is
stored. -/
theorem Watched.seen_question {i : Nat} {receipt : Receipt} (h : Watched requests w d e)
    (hi : e.strands.length ≤ i)
    (hended : (d.turn (Course.turn World.answer) i).result? i = some receipt)
    (hshows : receipt.Shows id) : Standing requests e id := by
  obtain heq | ⟨call, next, hc, heq⟩ := d.turn_cases World.answer i
  · rw [heq] at hended
    exact h.seen ⟨i, receipt, hended, hshows⟩
  · rw [heq, Interleaving.result?_eq_some_iff, Interleaving.getElem?_set hc, if_pos rfl] at hended
    have hnext := Option.some.inj hended
    have hworld := h.mirror.world
    have hreports := ((h.mirror.asking hi hc).2 (d.world.answer call).1).2
    exact .inl (hworld ▸ hreports d.world receipt id (hworld ▸ h.accounted.keyed) rfl hnext hshows)

/-- What is kept by the turns of stages that can be reached is kept when questions are asked
too. -/
theorem Watched.turn (h : Watched requests w d e) (fresh : Fresh requests w)
    (P : Interleaving Stage → Prop)
    (keeps : ∀ e i g g' v, Underway requests w e → P e → e.strands[i]? = some g →
      Stage.Turns e.world g g' v → P ⟨v, e.strands.set i g'⟩)
    (hP : P e) (i : Nat) :
    ∃ e', Watched requests w (d.turn (Course.turn World.answer) i) e' ∧ P e' := by
  have hother : ∀ j ≠ i, (d.turn (Course.turn World.answer) i).result? j = d.result? j :=
    fun j hne => Interleaving.result?_turn_of_ne hne
  cases hg : e.strands[i]? with
  | some g =>
    have t := Stage.turns e.world g
    have haccounted := h.accounted.turn h.under fresh hg t
    have hmirror := h.mirror.turn_request hg
    refine ⟨_, ⟨hmirror, h.under.turn fresh hg t, haccounted, ?_⟩, keeps e i g _ _ h.under hP hg t⟩
    rintro id ⟨j, receipt, hended, hshows⟩
    by_cases hj : j = i
    · subst j
      exact haccounted.seen hmirror
        ((Interleaving.getElem?_set_eq_some_iff hg).2 (.inl ⟨rfl, rfl⟩)) hended hshows
    · rw [hother j hj] at hended
      exact (h.seen ⟨j, receipt, hended, hshows⟩).turn h.under hg t
  | none =>
    have hi := List.getElem?_eq_none_iff.1 hg
    refine ⟨e, ⟨h.mirror.turn_question hi, h.under, h.accounted, ?_⟩, hP⟩
    rintro id ⟨j, receipt, hended, hshows⟩
    by_cases hj : j = i
    · subst j
      exact h.seen_question hi hended hshows
    · rw [hother j hj] at hended
      exact h.seen ⟨j, receipt, hended, hshows⟩

theorem Watched.play (h : Watched requests w d e) (fresh : Fresh requests w)
    (P : Interleaving Stage → Prop)
    (keeps : ∀ e i g g' v, Underway requests w e → P e → e.strands[i]? = some g →
      Stage.Turns e.world g g' v → P ⟨v, e.strands.set i g'⟩)
    (hP : P e) (schedule : List Nat) :
    ∃ e', Watched requests w (d.play (Course.turn World.answer) schedule) e' ∧ P e' := by
  induction schedule generalizing d e with
  | nil => exact ⟨e, h, hP⟩
  | cons i rest ih =>
    obtain ⟨e', h', hP'⟩ := h.turn fresh P keeps hP i
    exact ih h' hP'

/-! ## Bookings that callers have seen -/

/-- The create of the booking has returned an error. -/
def Rejected (requests : List Request) (d : Interleaving (Course Receipt)) (id : BookingId) :
    Prop :=
  ∃ (i : Nat) (c : CreateBooking) (e : ServiceError),
    requests[i]? = some (create id c) ∧ d.result? i = some (.booking (.error e))

/-- The create of the booking has stored it, and not got its slot. -/
def Unsettled (requests : List Request) (d : Interleaving (Course Receipt)) (id : BookingId) :
    Prop :=
  ∃ (i : Nat) (c : CreateBooking), requests[i]? = some (create id c) ∧
    (d.call? i = some (.reserve c.slot id) ∨ d.call? i = some (.remove c.business id))

theorem Watched.rejected_iff (h : Watched requests w d e) :
    Rejected requests d id ↔ Undone requests e id := by
  have hresult : ∀ (i : Nat) (c : CreateBooking) (error : ServiceError),
      requests[i]? = some (create id c) → (d.result? i = some (.booking (.error error)) ↔
        e.strands[i]? = some (.failed error)) := by
    intro i c error hr
    obtain ⟨g, hg, -⟩ := h.under.strand hr
    rw [h.mirror.result?_eq hg, hg]
    cases g <;> simp [Stage.outcome?]
  constructor
  · rintro ⟨i, c, error, hr, hended⟩
    exact ⟨i, c, error, hr, (hresult i c error hr).1 hended⟩
  · rintro ⟨i, c, error, hr, hfailed⟩
    exact ⟨i, c, error, hr, (hresult i c error hr).2 hfailed⟩

/-- While a booking is stored, its create has taken the slot, or is about to. -/
theorem Watched.settled {row : Booking} (h : Watched requests w d e)
    (hrow : d.world.bookings.get? id = some row) (hsettled : ¬ Unsettled requests d id) :
    Settled requests e id := by
  intro i c hr
  obtain ⟨g, hg, hreach⟩ := h.under.strand hr
  rw [h.mirror.world] at hrow
  have hcall : ∀ call, g.call? = some call → d.call? i = some call := fun call hcall => by
    rw [h.mirror.call?_eq hg, hcall]
  have hstored : g.isEarly = false := by
    rw [Bool.eq_false_iff]
    intro hearly
    rw [h.under.early hr hg hearly] at hrow
    cases hrow
  cases hreach with
  | askSlot _ | askCustomer _ | askStaff _ _ | readSlot _ _ _ | insert _ => cases hstored
  | reserve makes =>
    cases makes.id_eq
    exact absurd ⟨i, c, hr, .inl (hcall _ (by rw [Stage.call?, makes.slot_eq]))⟩ hsettled
  | takeBack makes =>
    cases makes.id_eq
    exact absurd ⟨i, c, hr, .inr (hcall _ (by rw [Stage.call?, makes.business_eq]))⟩ hsettled
  | count makes | booked makes => exact ⟨_, _, hg, rfl⟩
  | load asks | replace asks _ _ | release asks _ _ | changed asks _ =>
    exact absurd asks start_ne_load_of_create
  | failed _ =>
    rw [h.accounted.undone ⟨i, c, _, hr, hg⟩] at hrow
    cases hrow

/-- A booking that a caller has seen is stored later if and only if its create has not failed by
then. So is every booking that is stored, unless its create has yet to get the slot. -/
theorem seen_stays_iff (keyed : w.Keyed) (fresh : Fresh requests w) (questions : List Question)
    (first rest : List Nat) (id : BookingId) :
    let before := (withQuestions requests questions w).play (Course.turn World.answer) first
    let after := before.play (Course.turn World.answer) rest
    (Seen before id →
      ((∃ row, after.world.bookings.get? id = some row) ↔ ¬ Rejected requests after id)) ∧
    ∀ row, before.world.bookings.get? id = some row → ¬ Unsettled requests before id →
      ∃ row', after.world.bookings.get? id = some row' := by
  intro before after
  obtain ⟨e, hbefore, -⟩ := (watched_withQuestions questions keyed fresh).play fresh
    (fun _ => True) (fun _ _ _ _ _ _ _ _ _ => trivial) trivial first
  constructor
  · intro hseen
    obtain ⟨e', hafter, hstanding⟩ := hbefore.play fresh (Standing requests · id)
      (fun _ _ _ _ _ under h hg t => h.turn under hg t) (hbefore.seen hseen) rest
    rw [hafter.rejected_iff, hafter.mirror.world]
    constructor
    · rintro ⟨row, hrow⟩ hundone
      rw [hafter.accounted.undone hundone] at hrow
      cases hrow
    · exact hstanding.resolve_right
  · intro row hrow hsettled
    -- the create has its slot, and so it never fails
    obtain ⟨e', hafter, hstanding, hsettled⟩ := hbefore.play fresh
      (fun e => Standing requests e id ∧ Settled requests e id)
      (fun _ _ _ _ _ under ⟨hstanding, hsettled⟩ hg t =>
        ⟨hstanding.turn under hg t, hsettled.turn hg t⟩)
      ⟨.inl ⟨row, hbefore.mirror.world ▸ hrow⟩, hbefore.settled hrow hsettled⟩ rest
    rw [hafter.mirror.world]
    exact hstanding.resolve_right hsettled.not_undone

theorem keyed_sample : Sample.world.Keyed := nofun

/-- A booking that is looked up before it has its slot, and then gets it. -/
theorem seen_stays_found_underway :
    let requests := [create (Sample.name _ 1) Sample.book]
    let questions := [.booking Sample.book.business (Sample.name _ 1)]
    let before := (withQuestions requests questions Sample.world).play (Course.turn World.answer)
      (List.replicate 5 0 ++ [1])
    let after := before.play (Course.turn World.answer) [0, 0]
    Sample.world.Keyed ∧ Fresh requests Sample.world ∧ Seen before (Sample.name _ 1) ∧
      ¬ Rejected requests after (Sample.name _ 1) ∧
      ∃ row, after.world.bookings.get? (Sample.name _ 1) = some row := by
  intro requests questions before after
  have fresh : Fresh requests Sample.world := ⟨by decide, by decide⟩
  have seen : Seen before (Sample.name _ 1) := by
    refine ⟨1, .booking (.ok Sample.booking), ?_, rfl⟩
    simp only [before, questions, requests]
    rfl
  have booked : after.result? 0 = some (.booking (.ok Sample.booking)) := by
    simp only [after, before, questions, requests]
    rfl
  have accepted : ¬ Rejected requests after (Sample.name _ 1) := by
    rintro ⟨i, c, e, hr, hended⟩
    cases i with
    | zero =>
      rw [booked] at hended
      cases hended
    | succ i => cases hr
  have stays := (seen_stays_iff keyed_sample fresh questions (List.replicate 5 0 ++ [1]) [0, 0]
    (Sample.name _ 1)).1 seen
  refine ⟨keyed_sample, fresh, seen, accepted, ?_⟩
  simp only [after, before]
  exact stays.2 accepted

/-- A booking is looked up before its create has got the slot; another create has taken the slot,
and the booking is removed. -/
theorem seen_is_removed :
    ¬ ∀ (requests : List Request) (questions : List Question) (w : World), w.Keyed →
      Fresh requests w → ∀ (first rest : List Nat) (id : BookingId) (row : Booking),
        let before := (withQuestions requests questions w).play (Course.turn World.answer) first
        Seen before id → before.world.bookings.get? id = some row →
          ∃ row', (before.play (Course.turn World.answer) rest).world.bookings.get? id =
            some row' := by
  intro hstays
  obtain ⟨row, hrow⟩ := hstays
    [create (Sample.name _ 1) Sample.book, create (Sample.name _ 2) Sample.book]
    [.booking Sample.book.business (Sample.name _ 1)] Sample.world keyed_sample
    ⟨by decide, by decide⟩ (List.replicate 5 0 ++ List.replicate 7 1 ++ [2]) [0, 0]
    (Sample.name _ 1) Sample.booking ⟨2, .booking (.ok Sample.booking), rfl, rfl⟩ rfl
  cases hrow

end Request
end BookingDesk
