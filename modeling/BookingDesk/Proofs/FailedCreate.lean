import BookingDesk.Proofs.CreateVerdict
import BookingDesk.Proofs.Troubled

/-!
# What a failed create leaves behind

A create stores its booking and then takes the slot. Each of these calls may be carried out and fail
all the same. The service takes every error for a call that was not carried out: a booking that was
stored so is left, and so is the hold of a booking that could not take its slot and was taken back.
As without faults, all that can go wrong is listed in the order in which it is told; up to the call
that stores the booking nothing is left of a failed create (`CreateBooking.obstacles`), and after
that what is left is told with each error (`Booking.setbacks`). Main statement: a create ends with
the first of these and leaves what it tells, whichever calls fail (`create_failed`).
-/
namespace BookingDesk

/-! ## Collaborators that fail -/

/-- The call is carried out, or it fails, before or after it is carried out. -/
def Effect.OnlyFails (e : Effect) : Prop :=
  e = .none ∨ ∃ message, e = .fail message ∨ e = .failAfter message

def Faults.OnlyFail (fs : Faults) : Prop := ∀ k f, fs.get? k = some f → f.effect.OnlyFails

namespace Faults.OnlyFail

variable {fs : Faults}

theorem current (h : fs.OnlyFail) (k : Call.Kind) : (fs.current k).2.OnlyFails := by
  obtain hnone | ⟨f, hf, heffect⟩ := fs.current_effect k
  · exact .inl hnone
  · exact heffect ▸ h k f hf

theorem afterCall (h : fs.OnlyFail) (k : Call.Kind) : (fs.afterCall k).OnlyFail := by
  intro k' f hf
  obtain ⟨g, hg, heffect⟩ := Faults.get?_afterCall hf
  exact heffect ▸ h k' g hg

theorem steady (h : fs.OnlyFail) : fs.Steady := by
  intro k f hf hcrash
  rcases h k f hf with hnone | ⟨message, hfail | hlate⟩
  · rw [hnone] at hcrash
    cases hcrash
  · rw [hfail] at hcrash
    cases hcrash
  · rw [hlate] at hcrash
    cases hcrash

end Faults.OnlyFail

/-- The failure that is the answer of the next call of a kind, whether or not it is carried out. -/
def Faults.anyFailure? (fs : Faults) (k : Call.Kind) : Option Failure :=
  (fs.failure? k).or (fs.lateFailure? k)

theorem Faults.anyFailure?_afterCall {fs : Faults} {k k' : Call.Kind} (hne : k ≠ k') :
    (fs.afterCall k').anyFailure? k = fs.anyFailure? k := by
  rw [anyFailure?, anyFailure?, failure?_afterCall hne, lateFailure?_afterCall hne]

/-- Calls may fail, but the next booking that is to be taken back can be. -/
structure Faults.Lenient (fs : Faults) : Prop where
  fails : fs.OnlyFail
  remove : (fs.current .remove).2 = .none

theorem Faults.Lenient.afterCall {fs : Faults} (h : fs.Lenient) {k : Call.Kind}
    (hne : .remove ≠ k) : (fs.afterCall k).Lenient :=
  ⟨h.fails.afterCall k, by rw [current_afterCall hne, h.remove]⟩

namespace Faults.OnlyFail

variable {fs : Faults} {c : Call}

/-- A call that does not fail is answered by the books. -/
theorem struck (fails : fs.OnlyFail) (h : fs.anyFailure? c.kind = none) (w : World) :
    World.struck (fs.current c.kind).2 w c = w.answer c := by
  obtain ⟨hfail, hlate⟩ := Option.or_eq_none_iff.1 h
  rcases fails.current c.kind with hnone | ⟨message, heffect | heffect⟩
  · rw [hnone]
    rfl
  · rw [failure?, heffect] at hfail
    cases hfail
  · rw [lateFailure?, heffect] at hlate
    cases hlate

/-- A question that fails changes nothing. -/
theorem struck_of_question {f : Failure} (question : c.isWrite = false)
    (h : fs.anyFailure? c.kind = some f) (w : World) :
    World.struck (fs.current c.kind).2 w c = (.error f, w) := by
  rcases Option.or_eq_some_iff.1 h with hfail | ⟨-, hlate⟩
  · exact World.struck_of_failure? hfail w
  · rw [World.struck_of_lateFailure? hlate, w.answer_snd_of_not_isWrite question]

end Faults.OnlyFail

/-! ## Collaborators that fail late -/

namespace Sample

/-- An idle desk where one kind of call is carried out and then fails. -/
def failingLate (k : Call.Kind) : Timeline :=
  { Timeline.start world with faults := Faults.set .empty k ⟨0, none, 0, .failAfter "down"⟩ }

theorem idle_failingLate (k : Call.Kind) :
    (failingLate k).Idle world (failingLate k).faults :=
  (Timeline.idle_start world).equip _

theorem onlyFail_failingLate (k : Call.Kind) : (failingLate k).faults.OnlyFail := by
  intro k' f hf
  rcases Faults.of_get?_set hf with ⟨-, rfl⟩ | hf
  · exact .inr ⟨_, .inr rfl⟩
  · cases hf

end Sample

/-! ## What can go wrong -/

/-- All that can stand in the way of a create before its booking is stored, the questions that fail
among it. Each is told only if there is none before it. -/
def CreateBooking.obstacles (c : CreateBooking) (w : World) (fs : Faults) :
    List (Option ServiceError) :=
  [match c.validate with
    | .error e => some (.invalid e)
    | .ok _ => none,
    (fs.anyFailure? .isAvailable).map .slotsFailed,
    if ∀ slot ∈ w.slotOf? c.slot, slot.business ≠ c.business ∨ w.holder? c.slot ≠ none
      then some .slotUnavailable else none,
    (fs.anyFailure? .customerExists).map .customersFailed,
    if w.customers.contains (c.business, c.customer) then none else some .customerNotFound,
    (fs.anyFailure? .staffExists).map .staffFailed,
    if w.staff.contains (c.business, c.staff) then none else some .staffNotFound,
    (fs.anyFailure? .findSlot).map .slotsFailed,
    if ∃ slot ∈ w.slotOf? c.slot, ¬ slot.start < slot.finish
      then some (.invalid .timesReversed) else none]

/-- All that can go wrong when a booking is stored and takes a free slot, each with the error that
is told and the books that are left. Each is told only if there is none before it. -/
def Booking.setbacks (b : Booking) (w : World) (fs : Faults) :
    List (Option (ServiceError × World)) :=
  [(fs.failure? .insert).map fun f => (.bookingsFailed f, w),
    (fs.lateFailure? .insert).map fun f => (.bookingsFailed f, w.insert b),
    if w.bookings.contains b.id
      then some (.bookingsFailed ⟨s!"booking {b.id} already exists"⟩, w) else none,
    (fs.failure? .reserve).map fun f => (.slotsFailed f, w),
    (fs.lateFailure? .reserve).map fun f => (.slotsFailed f, w.setHolder b.slot (some b.id))]

/-- The booking has been made, or this is the first setback and what it leaves. -/
def Booking.Ends (b : Booking) (setbacks : List (Option (ServiceError × World)))
    (outcome : Outcome) (v : World) : Prop :=
  match setbacks.findSome? (·) with
  | some (e, left) => outcome = .error e ∧ v = left
  | none => outcome = .ok b

/-- This is the first obstacle, and nothing has changed; or there is none, and the booking that the
command makes has been made, or met with a setback. -/
def CreateBooking.Ends (w : World) (fs : Faults) (id : BookingId) (c : CreateBooking)
    (obstacles : List (Option ServiceError)) (outcome : Outcome) (v : World) : Prop :=
  match obstacles.findSome? (·) with
  | some e => outcome = .error e ∧ v = w
  | none => ∃ b, c.Makes w id b ∧ w.holder? b.slot = none ∧ b.Ends (b.setbacks w fs) outcome v

variable {w : World} {fs : Faults} {course : Course Outcome}

/-! ## A booking that is to be made -/

namespace Booking

variable {b : Booking}

theorem setbacks_afterCall {k : Call.Kind} (hinsert : .insert ≠ k) (hreserve : .reserve ≠ k) :
    b.setbacks w (fs.afterCall k) = b.setbacks w fs := by
  simp only [setbacks, Faults.failure?_afterCall hinsert, Faults.lateFailure?_afterCall hinsert,
    Faults.failure?_afterCall hreserve, Faults.lateFailure?_afterCall hreserve]

theorem count_troubled (h : course.Follows (.count b)) :
    (course.troubled fs w).1 = .ok b := by
  obtain ⟨rest, hrest, htroubled⟩ := h.troubled_of_call? rfl fs w
  rw [htroubled, hrest.troubled_of_outcome? rfl]

/-- The booking is taken back, and nothing is left of it. -/
theorem takeBack_troubled {e : ServiceError} (h : course.Follows (.takeBack b e))
    (lenient : fs.Lenient) (fresh : w.bookings.get? b.id = none) :
    (course.troubled fs (w.insert b)).1 = .error e ∧
      (course.troubled fs (w.insert b)).2.1 = w := by
  obtain ⟨rest, hrest, htroubled⟩ := h.troubled_of_call? rfl fs (w.insert b)
  have hfound : ((w.insert b).booking? b.business b.id).isSome = true := by
    have hrow : (w.insert b).bookings.get? b.id = some b := by
      rw [World.get?_insert fresh, if_pos rfl]
    rw [World.booking?_eq_some_iff.2 ⟨hrow, rfl⟩, Option.isSome_some]
  have hstruck : World.struck (fs.current .remove).2 (w.insert b) (.remove b.business b.id) =
      (.ok (), w) := by
    rw [lenient.remove, World.struck, World.answer, if_pos hfound, World.remove_insert fresh]
  rw [htroubled, hrest.troubled_of_outcome? rfl]
  exact ⟨rfl, congrArg Prod.snd hstruck⟩

/-- The booking takes its slot, which is free, or is taken back. -/
theorem reserve_troubled (h : course.Follows (.reserve b)) (lenient : fs.Lenient)
    (fresh : w.bookings.get? b.id = none) (known : (w.slotOf? b.slot).isSome = true)
    (free : w.holder? b.slot = none) :
    b.Ends ((b.setbacks w fs).drop 3) (course.troubled fs (w.insert b)).1
      (course.troubled fs (w.insert b)).2.1 := by
  obtain ⟨rest, hrest, htroubled⟩ := h.troubled_of_call? rfl fs (w.insert b)
  have hlenient : (fs.afterCall .reserve).Lenient := lenient.afterCall Call.Kind.noConfusion
  have hfree : (w.insert b).isFree b.slot = true := World.isFree_iff.2 ⟨known, free⟩
  rw [htroubled]
  cases hfail : fs.failure? .reserve with
  | some f =>
    rw [World.struck_of_failure? (c := .reserve _ _) hfail] at hrest ⊢
    simpa [Ends, setbacks, hfail, Call.kind] using takeBack_troubled hrest hlenient fresh
  | none =>
    cases hlate : fs.lateFailure? .reserve with
    | some f =>
      -- the slot is held by now, and goes on being held when the booking is taken back
      have hheld : ((w.insert b).answer (.reserve b.slot b.id)).2 =
          (w.setHolder b.slot (some b.id)).insert b := by
        rw [World.answer, if_pos hfree]
        rfl
      rw [World.struck_of_lateFailure? (c := .reserve _ _) hlate, hheld] at hrest ⊢
      simpa [Ends, setbacks, hfail, hlate, Call.kind] using
        takeBack_troubled (w := w.setHolder b.slot (some b.id)) hrest hlenient fresh
    | none =>
      have hdone : fs.anyFailure? .reserve = none := Option.or_eq_none_iff.2 ⟨hfail, hlate⟩
      rw [lenient.fails.struck (c := .reserve _ _) hdone, World.answer, if_pos hfree] at hrest ⊢
      simpa [Ends, setbacks, hfail, hlate] using count_troubled hrest

/-- The booking is stored and takes its slot, which is free. -/
theorem insert_troubled (h : course.Follows (.insert b)) (lenient : fs.Lenient)
    (known : (w.slotOf? b.slot).isSome = true) (free : w.holder? b.slot = none) :
    b.Ends (b.setbacks w fs) (course.troubled fs w).1 (course.troubled fs w).2.1 := by
  obtain ⟨rest, hrest, htroubled⟩ := h.troubled_of_call? rfl fs w
  rw [htroubled]
  cases hfail : fs.failure? .insert with
  | some f =>
    rw [World.struck_of_failure? (c := .insert _) hfail] at hrest ⊢
    rw [hrest.troubled_of_outcome? rfl]
    simp [Ends, setbacks, hfail]
  | none =>
    cases hlate : fs.lateFailure? .insert with
    | some f =>
      have hstored : (w.answer (.insert b)).2 = w.insert b := by
        rw [World.answer]
        split
        · rename_i stored
          rw [World.insert_of_contains stored]
        · rfl
      rw [World.struck_of_lateFailure? (c := .insert _) hlate] at hrest ⊢
      rw [hrest.troubled_of_outcome? rfl, hstored]
      simp [Ends, setbacks, hfail, hlate]
    | none =>
      have hdone : fs.anyFailure? .insert = none := Option.or_eq_none_iff.2 ⟨hfail, hlate⟩
      rw [lenient.fails.struck (c := .insert _) hdone, World.answer] at hrest ⊢
      by_cases stored : w.bookings.contains b.id = true
      · rw [if_pos stored] at hrest ⊢
        rw [hrest.troubled_of_outcome? rfl]
        simp [Ends, setbacks, hfail, hlate, stored]
      · rw [if_neg stored] at hrest ⊢
        have hreserve := reserve_troubled hrest (lenient.afterCall (k := .insert) Call.Kind.noConfusion)
          (Option.not_isSome_iff_eq_none.1 stored) known free
        have hafter : (b.setbacks w (fs.afterCall .insert)).drop 3 = (b.setbacks w fs).drop 3 := by
          have hne : Call.Kind.reserve ≠ .insert := Call.Kind.noConfusion
          simp only [setbacks, List.drop_succ_cons, List.drop_zero,
            Faults.failure?_afterCall hne, Faults.lateFailure?_afterCall hne]
        rw [hafter] at hreserve
        simpa [Ends, setbacks, hfail, hlate, stored, Call.kind] using hreserve

end Booking

/-! ## The questions before that -/

theorem Call.kind_ne_of_question (q : Call) (question : q.isWrite = false) :
    .insert ≠ q.kind ∧ .reserve ≠ q.kind ∧ .remove ≠ q.kind := by
  cases q with
  | reserve _ _ | release _ | countBooking _ _ | insert _ | replace _ _ | remove _ _ =>
    cases question
  | _ => exact ⟨nofun, nofun, nofun⟩

namespace CreateBooking

variable {id : BookingId} {c : CreateBooking} {notes : Notes} {slot : Slot} {g : Stage} {q : Call}

/-- A question fails, or it is answered by the books. -/
theorem question_troubled (h : course.Follows g) (hc : g.call? = some q) (lenient : fs.Lenient)
    (question : q.isWrite = false) {wrap : Failure → ServiceError}
    (hfails : ∀ f, g.next q (.error f) = .failed (wrap f)) :
    match fs.anyFailure? q.kind with
    | some f => course.troubled fs w = (.error (wrap f), w, fs.afterCall q.kind)
    | none => ∃ rest : Course Outcome, rest.Follows (g.act w).1 ∧
        course.troubled fs w = rest.troubled (fs.afterCall q.kind) w := by
  obtain ⟨rest, hrest, htroubled⟩ := h.troubled_of_call? hc fs w
  rw [htroubled]
  cases hfail : fs.anyFailure? q.kind with
  | some f =>
    rw [Faults.OnlyFail.struck_of_question question hfail, hfails] at hrest
    rw [hrest.troubled_of_outcome? rfl, Faults.OnlyFail.struck_of_question question hfail]
  | none =>
    rw [lenient.fails.struck hfail] at hrest ⊢
    rw [w.answer_snd_of_not_isWrite question]
    refine ⟨rest, ?_, rfl⟩
    rw [Stage.act_of_call? hc]
    exact hrest

section

variable (h : course.Follows g) (hc : g.call? = some q) (lenient : fs.Lenient)
  (question : q.isWrite = false) {wrap : Failure → ServiceError}
  (hfails : ∀ f, g.next q (.error f) = .failed (wrap f)) {later : List (Option ServiceError)}
include h hc lenient question hfails

/-- The answer to a question stands in the way of the create. -/
theorem ends_of_refused {e : ServiceError} (hact : g.act w = (.failed e, w)) :
    Ends w fs id c ((fs.anyFailure? q.kind).map wrap :: some e :: later)
      (course.troubled fs w).1 (course.troubled fs w).2.1 := by
  have hquestion := question_troubled (w := w) h hc lenient question hfails
  cases hfail : fs.anyFailure? q.kind with
  | some f =>
    rw [hfail] at hquestion
    rw [hquestion]
    exact ⟨rfl, rfl⟩
  | none =>
    rw [hfail] at hquestion
    obtain ⟨rest, hrest, htroubled⟩ := hquestion
    rw [hact] at hrest
    rw [htroubled, hrest.troubled_of_outcome? rfl]
    exact ⟨rfl, rfl⟩

/-- The answer to a question lets the create go on. -/
theorem ends_of_answered {next : Stage} (hact : g.act w = (next, w))
    (hlater : ∀ rest : Course Outcome, rest.Follows next → (fs.afterCall q.kind).Lenient →
      Ends w (fs.afterCall q.kind) id c later (rest.troubled (fs.afterCall q.kind) w).1
        (rest.troubled (fs.afterCall q.kind) w).2.1) :
    Ends w fs id c ((fs.anyFailure? q.kind).map wrap :: none :: later)
      (course.troubled fs w).1 (course.troubled fs w).2.1 := by
  have hquestion := question_troubled (w := w) h hc lenient question hfails
  cases hfail : fs.anyFailure? q.kind with
  | some f =>
    rw [hfail] at hquestion
    rw [hquestion]
    exact ⟨rfl, rfl⟩
  | none =>
    rw [hfail] at hquestion
    obtain ⟨rest, hrest, htroubled⟩ := hquestion
    rw [hact] at hrest
    obtain ⟨hinsert, hreserve, hremove⟩ := q.kind_ne_of_question question
    have hends := hlater rest hrest (lenient.afterCall hremove)
    rw [htroubled]
    simp only [Ends, Booking.setbacks_afterCall hinsert hreserve] at hends
    exact hends

end

theorem readSlot_troubled (h : course.Follows (.readSlot id c notes)) (lenient : fs.Lenient)
    (valid : c.validate = .ok notes) (known : w.slotOf? c.slot = some slot)
    (own : slot.business = c.business) (free : w.holder? c.slot = none)
    (customer : w.customers.contains (c.business, c.customer) = true)
    (staff : w.staff.contains (c.business, c.staff) = true) :
    Ends w fs id c ((c.obstacles w fs).drop 7) (course.troubled fs w).1
      (course.troubled fs w).2.1 := by
  by_cases times : slot.start < slot.finish
  case neg =>
    have hlist : (c.obstacles w fs).drop 7 =
        [(fs.anyFailure? .findSlot).map .slotsFailed, some (.invalid .timesReversed)] := by
      simp [obstacles, known, times]
    rw [hlist]
    exact ends_of_refused h rfl lenient rfl (fun _ => rfl)
      (Stage.act_readSlot_reversed known own times)
  have hlist : (c.obstacles w fs).drop 7 = [(fs.anyFailure? .findSlot).map .slotsFailed, none] := by
    simp [obstacles, known, times]
  have hb : c.booking id notes slot.start slot.finish = .ok (c.draft id notes slot) :=
    booking_eq_ok_iff.2 ⟨times, rfl⟩
  have makes : c.Makes w id (c.draft id notes slot) :=
    ⟨notes, slot, valid, customer, staff, known, own, hb⟩
  rw [hlist]
  refine ends_of_answered h rfl lenient rfl (fun _ => rfl) (Stage.act_readSlot known own hb) ?_
  intro rest hrest hlenient
  exact ⟨_, makes, free, Booking.insert_troubled hrest hlenient makes.known.1 free⟩

theorem askStaff_troubled (h : course.Follows (.askStaff id c notes)) (lenient : fs.Lenient)
    (valid : c.validate = .ok notes) (known : w.slotOf? c.slot = some slot)
    (own : slot.business = c.business) (free : w.holder? c.slot = none)
    (customer : w.customers.contains (c.business, c.customer) = true) :
    Ends w fs id c ((c.obstacles w fs).drop 5) (course.troubled fs w).1
      (course.troubled fs w).2.1 := by
  by_cases staff : w.staff.contains (c.business, c.staff) = true
  case neg =>
    have hlist : (c.obstacles w fs).drop 5 = (fs.anyFailure? .staffExists).map .staffFailed ::
        some .staffNotFound :: (c.obstacles w fs).drop 7 := by
      simp [obstacles, staff]
    rw [hlist]
    exact ends_of_refused h rfl lenient rfl (fun _ => rfl) (Stage.act_askStaff_unknown staff)
  have hlist : (c.obstacles w fs).drop 5 = (fs.anyFailure? .staffExists).map .staffFailed ::
      none :: (c.obstacles w (fs.afterCall .staffExists)).drop 7 := by
    simp [obstacles, staff, Faults.anyFailure?_afterCall]
  rw [hlist]
  refine ends_of_answered h rfl lenient rfl (fun _ => rfl) (Stage.act_askStaff staff) ?_
  intro rest hrest hlenient
  exact readSlot_troubled hrest hlenient valid known own free customer staff

theorem askCustomer_troubled (h : course.Follows (.askCustomer id c notes)) (lenient : fs.Lenient)
    (valid : c.validate = .ok notes) (known : w.slotOf? c.slot = some slot)
    (own : slot.business = c.business) (free : w.holder? c.slot = none) :
    Ends w fs id c ((c.obstacles w fs).drop 3) (course.troubled fs w).1
      (course.troubled fs w).2.1 := by
  by_cases customer : w.customers.contains (c.business, c.customer) = true
  case neg =>
    have hlist : (c.obstacles w fs).drop 3 =
        (fs.anyFailure? .customerExists).map .customersFailed ::
          some .customerNotFound :: (c.obstacles w fs).drop 5 := by
      simp [obstacles, customer]
    rw [hlist]
    exact ends_of_refused h rfl lenient rfl (fun _ => rfl) (Stage.act_askCustomer_unknown customer)
  have hlist : (c.obstacles w fs).drop 3 = (fs.anyFailure? .customerExists).map .customersFailed ::
      none :: (c.obstacles w (fs.afterCall .customerExists)).drop 5 := by
    simp [obstacles, customer, Faults.anyFailure?_afterCall]
  rw [hlist]
  refine ends_of_answered h rfl lenient rfl (fun _ => rfl) (Stage.act_askCustomer customer) ?_
  intro rest hrest hlenient
  exact askStaff_troubled hrest hlenient valid known own free customer

theorem askSlot_troubled (h : course.Follows (.askSlot id c notes)) (lenient : fs.Lenient)
    (valid : c.validate = .ok notes) :
    Ends w fs id c ((c.obstacles w fs).drop 1) (course.troubled fs w).1
      (course.troubled fs w).2.1 := by
  by_cases taken : ∀ slot ∈ w.slotOf? c.slot, slot.business ≠ c.business ∨ w.holder? c.slot ≠ none
  case pos =>
    have hlist : (c.obstacles w fs).drop 1 = (fs.anyFailure? .isAvailable).map .slotsFailed ::
        some .slotUnavailable :: (c.obstacles w fs).drop 3 := by
      simp only [obstacles, List.drop_succ_cons, List.drop_zero, if_pos taken]
    rw [hlist]
    exact ends_of_refused h rfl lenient rfl (fun _ => rfl) (Stage.act_askSlot_taken taken)
  have hlist : (c.obstacles w fs).drop 1 = (fs.anyFailure? .isAvailable).map .slotsFailed ::
      none :: (c.obstacles w (fs.afterCall .isAvailable)).drop 3 := by
    simp only [obstacles, List.drop_succ_cons, List.drop_zero, if_neg taken]
    simp [Faults.anyFailure?_afterCall]
  simp only [not_forall, not_or, ne_eq, not_not, Option.mem_def] at taken
  obtain ⟨slot, known, own, free⟩ := taken
  rw [hlist]
  refine ends_of_answered h rfl lenient rfl (fun _ => rfl) (Stage.act_askSlot known own free) ?_
  intro rest hrest hlenient
  exact askCustomer_troubled hrest hlenient valid known own free

/-- However its calls fail, a create that is alone comes to its end. It fails with the first
obstacle and has changed nothing, or with the first setback and leaves the books that it tells, or
it has made the booking. Only the call that takes a booking back may not fail. -/
theorem create_failed {t : Timeline} (idle : t.Idle w fs) (fails : fs.OnlyFail)
    (remove : (fs.current .remove).2 = .none) (id : BookingId) (c : CreateBooking) :
    ∃ outcome t', Timeline.run none (Service.create id c) t = (.finished outcome, t') ∧
      Ends w fs id c (c.obstacles w fs) outcome t'.world := by
  obtain ⟨t', hrun, hidle⟩ :=
    Timeline.run_troubled (s := Service.create id c) idle fails.steady
  refine ⟨_, t', hrun, ?_⟩
  rw [hidle.world]
  have follows := follows_create id c
  rw [Request.start] at follows
  cases valid : c.validate with
  | error e =>
    rw [valid] at follows
    rw [follows.troubled_of_outcome? rfl]
    simp [Ends, obstacles, valid]
  | ok notes =>
    rw [valid] at follows
    have hends := askSlot_troubled (w := w) follows ⟨fails, remove⟩ valid
    have hlist : c.obstacles w fs = none :: (c.obstacles w fs).drop 1 := by
      simp [obstacles, valid]
    rw [hlist]
    exact hends

/-- The slot is taken and the call fails all the same: the booking is taken back, and its slot goes
on being held. -/
theorem create_failed_reserved_late :
    let t := Sample.failingLate .reserve
    (t.Idle Sample.world t.faults ∧ t.faults.OnlyFail ∧ (t.faults.current .remove).2 = .none) ∧
    ∃ t', Timeline.run none (Service.create (Sample.name _ 1) Sample.book) t =
        (.finished (.error (.slotsFailed ⟨"down"⟩)), t') ∧
      t'.world = Sample.world.setHolder Sample.slot.id (some (Sample.name _ 1)) ∧
      t'.world.holder? Sample.slot.id = some (Sample.name _ 1) ∧
      t'.world.bookings.get? (Sample.name _ 1) = none := by
  intro t
  refine ⟨⟨Sample.idle_failingLate _, Sample.onlyFail_failingLate _, rfl⟩, ?_⟩
  obtain ⟨outcome, t', hrun, hends⟩ := create_failed (Sample.idle_failingLate .reserve)
    (Sample.onlyFail_failingLate .reserve) rfl (Sample.name _ 1) Sample.book
  have hnone : (Sample.book.obstacles Sample.world t.faults).findSome? (·) = none := by decide
  rw [Ends, hnone] at hends
  obtain ⟨b, makes, -, hends⟩ := hends
  have hfirst : (b.setbacks Sample.world t.faults).findSome? (·) =
      some (.slotsFailed ⟨"down"⟩, Sample.world.setHolder b.slot (some b.id)) := rfl
  rw [Booking.Ends, hfirst, makes.slot_eq, makes.id_eq] at hends
  obtain ⟨rfl, hworld⟩ := hends
  refine ⟨t', hrun, hworld, ?_, ?_⟩
  · rw [hworld]
    decide
  · rw [hworld]
    rfl

/-- A create that fails may leave its booking, and it may leave its slot held. -/
theorem create_failed_leaves_row_or_hold :
    (¬ ∀ (w : World) (fs : Faults) (t t' : Timeline) (id : BookingId) (c : CreateBooking)
        (e : ServiceError), t.Idle w fs → fs.OnlyFail → (fs.current .remove).2 = .none →
      w.bookings.get? id = none → (∀ s, w.holder? s ≠ some id) →
      Timeline.run none (Service.create id c) t = (.finished (.error e), t') →
      t'.world.bookings.get? id = none) ∧
    ¬ ∀ (w : World) (fs : Faults) (t t' : Timeline) (id : BookingId) (c : CreateBooking)
        (e : ServiceError), t.Idle w fs → fs.OnlyFail → (fs.current .remove).2 = .none →
      w.bookings.get? id = none → (∀ s, w.holder? s ≠ some id) →
      Timeline.run none (Service.create id c) t = (.finished (.error e), t') →
      ∀ s, t'.world.holder? s ≠ some id := by
  have unheld : ∀ s, Sample.world.holder? s ≠ some (Sample.name _ 1) := by
    simp [Sample.holder?_world]
  constructor
  · intro hclean
    obtain ⟨t', hrun, hidle⟩ := Timeline.run_troubled
      (s := Service.create (Sample.name _ 1) Sample.book) (Sample.idle_failingLate .insert)
      (Sample.onlyFail_failingLate .insert).steady
    have hnone := hclean _ _ _ _ _ _ _ (Sample.idle_failingLate .insert)
      (Sample.onlyFail_failingLate .insert) rfl rfl unheld hrun
    rw [hidle.world] at hnone
    exact absurd hnone (by decide)
  · intro hclean
    obtain ⟨t', hrun, hidle⟩ := Timeline.run_troubled
      (s := Service.create (Sample.name _ 1) Sample.book) (Sample.idle_failingLate .reserve)
      (Sample.onlyFail_failingLate .reserve).steady
    have hfree := hclean _ _ _ _ _ _ _ (Sample.idle_failingLate .reserve)
      (Sample.onlyFail_failingLate .reserve) rfl rfl unheld hrun Sample.slot.id
    rw [hidle.world] at hfree
    exact absurd hfree (by decide)

end CreateBooking
end BookingDesk
