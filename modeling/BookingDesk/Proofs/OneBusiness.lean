import BookingDesk.Proofs.Books
import BookingDesk.Proofs.GivenUp

/-!
# Work in the name of a business

Work keeps to a business if every call that it makes in its name, whatever is answered, names this
business and no other. A booking that is stored in place of another must be the business's own, so
it matters that the one that was found is (`Call.FindsFor`). Only a copy that is found in place of
whatever is looked for may belong to somebody else. Main statement: whoever runs such work on a
desk, and however it ends, all calls that are made from then on name the business
(`Timeline.KeepsTo.run`, `Timeline.KeepsTo.waits`).
-/
namespace BookingDesk

variable {α β : Type} {business : BusinessId} {copy : Option Booking}

/-! ## Calls -/

/-- The business that the call names, if it names one. A call that stores a booking names that of
the booking. -/
def Call.business? : Call → Option BusinessId
  | isAvailable business _ | findSlot business _ | customerExists business _
  | countBooking business _ | staffExists business _ | find business _ | ofCustomer business _
  | ofStaff business _ | ofBusiness business | remove business _ | countStatus business _ =>
    some business
  | insert b | replace b _ => some b.business
  | reserve _ _ | release _ => none

/-- The booking belongs to the business, unless it is a version of the copy. -/
def Booking.FoundFor (business : BusinessId) (copy : Option Booking) (b : Booking) : Prop :=
  b.business = business ∨ b.business ∈ copy.map Booking.business

/-- The call names no other business. A booking that is stored in place of another is as much the
business's own as what was found. -/
def Call.Names (business : BusinessId) (copy : Option Booking) : Call → Prop
  | replace b _ => b.FoundFor business copy
  | c => ∀ own ∈ c.business?, own = business

/-- A booking that is found belongs to the business, or is the copy. -/
def Call.FindsFor (business : BusinessId) (copy : Option Booking) : (c : Call) → Answer c → Prop
  | find _ _, .ok (some b) => b.FoundFor business copy
  | _, _ => True

theorem Call.findsFor_error (c : Call) (f : Failure) : c.FindsFor business copy (.error f) := by
  cases c <;> trivial

theorem World.findsFor_answer {c : Call} (h : c.Names business copy) (w : World) :
    c.FindsFor business copy (w.answer c).1 := by
  cases c with
  | find own id =>
    rw [answer]
    cases hb : w.booking? own id with
    | none => trivial
    | some b =>
      obtain ⟨-, hown⟩ := booking?_eq_some_iff.1 hb
      exact .inl (hown.trans (h own rfl))
  | _ => trivial

/-! ## Work -/

/-- All calls name the business, as long as what is found belongs to it. -/
def Task.KeepsTo (business : BusinessId) (copy : Option Booking) : Task α → Prop
  | .done _ => True
  | .note _ rest => rest.KeepsTo business copy
  | .ask c next => c.Names business copy ∧
      ∀ answer, c.FindsFor business copy answer → (next answer).KeepsTo business copy

@[inherit_doc Task.KeepsTo]
def Service.KeepsTo (business : BusinessId) (copy : Option Booking) : Service α → Prop
  | .done _ => True
  | .note _ rest => rest.KeepsTo business copy
  | .ask c next => c.Names business copy ∧
      ∀ answer, c.FindsFor business copy answer → (next answer).KeepsTo business copy
  | .handOver task next =>
    task.KeepsTo business copy ∧ ∀ outcome, (next outcome).KeepsTo business copy

theorem Service.KeepsTo.andThen {s : Service α} {k : α → Service β} (h : s.KeepsTo business copy)
    (hk : ∀ a, (k a).KeepsTo business copy) : (s.andThen k).KeepsTo business copy := by
  induction s with
  | done a => exact hk a
  | note n rest ih => exact ih h
  | ask c next ih => exact ⟨h.1, fun answer hanswer => ih answer (h.2 answer hanswer)⟩
  | handOver task next ih => exact ⟨h.1, fun outcome => ih outcome (h.2 outcome)⟩

/-- The call of a job is on record already. -/
def Job.KeepsTo (business : BusinessId) (copy : Option Booking) : Job → Prop
  | .task work => work.KeepsTo business copy
  | .call c _ next => c.Names business copy ∧
      ∀ answer, c.FindsFor business copy answer → (next answer).KeepsTo business copy
  | .awaited _ => True

namespace Timeline

/-- All jobs keep to the business, and the calls that were made since these name it. -/
structure KeepsTo (business : BusinessId) (copy : Option Booking) (before : List Call)
    (t : Timeline) : Prop where
  calls : ∃ made, t.calls = before ++ made ∧ ∀ c ∈ made, c.Names business copy
  ready : ∀ j ∈ t.ready, j.KeepsTo business copy
  asleep : ∀ s ∈ t.asleep, s.job.KeepsTo business copy
  stale : t.stale = copy

variable {t : Timeline} {before : List Call}

theorem Still.keepsTo (h : t.Still) (business : BusinessId) :
    t.KeepsTo business t.stale t.calls where
  calls := ⟨[], (List.append_nil _).symm, fun c hc => absurd hc List.not_mem_nil⟩
  ready := by simp [h.ready]
  asleep := by simp [h.asleep]
  stale := rfl

namespace KeepsTo

/-! ### What a call changes -/

theorem note (h : t.KeepsTo business copy before) (n : Notice) :
    (t.note n).KeepsTo business copy before :=
  ⟨h.calls, h.ready, h.asleep, h.stale⟩

theorem place (h : t.KeepsTo business copy before) {c : Call} (hc : c.Names business copy) :
    (t.place c).KeepsTo business copy before := by
  obtain ⟨made, hmade, hnames⟩ := h.calls
  refine ⟨⟨made ++ [c], ?_, ?_⟩, h.ready, h.asleep, h.stale⟩
  · rw [Timeline.place, hmade, List.append_assoc]
  · intro c' hc'
    rcases List.mem_append.1 hc' with hc' | hc'
    · exact hnames c' hc'
    · exact List.mem_singleton.1 hc' ▸ hc

theorem answered (h : t.KeepsTo business copy before) (w : World) :
    ({ t with world := w } : Timeline).KeepsTo business copy before :=
  ⟨h.calls, h.ready, h.asleep, h.stale⟩

theorem findsFor_carryOut (h : t.KeepsTo business copy before) {c : Call}
    (hc : c.Names business copy) : c.FindsFor business copy (t.carryOut c).1 := by
  cases c with
  | find own id =>
    rw [carryOut.eq_def, h.stale]
    cases copy with
    | none => exact World.findsFor_answer hc t.world
    | some b => exact .inr rfl
  | _ => trivial

/-- A call leaves jobs as they were, and if it is answered then for the business. -/
theorem effect (h : t.KeepsTo business copy before) {c : Call} (hc : c.Names business copy)
    (e : Effect) : (t.effect c e).2.KeepsTo business copy before ∧
      ∀ answer, (t.effect c e).1 = some answer → c.FindsFor business copy answer := by
  refine ⟨t.effect_snd c e ▸ h.answered _, fun answer hanswer => ?_⟩
  have hcarried := h.findsFor_carryOut hc
  cases e with
  | none =>
    cases hanswer
    exact hcarried
  | fail message | failAfter message =>
    cases hanswer
    exact c.findsFor_error _
  | crash => cases hanswer
  | answer value =>
    rw [Timeline.effect] at hanswer
    split at hanswer <;> cases hanswer
    · cases c <;> trivial
    · exact hcarried
  | nothing =>
    rw [Timeline.effect] at hanswer
    split at hanswer <;> cases hanswer
    · rename_i reply hreply
      cases c <;> cases hreply <;> trivial
    · exact hcarried

theorem effect_cases (h : t.KeepsTo business copy before) {c : Call} (hc : c.Names business copy)
    (e : Effect) :
    (∃ answer t', t.effect c e = (some answer, t') ∧ c.FindsFor business copy answer ∧
        t'.KeepsTo business copy before) ∨
      ∃ t', t.effect c e = (none, t') ∧ t'.KeepsTo business copy before := by
  obtain ⟨hleft, hanswer⟩ := h.effect hc e
  revert hleft hanswer
  obtain ⟨_ | answer, t'⟩ := t.effect c e
  · exact fun hleft _ => .inr ⟨t', rfl, hleft⟩
  · exact fun hleft hanswer => .inl ⟨answer, t', rfl, hanswer answer rfl, hleft⟩

/-! ### Turns -/

theorem enqueue (h : t.KeepsTo business copy before) {j : Job} (hj : j.KeepsTo business copy) :
    (t.enqueue j).KeepsTo business copy before where
  calls := h.calls
  ready := by
    intro i hi
    rcases List.mem_append.1 hi with hi | hi
    · exact h.ready i hi
    · exact List.mem_singleton.1 hi ▸ hj
  asleep := h.asleep
  stale := h.stale

theorem fallAsleep (h : t.KeepsTo business copy before) (wake : Nat) {j : Job}
    (hj : j.KeepsTo business copy) : (t.fallAsleep wake j).KeepsTo business copy before where
  calls := h.calls
  ready := h.ready
  asleep := by
    intro s hs
    rcases List.mem_append.1 hs with hs | hs
    · exact h.asleep s hs
    · exact List.mem_singleton.1 hs ▸ hj
  stale := h.stale

theorem runTask {task : Task Outcome} (h : t.KeepsTo business copy before)
    (htask : task.KeepsTo business copy) : (runTask task t).KeepsTo business copy before := by
  induction task generalizing t with
  | done outcome => exact h
  | note n rest ih => exact ih (h.note n) htask
  | ask c next ih =>
    obtain ⟨hc, hnext⟩ := htask
    rw [Timeline.runTask]
    dsimp only
    split
    · exact (h.place hc).fallAsleep _ ⟨hc, hnext⟩
    · obtain ⟨answer, t', heffect, hfinds, hleft⟩ | ⟨t', heffect, hleft⟩ :=
        (h.place hc).effect_cases hc (t.faults.current c.kind).2
      · simp only [heffect]
        exact ih answer hleft (hnext answer hfinds)
      · simp only [heffect]
        exact hleft

theorem takeTurn (h : t.KeepsTo business copy before) {j : Job} (hj : j.KeepsTo business copy) :
    (takeTurn j t).KeepsTo business copy before := by
  cases j with
  | task work => exact h.runTask hj
  | awaited number => exact h
  | call c e next =>
    obtain ⟨hc, hnext⟩ := hj
    rw [Timeline.takeTurn]
    obtain ⟨answer, t', heffect, hfinds, hleft⟩ | ⟨t', heffect, hleft⟩ := h.effect_cases hc e
    · simp only [heffect]
      exact hleft.runTask (hnext answer hfinds)
    · simp only [heffect]
      exact hleft

theorem moveTo (h : t.KeepsTo business copy before) (time : Nat) :
    (t.moveTo time).KeepsTo business copy before := by
  simp only [Timeline.moveTo, List.partition_eq_filter_filter]
  refine ⟨h.calls, fun j hj => ?_, fun s hs => ?_, h.stale⟩
  · rcases List.mem_append.1 hj with hj | hj
    · exact h.ready j hj
    · obtain ⟨s, hs, rfl⟩ := List.mem_map.1 hj
      exact h.asleep s (List.mem_filter.1 hs).1
  · exact h.asleep s (List.mem_filter.1 hs).1

theorem takeTurns (h : t.KeepsTo business copy before) (limit : Option Nat) (fuel : Nat) :
    (takeTurns limit fuel t).2.KeepsTo business copy before := by
  induction fuel generalizing t with
  | zero => exact h
  | succ fuel ih =>
    have hready := h.ready
    rw [Timeline.takeTurns.eq_def]
    dsimp only
    cases hr : t.ready with
    | nil =>
      cases t.nextWake?.filter fun wake => limit.all (wake < ·) with
      | some wake => exact ih (h.moveTo wake)
      | none =>
        cases limit with
        | none => exact h
        | some time => exact h.moveTo time
    | cons j rest =>
      rw [hr, List.forall_mem_cons] at hready
      have hleft : ({ t with ready := rest } : Timeline).KeepsTo business copy before :=
        ⟨h.calls, hready.2, h.asleep, h.stale⟩
      cases j with
      | awaited number => exact hleft
      | task work => exact ih (hleft.takeTurn hready.1)
      | call c e next => exact ih (hleft.takeTurn hready.1)

/-! ### Waiting -/

theorem passUntil (h : t.KeepsTo business copy before) (time : Nat) :
    (t.passUntil time).KeepsTo business copy before := by
  rw [Timeline.passUntil]
  split
  · exact h
  · exact h.takeTurns _ _

/-- While time passes, only calls in the name of the business are made. -/
theorem waits (h : t.KeepsTo business copy before) (waits : List Nat) :
    (waits.foldl Timeline.advance t).KeepsTo business copy before := by
  induction waits generalizing t with
  | nil => exact h
  | cons ms waits ih => exact ih (h.passUntil _)

theorem untilTurn (h : t.KeepsTo business copy before) (limit : Option Nat) :
    (t.untilTurn limit).2.KeepsTo business copy before := by
  rw [Timeline.untilTurn]
  split
  · exact h
  · exact h.takeTurns _ _

theorem settle (h : t.KeepsTo business copy before) : t.settle.KeepsTo business copy before :=
  h.takeTurns _ _

theorem detach (h : t.KeepsTo business copy before) {j : Job} (hj : j.KeepsTo business copy) :
    (t.detach j).KeepsTo business copy before := by
  refine ⟨h.calls, fun i hi => ?_, fun s hs => ?_, h.stale⟩
  · obtain ⟨i, hmem, rfl⟩ := List.mem_map.1 hi
    cases i with
    | awaited number => exact hj
    | task work | call c e next => exact h.ready _ hmem
  · obtain ⟨⟨wake, i⟩, hmem, rfl⟩ := List.mem_map.1 hs
    cases i with
    | awaited number => exact hj
    | task work | call c e next => exact h.asleep _ hmem

/-! ### Callers -/

theorem awaitTask {task : Task Outcome} (h : t.KeepsTo business copy before)
    (htask : task.KeepsTo business copy) (limit : Option Nat) :
    (awaitTask limit task t).2.KeepsTo business copy before := by
  induction task generalizing t with
  | done outcome => exact h.settle
  | note n rest ih => exact ih (h.note n) htask
  | ask c next ih =>
    obtain ⟨hc, hnext⟩ := htask
    have hplace := h.place hc
    obtain ⟨turn, u, hu, hwaited⟩ : ∃ turn u,
        (if (t.faults.current c.kind).1 = 0 then (some 0, t.place c) else
          ((t.place c).fallAsleep ((t.place c).clock + (t.faults.current c.kind).1)
            (.awaited 0)).untilTurn limit) = (turn, u) ∧ u.KeepsTo business copy before := by
      split
      · exact ⟨_, _, rfl, hplace⟩
      · have hasleep := hplace.fallAsleep
          ((t.place c).clock + (t.faults.current c.kind).1) (j := .awaited 0) trivial
        exact ⟨_, _, rfl, hasleep.untilTurn limit⟩
    rw [Timeline.awaitTask]
    simp only [hu]
    cases turn with
    | none => exact hwaited.detach ⟨hc, hnext⟩
    | some number =>
      obtain ⟨answer, t', heffect, hfinds, hleft⟩ | ⟨t', heffect, hleft⟩ :=
        hwaited.effect_cases hc (t.faults.current c.kind).2
      · simp only [heffect]
        exact ih answer hleft (hnext answer hfinds)
      · simp only [heffect]
        exact hleft.settle

/-- However the work of a caller ends, only calls in the name of the business have been made. -/
theorem run {s : Service α} (h : t.KeepsTo business copy before) (hs : s.KeepsTo business copy)
    (deadline : Option Deadline) : (run deadline s t).2.KeepsTo business copy before := by
  induction s generalizing t with
  | done a => exact h
  | note n rest ih => exact ih (h.note n) hs
  | ask c next ih =>
    obtain ⟨hc, hnext⟩ := hs
    rw [Timeline.run]
    dsimp only
    split
    · exact (h.place hc).passUntil _
    · obtain ⟨answer, t', heffect, hfinds, hleft⟩ | ⟨t', heffect, hleft⟩ :=
        ((h.place hc).passUntil ((t.place c).clock + (t.faults.current c.kind).1)).effect_cases hc
          (t.faults.current c.kind).2
      · simp only [heffect]
        exact ih answer hleft (hnext answer hfinds)
      · simp only [heffect]
        exact hleft
  | handOver task next ih =>
    obtain ⟨htask, hnext⟩ := hs
    rw [Timeline.run]
    have hwaited := (h.enqueue (j := .awaited 0) trivial).untilTurn (deadline.map Deadline.time)
    revert hwaited
    obtain ⟨_ | number, u⟩ := (t.enqueue (.awaited 0)).untilTurn (deadline.map Deadline.time)
    · exact fun hwaited => hwaited.detach htask
    · intro hwaited
      have hdone := hwaited.awaitTask htask (deadline.map Deadline.time)
      revert hdone
      dsimp only
      obtain ⟨outcome | _ | _, v⟩ := Timeline.awaitTask (deadline.map Deadline.time) task u
      · exact fun hdone => ih _ hdone (hnext _)
      · exact id
      · exact fun hdone => ih _ hdone (hnext _)

theorem runBefore {s : Service α} (h : t.KeepsTo business copy before)
    (hs : s.KeepsTo business copy) (limit : Nat) :
    (t.runBefore limit s).2.KeepsTo business copy before := by
  rw [Timeline.runBefore]
  split
  · exact h
  · exact h.run hs _

end KeepsTo
end Timeline
end BookingDesk
