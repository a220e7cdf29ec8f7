import BookingDesk.Proofs.Turns

/-!
# What a create says to its collaborators

The collaborators may answer anything, and what they answer may hang on all that was said before. A
create asks one after another until it is refused; only when the slot was asked for, one call more
closes the conversation. Main statement: `CreateBooking.create_protocol`.
-/
namespace BookingDesk

/-! ## Conversations -/

/-- A call and the answer that it got. -/
structure Answered where
  call : Call
  answer : Answer call

/-- Makes all calls. How each is answered may hang on what was said before. The result is all that
was said then, and the end of the course. -/
def Course.talk {α : Type} (reply : List Answered → (c : Call) → Answer c) :
    List Answered → Course α → List Answered × α
  | said, .ended a => (said, a)
  | said, .calling c next => (next (reply said c)).talk reply (said ++ [⟨c, reply said c⟩])

/-- What every answer keeps that a stage is given, the whole conversation keeps. -/
theorem Course.Follows.talk {P : List Answered → Stage → Prop}
    (keeps : ∀ said g call answer, P said g → g.call? = some call →
      P (said ++ [⟨call, answer⟩]) (g.next call answer))
    (reply : List Answered → (c : Call) → Answer c) {course : Course Outcome} {g : Stage}
    (h : course.Follows g) {said : List Answered} (start : P said g) :
    ∃ g', g'.outcome? = some (course.talk reply said).2 ∧ P (course.talk reply said).1 g' := by
  induction course generalizing g said with
  | ended outcome => exact ⟨g, h, start⟩
  | calling c next ih => exact ih _ (h.2 _) (keeps said g c _ start h.1)

/-- The error to which an answer leads. It does not matter what is answered when a booking is
counted or taken back. -/
def Answered.refusal? : Answered → Option ServiceError
  | ⟨.isAvailable _ _, .error f⟩ => some (.slotsFailed f)
  | ⟨.isAvailable _ _, .ok false⟩ => some .slotUnavailable
  | ⟨.customerExists _ _, .error f⟩ => some (.customersFailed f)
  | ⟨.customerExists _ _, .ok false⟩ => some .customerNotFound
  | ⟨.staffExists _ _, .error f⟩ => some (.staffFailed f)
  | ⟨.staffExists _ _, .ok false⟩ => some .staffNotFound
  | ⟨.findSlot _ _, .error f⟩ => some (.slotsFailed f)
  | ⟨.findSlot _ slot, .ok none⟩ => some (.slotLost slot)
  | ⟨.findSlot _ _, .ok (some slot)⟩ =>
    if slot.start < slot.finish then none else some (.invalid .timesReversed)
  | ⟨.insert _, .error f⟩ => some (.bookingsFailed f)
  | ⟨.reserve _ _, .error f⟩ => some (.slotsFailed f)
  | ⟨.reserve _ _, .ok false⟩ => some .slotUnavailable
  | _ => none

namespace CreateBooking

/-- The booking that the command asks for, with the times of the slot. -/
def draft (c : CreateBooking) (id : BookingId) (notes : Notes) (slot : Slot) : Booking :=
  { id, business := c.business, customer := c.customer, staff := c.staff, service := c.service
    slot := c.slot, start := slot.start, finish := slot.finish, status := .pending, notes
    createdAt := c.requestedAt, updatedAt := c.requestedAt }

/-- What is called in turn, up to the call that takes the slot for the booking. -/
def steps (c : CreateBooking) (id : BookingId) (notes : Notes) (slot : Slot) : List Call :=
  [.isAvailable c.business c.slot, .customerExists c.business c.customer,
    .staffExists c.business c.staff, .findSlot c.business c.slot, .insert (c.draft id notes slot),
    .reserve c.slot id]

/-- What is called after a step: once the slot was asked for, the booking is counted if it got the
slot and taken back if it did not. -/
def closing (c : CreateBooking) (id : BookingId) : Answered → List Call
  | ⟨.reserve _ _, .ok true⟩ => [.countBooking c.business c.customer]
  | ⟨.reserve _ _, _⟩ => [.remove c.business id]
  | _ => []

/-- What is said when a command is carried out whose notes are these, and how it ends. -/
structure Protocol (c : CreateBooking) (id : BookingId) (notes : Notes) (said : List Answered)
    (outcome : Outcome) : Prop where
  /-- The steps are taken in turn, and only the last one may be refused; then comes what closes the
  conversation. -/
  calls : ∃ slot taken closed, said = taken ++ closed ∧
    taken.map Answered.call <+: c.steps id notes slot ∧
    (∀ s ∈ taken.dropLast, s.refusal? = none) ∧
    closed.map Answered.call = taken.flatMap (c.closing id)
  /-- The booking that is stored has the times of the slot that was found. -/
  inserted : ∀ b, .insert b ∈ said.map Answered.call →
    ∃ slot, ⟨.findSlot c.business c.slot, .ok (some slot)⟩ ∈ said ∧ b = c.draft id notes slot
  /-- The create succeeds if the booking got its slot, with the booking that was stored. -/
  succeeds : (∃ b, outcome = .ok b) ↔ ⟨.reserve c.slot id, .ok true⟩ ∈ said
  made : ∀ b, outcome = .ok b → .insert b ∈ said.map Answered.call
  /-- Otherwise the error is that of the first step that was refused. -/
  fails : ∀ e, outcome = .error e ↔ said.findSome? Answered.refusal? = some e

/-! ## How far the conversation has come -/

/-- What is said when every step is granted. -/
def granted (c : CreateBooking) (id : BookingId) (notes : Notes) (slot : Slot) : List Answered :=
  [⟨.isAvailable c.business c.slot, .ok true⟩, ⟨.customerExists c.business c.customer, .ok true⟩,
    ⟨.staffExists c.business c.staff, .ok true⟩, ⟨.findSlot c.business c.slot, .ok (some slot)⟩,
    ⟨.insert (c.draft id notes slot), .ok ()⟩, ⟨.reserve c.slot id, .ok true⟩]

/-- The stages in which the steps are taken, and the one that comes after them. -/
def stages (c : CreateBooking) (id : BookingId) (notes : Notes) (slot : Slot) : List Stage :=
  [.askSlot id c notes, .askCustomer id c notes, .askStaff id c notes, .readSlot id c notes,
    .insert (c.draft id notes slot), .reserve (c.draft id notes slot),
    .count (c.draft id notes slot)]

/-- A create that has come to this stage has heard this: each step was granted, or the last one was
not. After four steps the times of the slot are known, and in order. -/
inductive Heard (c : CreateBooking) (id : BookingId) (notes : Notes) : List Answered → Stage → Prop
  | asking (n : Nat) (slot : Slot) {g : Stage} (times : 4 ≤ n → slot.start < slot.finish)
      (stage : (c.stages id notes slot)[n]? = some g) :
      Heard c id notes ((c.granted id notes slot).take n) g
  | refused (n : Nat) (slot : Slot) {s : Answered} {e : ServiceError}
      (times : 4 ≤ n → slot.start < slot.finish) (early : n < 5)
      (step : (c.steps id notes slot)[n]? = some s.call) (refused : s.refusal? = some e) :
      Heard c id notes ((c.granted id notes slot).take n ++ [s]) (.failed e)
  | takeBack (slot : Slot) {answer : Answer (.reserve c.slot id)} {e : ServiceError}
      (times : slot.start < slot.finish) (refused : Answered.refusal? ⟨_, answer⟩ = some e) :
      Heard c id notes ((c.granted id notes slot).take 5 ++ [⟨_, answer⟩])
        (.takeBack (c.draft id notes slot) e)
  | takenBack (slot : Slot) {answer : Answer (.reserve c.slot id)} {e : ServiceError}
      (last : Answer (.remove c.business id)) (times : slot.start < slot.finish)
      (refused : Answered.refusal? ⟨_, answer⟩ = some e) :
      Heard c id notes ((c.granted id notes slot).take 5 ++ [⟨_, answer⟩, ⟨_, last⟩]) (.failed e)
  | booked (slot : Slot) (last : Answer (.countBooking c.business c.customer))
      (times : slot.start < slot.finish) :
      Heard c id notes (c.granted id notes slot ++ [⟨_, last⟩]) (.booked (c.draft id notes slot))

namespace Heard

variable {c : CreateBooking} {id : BookingId} {notes : Notes} {said : List Answered} {g : Stage}

theorem next (h : Heard c id notes said g) {call : Call} (hc : g.call? = some call)
    (answer : Answer call) : Heard c id notes (said ++ [⟨call, answer⟩]) (g.next call answer) := by
  cases h with
  | asking n slot times stage =>
    rcases n with _ | _ | _ | _ | _ | _ | _ | n
    · cases stage
      cases hc
      rcases answer with f | _ | _
      · exact .refused 0 slot times (by omega) rfl rfl
      · exact .refused 0 slot times (by omega) rfl rfl
      · exact .asking 1 slot (by omega) rfl
    · cases stage
      cases hc
      rcases answer with f | _ | _
      · exact .refused 1 slot times (by omega) rfl rfl
      · exact .refused 1 slot times (by omega) rfl rfl
      · exact .asking 2 slot (by omega) rfl
    · cases stage
      cases hc
      rcases answer with f | _ | _
      · exact .refused 2 slot times (by omega) rfl rfl
      · exact .refused 2 slot times (by omega) rfl rfl
      · exact .asking 3 slot (by omega) rfl
    · cases stage
      cases hc
      rcases answer with f | _ | slot'
      · exact .refused 3 slot times (by omega) rfl rfl
      · exact .refused 3 slot times (by omega) rfl rfl
      · by_cases htimes : slot'.start < slot'.finish
        · have hmade : Stage.made id c notes (some slot') = .insert (c.draft id notes slot') := by
            simp only [Stage.made, booking, if_pos htimes]
            rfl
          exact .asking 4 slot' (fun _ => htimes) (congrArg some hmade.symm)
        · have hmade : Stage.made id c notes (some slot') = .failed (.invalid .timesReversed) := by
            simp only [Stage.made, booking, if_neg htimes]
          simp only [Stage.next, hmade]
          exact .refused 3 slot times (by omega) rfl (if_neg htimes)
    · cases stage
      cases hc
      rcases answer with f | _
      · exact .refused 4 slot times (by omega) rfl rfl
      · exact .asking 5 slot (fun _ => times (by omega)) rfl
    · cases stage
      cases hc
      rcases answer with f | _ | _
      · exact .takeBack slot (times (by omega)) rfl
      · exact .takeBack slot (times (by omega)) rfl
      · exact .asking 6 slot (fun _ => times (by omega)) rfl
    · cases stage
      cases hc
      exact .booked slot answer (times (by omega))
    · cases stage
  | refused => cases hc
  | takeBack slot times refused =>
    cases hc
    rw [List.append_assoc]
    exact .takenBack slot answer times refused
  | takenBack => cases hc
  | booked => cases hc

/-- What was granted is no refusal. -/
theorem refusal?_granted {n : Nat} {slot : Slot} (times : 4 ≤ n → slot.start < slot.finish) :
    ∀ s ∈ (c.granted id notes slot).take n, s.refusal? = none := by
  rcases n with _ | _ | _ | _ | n
  · simp
  · simp [granted, Answered.refusal?]
  · simp [granted, Answered.refusal?]
  · simp [granted, Answered.refusal?]
  · have hlt := times (by omega)
    intro s hs
    have hmem := List.mem_of_mem_take hs
    simp only [granted, List.mem_cons, List.not_mem_nil, or_false] at hmem
    rcases hmem with rfl | rfl | rfl | rfl | rfl | rfl <;> simp [Answered.refusal?, hlt]

theorem mem_closing {s : Answered} {call : Call} (h : call ∈ c.closing id s) :
    call = .countBooking c.business c.customer ∨ call = .remove c.business id := by
  unfold closing at h
  split at h <;> simp_all

/-- A conversation in which the step behind `n` others was refused. -/
theorem protocol_refused {n : Nat} {slot : Slot} {s : Answered} {e : ServiceError}
    {closed : List Answered} (times : 4 ≤ n → slot.start < slot.finish)
    (step : (c.steps id notes slot)[n]? = some s.call) (refused : s.refusal? = some e)
    (hclosed : closed.map Answered.call = c.closing id s) :
    c.Protocol id notes ((c.granted id notes slot).take n ++ [s] ++ closed) (.error e) := by
  have hgranted : ∀ s ∈ (c.granted id notes slot).take n, s.refusal? = none :=
    refusal?_granted times
  have hn : n < 6 := (List.getElem?_eq_some_iff.1 step).1
  have hbefore : ((c.granted id notes slot).take n).map Answered.call =
      (c.steps id notes slot).take n := List.map_take ..
  have hcalls : ((c.granted id notes slot).take n ++ [s]).map Answered.call =
      (c.steps id notes slot).take (n + 1) := by
    rw [List.take_add_one, step, List.map_append, hbefore]
    rfl
  refine ⟨⟨slot, _, closed, rfl, ?_, fun s hs => ?_, ?_⟩, fun b hb => ?_, ?_, nofun, fun e' => ?_⟩
  · rw [hcalls]
    exact List.take_prefix ..
  · rw [List.dropLast_concat] at hs
    exact hgranted s hs
  · have hopen : ((c.granted id notes slot).take n).flatMap (c.closing id) = [] := by
      rcases n with _ | _ | _ | _ | _ | _ | n <;> first | rfl | omega
    rw [List.flatMap_append, hopen, hclosed]
    simp
  · rw [List.map_append, hcalls, hclosed, List.mem_append] at hb
    rcases hb with hb | hb
    · rcases n with _ | _ | _ | _ | n
      · simp [steps] at hb
      · simp [steps] at hb
      · simp [steps] at hb
      · simp [steps] at hb
      · refine ⟨slot, by simp [granted], ?_⟩
        have := List.mem_of_mem_take hb
        simpa [steps] using this
    · rcases mem_closing hb with h | h <;> cases h
  · constructor
    · rintro ⟨b, ⟨⟩⟩
    · intro hreserved
      exfalso
      rw [List.mem_append, List.mem_append, List.mem_singleton] at hreserved
      rcases hreserved with (h | rfl) | h
      · have hcall := List.mem_map_of_mem (f := Answered.call) h
        rw [hbefore] at hcall
        have hfive := List.take_subset_take_left (c.steps id notes slot) (show n ≤ 5 by omega) hcall
        simp [steps] at hfive
      · cases refused
      · have hcall := List.mem_map_of_mem (f := Answered.call) h
        rw [hclosed] at hcall
        rcases mem_closing hcall with h | h <;> cases h
  · rw [List.findSome?_append, List.findSome?_append, List.findSome?_eq_none_iff.2 hgranted]
    simp [refused]

theorem protocol {outcome : Outcome} (h : Heard c id notes said g)
    (ended : g.outcome? = some outcome) : c.Protocol id notes said outcome := by
  cases h with
  | asking n slot times stage =>
    rcases n with _ | _ | _ | _ | _ | _ | _ | n <;> cases stage <;> cases ended
  | @refused n slot s e times early step refused =>
    cases ended
    have hclosing : c.closing id s = [] := by
      obtain ⟨call, answer⟩ := s
      rcases n with _ | _ | _ | _ | _ | n
      · cases step; rfl
      · cases step; rfl
      · cases step; rfl
      · cases step; rfl
      · cases step; rfl
      · omega
    rw [← List.append_nil (_ ++ _)]
    exact protocol_refused times step refused hclosing.symm
  | takeBack => cases ended
  | @takenBack slot answer e last times refused =>
    cases ended
    rw [← List.singleton_append, ← List.append_assoc]
    refine protocol_refused (fun _ => times) rfl refused ?_
    rcases answer with f | _ | _
    · rfl
    · rfl
    · cases refused
  | booked slot last times =>
    cases ended
    have hgranted : ∀ s ∈ c.granted id notes slot, s.refusal? = none :=
      refusal?_granted (n := 6) fun _ => times
    refine ⟨⟨slot, _, _, rfl, List.prefix_rfl, fun s hs => ?_, rfl⟩, ?_, ?_, ?_, ?_⟩
    · exact hgranted s (List.dropLast_subset _ hs)
    · intro b hb
      exact ⟨slot, by simp [granted], by simpa [granted] using hb⟩
    · simp [granted]
    · rintro b ⟨⟩
      simp [granted]
    · intro e
      rw [List.findSome?_append, List.findSome?_eq_none_iff.2 hgranted]
      simp [Answered.refusal?]

end Heard

/-- Whatever the collaborators answer, a create keeps to the protocol. A command that is refused
itself calls nobody. -/
theorem create_protocol (reply : List Answered → (c : Call) → Answer c) (id : BookingId)
    (c : CreateBooking) :
    let talk := (Service.create id c).course.talk reply []
    (∀ e, c.validate = .error e → talk = ([], .error (.invalid e))) ∧
      ∀ notes, c.validate = .ok notes → c.Protocol id notes talk.1 talk.2 := by
  constructor
  · intro e he
    simp only [Service.create, he]
    rfl
  · intro notes hn
    have hstart : (Request.create id c).start = .askSlot id c notes := by
      simp only [Request.start, hn]
    have hfollows := hstart ▸ follows_create id c
    let anyTimes : Slot := ⟨c.slot, c.business, c.staff, c.requestedAt, c.requestedAt⟩
    obtain ⟨g, hended, heard⟩ := hfollows.talk (P := Heard c id notes)
      (fun said g call answer h hc => h.next hc answer) reply (.asking 0 anyTimes (by omega) rfl)
    exact heard.protocol hended

/-- Collaborators who answer as those of an unused desk would, and a command without a slot. -/
theorem create_protocol_unused :
    let reply : List Answered → (c : Call) → Answer c := fun _ c => (Sample.world.answer c).1
    let talk (c : CreateBooking) := (Service.create (Sample.name _ 1) c).course.talk reply []
    let slotless := { Sample.book with slot := .none }
    (slotless.validate = .error .slotMissing ∧
      talk slotless = ([], .error (.invalid .slotMissing))) ∧
    Sample.book.validate = .ok .empty ∧
      Sample.book.Protocol (Sample.name _ 1) .empty (talk Sample.book).1 (talk Sample.book).2 :=
  ⟨⟨rfl, (create_protocol _ _ _).1 _ rfl⟩, rfl, (create_protocol _ _ _).2 _ rfl⟩

end CreateBooking
end BookingDesk
