import BookingDesk.Proofs.Interleaving
import BookingDesk.Service.Change

/-!
# Where a request stands

A request to create or change a booking makes its calls in a few stages, and which stage comes next
hangs on the answer alone. The stages are a small machine that needs no trees: `Stage.call?` is the
call of a stage and `Stage.next` what an answer leads to. Main statement: the course of every
request runs through the stages (`follows_start`), so interleaved requests are interleaved stages
(`play_requests`).
-/
namespace BookingDesk

/-- What can be asked of the service that may change the books. A create is given with the
identifier that it draws for its booking. -/
inductive Request where
  | create (id : BookingId) (c : CreateBooking)
  | update (c : UpdateBooking)
  | confirm (c : ChangeStatus)
  | cancel (c : ChangeStatus)
  | complete (c : ChangeStatus)
deriving DecidableEq, Repr

/-- What is asked of a booking that there is. -/
structure Change where
  business : BusinessId
  booking : BookingId
  wanted : Option Status
  notes : Option Notes
  time : Instant
  /-- Whether the status that the booking has already is refused too. -/
  strict : Bool
deriving DecidableEq, Repr

namespace Change

def admits (ch : Change) (s : Status) : Bool :=
  ch.wanted.all fun t => s.allows t || (!ch.strict && t = s)

def result (ch : Change) (b : Booking) : Booking :=
  { b with
    status := ch.wanted.getD b.status
    notes := ch.notes.getD b.notes
    updatedAt := ch.time }

@[simp] theorem id_result (ch : Change) (b : Booking) : (ch.result b).id = b.id := rfl

@[simp] theorem business_result (ch : Change) (b : Booking) :
    (ch.result b).business = b.business := rfl

@[simp] theorem slot_result (ch : Change) (b : Booking) : (ch.result b).slot = b.slot := rfl

theorem status_result (ch : Change) (b : Booking) :
    (ch.result b).status = ch.wanted.getD b.status := rfl

theorem notes_result (ch : Change) (b : Booking) :
    (ch.result b).notes = ch.notes.getD b.notes := rfl

def apply (ch : Change) (b : Booking) : Except ForbiddenChange Booking :=
  if ch.admits b.status then .ok (ch.result b) else .error ⟨b.status, ch.wanted.getD b.status⟩

theorem apply_of_changeStatus (b : Booking) (business : BusinessId) (booking : BookingId)
    (wanted : Status) (time : Instant) :
    b.changeStatus wanted time = apply ⟨business, booking, some wanted, none, time, true⟩ b := by
  simp [Booking.changeStatus, apply, admits, result]

theorem apply_of_update (b : Booking) (business : BusinessId) (booking : BookingId)
    (wanted : Option Status) (notes : Option Notes) (time : Instant) :
    b.update wanted notes time = apply ⟨business, booking, wanted, notes, time, false⟩ b := by
  rcases wanted with _ | wanted
  · simp [Booking.update, apply, admits, result]
  by_cases h : wanted = b.status
  · simp [Booking.update, apply, admits, result, h]
  · by_cases ha : b.status.allows wanted = true
    · simp [Booking.update, Booking.changeStatus, apply, admits, result, h, ha, Except.map]
    · simp [Booking.update, Booking.changeStatus, apply, admits, h, ha, Except.map]

theorem apply_eq_ok_iff {ch : Change} {b c : Booking} :
    ch.apply b = .ok c ↔ ch.admits b.status = true ∧ c = ch.result b := by
  rw [apply]
  split
  · rename_i h
    simp [h, eq_comm]
  · rename_i h
    simp [h]

theorem givesUpSlot_iff {before after : Status} :
    Booking.givesUpSlot before after = true ↔ before.isActive = true ∧ after = .cancelled := by
  rw [Booking.givesUpSlot, Bool.and_eq_true, decide_eq_true_eq]

/-- Only a change that asks for it cancels an active booking. -/
theorem wanted_of_givesUpSlot {ch : Change} {b : Booking}
    (h : Booking.givesUpSlot b.status (ch.result b).status = true) :
    ch.wanted = some .cancelled := by
  obtain ⟨hactive, hcancelled⟩ := givesUpSlot_iff.1 h
  rcases hw : ch.wanted with _ | wanted
  · rw [status_result, hw, Option.getD_none] at hcancelled
    rw [hcancelled] at hactive
    cases hactive
  · rw [status_result, hw, Option.getD_some] at hcancelled
    rw [hcancelled]

/-- A change keeps the status or moves it along the table. -/
theorem status_of_admits {ch : Change} {b : Booking} (h : ch.admits b.status = true) :
    (ch.result b).status = b.status ∨ b.status.allows (ch.result b).status = true := by
  rcases hw : ch.wanted with _ | t
  · simp [result, hw]
  · simp only [admits, hw, Option.all_some, Bool.or_eq_true, Bool.and_eq_true,
      decide_eq_true_eq] at h
    simp only [result, hw, Option.getD_some]
    tauto

end Change

inductive Stage where
  | askSlot (id : BookingId) (c : CreateBooking) (notes : Notes)
  | askCustomer (id : BookingId) (c : CreateBooking) (notes : Notes)
  | askStaff (id : BookingId) (c : CreateBooking) (notes : Notes)
  | readSlot (id : BookingId) (c : CreateBooking) (notes : Notes)
  | insert (b : Booking)
  | reserve (b : Booking)
  | count (b : Booking)
  | takeBack (b : Booking) (e : ServiceError)
  /-- A booking has been made. -/
  | booked (b : Booking)
  | load (change : Change)
  | replace (b : Booking) (before : Status)
  | release (b : Booking)
  /-- A booking has been changed. -/
  | changed (b : Booking)
  | failed (e : ServiceError)
deriving DecidableEq, Repr

namespace Request

def service : Request → Service Outcome
  | create id c => Service.create id c
  | update c => Service.update c
  | confirm c => Service.confirm c
  | cancel c => Service.cancel c
  | complete c => Service.complete c

/-- The identifier that is drawn. -/
def drawn? : Request → Option BookingId
  | create id _ => some id
  | _ => none

def start : Request → Stage
  | create id c =>
    match c.validate with
    | .error e => .failed (.invalid e)
    | .ok notes => .askSlot id c notes
  | update c =>
    match c.validate with
    | .error e => .failed (.invalid e)
    | .ok notes => .load ⟨c.business, c.booking, c.status, notes, c.requestedAt, false⟩
  | confirm c => .load ⟨c.business, c.booking, some .confirmed, none, c.requestedAt, true⟩
  | cancel c => .load ⟨c.business, c.booking, some .cancelled, none, c.requestedAt, true⟩
  | complete c => .load ⟨c.business, c.booking, some .completed, none, c.requestedAt, true⟩

/-- A request is refused, or begins with its first question. -/
theorem start_cases (r : Request) :
    (∃ e, r.start = .failed e) ∨
      (∃ id c notes, r = create id c ∧ c.validate = .ok notes ∧ r.start = .askSlot id c notes) ∨
      ∃ ch, r.start = .load ch := by
  cases r with
  | create id c =>
    rw [start]
    cases h : c.validate with
    | error e => exact .inl ⟨_, rfl⟩
    | ok notes => exact .inr (.inl ⟨id, c, notes, rfl, h, rfl⟩)
  | update c =>
    rw [start]
    cases c.validate with
    | error e => exact .inl ⟨_, rfl⟩
    | ok notes => exact .inr (.inr ⟨_, rfl⟩)
  | confirm c | cancel c | complete c => exact .inr (.inr ⟨_, rfl⟩)

end Request

namespace Stage

def call? : Stage → Option Call
  | askSlot _ c _ => some (.isAvailable c.business c.slot)
  | askCustomer _ c _ => some (.customerExists c.business c.customer)
  | askStaff _ c _ => some (.staffExists c.business c.staff)
  | readSlot _ c _ => some (.findSlot c.business c.slot)
  | insert b => some (.insert b)
  | reserve b => some (.reserve b.slot b.id)
  | count b => some (.countBooking b.business b.customer)
  | takeBack b _ => some (.remove b.business b.id)
  | load ch => some (.find ch.business ch.booking)
  | replace b before => some (.replace b before)
  | release b => some (.release b.slot)
  | booked _ | changed _ | failed _ => none

def outcome? : Stage → Option Outcome
  | booked b | changed b => some (.ok b)
  | failed e => some (.error e)
  | _ => none

/-- The slot of a booking is known: the booking can be made. -/
def made (id : BookingId) (c : CreateBooking) (notes : Notes) : Option Slot → Stage
  | none => failed (.slotLost c.slot)
  | some slot =>
    match c.booking id notes slot.start slot.finish with
    | .error e => failed (.invalid e)
    | .ok b => insert b

/-- The booking has been looked up. -/
def found (change : Change) : Option Booking → Stage
  | none => failed .bookingNotFound
  | some b =>
    match change.apply b with
    | .error e => failed (.forbidden e)
    | .ok new => replace new b.status

/-- The new version has been stored. -/
def replaced (b : Booking) (before : Status) : Stage :=
  if Booking.givesUpSlot before b.status then release b else changed b

/-- The stage to which the answer to the call of a stage leads. -/
def next : Stage → (c : Call) → Answer c → Stage
  | askSlot _ _ _, .isAvailable _ _, .error f => failed (.slotsFailed f)
  | askSlot _ _ _, .isAvailable _ _, .ok false => failed .slotUnavailable
  | askSlot id c notes, .isAvailable _ _, .ok true => askCustomer id c notes
  | askCustomer _ _ _, .customerExists _ _, .error f => failed (.customersFailed f)
  | askCustomer _ _ _, .customerExists _ _, .ok false => failed .customerNotFound
  | askCustomer id c notes, .customerExists _ _, .ok true => askStaff id c notes
  | askStaff _ _ _, .staffExists _ _, .error f => failed (.staffFailed f)
  | askStaff _ _ _, .staffExists _ _, .ok false => failed .staffNotFound
  | askStaff id c notes, .staffExists _ _, .ok true => readSlot id c notes
  | readSlot _ _ _, .findSlot _ _, .error f => failed (.slotsFailed f)
  | readSlot id c notes, .findSlot _ _, .ok slot => made id c notes slot
  | insert _, .insert _, .error f => failed (.bookingsFailed f)
  | insert b, .insert _, .ok _ => reserve b
  | reserve b, .reserve _ _, .error f => takeBack b (.slotsFailed f)
  | reserve b, .reserve _ _, .ok false => takeBack b .slotUnavailable
  | reserve b, .reserve _ _, .ok true => count b
  | count b, .countBooking _ _, _ => booked b
  | takeBack _ e, .remove _ _, _ => failed e
  | load _, .find _ _, .error f => failed (.bookingsFailed f)
  | load ch, .find _ _, .ok b => found ch b
  | replace _ _, .replace _ _, .error f => failed (.bookingsFailed f)
  | replace _ _, .replace _ _, .ok false => failed .modifiedMeanwhile
  | replace b before, .replace _ _, .ok true => replaced b before
  | release b, .release _, _ => changed b
  | g, _, _ => g

theorem call?_eq_none_iff {g : Stage} : g.call? = none ↔ ∃ outcome, g.outcome? = some outcome := by
  cases g <;> simp [call?, outcome?]

/-- Makes the call of a stage. -/
def turn (reply : Collaborators) (w : World) (g : Stage) : Stage × World :=
  match g.call? with
  | none => (g, w)
  | some c => (g.next c (reply w c).1, (reply w c).2)

end Stage

/-- The course makes the calls of the stage and of all that may come after it, and ends as they
do. -/
def Course.Follows : Course Outcome → Stage → Prop
  | .ended outcome, g => g.outcome? = some outcome
  | .calling c next, g => g.call? = some c ∧ ∀ answer, (next answer).Follows (g.next c answer)

namespace Course.Follows

theorem turn {course : Course Outcome} {g : Stage} (h : course.Follows g) (reply : Collaborators)
    (w : World) :
    (course.turn reply w).2 = (g.turn reply w).2 ∧
      (course.turn reply w).1.Follows (g.turn reply w).1 := by
  cases course with
  | ended outcome =>
    rw [Stage.turn, Stage.call?_eq_none_iff.2 ⟨outcome, h⟩]
    exact ⟨rfl, h⟩
  | calling c next =>
    obtain ⟨hc, hn⟩ := h
    rw [Stage.turn, hc]
    exact ⟨rfl, hn _⟩

theorem result?_eq {course : Course Outcome} {g : Stage} (h : course.Follows g) :
    course.result? = g.outcome? := by
  cases course with
  | ended o => exact Eq.symm h
  | calling c next =>
    have hc : g.call? ≠ none := by simp [h.1]
    cases ho : g.outcome? with
    | none => rfl
    | some o => exact absurd (Stage.call?_eq_none_iff.2 ⟨o, ho⟩) hc

theorem call?_eq {course : Course Outcome} {g : Stage} (h : course.Follows g) :
    course.call? = g.call? := by
  cases course with
  | ended o => exact (Stage.call?_eq_none_iff.2 ⟨o, h⟩).symm
  | calling c next => exact h.1.symm

end Course.Follows

/-! ## The stages of the service -/

open Service

theorem follows_takeBack (b : Booking) (e : ServiceError) (after : Outcome → Course Outcome)
    (hafter : after (.error e) = .ended (.error e)) :
    ((takeBack b e).course after).Follows (.takeBack b e) := by
  refine ⟨rfl, fun answer => ?_⟩
  rcases answer with f | _
  · simp [Task.course, hafter, Course.Follows, Stage.next, Stage.outcome?]
  · simp [Task.course, hafter, Course.Follows, Stage.next, Stage.outcome?]

theorem follows_establish (b : Booking) (after : Outcome → Course Outcome)
    (hafter : ∀ outcome, after outcome = .ended outcome) :
    ((establish b).course after).Follows (.insert b) := by
  refine ⟨rfl, fun inserted => ?_⟩
  rcases inserted with f | _
  · simp [Task.course, hafter, Course.Follows, Stage.next, Stage.outcome?]
  refine ⟨rfl, fun reserved => ?_⟩
  rcases reserved with f | _ | _
  · exact follows_takeBack b _ after (hafter _)
  · exact follows_takeBack b _ after (hafter _)
  refine ⟨rfl, fun counted => ?_⟩
  rcases counted with f | _ <;>
    simp [Task.course, hafter, Course.Follows, Stage.next, Stage.outcome?]

theorem follows_create (id : BookingId) (c : CreateBooking) :
    (create id c).course.Follows (Request.create id c).start := by
  rw [create, Request.start]
  cases c.validate with
  | error e => rfl
  | ok notes =>
    refine ⟨rfl, fun available => ?_⟩
    rcases available with f | _ | _
    · rfl
    · rfl
    refine ⟨rfl, fun customer => ?_⟩
    rcases customer with f | _ | _
    · rfl
    · rfl
    refine ⟨rfl, fun staff => ?_⟩
    rcases staff with f | _ | _
    · rfl
    · rfl
    refine ⟨rfl, fun slot => ?_⟩
    rcases slot with f | _ | slot
    · rfl
    · rfl
    simp only [Stage.next, Stage.made]
    cases c.booking id notes slot.start slot.finish with
    | error e => rfl
    | ok b => exact follows_establish b _ fun outcome => by rcases outcome with e | b <;> rfl

theorem follows_commit (b : Booking) (before : Status) (after : Outcome → Course Outcome)
    (hafter : ∀ outcome, after outcome = .ended outcome) :
    ((commit b before).course after).Follows (.replace b before) := by
  refine ⟨rfl, fun written => ?_⟩
  rcases written with f | _ | _
  · simp [Task.course, hafter, Course.Follows, Stage.next, Stage.outcome?]
  · simp [Task.course, hafter, Course.Follows, Stage.next, Stage.outcome?]
  simp only [Stage.next, Stage.replaced]
  split
  · refine ⟨rfl, fun released => ?_⟩
    rcases released with f | _ <;>
      simp [Task.course, hafter, Course.Follows, Stage.next, Stage.outcome?]
  · simp [Task.course, hafter, Course.Follows, Stage.outcome?]

theorem follows_change (ch : Change) (f : Booking → Except ForbiddenChange Booking)
    (hf : ∀ b, f b = ch.apply b) (notice : Status → Booking → Notice) :
    (change ch.business ch.booking f notice).course.Follows (.load ch) := by
  refine ⟨rfl, fun loaded => ?_⟩
  rcases loaded with failure | _ | b
  · rfl
  · rfl
  simp only [Stage.next, Stage.found, hf]
  cases ch.apply b with
  | error e => rfl
  | ok new =>
    exact follows_commit new b.status _ fun outcome => by rcases outcome with e | b <;> rfl

/-- The course of every request runs through the stages. -/
theorem follows_start (r : Request) : r.service.course.Follows r.start := by
  cases r with
  | create id c => exact follows_create id c
  | update c =>
    rw [Request.service, update, Request.start]
    cases c.validate with
    | error e => rfl
    | ok notes => exact follows_change _ _ (fun b => Change.apply_of_update b _ _ _ _ _) _
  | confirm c => exact follows_change _ _ (fun b => Change.apply_of_changeStatus b _ _ _ _) _
  | cancel c => exact follows_change _ _ (fun b => Change.apply_of_changeStatus b _ _ _ _) _
  | complete c => exact follows_change _ _ (fun b => Change.apply_of_changeStatus b _ _ _ _) _

/-! ## Requests that interleave -/

/-- Requests that have come in and of which none has made a call yet. -/
def Request.courses (requests : List Request) (w : World) : Interleaving (Course Outcome) :=
  ⟨w, requests.map fun r => r.service.course⟩

def Request.stages (requests : List Request) (w : World) : Interleaving Stage :=
  ⟨w, requests.map Request.start⟩

theorem alike_requests (requests : List Request) (w : World) :
    Interleaving.Alike Course.Follows (Request.courses requests w) (Request.stages requests w) := by
  refine ⟨rfl, fun i => ?_⟩
  simp only [Request.courses, Request.stages, List.getElem?_map]
  cases requests[i]? with
  | none => exact .none
  | some r => exact .some (follows_start r)

/-- Interleaved requests are interleaved stages. -/
theorem play_requests (requests : List Request) (w : World) (reply : Collaborators)
    (schedule : List Nat) :
    Interleaving.Alike Course.Follows
      ((Request.courses requests w).play (Course.turn reply) schedule)
      ((Request.stages requests w).play (Stage.turn reply) schedule) :=
  Interleaving.Alike.play (fun w _ _ h => h.turn reply w) (alike_requests requests w) schedule

/-- So they are when the collaborators answer otherwise in each turn. -/
theorem playWith_requests {κ : Type} (requests : List Request) (w : World)
    (reply : κ → Collaborators) (schedule : List (Nat × κ)) :
    Interleaving.Alike Course.Follows
      ((Request.courses requests w).playWith (fun k => Course.turn (reply k)) schedule)
      ((Request.stages requests w).playWith (fun k => Stage.turn (reply k)) schedule) :=
  Interleaving.Alike.playWith (fun k w _ _ h => h.turn (reply k) w) (alike_requests requests w)
    schedule

namespace Interleaving.Alike

variable {d : Interleaving (Course Outcome)} {e : Interleaving Stage}

theorem result?_eq (h : Alike Course.Follows d e) (i : Nat) :
    d.result? i = e.strands[i]?.bind Stage.outcome? := by
  have hi := h.2 i
  rw [result?]
  revert hi
  generalize d.strands[i]? = x
  generalize e.strands[i]? = y
  rintro (hfollows | _)
  · exact hfollows.result?_eq
  · rfl

theorem call?_eq (h : Alike Course.Follows d e) (i : Nat) :
    d.call? i = e.strands[i]?.bind Stage.call? := by
  have hi := h.2 i
  rw [call?]
  revert hi
  generalize d.strands[i]? = x
  generalize e.strands[i]? = y
  rintro (hfollows | _)
  · exact hfollows.call?_eq
  · rfl

end Interleaving.Alike
end BookingDesk
