import BookingDesk.Proofs.Lifecycle
import Mathlib.Data.List.Chain

/-!
# One booking, revised again and again

A booking that has just been made is revised by itself, call after call, and a call that is refused
leaves it as it is. Each call that is not refused is one step along the table, or none
(`Revision.after_attempt`), and steps are put together by looking at the last one that gave a value.
Main statement: this is how every sequence of calls ends, and which of them are refused
(`CreateBooking.booking_revised`).
-/
namespace BookingDesk

inductive Revision where
  | changeStatus (wanted : Status) (time : Instant)
  | cancel (time : Instant)
  | update (wanted : Option Status) (notes : Option Notes) (time : Instant)
deriving DecidableEq, Repr

namespace Revision

def apply : Revision → Booking → Except ForbiddenChange Booking
  | changeStatus wanted time, b => b.changeStatus wanted time
  | cancel time, b => b.cancel time
  | update wanted notes time, b => b.update wanted notes time

def time : Revision → Instant
  | changeStatus _ time | cancel time | update _ _ time => time

def notes? : Revision → Option Notes
  | update _ notes _ => notes
  | changeStatus _ _ | cancel _ => none

/-- The revision would move a booking of this status to another one to which no way leads. Only an
update may name the status that the booking has. -/
inductive Forbidden (current : Status) : Revision → Status → Prop
  | changeStatus {wanted time} (closed : current.allows wanted = false) :
      Forbidden current (.changeStatus wanted time) wanted
  | cancel {time} (closed : current.allows .cancelled = false) :
      Forbidden current (.cancel time) .cancelled
  | update {wanted notes time} (other : wanted ≠ current)
      (closed : current.allows wanted = false) :
      Forbidden current (.update (some wanted) notes time) wanted

/-- The status to which a booking of this status is to be moved, if it is to be moved at all. -/
def goal? (current : Status) : Revision → Option Status
  | changeStatus wanted _ => some wanted
  | cancel _ => some .cancelled
  | update wanted _ _ => wanted.filter (· ≠ current)

theorem forbidden_iff {current wanted : Status} {r : Revision} :
    r.Forbidden current wanted ↔ r.goal? current = some wanted ∧ current.allows wanted = false := by
  constructor
  · intro h
    cases h with
    | changeStatus closed => exact ⟨rfl, closed⟩
    | cancel closed => exact ⟨rfl, closed⟩
    | update other closed => exact ⟨by simp [goal?, Option.filter, other], closed⟩
  · rintro ⟨hgoal, closed⟩
    cases r with
    | changeStatus _ _ =>
      cases hgoal
      exact .changeStatus closed
    | cancel _ =>
      cases hgoal
      exact .cancel closed
    | update given _ _ =>
      obtain ⟨rfl, hne⟩ := Option.filter_eq_some_iff.1 hgoal
      exact .update (of_decide_eq_true hne) closed

/-- What the revision makes of a booking that may be moved to this status. -/
def revised (r : Revision) (b : Booking) (status : Status) : Booking :=
  { b with status, notes := r.notes?.getD b.notes, updatedAt := r.time }

theorem apply_eq (r : Revision) (b : Booking) :
    r.apply b =
      match r.goal? b.status with
      | none => .ok (r.revised b b.status)
      | some wanted =>
        if b.status.allows wanted then .ok (r.revised b wanted) else .error ⟨b.status, wanted⟩ := by
  cases r with
  | changeStatus wanted time => rfl
  | cancel time => rfl
  | update wanted notes time =>
    rcases wanted with _ | wanted
    · rfl
    · by_cases hsame : wanted = b.status
      · simp [apply, Booking.update, goal?, revised, notes?, Revision.time, Option.filter, hsame]
      · by_cases hallows : b.status.allows wanted = true
        · simp [apply, Booking.update, Booking.changeStatus, goal?, revised, notes?, Revision.time,
            Option.filter, hsame, hallows, Except.map]
        · simp [apply, Booking.update, Booking.changeStatus, goal?, Option.filter, hsame, hallows,
            Except.map]

theorem apply_eq_error_iff {r : Revision} {b : Booking} {e : ForbiddenChange} :
    r.apply b = .error e ↔ e.current = b.status ∧ r.Forbidden b.status e.wanted := by
  obtain ⟨current, wanted⟩ := e
  rw [apply_eq, forbidden_iff]
  grind

/-- A revision that is not refused leaves the status or moves it along the table. -/
theorem apply_eq_ok {r : Revision} {b c : Booking} (h : r.apply b = .ok c) :
    c = r.revised b c.status ∧ (c.status = b.status ∨ b.status.allows c.status = true) := by
  rw [apply_eq] at h
  grind [revised]

end Revision

/-! ## Call after call -/

/-- A revision that was tried on a booking, and what came of it. -/
structure Attempt where
  revision : Revision
  before : Booking
  outcome : Except ForbiddenChange Booking

namespace Attempt

/-- The booking goes on as it was if the revision was refused. -/
def after (a : Attempt) : Booking := a.outcome.toOption.getD a.before

/-- The new status, if there is a new one. -/
def move? (a : Attempt) : Option Status :=
  if a.after.status = a.before.status then none else some a.after.status

/-- The notes that were given, unless the revision was refused. -/
def notes? (a : Attempt) : Option Notes := a.outcome.toOption.bind fun _ => a.revision.notes?

/-- When the booking was revised, if it was. -/
def time? (a : Attempt) : Option Instant := a.outcome.toOption.map fun _ => a.revision.time

end Attempt

namespace Revision

def attempt (r : Revision) (b : Booking) : Attempt := ⟨r, b, r.apply b⟩

theorem after_attempt (r : Revision) (b : Booking) :
    (r.attempt b).after =
      { b with
        status := (r.attempt b).move?.getD b.status
        notes := (r.attempt b).notes?.getD b.notes
        updatedAt := (r.attempt b).time?.getD b.updatedAt } := by
  have hstatus : (r.attempt b).move?.getD b.status = (r.attempt b).after.status := by
    unfold Attempt.move?
    split
    · rename_i hsame
      exact hsame.symm
    · rfl
  rw [hstatus]
  simp only [attempt, Attempt.after, Attempt.notes?, Attempt.time?]
  cases hc : r.apply b with
  | error e => rfl
  | ok c => exact (apply_eq_ok hc).1

theorem allows_of_move? {r : Revision} {b : Booking} {s : Status}
    (h : (r.attempt b).move? = some s) : b.status.allows s = true := by
  unfold Attempt.move? at h
  split at h
  · cases h
  · rename_i hne
    cases h
    simp only [attempt, Attempt.after] at hne ⊢
    cases hc : r.apply b with
    | error e =>
      rw [hc] at hne
      exact absurd rfl hne
    | ok c =>
      rw [hc] at hne
      exact (apply_eq_ok hc).2.resolve_left hne

end Revision

namespace Booking

/-- Tries one revision after another. -/
def attempts (b : Booking) : List Revision → List Attempt
  | [] => []
  | r :: rs => r.attempt b :: (r.attempt b).after.attempts rs

/-- The booking after all revisions that were not refused. -/
def revise (b : Booking) (rs : List Revision) : Booking :=
  rs.foldl (fun b r => (r.attempt b).after) b

/-- The statuses to which the booking goes. -/
def path (b : Booking) (rs : List Revision) : List Status := (b.attempts rs).filterMap Attempt.move?

/-- Each revision is tried on what those before it have left. -/
theorem getElem?_attempts (b : Booking) (rs : List Revision) (n : Nat) :
    (b.attempts rs)[n]? = rs[n]?.map (·.attempt (b.revise (rs.take n))) := by
  fun_induction attempts b rs generalizing n with
  | case1 => simp
  | case2 b r rs ih =>
    cases n with
    | zero => rfl
    | succ n => exact ih n

end Booking

/-- Of the values that are given the last one decides, and without any the one that was there. -/
theorem getLastD_filterMap_cons {α β : Type} (f : α → Option β) (a : α) (as : List α) (d : β) :
    ((a :: as).filterMap f).getLastD d = (as.filterMap f).getLastD ((f a).getD d) := by
  cases h : f a with
  | none => rw [List.filterMap_cons_none h, Option.getD_none]
  | some b => rw [List.filterMap_cons_some h, List.getLastD_cons, Option.getD_some]

namespace Booking

theorem revise_eq (b : Booking) (rs : List Revision) :
    b.revise rs =
      { b with
        status := (b.path rs).getLastD b.status
        notes := ((b.attempts rs).filterMap Attempt.notes?).getLastD b.notes
        updatedAt := ((b.attempts rs).filterMap Attempt.time?).getLastD b.updatedAt } := by
  simp only [path]
  fun_induction attempts b rs with
  | case1 => rfl
  | case2 b r rs ih =>
    have hrevise : b.revise (r :: rs) = (r.attempt b).after.revise rs := rfl
    rw [hrevise, ih]
    simp only [getLastD_filterMap_cons, r.after_attempt b]

/-- The way begins at the status that the booking has, and it is one of the table. -/
theorem isChain_path (b : Booking) (rs : List Revision) :
    List.IsChain (fun s t => s.allows t = true) (b.status :: b.path rs) := by
  simp only [path]
  fun_induction attempts b rs with
  | case1 => exact .singleton _
  | case2 b r rs ih =>
    have hstatus : (r.attempt b).after.status = (r.attempt b).move?.getD b.status := by
      rw [r.after_attempt b]
    rw [hstatus] at ih
    cases hmove : (r.attempt b).move? with
    | none =>
      rw [List.filterMap_cons_none hmove]
      rwa [hmove] at ih
    | some s =>
      rw [List.filterMap_cons_some hmove]
      rw [hmove] at ih
      exact .cons_cons (Revision.allows_of_move? hmove) ih

end Booking

/-- Every step of the table leads further, and there are not many. -/
theorem Status.rank_add_length_le {s : Status} {path : List Status}
    (h : List.IsChain (fun s t => s.allows t = true) (s :: path)) :
    s.rank + path.length ≤ 2 := by
  induction path generalizing s with
  | nil => cases s <;> decide
  | cons t path ih =>
    obtain ⟨hallows, hrest⟩ := List.isChain_cons_cons.1 h
    have hlt := rank_lt_of_allows hallows
    have hle := ih hrest
    rw [List.length_cons]
    omega

/-- A booking of a slot that starts before it ends can be made, and any calls may follow. Who and
what was booked, when, and when it was made stays. The status goes along the table, in two steps at
most; notes and the time of the last change are those of the last call that gave any and was not
refused. Refused are just the calls that would move the booking where no way leads. -/
theorem CreateBooking.booking_revised (c : CreateBooking) (id : BookingId) (notes : Notes)
    {start finish : Instant} (inTime : start < finish) (rs : List Revision) :
    ∃ b, c.booking id notes start finish = .ok b ∧
      b.revise rs =
        { id, business := c.business, customer := c.customer, staff := c.staff
          service := c.service, slot := c.slot, start, finish
          status := (b.path rs).getLastD .pending
          notes := ((b.attempts rs).filterMap Attempt.notes?).getLastD notes
          createdAt := c.requestedAt
          updatedAt := ((b.attempts rs).filterMap Attempt.time?).getLastD c.requestedAt } ∧
      List.IsChain (fun s t => s.allows t = true) (.pending :: b.path rs) ∧
      (b.path rs).length ≤ 2 ∧
      (∀ n : Nat, (b.attempts rs)[n]? =
        rs[n]?.map fun r : Revision => r.attempt (b.revise (rs.take n))) ∧
      ∀ a ∈ b.attempts rs, ∀ e, a.outcome = .error e ↔
        e.current = a.before.status ∧ a.revision.Forbidden a.before.status e.wanted := by
  let b : Booking :=
    { id, business := c.business, customer := c.customer, staff := c.staff, service := c.service
      slot := c.slot, start, finish, status := .pending, notes, createdAt := c.requestedAt
      updatedAt := c.requestedAt }
  have hchain := b.isChain_path rs
  have hlength : (b.path rs).length ≤ 2 := by
    have := Status.rank_add_length_le hchain
    omega
  refine ⟨b, booking_eq_ok_iff.2 ⟨inTime, rfl⟩, b.revise_eq rs, hchain, hlength,
    b.getElem?_attempts rs, fun a ha e => ?_⟩
  obtain ⟨n, hn⟩ := List.mem_iff_getElem?.1 ha
  rw [b.getElem?_attempts rs n] at hn
  obtain ⟨r, -, rfl⟩ := Option.map_eq_some_iff.1 hn
  exact Revision.apply_eq_error_iff

/-- A booking is confirmed with new notes, cannot go back, is cancelled, and gets a last note. -/
theorem CreateBooking.booking_revised_cancelled :
    let rs : List Revision :=
      [.update (some .confirmed) (some ⟨"window", by decide⟩) (.ofSecond 1),
        .changeStatus .pending (.ofSecond 2), .cancel (.ofSecond 3), .cancel (.ofSecond 4),
        .update (some .cancelled) none (.ofSecond 5)]
    Sample.slot.start < Sample.slot.finish ∧
      ∃ b, Sample.book.booking (Sample.name _ 1) .empty Sample.slot.start Sample.slot.finish =
          .ok b ∧
        b.revise rs =
          { Sample.booking with
            status := .cancelled, notes := ⟨"window", by decide⟩, updatedAt := .ofSecond 5 } ∧
        b.path rs = [.confirmed, .cancelled] := by
  intro rs
  have inTime : Sample.slot.start < Sample.slot.finish := by decide
  obtain ⟨b, hb, hlast, -⟩ :=
    CreateBooking.booking_revised Sample.book (Sample.name _ 1) .empty inTime rs
  refine ⟨inTime, b, hb, ?_⟩
  cases hb
  exact ⟨hlast, rfl⟩

end BookingDesk
