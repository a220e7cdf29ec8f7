import BookingDesk.Proofs.GivenUp

/-!
# Two ways to change a status

A booking is confirmed, cancelled or completed by an operation of its own, or by an update that
gives the status and no notes. Both look the booking up, and what follows hangs on what is found
alone: unless the booking has the wanted status already, they go on with the same work. A booking
that keeps its status is only stored again (`Service.overwrite`). Main statement: the two ways lead
to the same end, but for what is noted, whatever the faults and the jobs under way
(`Move.update_verdict`).
-/
namespace BookingDesk

variable {α β : Type}

/-! ## One piece of work after another -/

namespace Timeline

variable {t : Timeline} {w : World} {fs : Faults}

/-- Goes on with what some work came to, if it came to an end. -/
def proceed (k : α → Timeline → Ending β × Timeline) : Ending α × Timeline → Ending β × Timeline
  | (.finished a, t) => k a t
  | (.givenUp, t) => (.givenUp, t)
  | (.crashed, t) => (.crashed, t)

theorem run_andThen (deadline : Option Deadline) (s : Service α) (k : α → Service β)
    (t : Timeline) :
    run deadline (s.andThen k) t = proceed (fun a => run deadline (k a)) (run deadline s t) := by
  induction s generalizing t with
  | done a => rfl
  | note n rest ih => exact ih (t.note n)
  | ask c next ih =>
    simp only [Service.andThen, run]
    cases deadline.filter (·.isMissed ((t.place c).clock + (t.faults.current c.kind).1)) with
    | some d => rfl
    | none =>
      obtain ⟨answer, t'⟩ := ((t.place c).passUntil
        ((t.place c).clock + (t.faults.current c.kind).1)).effect c (t.faults.current c.kind).2
      cases answer with
      | none => rfl
      | some answer => exact ih answer t'
  | handOver task next ih =>
    simp only [Service.andThen, run]
    obtain ⟨turn, t₁⟩ := (t.enqueue (.awaited 0)).untilTurn (deadline.map Deadline.time)
    cases turn with
    | none => rfl
    | some number =>
      dsimp only
      obtain ⟨ending, t₂⟩ := awaitTask (deadline.map Deadline.time) task t₁
      cases ending with
      | finished outcome => exact ih (some outcome) t₂
      | givenUp => rfl
      | crashed => exact ih none t₂

/-- What follows a task that is waited for goes on with what is told of it. -/
theorem run_handOver (deadline : Option Deadline) (task : Task Outcome)
    (next : Option Outcome → Service α) (t : Timeline) :
    run deadline (.handOver task next) t =
      proceed (fun told => run deadline (next told)) (run deadline (.handOver task .done) t) :=
  run_andThen deadline (.handOver task .done) next t

/-! ## Runs that differ in their notices -/

/-- The runs end alike, and the desks that they leave differ in the notices at most. -/
def SameButNotices (r r' : Ending α × Timeline) : Prop :=
  r.1 = r'.1 ∧ r.2 = { r'.2 with notices := r.2.notices }

theorem SameButNotices.refl (r : Ending α × Timeline) : SameButNotices r r := ⟨rfl, rfl⟩

theorem SameButNotices.proceed {k k' : α → Timeline → Ending β × Timeline}
    (h : ∀ a t, SameButNotices (k a t) (k' a t)) (r : Ending α × Timeline) :
    SameButNotices (Timeline.proceed k r) (Timeline.proceed k' r) := by
  obtain ⟨ending, t⟩ := r
  cases ending with
  | finished a => exact h a t
  | givenUp => exact .refl _
  | crashed => exact .refl _

/-- Waiting for a task is the same, whatever is noted when it has ended. -/
theorem sameButNotices_handOver {next next' : Option Outcome → Service α}
    {deadline : Option Deadline}
    (h : ∀ outcome t,
      SameButNotices (run deadline (next outcome) t) (run deadline (next' outcome) t))
    (task : Task Outcome) (t : Timeline) :
    SameButNotices (run deadline (.handOver task next) t)
      (run deadline (.handOver task next') t) := by
  rw [run_handOver, run_handOver deadline task next']
  exact .proceed h _

end Timeline

/-! ## What a change does -/

namespace Booking

variable {b : Booking} {wanted : Status}

/-- An update that gives another status and no notes is a change of status. -/
theorem update_eq_changeStatus (h : b.status ≠ wanted) (time : Instant) :
    b.update (some wanted) none time = b.changeStatus wanted time := by
  simp only [update, if_neg (Ne.symm h), changeStatus]
  split <;> rfl

theorem update_of_status_eq (h : b.status = wanted) (time : Instant) :
    b.update (some wanted) none time = .ok { b with updatedAt := time } := by
  simp only [update, if_pos h.symm, Option.getD_none]

theorem changeStatus_of_status_eq (h : b.status = wanted) (time : Instant) :
    b.changeStatus wanted time = .error ⟨wanted, wanted⟩ := by
  rw [changeStatus, h, Status.allows_self, if_neg Bool.false_ne_true]

/-- A booking that keeps its status keeps its slot. -/
theorem givesUpSlot_self (s : Status) : givesUpSlot s s = false := by cases s <;> rfl

end Booking

namespace Service

variable {f : Booking → Except ForbiddenChange Booking}

/-- Asks for a booking of a business, and no more. -/
def lookUp (business : BusinessId) (booking : BookingId) :
    Service (Except Failure (Option Booking)) :=
  .ask (.find business booking) .done

/-- What a change does with what it found. -/
def revise (f : Booking → Except ForbiddenChange Booking) (notice : Status → Booking → Notice) :
    Except Failure (Option Booking) → Service Outcome
  | .error failure => fail (.bookingsFailed failure)
  | .ok none => fail .bookingNotFound
  | .ok (some current) =>
    match f current with
    | .error e => fail (.forbidden e)
    | .ok changed =>
      await (commit changed current.status) fun b => .note (notice current.status b) (.done (.ok b))

theorem change_eq_lookUp_andThen (business : BusinessId) (booking : BookingId)
    (f : Booking → Except ForbiddenChange Booking) (notice : Status → Booking → Notice) :
    change business booking f notice = (lookUp business booking).andThen (revise f notice) := by
  simp only [change, load, lookUp, andThen, ask.injEq, heq_eq_eq, true_and]
  funext found
  rcases found with failure | _ | current <;> rfl

/-- What is said of a version of a booking that was to be stored. -/
def stored (b : Booking) : Except Failure Bool → Outcome
  | .error f => .error (.bookingsFailed f)
  | .ok false => .error .modifiedMeanwhile
  | .ok true => .ok b

/-- Stores a version of a booking in the place of one with the same status, and does no more. -/
def overwrite (b : Booking) : Task Outcome :=
  .ask (.replace b b.status) fun answer => .done (stored b answer)

/-- No slot is given back. -/
theorem commit_status_self (b : Booking) : commit b b.status = overwrite b := by
  refine congrArg (Task.ask (.replace b b.status)) (funext fun answer => ?_)
  rcases answer with f | _ | _
  · rfl
  · rfl
  · rw [Booking.givesUpSlot_self, if_neg Bool.false_ne_true, stored]

/-- A caller who waits for a version to be stored that has the status of the one before. -/
def storeAgain (b : Booking) (notice : Status → Booking → Notice) : Service Outcome :=
  await (overwrite b) fun c => .note (notice b.status c) (.done (.ok c))

/-- A change that keeps the status of what it found only stores it again. -/
theorem revise_of_status_eq {current changed : Booking} (hf : f current = .ok changed)
    (kept : changed.status = current.status) (notice : Status → Booking → Notice) :
    revise f notice (.ok (some current)) = storeAgain changed notice := by
  rw [revise, storeAgain, ← commit_status_self, kept]
  simp only [hf]

end Service

namespace Timeline

open Service

variable {t : Timeline} {w : World} {fs : Faults} {deadline : Option Deadline}
  {business : BusinessId} {booking : BookingId} {f g : Booking → Except ForbiddenChange Booking}

/-- Changes that agree on what may be found are made alike. -/
theorem sameButNotices_change (notice notice' : Status → Booking → Notice)
    (h : ∀ b, (run deadline (lookUp business booking) t).1 = .finished (.ok (some b)) → f b = g b) :
    SameButNotices (run deadline (change business booking f notice) t)
      (run deadline (change business booking g notice') t) := by
  rw [change_eq_lookUp_andThen, change_eq_lookUp_andThen, run_andThen, run_andThen]
  revert h
  generalize run deadline (lookUp business booking) t = looked
  intro h
  obtain ⟨ending, t₁⟩ := looked
  cases ending with
  | givenUp => exact .refl _
  | crashed => exact .refl _
  | finished found =>
    rcases found with failure | _ | current
    · exact .refl _
    · exact .refl _
    rw [proceed, proceed, revise, revise, h current rfl]
    cases g current with
    | error e => exact .refl _
    | ok changed =>
      refine sameButNotices_handOver (fun outcome t => ?_) _ t₁
      rcases outcome with _ | e | b
      · exact .refl _
      · exact .refl _
      · exact ⟨rfl, rfl⟩

theorem run_change_of_found {found : Except Failure (Option Booking)}
    (looked : (run deadline (lookUp business booking) t).1 = .finished found)
    (f : Booking → Except ForbiddenChange Booking) (notice : Status → Booking → Notice) :
    run deadline (change business booking f notice) t =
      run deadline (revise f notice found) (run deadline (lookUp business booking) t).2 := by
  have hlooked : run deadline (lookUp business booking) t =
      (.finished found, (run deadline (lookUp business booking) t).2) := Prod.ext looked rfl
  rw [change_eq_lookUp_andThen, run_andThen]
  exact congrArg _ hlooked

/-! ## Calls on an idle desk -/

/-- Whatever becomes of a call, the desk stays idle. -/
theorem Idle.effect_snd (h : t.Idle w fs) (c : Call) (e : Effect) :
    (t.effect c e).2.Idle (World.struck e w c).2 fs ∨ (t.effect c e).2.Idle w fs := by
  by_cases crash : e = .crash
  · exact .inr (crash ▸ h)
  · obtain ⟨t', heffect, hidle⟩ := h.effect crash c
    rw [heffect]
    exact .inl hidle

/-- Whoever asks a question on an idle desk changes nothing else. -/
theorem Idle.run_ask (h : t.Idle w fs) {c : Call} (hc : c.isWrite = false)
    (deadline : Option Deadline) :
    (run deadline (.ask c .done) t).2.Idle w (fs.afterCall c.kind) ∧
      (run deadline (.ask c .done) t).2.calls = t.calls ++ [c] := by
  have hwaited : ∀ time, ((t.place c).passUntil time).Idle w (fs.afterCall c.kind) ∧
      ((t.place c).passUntil time).calls = t.calls ++ [c] := fun time =>
    ⟨(h.place c).passUntil time, by rw [(h.place c).passUntil_eq]; rfl⟩
  simp only [run]
  cases deadline.filter (·.isMissed ((t.place c).clock + (t.faults.current c.kind).1)) with
  | some d => exact hwaited d.time
  | none =>
    dsimp only
    obtain ⟨hidle, hcalls⟩ := hwaited ((t.place c).clock + (t.faults.current c.kind).1)
    have hdone := hidle.effect_snd c (t.faults.current c.kind).2
    rw [World.struck_snd_of_not_isWrite hc, or_self] at hdone
    rw [← effect_calls _ c (t.faults.current c.kind).2] at hcalls
    generalize ((t.place c).passUntil _).effect c _ = r at hdone hcalls ⊢
    obtain ⟨answer, t₁⟩ := r
    cases answer with
    | none => exact ⟨hdone, hcalls⟩
    | some answer => exact ⟨hdone, hcalls⟩

theorem Idle.run_lookUp (h : t.Idle w fs) (business : BusinessId) (booking : BookingId)
    (deadline : Option Deadline) :
    (run deadline (lookUp business booking) t).2.Idle w (fs.afterCall .find) ∧
      (run deadline (lookUp business booking) t).2.calls =
        t.calls ++ [.find business booking] :=
  h.run_ask rfl deadline

/-- A task that makes one call ends with what it makes of the answer. -/
theorem awaitTask_ask_done {limit : Option Nat} {c : Call} {tell : Answer c → Outcome}
    {outcome : Outcome}
    (h : (awaitTask limit (.ask c fun answer => .done (tell answer)) t).1 = .finished outcome) :
    ∃ answer, outcome = tell answer := by
  simp only [awaitTask] at h
  split at h
  · cases h
  · split at h
    · cases h
      exact ⟨_, rfl⟩
    · cases h

/-- So does a caller who waits for it, unless it breaks down. -/
theorem told_of_ask_done (c : Call) (tell : Answer c → Outcome) {told : Option Outcome}
    (h : (run deadline (.handOver (.ask c fun answer => .done (tell answer)) .done) t).1 =
      .finished told) :
    told = none ∨ ∃ answer, told = some (tell answer) := by
  simp only [run] at h
  split at h
  · cases h
  · split at h
    · rename_i outcome _ hend
      cases h
      obtain ⟨answer, rfl⟩ := awaitTask_ask_done (congrArg Prod.fst hend)
      exact .inr ⟨answer, rfl⟩
    · cases h
      exact .inl rfl
    · cases h

/-- A caller who waits for a task that makes one call makes that call. -/
theorem Idle.await_ask_done (h : t.Idle w fs) (c : Call) (tell : Answer c → Outcome)
    {next : Option Outcome → Service α} (quiet : ∀ outcome, (next outcome).Quiet) :
    (run none (.handOver (.ask c fun answer => .done (tell answer)) next) t).2.calls =
      t.calls ++ [c] := by
  have hquiet : ∀ outcome t₁, (run none (next outcome) t₁).2.calls = t₁.calls := by
    intro outcome t₁
    obtain ⟨a, t₂, hrun, -, hcalls⟩ := run_quiet (quiet outcome) none t₁
    rw [hrun, hcalls]
  simp only [run, Option.map_none, h.untilTurn_enqueue, awaitTask, h.faults]
  obtain ⟨r, hplace, ⟨time, rfl⟩ | ⟨hlimit, -⟩⟩ := h.place_cases c (fs.current c.kind).1 none
  · have hdone := ((h.place c).wait time).effect_snd c (fs.current c.kind).2
    have hcalls := effect_calls { t.place c with clock := time } c (fs.current c.kind).2
    simp only [hplace]
    generalize Timeline.effect _ c (fs.current c.kind).2 = r at hdone hcalls ⊢
    obtain ⟨answer, t₁⟩ := r
    have hsettle : t₁.settle = t₁ := hdone.elim Idle.settle_eq Idle.settle_eq
    cases answer with
    | none =>
      dsimp only
      rw [hquiet, hsettle]
      exact hcalls
    | some answer =>
      dsimp only
      rw [hquiet, hsettle]
      exact hcalls
  · exact absurd rfl hlimit

theorem Idle.calls_storeAgain (h : t.Idle w fs) (b : Booking)
    (notice : Status → Booking → Notice) :
    (run none (storeAgain b notice) t).2.calls = t.calls ++ [.replace b b.status] := by
  refine h.await_ask_done (.replace b b.status) (stored b) fun told => ?_
  rcases told with _ | e | c <;> trivial

/-- No change of status is checked where a version is only stored again. -/
theorem ne_forbidden_of_storeAgain {b : Booking} {notice : Status → Booking → Notice}
    {outcome : Outcome}
    (h : (run deadline (storeAgain b notice) t).1 = .finished outcome) (e : ForbiddenChange) :
    outcome ≠ .error (.forbidden e) := by
  rintro rfl
  rw [storeAgain, await, run_handOver] at h
  have htold : ∀ told, (run deadline (.handOver (overwrite b) .done) t).1 = .finished told →
      told = none ∨ ∃ answer, told = some (stored b answer) := fun _ =>
    told_of_ask_done (.replace b b.status) (stored b)
  generalize run deadline (.handOver (overwrite b) .done) t = r at h htold
  obtain ⟨ending, t₁⟩ := r
  cases ending with
  | givenUp => cases h
  | crashed => cases h
  | finished told =>
    obtain rfl | ⟨answer, rfl⟩ := htold told rfl
    · cases h
    · rcases answer with f | _ | _ <;> cases h

end Timeline

/-! ## Confirming, cancelling, completing -/

/-- The changes that have an operation of their own. -/
inductive Move where
  | confirm | cancel | complete
deriving DecidableEq, Repr

namespace Move

def status : Move → Status
  | confirm => .confirmed
  | cancel => .cancelled
  | complete => .completed

def service : Move → ChangeStatus → Service Outcome
  | confirm => Service.confirm
  | cancel => Service.cancel
  | complete => Service.complete

/-- The update that asks for the same. -/
def update (m : Move) (c : ChangeStatus) : UpdateBooking :=
  ⟨c.business, c.booking, some m.status, none, c.requestedAt⟩

theorem service_eq_change (m : Move) (c : ChangeStatus) :
    m.service c = Service.change c.business c.booking (·.changeStatus m.status c.requestedAt)
      .statusChanged := by
  cases m <;> rfl

theorem update_eq_change (m : Move) (c : ChangeStatus) :
    Service.update (m.update c) = Service.change c.business c.booking
      (·.update (some m.status) none c.requestedAt) .updated := rfl

open Timeline Service

/-- Unless the booking that is found has the wanted status, the update and the operation of its own
end alike, with the same calls and the same books. A booking that has it is refused by the one, with
nothing written, and by the other it is only stored again, whatever its status. -/
theorem update_verdict (m : Move) (c : ChangeStatus) (deadline : Option Deadline) (t : Timeline) :
    let looked := run deadline (lookUp c.business c.booking) t
    let general := run deadline (Service.update (m.update c)) t
    let own := run deadline (m.service c) t
    ((∀ b, looked.1 = .finished (.ok (some b)) → b.status ≠ m.status) →
      SameButNotices general own) ∧
    ∀ b, looked.1 = .finished (.ok (some b)) → b.status = m.status →
      own = (.finished (.error (.forbidden ⟨m.status, m.status⟩)), looked.2) ∧
      general = run deadline (storeAgain { b with updatedAt := c.requestedAt } .updated) looked.2 ∧
      (∀ outcome, general.1 = .finished outcome → ∀ e, outcome ≠ .error (.forbidden e)) ∧
      ∀ w fs, t.Idle w fs →
        looked.2.world = w ∧ looked.2.calls = t.calls ++ [.find c.business c.booking] ∧
        (deadline = none → general.2.calls =
          looked.2.calls ++ [.replace { b with updatedAt := c.requestedAt } m.status]) := by
  intro looked general own
  refine ⟨fun hother => ?_, fun b hfound hsame => ?_⟩
  · have hagree := fun b hb => Booking.update_eq_changeStatus (hother b hb) c.requestedAt
    have halike := sameButNotices_change .updated .statusChanged hagree
    rwa [← m.update_eq_change, ← m.service_eq_change] at halike
  have hown : own = (.finished (.error (.forbidden ⟨m.status, m.status⟩)), looked.2) := by
    simp only [own]
    rw [m.service_eq_change, run_change_of_found hfound, revise]
    simp only [Booking.changeStatus_of_status_eq hsame]
    rfl
  have hgeneral : general =
      run deadline (storeAgain { b with updatedAt := c.requestedAt } .updated) looked.2 := by
    have hupdate := Booking.update_of_status_eq hsame c.requestedAt
    have hkept : ({ b with updatedAt := c.requestedAt } : Booking).status = b.status := rfl
    have hagain := revise_of_status_eq (f := (·.update (some m.status) none c.requestedAt))
      hupdate hkept .updated
    simp only [general]
    rw [m.update_eq_change, run_change_of_found hfound, hagain]
  refine ⟨hown, hgeneral, fun outcome hend => ?_, fun w fs idle => ?_⟩
  · exact ne_forbidden_of_storeAgain (hgeneral ▸ hend)
  · obtain ⟨hidle, hcalls⟩ := idle.run_lookUp c.business c.booking deadline
    refine ⟨hidle.world, hcalls, ?_⟩
    rintro rfl
    rw [hgeneral, ← hsame]
    exact hidle.calls_storeAgain _ _

/-- A pending booking is cancelled while the keeper of slots is slow and fails after all. After
that it is cancelled again. -/
theorem update_verdict_cancel :
    let fault : Fault := ⟨0, none, 5, .failAfter "down"⟩
    let c : ChangeStatus := ⟨Sample.booking.business, Sample.booking.id, .ofSecond 1⟩
    let cancelled : Booking := { Sample.booking with status := .cancelled }
    let desk (b : Booking) : Timeline :=
      { Timeline.start (Sample.world.insert b) with faults := Faults.set .empty .release fault }
    let looked (b : Booking) := run none (lookUp c.business c.booking) (desk b)
    let general (b : Booking) := run none (Service.update (Move.cancel.update c)) (desk b)
    let own (b : Booking) := run none (Service.cancel c) (desk b)
    ((looked Sample.booking).1 = .finished (.ok (some Sample.booking)) ∧
      Sample.booking.status ≠ .cancelled ∧
      SameButNotices (general Sample.booking) (own Sample.booking)) ∧
    (looked cancelled).1 = .finished (.ok (some cancelled)) ∧
      own cancelled =
        (.finished (.error (.forbidden ⟨.cancelled, .cancelled⟩)), (looked cancelled).2) ∧
      (general cancelled).2.calls =
        (looked cancelled).2.calls ++
          [.replace { cancelled with updatedAt := .ofSecond 1 } .cancelled] := by
  intro fault c cancelled desk looked general own
  have hfound : ∀ b, (looked Sample.booking).1 = .finished (.ok (some b)) →
      b.status ≠ .cancelled := by
    intro b hb
    have hsame : Sample.booking = b := by
      injection hb with hb
      injection hb with hb
      injection hb
    exact hsame ▸ by decide
  have idle : (desk cancelled).Idle _ _ := (idle_start (Sample.world.insert cancelled)).equip _
  obtain ⟨hown, -, -, hidle⟩ :=
    (Move.cancel.update_verdict c none (desk cancelled)).2 cancelled rfl rfl
  exact ⟨⟨rfl, by decide, (Move.cancel.update_verdict c none (desk Sample.booking)).1 hfound⟩,
    rfl, hown, (hidle _ _ idle).2.2 rfl⟩

end Move
end BookingDesk
