import BookingDesk.Proofs.HandedOver
import BookingDesk.Proofs.Reached

/-!
# Callers who leave

A caller may leave at any time. What the caller was asking is then not answered, and nothing more
comes of it; a task that was handed over goes on without the caller. So a caller is where the course
of the work is, or has left (`Caller`), and the stage of the request stays where it was when no task
had been handed over (`Caller.Follows`). Requests of callers who come and leave make a
`Request.Visit`; main statement: what the turns of stages keep that can be reached, holds after any
number of turns of a visit (`Visit.keeps`).
-/
namespace BookingDesk

variable {α : Type}

/-! ## A caller -/

inductive Caller (α : Type) where
  | ended (result : α)
  | asks (call : Call) (next : Answer call → Service α)
  /-- A task has been handed over, and this is its next call. -/
  | waits (call : Call) (rest : Answer call → Task Outcome) (next : Option Outcome → Service α)
  /-- The caller has left a task behind. -/
  | left (call : Call) (rest : Answer call → Task Outcome)
  | gone

/-- The caller who waits for a task. -/
def Task.caller (next : Option Outcome → Service α) (after : Outcome → Caller α) :
    Task Outcome → Caller α
  | .done outcome => after outcome
  | .note _ rest => rest.caller next after
  | .ask c rest => .waits c rest next

/-- What is left of a caller who has left the task behind. -/
def Task.orphan : Task Outcome → Caller α
  | .done _ => .gone
  | .note _ rest => rest.orphan
  | .ask c rest => .left c rest

def Service.caller : Service α → Caller α
  | .done a => .ended a
  | .note _ rest => rest.caller
  | .ask c next => .asks c next
  | .handOver task next => task.caller next fun outcome => (next (some outcome)).caller

namespace Caller

def result? : Caller α → Option α
  | ended a => some a
  | _ => none

/-- The next call of the caller or of the task. -/
def call? : Caller α → Option Call
  | asks c _ | waits c _ _ | left c _ => some c
  | ended _ | gone => none

/-- The next call of the task, if there is one under way. -/
def task? : Caller α → Option Call
  | waits c _ _ | left c _ => some c
  | _ => none

theorem call?_of_task? {c : Caller α} {call : Call} (h : c.task? = some call) :
    c.call? = some call := by
  cases c <;> first | exact h | cases h

/-- Makes the next call. -/
def turn (reply : Collaborators) (w : World) : Caller α → Caller α × World
  | asks c next => ((next (reply w c).1).caller, (reply w c).2)
  | waits c rest next =>
    ((rest (reply w c).1).caller next fun outcome => (next (some outcome)).caller, (reply w c).2)
  | left c rest => ((rest (reply w c).1).orphan, (reply w c).2)
  | c => (c, w)

def leave : Caller α → Caller α
  | asks _ _ => gone
  | waits c rest _ => left c rest
  | c => c

/-- Makes the next call, or leaves if there are no collaborators to answer it. -/
def step (reply : Option Collaborators) (w : World) (c : Caller α) : Caller α × World :=
  match reply with
  | none => (c.leave, w)
  | some reply => c.turn reply w

end Caller

/-! ## Callers and stages -/

/-- The course makes the calls of the stage and of all that may come after it. Its result is what
`f` makes of the outcome. -/
def Course.FollowsAs (f : Outcome → α) : Course α → Stage → Prop
  | .ended a, g => ∃ outcome, g.outcome? = some outcome ∧ f outcome = a
  | .calling c next, g =>
    g.call? = some c ∧ ∀ answer, (next answer).FollowsAs f (g.next c answer)

theorem Course.Follows.map {course : Course Outcome} {g : Stage} (h : course.Follows g)
    (f : Outcome → α) : (course.map f).FollowsAs f g := by
  induction course generalizing g with
  | ended outcome => exact ⟨outcome, h, rfl⟩
  | calling c next ih => exact ⟨h.1, fun answer => ih answer (h.2 answer)⟩

theorem Course.Follows.followsAs {course : Course Outcome} {g : Stage} (h : course.Follows g) :
    course.FollowsAs id g := by
  rw [← course.map_id]
  exact h.map id

/-- The caller is where the stage is; or the caller has left, and the stage does not write. -/
inductive Caller.Follows (f : Outcome → α) : Caller α → Stage → Prop
  | ended {a : α} {g : Stage} (follows : (Course.ended a).FollowsAs f g) : Follows f (.ended a) g
  | asks {c : Call} {next : Answer c → Service α} {g : Stage} (question : c.isWrite = false)
      (handsOver : ∀ answer, (next answer).HandsOver)
      (follows : (Course.calling c fun answer => (next answer).course).FollowsAs f g) :
      Follows f (.asks c next) g
  | waits {c : Call} {rest : Answer c → Task Outcome} {next : Option Outcome → Service α}
      {g : Stage} (quiet : ∀ outcome, (next outcome).Quiet)
      (follows : (Course.calling c fun answer =>
        (rest answer).course fun outcome => (next (some outcome)).course).FollowsAs f g) :
      Follows f (.waits c rest next) g
  | left {c : Call} {rest : Answer c → Task Outcome} {after : Outcome → Course α} {g : Stage}
      (quiet : ∀ outcome, ∃ a, after outcome = .ended a)
      (follows : (Course.calling c fun answer => (rest answer).course after).FollowsAs f g) :
      Follows f (.left c rest) g
  | gone {g : Stage} (question : ∀ c, g.call? = some c → c.isWrite = false) : Follows f .gone g

variable {f : Outcome → α} {g : Stage}

theorem follows_of_quiet {s : Service α} (quiet : s.Quiet) (h : s.course.FollowsAs f g) :
    s.caller.Follows f g := by
  induction s with
  | done a => exact .ended h
  | note n rest ih => exact ih quiet h
  | ask c next => cases quiet
  | handOver task next => cases quiet

theorem Task.follows_caller {task : Task Outcome} {next : Option Outcome → Service α}
    (quiet : ∀ outcome, (next outcome).Quiet)
    (h : (task.course fun outcome => (next (some outcome)).course).FollowsAs f g) :
    (task.caller next fun outcome => (next (some outcome)).caller).Follows f g := by
  induction task with
  | done outcome => exact follows_of_quiet (quiet _) h
  | note n rest ih => exact ih h
  | ask c rest => exact .waits quiet h

theorem Task.follows_orphan {task : Task Outcome} {after : Outcome → Course α}
    (quiet : ∀ outcome, ∃ a, after outcome = .ended a) (h : (task.course after).FollowsAs f g) :
    (task.orphan : Caller α).Follows f g := by
  induction task with
  | done outcome =>
    obtain ⟨a, ha⟩ := quiet outcome
    rw [course, ha] at h
    obtain ⟨outcome', hended, -⟩ := h
    refine .gone fun c hc => ?_
    rw [Stage.call?_eq_none_iff.2 ⟨outcome', hended⟩] at hc
    cases hc
  | note n rest ih => exact ih h
  | ask c rest => exact .left quiet h

theorem Service.follows_caller {s : Service α} (handsOver : s.HandsOver)
    (h : s.course.FollowsAs f g) : s.caller.Follows f g := by
  induction s with
  | done a => exact .ended h
  | note n rest ih => exact ih handsOver h
  | ask c next => exact .asks handsOver.1 handsOver.2 h
  | handOver task next => exact Task.follows_caller handsOver.2 h

namespace Caller.Follows

variable {c : Caller α} {call : Call}

theorem call?_eq (h : c.Follows f g) (hc : c.call? = some call) : g.call? = some call := by
  cases h with
  | ended _ | gone _ => cases hc
  | asks _ _ follows | waits _ follows | left _ follows => exact hc ▸ follows.1

/-- A call that writes is one of the task. -/
theorem task?_eq (h : c.Follows f g) (hc : g.call? = some call) (write : call.isWrite = true) :
    c.task? = some call := by
  cases h with
  | ended follows =>
    obtain ⟨outcome, hended, -⟩ := follows
    rw [Stage.call?_eq_none_iff.2 ⟨outcome, hended⟩] at hc
    cases hc
  | asks question _ follows =>
    obtain rfl := Option.some.inj (hc.symm.trans follows.1)
    rw [question] at write
    cases write
  | waits _ follows | left _ follows => exact follows.1.symm.trans hc
  | gone question =>
    rw [question call hc] at write
    cases write

theorem result?_eq {a : α} (h : c.Follows f g) (ha : c.result? = some a) :
    ∃ outcome, g.outcome? = some outcome ∧ f outcome = a := by
  cases h with
  | ended follows =>
    cases ha
    exact follows
  | _ => cases ha

theorem turn (h : c.Follows f g) (hc : c.call? = some call) (reply : Collaborators) (w : World) :
    (c.turn reply w).2 = (g.turn reply w).2 ∧
      (c.turn reply w).1.Follows f (g.turn reply w).1 := by
  have hcall := h.call?_eq hc
  rw [Stage.turn, hcall]
  cases h with
  | ended _ | gone _ => cases hc
  | asks _ handsOver follows =>
    cases hc
    exact ⟨rfl, Service.follows_caller (handsOver _) (follows.2 _)⟩
  | waits quiet follows =>
    cases hc
    exact ⟨rfl, Task.follows_caller quiet (follows.2 _)⟩
  | left quiet follows =>
    cases hc
    exact ⟨rfl, Task.follows_orphan quiet (follows.2 _)⟩

theorem leave (h : c.Follows f g) : c.leave.Follows f g := by
  cases h with
  | ended follows => exact .ended follows
  | asks question _ follows =>
    refine .gone fun c hc => ?_
    obtain rfl := Option.some.inj (follows.1.symm.trans hc)
    exact question
  | waits quiet follows => exact .left (fun outcome => (quiet _).exists_course_eq) follows
  | left quiet follows => exact .left quiet follows
  | gone question => exact .gone question

/-- In each turn the stage goes on with the caller, or stays where it is. -/
theorem step (h : c.Follows f g) (reply : Option Collaborators) (w : World) :
    (Caller.step reply w c).2 = w ∧ (Caller.step reply w c).1.Follows f g ∧
        (reply = none ∨ c.call? = none) ∨
      ∃ answer call, reply = some answer ∧ c.call? = some call ∧ g.call? = some call ∧
        (Caller.step reply w c).2 = (g.turn answer w).2 ∧
        (Caller.step reply w c).1.Follows f (g.turn answer w).1 := by
  cases reply with
  | none => exact .inl ⟨rfl, h.leave, .inl rfl⟩
  | some answer =>
    cases hc : c.call? with
    | none =>
      have hrest : c.turn answer w = (c, w) := by
        cases c <;> first | rfl | cases hc
      refine .inl ⟨congrArg Prod.snd hrest, ?_, .inr rfl⟩
      rw [Caller.step, hrest]
      exact h
    | some call =>
      exact .inr ⟨answer, call, rfl, rfl, h.call?_eq hc, h.turn hc answer w⟩

end Caller.Follows

/-! ## Turns of one of several callers -/

namespace Interleaving.Alike

variable {R : Caller α → Stage → Prop} {d : Interleaving (Caller α)} {e : Interleaving Stage}
  {i : Nat} {c : Caller α} {step : World → Caller α → Caller α × World}

/-- A caller moves and the stages do not. -/
theorem turn_left (h : Alike R d e) (hc : d.strands[i]? = some c) (hg : e.strands[i]? = some g)
    (hworld : (step d.world c).2 = d.world) (hR : R (step d.world c).1 g) :
    Alike R (d.turn step i) e := by
  refine ⟨?_, fun j => ?_⟩
  · rw [turn_of_some hc, hworld, h.1]
  · rw [getElem?_turn hc]
    split
    · rename_i hj
      rw [hj, hg]
      exact .some hR
    · exact h.2 j

/-- A caller and a stage move. -/
theorem turn_both {turn : World → Stage → Stage × World} (h : Alike R d e)
    (hc : d.strands[i]? = some c) (hg : e.strands[i]? = some g)
    (hworld : (step d.world c).2 = (turn d.world g).2)
    (hR : R (step d.world c).1 (turn d.world g).1) :
    Alike R (d.turn step i) (e.turn turn i) := by
  rw [h.1] at hworld hR
  refine ⟨?_, fun j => ?_⟩
  · rw [turn_of_some hc, turn_of_some hg, h.1]
    exact hworld
  · rw [getElem?_turn hc, getElem?_turn hg, h.1]
    split
    · exact .some hR
    · exact h.2 j

theorem strand (h : Alike R d e) (hc : d.strands[i]? = some c) :
    ∃ g, e.strands[i]? = some g ∧ R c g := by
  have hi := h.2 i
  rw [hc] at hi
  revert hi
  generalize e.strands[i]? = x
  rintro ⟨hR⟩
  exact ⟨_, rfl, hR⟩

theorem strand_right (h : Alike R d e) (hg : e.strands[i]? = some g) :
    ∃ c, d.strands[i]? = some c ∧ R c g := by
  have hi := h.2 i
  rw [hg] at hi
  revert hi
  generalize d.strands[i]? = x
  rintro ⟨hR⟩
  exact ⟨_, rfl, hR⟩

end Interleaving.Alike

/-! ## Visits -/

namespace Request

/-- Requests of callers who go on in turns and may leave. -/
structure Visit where
  requests : List Request
  start : World
  /-- Whose turn it is, and whether the caller leaves instead of going on. -/
  turns : List (Nat × Bool)

namespace Visit

/-- After so many turns. -/
def after (v : Visit) (n : Nat) : Interleaving (Caller Outcome) :=
  Interleaving.playWith (fun leaves => Caller.step (if leaves then none else some World.answer))
    ⟨v.start, v.requests.map fun r => r.service.caller⟩ (v.turns.take n)

def row (v : Visit) (n : Nat) (id : BookingId) : Option Booking :=
  (v.after n).world.bookings.get? id

/-- What the caller has been told. -/
def result? (v : Visit) (n i : Nat) : Option Outcome := (v.after n).strands[i]?.bind Caller.result?

/-- The call that is made in this turn, and whose it is. -/
def called? (v : Visit) (n : Nat) : Option (Nat × Call) :=
  match v.turns[n]? with
  | some (i, false) => ((v.after n).strands[i]?.bind Caller.call?).map (i, ·)
  | _ => none

/-- Some task is under way. -/
def Outstanding (v : Visit) (n : Nat) : Prop :=
  ∃ (i : Nat) (c : Caller Outcome), (v.after n).strands[i]? = some c ∧ c.task?.isSome = true

/-! ## Turn by turn -/

variable {v : Visit} {n i : Nat} {call : Call} {g : Stage}

/-- The stages after so many turns. -/
def stagesAfter (v : Visit) : Nat → Interleaving Stage
  | 0 => stages v.requests v.start
  | n + 1 => (v.called? n).elim (v.stagesAfter n) fun p =>
    (v.stagesAfter n).turn (Stage.turn World.answer) p.1

theorem after_succ (v : Visit) (n : Nat) :
    v.after (n + 1) = v.turns[n]?.elim (v.after n) fun p =>
      (v.after n).turn (Caller.step (if p.2 then none else some World.answer)) p.1 := by
  rw [after, Interleaving.playWith, List.take_add_one, List.foldl_append]
  cases v.turns[n]? <;> rfl

theorem stagesAfter_succ_of_none (h : v.called? n = none) :
    v.stagesAfter (n + 1) = v.stagesAfter n := by
  rw [stagesAfter, h, Option.elim_none]

theorem stagesAfter_succ_of_some (h : v.called? n = some (i, call))
    (hg : (v.stagesAfter n).strands[i]? = some g) :
    v.stagesAfter (n + 1) = ⟨(g.act (v.stagesAfter n).world).2,
      (v.stagesAfter n).strands.set i (g.act (v.stagesAfter n).world).1⟩ := by
  rw [stagesAfter, h, Option.elim_some, Interleaving.turn_of_some hg]

/-- Callers are where the stages of their requests are. -/
theorem alike_after (v : Visit) (n : Nat) :
    Interleaving.Alike (Caller.Follows id) (v.after n) (v.stagesAfter n) := by
  induction n with
  | zero =>
    refine ⟨rfl, fun i => ?_⟩
    simp only [after, List.take_zero, Interleaving.playWith, List.foldl_nil, stagesAfter, stages,
      List.getElem?_map]
    cases v.requests[i]? with
    | none => exact .none
    | some r => exact .some (Service.follows_caller r.handsOver (follows_start r).followsAs)
  | succ n ih =>
    rw [after_succ]
    cases hturn : v.turns[n]? with
    | none =>
      have hcalled : v.called? n = none := by rw [called?, hturn]
      rw [stagesAfter_succ_of_none hcalled]
      exact ih
    | some p =>
      obtain ⟨i, leaves⟩ := p
      rw [Option.elim_some]
      cases hc : (v.after n).strands[i]? with
      | none =>
        have hcalled : v.called? n = none := by
          rw [called?, hturn]
          cases leaves <;> simp [hc]
        rw [stagesAfter_succ_of_none hcalled, Interleaving.turn_of_none hc]
        exact ih
      | some c =>
        obtain ⟨g, hg, hfollows⟩ := ih.strand hc
        rcases hfollows.step (if leaves then none else some World.answer) (v.after n).world with
          ⟨hworld, hnext, hidle⟩ | ⟨answer, call, hreply, hcall, -, hworld, hnext⟩
        · have hcalled : v.called? n = none := by
            rw [called?, hturn]
            cases leaves <;> simp_all
          rw [stagesAfter_succ_of_none hcalled]
          exact ih.turn_left hc hg hworld hnext
        · cases leaves with
          | true => cases hreply
          | false =>
            cases hreply
            have hcalled : v.called? n = some (i, call) := by
              rw [called?, hturn]
              simp [hc, hcall]
            rw [stagesAfter, hcalled]
            exact ih.turn_both hc hg hworld hnext

/-- A call that is made is that of a stage, which takes its turn. -/
theorem turn_of_called (hcalled : v.called? n = some (i, call)) :
    ∃ g, (v.stagesAfter n).strands[i]? = some g ∧ g.call? = some call ∧
      v.stagesAfter (n + 1) = ⟨(g.act (v.stagesAfter n).world).2,
        (v.stagesAfter n).strands.set i (g.act (v.stagesAfter n).world).1⟩ := by
  have hcall : (v.after n).strands[i]?.bind Caller.call? = some call := by
    unfold called? at hcalled
    split at hcalled
    · obtain ⟨call', hcall, heq⟩ := Option.map_eq_some_iff.1 hcalled
      cases heq
      exact hcall
    · cases hcalled
  obtain ⟨c, hc, hcall⟩ := Option.bind_eq_some_iff.1 hcall
  obtain ⟨g, hg, hfollows⟩ := (v.alike_after n).strand hc
  exact ⟨g, hg, hfollows.call?_eq hcall, stagesAfter_succ_of_some hcalled hg⟩

/-- In each turn a stage makes the call that is made, or no call is made. -/
theorem turn_cases (v : Visit) (n : Nat) :
    v.called? n = none ∧ v.stagesAfter (n + 1) = v.stagesAfter n ∨
      ∃ i call g, v.called? n = some (i, call) ∧ (v.stagesAfter n).strands[i]? = some g ∧
        g.call? = some call ∧
        v.stagesAfter (n + 1) = ⟨(g.act (v.stagesAfter n).world).2,
          (v.stagesAfter n).strands.set i (g.act (v.stagesAfter n).world).1⟩ := by
  cases hcalled : v.called? n with
  | none => exact .inl ⟨rfl, stagesAfter_succ_of_none hcalled⟩
  | some p =>
    obtain ⟨g, hturn⟩ := turn_of_called hcalled
    exact .inr ⟨p.1, p.2, g, rfl, hturn⟩

/-- What the turns of stages keep that can be reached, and what is kept when no call is made, holds
after any number of turns. -/
theorem keeps (fresh : Fresh v.requests v.start) {P : Nat → Prop} (start : P 0)
    (rests : ∀ n, v.called? n = none → v.stagesAfter (n + 1) = v.stagesAfter n → P n → P (n + 1))
    (turn : ∀ n i call g g' w, Underway v.requests v.start (v.stagesAfter n) →
      v.called? n = some (i, call) → (v.stagesAfter n).strands[i]? = some g →
      g.call? = some call → g.act (v.stagesAfter n).world = (g', w) →
      v.stagesAfter (n + 1) = ⟨w, (v.stagesAfter n).strands.set i g'⟩ → P n → P (n + 1))
    (n : Nat) : Underway v.requests v.start (v.stagesAfter n) ∧ P n := by
  induction n with
  | zero => exact ⟨underway_stages fresh, start⟩
  | succ n ih =>
    obtain ⟨hunder, hP⟩ := ih
    rcases v.turn_cases n with ⟨hcalled, hstages⟩ | ⟨i, call, g, hcalled, hg, hcall, hstages⟩
    · exact ⟨hstages ▸ hunder, rests n hcalled hstages hP⟩
    · have t := Stage.turns (v.stagesAfter n).world g
      exact ⟨hstages ▸ hunder.turn fresh hg t,
        turn n i call g _ _ hunder hcalled hg hcall rfl hstages hP⟩

theorem row_eq (v : Visit) (n : Nat) (id : BookingId) :
    v.row n id = (v.stagesAfter n).world.bookings.get? id := by
  rw [row, (v.alike_after n).1]

end Visit

end Request
end BookingDesk
