import BookingDesk.Proofs.OneByOne
import Mathlib.Data.List.Forall2

/-!
# Failures in other words

A collaborator tells in its own words why it failed. Work is alike if it makes the same calls and
goes on alike after the same replies, and after any two failures (`Service.Alike`). Timelines are
alike if their jobs are, and if their faults differ at most in the words. Main statement: work that
is alike ends alike on timelines that are, and leaves them so (`Timeline.Alike.run`).
-/
namespace BookingDesk

variable {α β : Type}

/-! ## Replies, errors and faults -/

/-- The reply is the same, or both calls failed. -/
inductive SameReply : Except Failure α → Except Failure α → Prop
  | ok (a : α) : SameReply (.ok a) (.ok a)
  | error (f g : Failure) : SameReply (.error f) (.error g)

theorem SameReply.refl (x : Except Failure α) : SameReply x x := by
  cases x with
  | error f => exact .error f f
  | ok a => exact .ok a

/-- The error is the same, but for the words of a collaborator. -/
inductive ServiceError.Alike : ServiceError → ServiceError → Prop
  | refl (e : ServiceError) : Alike e e
  | bookingsFailed (f g : Failure) : Alike (.bookingsFailed f) (.bookingsFailed g)
  | slotsFailed (f g : Failure) : Alike (.slotsFailed f) (.slotsFailed g)
  | customersFailed (f g : Failure) : Alike (.customersFailed f) (.customersFailed g)
  | staffFailed (f g : Failure) : Alike (.staffFailed f) (.staffFailed g)

/-- The result is the same, or errors that are alike. -/
inductive SameResult : Except ServiceError α → Except ServiceError α → Prop
  | ok (a : α) : SameResult (.ok a) (.ok a)
  | error {e e' : ServiceError} (h : e.Alike e') : SameResult (.error e) (.error e')

inductive Effect.Alike : Effect → Effect → Prop
  | refl (e : Effect) : Alike e e
  | fail (m m' : String) : Alike (.fail m) (.fail m')
  | failAfter (m m' : String) : Alike (.failAfter m) (.failAfter m')

structure Fault.Alike (f g : Fault) : Prop where
  skip : f.skip = g.skip
  times : f.times = g.times
  delay : f.delay = g.delay
  effect : f.effect.Alike g.effect

/-- The faults are the same, but for the words with which calls fail. -/
def Faults.Alike (fs gs : Faults) : Prop := ∀ k, Option.Rel Fault.Alike (fs.get? k) (gs.get? k)

theorem Faults.alike_empty : Alike .empty .empty := fun _ => .none

theorem Fault.Alike.strikes_eq {f g : Fault} (h : f.Alike g) : f.strikes = g.strikes := by
  rw [strikes, strikes, h.skip, h.times]

theorem Fault.Alike.next {f g : Fault} (h : f.Alike g) : f.next.Alike g.next := by
  rw [Fault.next, Fault.next, h.skip]
  split
  · exact ⟨rfl, h.times, h.delay, h.effect⟩
  · exact ⟨rfl, congrArg (Option.map (· - 1)) h.times, h.delay, h.effect⟩

namespace Faults.Alike

variable {fs gs : Faults}

theorem current (h : fs.Alike gs) (k : Call.Kind) :
    (fs.current k).1 = (gs.current k).1 ∧ (fs.current k).2.Alike (gs.current k).2 := by
  have hk := h k
  rw [Faults.current, Faults.current]
  revert hk
  generalize fs.get? k = x
  generalize gs.get? k = y
  rintro (hfault | _)
  · dsimp only
    rw [hfault.strikes_eq]
    split
    · exact ⟨hfault.delay, hfault.effect⟩
    · exact ⟨rfl, .refl _⟩
  · exact ⟨rfl, .refl _⟩

theorem set (h : fs.Alike gs) (k : Call.Kind) {f g : Fault} (hfault : f.Alike g) :
    (fs.set k f).Alike (gs.set k g) := by
  intro k'
  rw [Faults.get?_set, Faults.get?_set]
  split
  · exact .some hfault
  · exact h k'

theorem afterCall (h : fs.Alike gs) (k : Call.Kind) : (fs.afterCall k).Alike (gs.afterCall k) := by
  intro k'
  have hk := h k'
  rw [Faults.afterCall, Faults.afterCall, Table.get?_modify, Table.get?_modify]
  split
  · revert hk
    generalize fs.get? k' = x
    generalize gs.get? k' = y
    rintro (hfault | _)
    · exact .some hfault.next
    · exact .none
  · exact hk

end Faults.Alike

/-! ## Work -/

/-- The same calls are made, after replies that are the same or after failures, and the results are
related by `R`. What is noted does not matter. -/
inductive Task.Alike (R : α → α → Prop) : Task α → Task α → Prop
  | done {a b : α} (h : R a b) : Alike R (.done a) (.done b)
  | note (n n' : Notice) {s s' : Task α} (h : Alike R s s') : Alike R (.note n s) (.note n' s')
  | ask (c : Call) {next next' : Answer c → Task α}
      (h : ∀ x y, SameReply x y → Alike R (next x) (next' y)) :
      Alike R (.ask c next) (.ask c next')

@[inherit_doc Task.Alike]
inductive Service.Alike (R : α → α → Prop) : Service α → Service α → Prop
  | done {a b : α} (h : R a b) : Alike R (.done a) (.done b)
  | note (n n' : Notice) {s s' : Service α} (h : Alike R s s') : Alike R (.note n s) (.note n' s')
  | ask (c : Call) {next next' : Answer c → Service α}
      (h : ∀ x y, SameReply x y → Alike R (next x) (next' y)) :
      Alike R (.ask c next) (.ask c next')
  | handOver {task task' : Task Outcome} {next next' : Option Outcome → Service α}
      (htask : task.Alike SameResult task')
      (h : ∀ x y, Option.Rel SameResult x y → Alike R (next x) (next' y)) :
      Alike R (.handOver task next) (.handOver task' next')

/-- One piece of work after another. -/
theorem Service.Alike.andThen {R : α → α → Prop} {Q : β → β → Prop} {s s' : Service α}
    {k k' : α → Service β} (h : s.Alike R s') (hk : ∀ a b, R a b → (k a).Alike Q (k' b)) :
    (s.andThen k).Alike Q (s'.andThen k') := by
  induction h with
  | done h => exact hk _ _ h
  | note n n' _ ih => exact .note n n' ih
  | ask c _ ih => exact .ask c ih
  | handOver htask _ ih => exact .handOver htask ih

inductive Job.Alike : Job → Job → Prop
  | task {s s' : Task Outcome} (h : s.Alike SameResult s') : Alike (.task s) (.task s')
  | call (c : Call) {e e' : Effect} {next next' : Answer c → Task Outcome} (effect : e.Alike e')
      (h : ∀ x y, SameReply x y → (next x).Alike SameResult (next' y)) :
      Alike (.call c e next) (.call c e' next')
  | awaited (number : Nat) : Alike (.awaited number) (.awaited number)

structure Sleeper.Alike (s s' : Sleeper) : Prop where
  wake : s.wake = s'.wake
  job : s.job.Alike s'.job

namespace Timeline

/-- The books and all that is under way are the same, but for the words with which calls fail. -/
structure Alike (t t' : Timeline) : Prop where
  world : t.world = t'.world
  faults : t.faults.Alike t'.faults
  stale : t.stale = t'.stale
  clock : t.clock = t'.clock
  ready : List.Forall₂ Job.Alike t.ready t'.ready
  asleep : List.Forall₂ Sleeper.Alike t.asleep t'.asleep
  calls : t.calls = t'.calls

inductive Ending.Alike (R : α → α → Prop) : Ending α → Ending α → Prop
  | finished {a b : α} (h : R a b) : Alike R (.finished a) (.finished b)
  | givenUp : Alike R .givenUp .givenUp
  | crashed : Alike R .crashed .crashed

variable {t t' : Timeline} {e e' : Effect}

namespace Alike

/-! ## Calls -/

theorem note (h : t.Alike t') (n n' : Notice) : (t.note n).Alike (t'.note n') :=
  ⟨h.world, h.faults, h.stale, h.clock, h.ready, h.asleep, h.calls⟩

theorem place (h : t.Alike t') (c : Call) : (t.place c).Alike (t'.place c) :=
  ⟨h.world, h.faults.afterCall c.kind, h.stale, h.clock, h.ready, h.asleep,
    congrArg (· ++ [c]) h.calls⟩

theorem carryOut (h : t.Alike t') (c : Call) :
    (t.carryOut c).1 = (t'.carryOut c).1 ∧ (t.carryOut c).2.Alike (t'.carryOut c).2 := by
  have hsame : (t.carryOut c).1 = (t'.carryOut c).1 ∧
      (t.carryOut c).2.world = (t'.carryOut c).2.world := by
    obtain ⟨w, _, stale, _, _, _, _, _⟩ := t
    obtain ⟨w', _, stale', _, _, _, _, _⟩ := t'
    obtain rfl : w = w' := h.world
    obtain rfl : stale = stale' := h.stale
    cases stale <;> cases c <;> exact ⟨rfl, rfl⟩
  refine ⟨hsame.1, ?_⟩
  rw [t.carryOut_snd, t'.carryOut_snd]
  exact ⟨hsame.2, h.faults, h.stale, h.clock, h.ready, h.asleep, h.calls⟩

/-- Both calls are answered alike, or both callers break down. -/
theorem effect (h : t.Alike t') (he : e.Alike e') (c : Call) :
    Option.Rel SameReply (t.effect c e).1 (t'.effect c e').1 ∧
      (t.effect c e).2.Alike (t'.effect c e').2 := by
  obtain ⟨hanswer, halike⟩ := h.carryOut c
  have hdone : Option.Rel SameReply (some (t.carryOut c).1) (some (t'.carryOut c).1) :=
    .some (hanswer ▸ .refl _)
  cases he with
  | fail m m' => exact ⟨.some (.error _ _), h⟩
  | failAfter m m' => exact ⟨.some (.error _ _), halike⟩
  | refl =>
    cases e with
    | none => exact ⟨hdone, halike⟩
    | fail m => exact ⟨.some (.refl _), h⟩
    | failAfter m => exact ⟨.some (.refl _), halike⟩
    | crash => exact ⟨.none, h⟩
    | answer value =>
      rw [Timeline.effect, Timeline.effect]
      split
      · exact ⟨.some (.refl _), h⟩
      · exact ⟨hdone, halike⟩
    | nothing =>
      rw [Timeline.effect, Timeline.effect]
      split
      · exact ⟨.some (.refl _), h⟩
      · exact ⟨hdone, halike⟩

theorem effect_cases (h : t.Alike t') (he : e.Alike e') (c : Call) :
    (∃ x y u u', t.effect c e = (some x, u) ∧ t'.effect c e' = (some y, u') ∧ SameReply x y ∧
      u.Alike u') ∨
      ∃ u u', t.effect c e = (none, u) ∧ t'.effect c e' = (none, u') ∧ u.Alike u' := by
  obtain ⟨hanswer, halike⟩ := h.effect he c
  revert hanswer halike
  rcases t.effect c e with ⟨x, u⟩
  rcases t'.effect c e' with ⟨y, u'⟩
  rintro (hreply | _) halike
  · exact .inl ⟨_, _, u, u', rfl, rfl, hreply, halike⟩
  · exact .inr ⟨u, u', rfl, rfl, halike⟩

/-! ## Turns -/

theorem enqueue (h : t.Alike t') {j j' : Job} (hj : j.Alike j') :
    (t.enqueue j).Alike (t'.enqueue j') :=
  ⟨h.world, h.faults, h.stale, h.clock, List.rel_append h.ready (.cons hj .nil), h.asleep, h.calls⟩

theorem fallAsleep (h : t.Alike t') (wake : Nat) {j j' : Job} (hj : j.Alike j') :
    (t.fallAsleep wake j).Alike (t'.fallAsleep wake j') :=
  ⟨h.world, h.faults, h.stale, h.clock, h.ready,
    List.rel_append h.asleep (.cons ⟨rfl, hj⟩ .nil), h.calls⟩

theorem runTask (h : t.Alike t') {s s' : Task Outcome} (hs : s.Alike SameResult s') :
    (runTask s t).Alike (runTask s' t') := by
  induction hs generalizing t t' with
  | done _ => exact h
  | note n n' _ ih => exact ih (h.note n n')
  | ask c hnext ih =>
    obtain ⟨hdelay, heffect⟩ := h.faults.current c.kind
    have hplace := h.place c
    rw [Timeline.runTask, Timeline.runTask]
    simp only [hdelay, hplace.clock]
    split
    · exact hplace.fallAsleep _ (.call c heffect hnext)
    · rcases hplace.effect_cases heffect c with ⟨x, y, u, u', hx, hy, hxy, halike⟩ |
        ⟨u, u', hx, hy, halike⟩
      · simp only [hx, hy]
        exact ih x y hxy halike
      · simp only [hx, hy]
        exact halike

theorem takeTurn (h : t.Alike t') {j j' : Job} (hj : j.Alike j') :
    (takeTurn j t).Alike (takeTurn j' t') := by
  cases hj with
  | task hs => exact h.runTask hs
  | awaited number => exact h
  | call c heffect hnext =>
    rw [Timeline.takeTurn, Timeline.takeTurn]
    rcases h.effect_cases heffect c with ⟨x, y, u, u', hx, hy, hxy, halike⟩ |
      ⟨u, u', hx, hy, halike⟩
    · simp only [hx, hy]
      exact halike.runTask (hnext x y hxy)
    · simp only [hx, hy]
      exact halike

theorem moveTo (h : t.Alike t') (time : Nat) : (t.moveTo time).Alike (t'.moveTo time) := by
  have hwoken : ∀ p : Nat → Bool,
      List.Forall₂ Sleeper.Alike (t.asleep.filter fun s => p s.wake)
        (t'.asleep.filter fun s => p s.wake) := fun p =>
    List.rel_filter (fun s s' hs => iff_of_eq (congrArg (p · = true) hs.wake)) h.asleep
  have hjobs : ∀ {l l' : List Sleeper}, List.Forall₂ Sleeper.Alike l l' →
      List.Forall₂ Job.Alike (l.map Sleeper.job) (l'.map Sleeper.job) :=
    fun hl => List.rel_map (fun s s' hs => hs.job) hl
  simp only [Timeline.moveTo, List.partition_eq_filter_filter]
  exact ⟨h.world, h.faults, h.stale, congrArg (max · time) h.clock,
    List.rel_append h.ready (hjobs (hwoken (· ≤ time))), hwoken fun wake => !decide (wake ≤ time),
    h.calls⟩

theorem nextWake?_eq (h : t.Alike t') : t.nextWake? = t'.nextWake? := by
  have hwakes : t.asleep.map Sleeper.wake = t'.asleep.map Sleeper.wake := by
    refine List.forall₂_eq_eq_eq ▸ ?_
    exact List.rel_map (fun s s' hs => hs.wake) h.asleep
  rw [nextWake?, nextWake?, hwakes]

theorem turnBound_eq (h : t.Alike t') : t.turnBound = t'.turnBound := by
  rw [turnBound, turnBound, h.ready.length_eq, h.asleep.length_eq]

theorem takeTurns (h : t.Alike t') (limit : Option Nat) (fuel : Nat) :
    (takeTurns limit fuel t).1 = (takeTurns limit fuel t').1 ∧
      (takeTurns limit fuel t).2.Alike (takeTurns limit fuel t').2 := by
  induction fuel generalizing t t' with
  | zero => exact ⟨rfl, h⟩
  | succ fuel ih =>
    have hready := h.ready
    rw [Timeline.takeTurns.eq_def, Timeline.takeTurns.eq_def limit (fuel + 1) t']
    simp only [h.nextWake?_eq]
    rcases hr : t.ready with _ | ⟨j, rest⟩ <;> rcases hr' : t'.ready with _ | ⟨j', rest'⟩ <;>
      rw [hr, hr'] at hready
    · cases t'.nextWake?.filter fun wake => limit.all (wake < ·) with
      | some wake => exact ih (h.moveTo wake)
      | none =>
        cases limit with
        | none => exact ⟨rfl, h⟩
        | some time => exact ⟨rfl, h.moveTo time⟩
    · cases hready
    · cases hready
    · obtain ⟨hj, hrest⟩ := List.forall₂_cons.1 hready
      have hleft : ({ t with ready := rest } : Timeline).Alike { t' with ready := rest' } :=
        ⟨h.world, h.faults, h.stale, h.clock, hrest, h.asleep, h.calls⟩
      cases hj with
      | awaited number => exact ⟨rfl, hleft⟩
      | task hs => exact ih (hleft.takeTurn (.task hs))
      | call c heffect hnext => exact ih (hleft.takeTurn (.call c heffect hnext))

/-! ## Waiting -/

theorem passUntil (h : t.Alike t') (time : Nat) : (t.passUntil time).Alike (t'.passUntil time) := by
  rw [Timeline.passUntil, Timeline.passUntil, h.clock, h.turnBound_eq]
  split
  · exact h
  · exact (h.takeTurns _ _).2

theorem advance (h : t.Alike t') (ms : Nat) : (t.advance ms).Alike (t'.advance ms) := by
  rw [Timeline.advance, Timeline.advance, h.clock]
  exact h.passUntil _

theorem waits (h : t.Alike t') (waits : List Nat) :
    (waits.foldl Timeline.advance t).Alike (waits.foldl Timeline.advance t') := by
  induction waits generalizing t t' with
  | nil => exact h
  | cons ms waits ih => exact ih (h.advance ms)

theorem untilTurn (h : t.Alike t') (limit : Option Nat) :
    ∃ turn u u', t.untilTurn limit = (turn, u) ∧ t'.untilTurn limit = (turn, u') ∧ u.Alike u' := by
  rw [Timeline.untilTurn, Timeline.untilTurn, h.clock, h.turnBound_eq]
  split
  · exact ⟨none, t, t', rfl, rfl, h⟩
  · obtain ⟨hsame, halike⟩ := h.takeTurns limit t'.turnBound
    revert hsame halike
    rcases Timeline.takeTurns limit t'.turnBound t with ⟨turn, u⟩
    rcases Timeline.takeTurns limit t'.turnBound t' with ⟨turn', u'⟩
    rintro rfl halike
    exact ⟨turn, u, u', rfl, rfl, halike⟩

theorem settle (h : t.Alike t') : t.settle.Alike t'.settle := by
  rw [Timeline.settle, Timeline.settle, h.clock, h.turnBound_eq]
  exact (h.takeTurns _ _).2

theorem detach (h : t.Alike t') {j j' : Job} (hj : j.Alike j') :
    (t.detach j).Alike (t'.detach j') := by
  refine ⟨h.world, h.faults, h.stale, h.clock, List.rel_map ?_ h.ready, List.rel_map ?_ h.asleep,
    h.calls⟩
  · intro i i' hi
    cases hi with
    | awaited number => exact hj
    | task hs => exact .task hs
    | call c heffect hnext => exact .call c heffect hnext
  · rintro ⟨wake, i⟩ ⟨wake', i'⟩ ⟨hwake, hi⟩
    cases hi with
    | awaited number => exact ⟨hwake, hj⟩
    | task hs => exact ⟨hwake, .task hs⟩
    | call c heffect hnext => exact ⟨hwake, .call c heffect hnext⟩

/-! ## Callers -/

theorem awaitTask (h : t.Alike t') {s s' : Task Outcome} (hs : s.Alike SameResult s')
    (limit : Option Nat) :
    (awaitTask limit s t).1.Alike SameResult (awaitTask limit s' t').1 ∧
      (awaitTask limit s t).2.Alike (awaitTask limit s' t').2 := by
  induction hs generalizing t t' with
  | done hab => exact ⟨.finished hab, h.settle⟩
  | note n n' _ ih => exact ih (h.note n n')
  | ask c hnext ih =>
    obtain ⟨hdelay, heffect⟩ := h.faults.current c.kind
    have hplace := h.place c
    obtain ⟨turn, u, u', hu, hu', halike⟩ : ∃ turn u u',
        (if (t'.faults.current c.kind).1 = 0 then (some 0, t.place c) else
          ((t.place c).fallAsleep ((t'.place c).clock + (t'.faults.current c.kind).1)
            (.awaited 0)).untilTurn limit) = (turn, u) ∧
        (if (t'.faults.current c.kind).1 = 0 then (some 0, t'.place c) else
          ((t'.place c).fallAsleep ((t'.place c).clock + (t'.faults.current c.kind).1)
            (.awaited 0)).untilTurn limit) = (turn, u') ∧ u.Alike u' := by
      split
      · exact ⟨_, _, _, rfl, rfl, hplace⟩
      · exact (hplace.fallAsleep _ (.awaited 0)).untilTurn limit
    rw [Timeline.awaitTask, Timeline.awaitTask]
    simp only [hdelay, hplace.clock, hu, hu']
    cases turn with
    | none => exact ⟨.givenUp, halike.detach (.call c heffect hnext)⟩
    | some number =>
      rcases halike.effect_cases heffect c with ⟨x, y, v, v', hx, hy, hxy, halike⟩ |
        ⟨v, v', hx, hy, halike⟩
      · simp only [hx, hy]
        exact ih x y hxy halike
      · simp only [hx, hy]
        exact ⟨.crashed, halike.settle⟩

/-- Callers whose work is alike and who wait until the same moment end alike. -/
theorem run {R : α → α → Prop} (h : t.Alike t') {s s' : Service α} (hs : s.Alike R s')
    (deadline : Option Deadline) :
    (run deadline s t).1.Alike R (run deadline s' t').1 ∧
      (run deadline s t).2.Alike (run deadline s' t').2 := by
  induction hs generalizing t t' with
  | done hab => exact ⟨.finished hab, h⟩
  | note n n' _ ih => exact ih (h.note n n')
  | ask c hnext ih =>
    obtain ⟨hdelay, heffect⟩ := h.faults.current c.kind
    have hplace := h.place c
    rw [Timeline.run, Timeline.run]
    simp only [hdelay, hplace.clock]
    split
    · exact ⟨.givenUp, hplace.passUntil _⟩
    · have hwait := hplace.passUntil ((t'.place c).clock + (t'.faults.current c.kind).1)
      rcases hwait.effect_cases heffect c with ⟨x, y, u, u', hx, hy, hxy, halike⟩ |
        ⟨u, u', hx, hy, halike⟩
      · simp only [hx, hy]
        exact ih x y hxy halike
      · simp only [hx, hy]
        exact ⟨.crashed, halike⟩
  | @handOver task task' next next' htask _ ih =>
    obtain ⟨turn, u, u', hu, hu', halike⟩ :=
      (h.enqueue (.awaited 0)).untilTurn (deadline.map Deadline.time)
    rw [Timeline.run, Timeline.run]
    simp only [hu, hu']
    cases turn with
    | none => exact ⟨.givenUp, halike.detach (.task htask)⟩
    | some number =>
      obtain ⟨hending, halike⟩ := halike.awaitTask htask (deadline.map Deadline.time)
      dsimp only
      revert hending halike
      rcases Timeline.awaitTask (deadline.map Deadline.time) task u with ⟨ending, v⟩
      rcases Timeline.awaitTask (deadline.map Deadline.time) task' u' with ⟨ending', v'⟩
      rintro (hab | _ | _) halike
      · exact ih _ _ (.some hab) halike
      · exact ⟨.givenUp, halike⟩
      · exact ih _ _ .none halike

theorem runBefore {R : α → α → Prop} (h : t.Alike t') {s s' : Service α} (hs : s.Alike R s')
    (limit : Nat) :
    (t.runBefore limit s).1.Alike R (t'.runBefore limit s').1 ∧
      (t.runBefore limit s).2.Alike (t'.runBefore limit s').2 := by
  rw [Timeline.runBefore, Timeline.runBefore, h.clock]
  split
  · exact ⟨.givenUp, h⟩
  · exact h.run hs _

end Alike
end Timeline
end BookingDesk
