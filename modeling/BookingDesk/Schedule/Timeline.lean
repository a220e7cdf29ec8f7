import BookingDesk.Schedule.Fault
import BookingDesk.Service.Program
import BookingDesk.Store.World

/-!
# Work in the course of time

A timeline is the desk's own books together with a clock, the faults of the collaborators and the
jobs that are under way. A call is on record from when it is made, and takes effect after its delay.
Jobs that are ready take turns, first come, first served, but only while a caller waits. The clock
stands still until nobody is ready; it then jumps to the next moment at which somebody wakes up. A
caller who waits for that moment goes on before all others. A caller may wait until a deadline at
most; a task that was handed over goes on all the same, as soon as a caller waits again.
-/
namespace BookingDesk

inductive Job where
  /-- A task that nobody waits for. -/
  | task (work : Task Outcome)
  /-- A call of such a task, which takes effect next. -/
  | call (call : Call) (effect : Effect) (next : Answer call → Task Outcome)
  /-- Work that somebody waits for. Whoever waits keeps it under this number. -/
  | awaited (number : Nat)

structure Sleeper where
  wake : Nat
  job : Job

structure Timeline where
  world : World
  faults : Faults
  /-- A version of a booking that is found instead of whatever is looked for. -/
  stale : Option Booking
  /-- In milliseconds. -/
  clock : Nat
  /-- In the order of their turns. -/
  ready : List Job
  /-- In the order in which they fell asleep. -/
  asleep : List Sleeper
  calls : List Call
  notices : List Notice

namespace Timeline

def start (w : World) : Timeline := ⟨w, .empty, none, 0, [], [], [], []⟩

/-- The record of calls and notices begins anew. -/
def turnPage (t : Timeline) : Timeline := { t with calls := [], notices := [] }

/-! ## Calls -/

def note (t : Timeline) (n : Notice) : Timeline := { t with notices := t.notices ++ [n] }

/-- A call is made: it is put on record, and its fault has one call fewer to strike. -/
def place (t : Timeline) (c : Call) : Timeline :=
  { t with calls := t.calls ++ [c], faults := t.faults.afterCall c.kind }

/-- A call is carried out. -/
def carryOut (t : Timeline) (c : Call) : Answer c × Timeline :=
  match c, t.stale with
  | .find _ _, some b => (.ok (some b), t)
  | c, _ => ((t.world.answer c).1, { t with world := (t.world.answer c).2 })

/-- A call takes effect. There is no answer if the caller breaks down. -/
def effect (t : Timeline) (c : Call) : Effect → Option (Answer c) × Timeline
  | .none => (some (t.carryOut c).1, (t.carryOut c).2)
  | .fail message => (some (.error ⟨message⟩), t)
  | .failAfter message => (some (.error ⟨message⟩), (t.carryOut c).2)
  | .answer value =>
    match c.yesOrNo? value with
    | some reply => (some (.ok reply), t)
    | none => (some (t.carryOut c).1, (t.carryOut c).2)
  | .nothing =>
    match c.absence? with
    | some reply => (some (.ok reply), t)
    | none => (some (t.carryOut c).1, (t.carryOut c).2)
  | .crash => (none, t)

/-! ## Turns -/

def enqueue (t : Timeline) (j : Job) : Timeline := { t with ready := t.ready ++ [j] }

def fallAsleep (t : Timeline) (wake : Nat) (j : Job) : Timeline :=
  { t with asleep := t.asleep ++ [⟨wake, j⟩] }

/-- Runs a task until it ends, breaks down or has to wait. -/
def runTask : Task Outcome → Timeline → Timeline
  | .done _, t => t
  | .note n rest, t => runTask rest (t.note n)
  | .ask c next, t =>
    let (delay, e) := t.faults.current c.kind
    let t := t.place c
    if delay ≠ 0 then t.fallAsleep (t.clock + delay) (.call c e next)
    else
      match t.effect c e with
      | (some answer, t) => runTask (next answer) t
      | (none, t) => t

/-- A turn of a job that nobody waits for. -/
def takeTurn : Job → Timeline → Timeline
  | .task work, t => runTask work t
  | .call c e next, t =>
    match t.effect c e with
    | (some answer, t) => runTask (next answer) t
    | (none, t) => t
  | .awaited _, t => t

/-- The clock moves on to a moment, and those who wake up until then are ready. -/
def moveTo (t : Timeline) (time : Nat) : Timeline :=
  let (woken, asleep) := t.asleep.partition (·.wake ≤ time)
  { t with clock := max t.clock time, ready := t.ready ++ woken.map Sleeper.job, asleep }

def nextWake? (t : Timeline) : Option Nat := (t.asleep.map Sleeper.wake).min?

/-- Jobs take turns until it is the turn of one that somebody waits for, but not beyond `limit`:
whoever wakes up at that moment is ready and has no turn yet. `fuel` bounds the turns and waits. -/
def takeTurns (limit : Option Nat) : Nat → Timeline → Option Nat × Timeline
  | 0, t => (none, t)
  | fuel + 1, t =>
    match t.ready, t.nextWake?.filter fun wake => limit.all (wake < ·) with
    | .awaited number :: rest, _ => (some number, { t with ready := rest })
    | j :: rest, _ => takeTurns limit fuel (takeTurn j { t with ready := rest })
    | [], some wake => takeTurns limit fuel (t.moveTo wake)
    | [], none => (none, limit.elim t t.moveTo)

/-- How many turns and waits there may be. A task makes at most three calls; so a job takes at most
four turns and waits before three of them. -/
def turnBound (t : Timeline) : Nat := 7 * (t.ready.length + t.asleep.length) + 1

/-! ## Waiting -/

/-- A caller waits until a moment and is the first to go on then. -/
def passUntil (t : Timeline) (time : Nat) : Timeline :=
  if time ≤ t.clock then t else (takeTurns (some time) t.turnBound t).2

def advance (t : Timeline) (ms : Nat) : Timeline := t.passUntil (t.clock + ms)

/-- A caller waits for the turn of some work until `limit` at most, and tells the number of the
work. -/
def untilTurn (t : Timeline) (limit : Option Nat) : Option Nat × Timeline :=
  if limit.any (· ≤ t.clock) then (none, t) else takeTurns limit t.turnBound t

/-- A caller goes on at this moment when all who are ready have had their turns. -/
def settle (t : Timeline) : Timeline := (takeTurns (some t.clock) t.turnBound t).2

/-- Nobody waits any more for the work that was awaited: it goes on as the job `j`. -/
def detach (t : Timeline) (j : Job) : Timeline :=
  let detached : Job → Job
    | .awaited _ => j
    | other => other
  { t with
    ready := t.ready.map detached
    asleep := t.asleep.map fun s => { s with job := detached s.job } }

/-! ## Callers -/

/-- Until when a caller waits. -/
structure Deadline where
  time : Nat
  /-- Whether the caller may go on with a call that takes effect at that very moment. -/
  inclusive : Bool

def Deadline.isMissed (d : Deadline) (time : Nat) : Bool :=
  if d.inclusive then d.time < time else d.time ≤ time

/-- How the work of a caller ends. -/
inductive Ending (α : Type) where
  | finished (value : α)
  /-- The deadline came first. -/
  | givenUp
  | crashed

/-- Runs a task for which a caller waits until `limit` at most, from a turn of it on. -/
def awaitTask (limit : Option Nat) : Task Outcome → Timeline → Ending Outcome × Timeline
  | .done outcome, t => (.finished outcome, t.settle)
  | .note n rest, t => awaitTask limit rest (t.note n)
  | .ask c next, t =>
    let (delay, e) := t.faults.current c.kind
    let t := t.place c
    let (turn, t) :=
      if delay = 0 then (some 0, t)
      else (t.fallAsleep (t.clock + delay) (.awaited 0)).untilTurn limit
    match turn with
    | none => (.givenUp, t.detach (.call c e next))
    | some _ =>
      match t.effect c e with
      | (some answer, t) => awaitTask limit (next answer) t
      | (none, t) => (.crashed, t.settle)

/-- Runs the work of a caller. -/
def run {α : Type} (deadline : Option Deadline) : Service α → Timeline → Ending α × Timeline
  | .done a, t => (.finished a, t)
  | .note n rest, t => run deadline rest (t.note n)
  | .ask c next, t =>
    let (delay, e) := t.faults.current c.kind
    let t := t.place c
    let wake := t.clock + delay
    match deadline.filter (·.isMissed wake) with
    | some d => (.givenUp, t.passUntil d.time)
    | none =>
      match (t.passUntil wake).effect c e with
      | (some answer, t) => run deadline (next answer) t
      | (none, t) => (.crashed, t)
  | .handOver task next, t =>
    let limit := deadline.map Deadline.time
    match (t.enqueue (.awaited 0)).untilTurn limit with
    | (none, t) => (.givenUp, t.detach (.task task))
    | (some _, t) =>
      match awaitTask limit task t with
      | (.finished outcome, t) => run deadline (next (some outcome)) t
      | (.crashed, t) => run deadline (next none) t
      | (.givenUp, t) => (.givenUp, t)

/-- Runs the work of a caller who waits for `limit` milliseconds at most. -/
def runWithin {α : Type} (t : Timeline) (limit : Option Nat) (s : Service α) :
    Ending α × Timeline :=
  run (limit.map fun ms => ⟨t.clock + ms, true⟩) s t

/-- Runs the work of a caller who waits for less than `limit` milliseconds. -/
def runBefore {α : Type} (t : Timeline) (limit : Nat) (s : Service α) : Ending α × Timeline :=
  if limit = 0 then (.givenUp, t) else run (some ⟨t.clock + limit, false⟩) s t

end Timeline
end BookingDesk
