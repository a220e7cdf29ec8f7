import BookingDesk.Schedule.Timeline

/-!
# Several callers at once

Callers who come at the same moment are served in turns, as jobs among the others. A caller's turn
ends when there is nothing left to do, when a call takes time, or when a task is handed over; the
task begins when everybody else who was ready has had a turn.
-/
namespace BookingDesk

variable {α : Type}

/-- What is left of a caller's work at the end of a turn. -/
inductive Strand (α : Type) where
  | own (work : Service α)
  /-- A task for which the caller waits. -/
  | handed (task : Task Outcome) (next : Option Outcome → Service α)
  /-- A call of the caller, which has not taken effect yet. -/
  | ownCall (call : Call) (effect : Effect) (next : Answer call → Service α)
  /-- A call of the task for which the caller waits. -/
  | taskCall (call : Call) (effect : Effect) (task : Answer call → Task Outcome)
    (next : Option Outcome → Service α)

/-- How a turn ends. -/
inductive Turn (α : Type) where
  | finish (ending : Timeline.Ending α)
  /-- The rest has to wait until a moment. -/
  | sleep (wake : Nat) (rest : Strand α)
  /-- The rest comes after all who are ready. -/
  | yield (rest : Strand α)

namespace Strand

/-! ## A turn -/

def runOwn : Service α → Timeline → Turn α × Timeline
  | .done a, t => (.finish (.finished a), t)
  | .note n rest, t => runOwn rest (t.note n)
  | .ask c next, t =>
    let (delay, e) := t.faults.current c.kind
    let t := t.place c
    if delay ≠ 0 then (.sleep (t.clock + delay) (.ownCall c e next), t)
    else
      match t.effect c e with
      | (some answer, t) => runOwn (next answer) t
      | (none, t) => (.finish .crashed, t)
  | .handOver task next, t => (.yield (.handed task next), t)

/-- A task, and what the caller does after it. -/
def runTask (after : Option Outcome → Service α) : Task Outcome → Timeline → Turn α × Timeline
  | .done outcome, t => runOwn (after (some outcome)) t
  | .note n rest, t => runTask after rest (t.note n)
  | .ask c next, t =>
    let (delay, e) := t.faults.current c.kind
    let t := t.place c
    if delay ≠ 0 then (.sleep (t.clock + delay) (.taskCall c e next after), t)
    else
      match t.effect c e with
      | (some answer, t) => runTask after (next answer) t
      | (none, t) => runOwn (after none) t

def run : Strand α → Timeline → Turn α × Timeline
  | own work, t => runOwn work t
  | handed task next, t => runTask next task t
  | ownCall c e next, t =>
    match t.effect c e with
    | (some answer, t) => runOwn (next answer) t
    | (none, t) => (.finish .crashed, t)
  | taskCall c e task next, t =>
    match t.effect c e with
    | (some answer, t) => runTask next (task answer) t
    | (none, t) => runOwn (next none) t

end Strand

/-! ## All of the callers -/

/-- Callers, by their numbers, and what is left of their work. -/
structure Crowd (α : Type) where
  timeline : Timeline
  strands : List (Strand α)
  /-- In the order in which they came to an end. -/
  endings : List (Nat × Timeline.Ending α)

namespace Crowd

def start (callers : List (Service α)) (t : Timeline) : Crowd α :=
  { timeline := (List.range callers.length).foldl (fun t caller => t.enqueue (.awaited caller)) t
    strands := callers.map .own
    endings := [] }

/-- A caller takes a turn. -/
def turn (c : Crowd α) (caller : Nat) (s : Strand α) : Crowd α :=
  match s.run c.timeline with
  | (.finish ending, t) => { c with timeline := t, endings := c.endings ++ [(caller, ending)] }
  | (.sleep wake rest, t) =>
    { c with timeline := t.fallAsleep wake (.awaited caller), strands := c.strands.set caller rest }
  | (.yield rest, t) =>
    { c with timeline := t.enqueue (.awaited caller), strands := c.strands.set caller rest }

/-- Goes on for up to `fuel` turns of callers, until all have come to an end. -/
def run : Nat → Crowd α → Crowd α
  | 0, c => c
  | fuel + 1, c =>
    if c.endings.length = c.strands.length then { c with timeline := c.timeline.settle }
    else
      let (caller, t) := c.timeline.untilTurn none
      let c := { c with timeline := t }
      match caller.bind fun n => c.strands[n]?.map (n, ·) with
      | some (n, s) => run fuel (c.turn n s)
      | none => c

end Crowd

/-- Runs the work of several callers and tells how it ends for each of them. A caller makes at most
seven calls and hands over one task; so there are at most nine turns of each. -/
def Timeline.together (callers : List (Service α)) (t : Timeline) :
    List (Nat × Timeline.Ending α) × Timeline :=
  match callers with
  | [] => ([], t)
  | _ =>
    let c := (Crowd.start callers t).run (9 * callers.length + 1)
    (c.endings, c.timeline)

end BookingDesk
