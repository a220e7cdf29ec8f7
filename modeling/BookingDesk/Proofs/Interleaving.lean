import BookingDesk.Proofs.Books
import BookingDesk.Service.Program

/-!
# Calls that interleave

To the collaborators, a call of the service is the calls that it makes of them, one after another:
its `Course`. What it hands over it waits for, and what it notes they do not see. Several courses
over the same books take turns in any order, and a turn is one call: this is an `Interleaving`, and
a schedule tells whose turn it is. Main statements: what every turn keeps, every schedule keeps
(`play_keeps`), and if the turns of two machines correspond, so do their schedules (`Alike.play`).
-/
namespace BookingDesk

variable {α β κ σ τ : Type}

inductive Course (α : Type) where
  | ended (result : α)
  | calling (call : Call) (next : Answer call → Course α)

/-- The course of a task, and of what comes after it. -/
def Task.course (after : α → Course β) : Task α → Course β
  | .done a => after a
  | .ask c next => .calling c fun answer => (next answer).course after
  | .note _ rest => rest.course after

def Service.course : Service α → Course α
  | .done a => .ended a
  | .ask c next => .calling c fun answer => (next answer).course
  | .note _ rest => rest.course
  | .handOver task next => task.course fun outcome => (next (some outcome)).course

/-- How a call is answered, and what the books are then. Without faults it is `World.answer`. -/
abbrev Collaborators := World → (c : Call) → Answer c × World

namespace Course

def result? : Course α → Option α
  | ended a => some a
  | calling _ _ => none

/-- The next call, if there is one left to make. -/
def call? : Course α → Option Call
  | ended _ => none
  | calling c _ => some c

/-- Makes the next call. -/
def turn (reply : Collaborators) (w : World) : Course α → Course α × World
  | ended a => (ended a, w)
  | calling c next => (next (reply w c).1, (reply w c).2)

/-- Makes all calls, with nobody else about. -/
def alone : Course α → World → α × World
  | ended a, w => (a, w)
  | calling c next, w => (next (w.answer c).1).alone (w.answer c).2

end Course

/-- Machines that work on the same books. -/
structure Interleaving (σ : Type) where
  world : World
  strands : List σ

namespace Interleaving

/-- A strand takes a turn, if it is there. -/
def turn (step : World → σ → σ × World) (d : Interleaving σ) (i : Nat) : Interleaving σ :=
  match d.strands[i]? with
  | none => d
  | some s => ⟨(step d.world s).2, d.strands.set i (step d.world s).1⟩

/-- The strands take turns as the schedule says. -/
def play (step : World → σ → σ × World) (d : Interleaving σ) (schedule : List Nat) :
    Interleaving σ :=
  schedule.foldl (turn step) d

/-- The strands take turns as the schedule says, which tells for each turn how it is taken too. -/
def playWith (step : κ → World → σ → σ × World) (d : Interleaving σ) (schedule : List (Nat × κ)) :
    Interleaving σ :=
  schedule.foldl (fun d p => d.turn (step p.2) p.1) d

/-- The next call of a strand, if it has one left to make. -/
def call? (d : Interleaving (Course α)) (i : Nat) : Option Call := d.strands[i]?.bind Course.call?

/-- How the course of a strand has ended. -/
def result? (d : Interleaving (Course α)) (i : Nat) : Option α := d.strands[i]?.bind Course.result?

variable {step : World → σ → σ × World} {d : Interleaving σ} {i : Nat} {s : σ}

theorem result?_eq_some_iff {d : Interleaving (Course α)} {a : α} :
    d.result? i = some a ↔ d.strands[i]? = some (.ended a) := by
  rw [result?]
  constructor
  · intro h
    obtain ⟨c, hc, ha⟩ := Option.bind_eq_some_iff.1 h
    cases c with
    | ended b =>
      cases ha
      exact hc
    | calling _ _ => cases ha
  · intro h
    rw [h]
    rfl

theorem turn_of_none (h : d.strands[i]? = none) : d.turn step i = d := by
  rw [turn, h]

theorem turn_of_some (h : d.strands[i]? = some s) :
    d.turn step i = ⟨(step d.world s).2, d.strands.set i (step d.world s).1⟩ := by
  rw [turn, h]

/-- Where the strands stand when one of them has gone on. -/
theorem getElem?_set {strands : List σ} (h : strands[i]? = some s) (s' : σ) (j : Nat) :
    (strands.set i s')[j]? = if j = i then some s' else strands[j]? := by
  have hi : i < strands.length := (List.getElem?_eq_some_iff.1 h).1
  rw [List.getElem?_set]
  grind

/-- A strand that is there is the one that has gone on, or it has not moved. -/
theorem getElem?_set_eq_some_iff {strands : List σ} (h : strands[i]? = some s) {s' t : σ}
    {j : Nat} :
    (strands.set i s')[j]? = some t ↔ j = i ∧ t = s' ∨ j ≠ i ∧ strands[j]? = some t := by
  rw [getElem?_set h]
  by_cases hji : j = i
  · simp [hji, eq_comm]
  · simp [hji]

theorem getElem?_turn (h : d.strands[i]? = some s) (j : Nat) :
    (d.turn step i).strands[j]? = if j = i then some (step d.world s).1 else d.strands[j]? := by
  rw [turn_of_some h, getElem?_set h]

theorem getElem?_turn_of_ne {j : Nat} (hne : j ≠ i) :
    (d.turn step i).strands[j]? = d.strands[j]? := by
  cases h : d.strands[i]? with
  | none => rw [turn_of_none h]
  | some s => rw [getElem?_turn h, if_neg hne]

/-- A course that has ended does nothing more. -/
theorem turn_of_ended {d : Interleaving (Course α)} {i : Nat} {a : α}
    (h : d.strands[i]? = some (.ended a)) (reply : Collaborators) :
    d.turn (Course.turn reply) i = d := by
  obtain ⟨hi, hget⟩ := List.getElem?_eq_some_iff.1 h
  rw [turn_of_some h, Course.turn, ← hget, List.set_getElem_self hi]

/-- A turn makes a call, or changes nothing since there is none left to make. -/
theorem turn_cases (reply : Collaborators) (d : Interleaving (Course α)) (i : Nat) :
    d.turn (Course.turn reply) i = d ∨
      ∃ c next, d.strands[i]? = some (.calling c next) ∧
        d.turn (Course.turn reply) i =
          ⟨(reply d.world c).2, d.strands.set i (next (reply d.world c).1)⟩ := by
  cases h : d.strands[i]? with
  | none => exact .inl (turn_of_none h)
  | some course =>
    cases course with
    | ended a => exact .inl (turn_of_ended h reply)
    | calling c next => exact .inr ⟨c, next, rfl, turn_of_some h⟩

/-- A turn of one strand does not change how others have ended. -/
theorem result?_turn_of_ne {d : Interleaving (Course α)}
    {step : World → Course α → Course α × World} {i j : Nat} (hne : j ≠ i) :
    (d.turn step i).result? j = d.result? j := by
  rw [result?, result?, getElem?_turn_of_ne hne]

@[simp] theorem play_nil : d.play step [] = d := rfl

@[simp] theorem play_cons (rest : List Nat) :
    d.play step (i :: rest) = (d.turn step i).play step rest := rfl

theorem play_append (first rest : List Nat) :
    d.play step (first ++ rest) = (d.play step first).play step rest :=
  List.foldl_append

/-- One strand takes several turns in a row, with nobody else about. -/
def turns (step : World → σ → σ × World) : Nat → World → σ → σ × World
  | 0, w, s => (s, w)
  | n + 1, w, s => turns step n (step w s).2 (step w s).1

theorem play_replicate {n : Nat} {s' : σ} {w : World} (h : d.strands[i]? = some s)
    (hturns : turns step n d.world s = (s', w)) :
    d.play step (List.replicate n i) = ⟨w, d.strands.set i s'⟩ := by
  induction n generalizing d s with
  | zero =>
    cases hturns
    obtain ⟨hi, rfl⟩ := List.getElem?_eq_some_iff.1 h
    rw [List.replicate_zero, play_nil, List.set_getElem_self hi]
  | succ n ih =>
    have hnext : (d.turn step i).strands[i]? = some (step d.world s).1 := by
      rw [getElem?_turn h, if_pos rfl]
    have hworld : (d.turn step i).world = (step d.world s).2 := by rw [turn_of_some h]
    rw [List.replicate_succ, play_cons, ih hnext (hworld ▸ hturns), turn_of_some h, List.set_set]

/-- What every turn keeps, every schedule keeps. -/
theorem play_keeps (P : Interleaving σ → Prop)
    (keeps : ∀ d i s, P d → d.strands[i]? = some s → P (d.turn step i)) (start : P d)
    (schedule : List Nat) : P (d.play step schedule) := by
  induction schedule generalizing d with
  | nil => exact start
  | cons i rest ih =>
    refine ih ?_
    cases h : d.strands[i]? with
    | none => rwa [turn_of_none h]
    | some s => exact keeps d i s start h

/-- Interleavings over the same books whose strands correspond one to one. -/
def Alike (R : σ → τ → Prop) (d : Interleaving σ) (e : Interleaving τ) : Prop :=
  d.world = e.world ∧ ∀ i : Nat, Option.Rel R d.strands[i]? e.strands[i]?

variable {R : σ → τ → Prop} {f : World → σ → σ × World} {g : World → τ → τ × World}
  {e : Interleaving τ}

/-- If turns of strands that correspond lead to the same books and to strands that correspond, so
does a turn of the whole. -/
theorem Alike.turn
    (turns : ∀ w s t, R s t → (f w s).2 = (g w t).2 ∧ R (f w s).1 (g w t).1)
    (h : Alike R d e) (i : Nat) : Alike R (d.turn f i) (e.turn g i) := by
  obtain ⟨hw, hs⟩ := h
  have hi := hs i
  cases hd : d.strands[i]? with
  | none =>
    cases he : e.strands[i]? with
    | none => rw [turn_of_none hd, turn_of_none he]; exact ⟨hw, hs⟩
    | some t => rw [hd, he] at hi; cases hi
  | some s =>
    cases he : e.strands[i]? with
    | none => rw [hd, he] at hi; cases hi
    | some t =>
      rw [hd, he] at hi
      have hst : R s t := by cases hi; assumption
      obtain ⟨hworld, hnext⟩ := turns d.world s t hst
      constructor
      · rw [turn_of_some hd, turn_of_some he, ← hw]
        exact hworld
      · intro j
        rw [getElem?_turn hd, getElem?_turn he, ← hw]
        split
        · exact .some hnext
        · exact hs j

/-- So does every schedule. -/
theorem Alike.play
    (turns : ∀ w s t, R s t → (f w s).2 = (g w t).2 ∧ R (f w s).1 (g w t).1)
    (start : Alike R d e) (schedule : List Nat) :
    Alike R (d.play f schedule) (e.play g schedule) := by
  induction schedule generalizing d e with
  | nil => exact start
  | cons i rest ih => exact ih (start.turn turns i)

theorem Alike.playWith {f : κ → World → σ → σ × World} {g : κ → World → τ → τ × World}
    (turns : ∀ k w s t, R s t → (f k w s).2 = (g k w t).2 ∧ R (f k w s).1 (g k w t).1)
    (start : Alike R d e) (schedule : List (Nat × κ)) :
    Alike R (d.playWith f schedule) (e.playWith g schedule) := by
  induction schedule generalizing d e with
  | nil => exact start
  | cons p rest ih => exact ih (start.turn (turns p.2) p.1)

end Interleaving
end BookingDesk
