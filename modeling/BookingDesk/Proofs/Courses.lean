import BookingDesk.Proofs.Troubled
import BookingDesk.Schedule.Together

/-!
# What is run is a course

Without faults a call is answered by the books as soon as it is made, and then the courses of the
callers tell what is done. A caller who is alone ends as the course does alone
(`Timeline.run_alone`). Callers who come at once make some calls in each of their turns, which is a
schedule of their courses (`Timeline.together_play`).
-/
namespace BookingDesk

variable {α : Type}

/-! ## A desk without faults -/

/-- There are no faults and nobody sleeps; these are the books and the jobs that are ready. -/
structure Timeline.Plain (t : Timeline) (w : World) (ready : List Job) : Prop where
  world : t.world = w
  ready : t.ready = ready
  asleep : t.asleep = []
  stale : t.stale = none
  faults : ∀ k, t.faults.get? k = none

namespace Timeline

variable {t : Timeline} {w : World} {ready : List Job}

theorem plain_start (w : World) : (start w).Plain w [] :=
  ⟨rfl, rfl, rfl, rfl, fun _ => rfl⟩

theorem Plain.idle (h : t.Plain w []) : t.Idle w t.faults :=
  ⟨h.world, rfl, h.ready, h.asleep, h.stale⟩

theorem Plain.note (h : t.Plain w ready) (n : Notice) : (t.note n).Plain w ready :=
  ⟨h.world, h.ready, h.asleep, h.stale, h.faults⟩

theorem Plain.current (h : t.Plain w ready) (k : Call.Kind) : t.faults.current k = (0, .none) := by
  rw [Faults.current, h.faults]

theorem Plain.place (h : t.Plain w ready) (c : Call) : (t.place c).Plain w ready := by
  refine ⟨h.world, h.ready, h.asleep, h.stale, fun k => ?_⟩
  rw [Timeline.place, Faults.afterCall, Table.get?_modify, h.faults, Option.map_none, ite_self]

theorem Plain.enqueue (h : t.Plain w ready) (j : Job) : (t.enqueue j).Plain w (ready ++ [j]) :=
  ⟨h.world, by rw [Timeline.enqueue, h.ready], h.asleep, h.stale, h.faults⟩

/-- A call that is made now is carried out now. -/
theorem Plain.effect (h : t.Plain w ready) (c : Call) :
    ∃ t', t.effect c .none = (some (w.answer c).1, t') ∧ t'.Plain (w.answer c).2 ready := by
  have hcarry : t.carryOut c = ((w.answer c).1, { t with world := (w.answer c).2 }) := by
    rw [← h.world]
    cases c <;> simp only [Timeline.carryOut, h.stale]
  refine ⟨{ t with world := (w.answer c).2 }, ?_, rfl, h.ready, h.asleep, h.stale, h.faults⟩
  rw [Timeline.effect, hcarry]

/-! ## One caller alone -/

/-- Without faults, a caller who is alone does what the course does alone. -/
theorem run_alone {s : Service α} (h : t.Plain w []) :
    ∃ t', run none s t = (.finished (s.course.alone w).1, t') ∧
      t'.Plain (s.course.alone w).2 [] := by
  have steady : t.faults.Steady := by
    intro k f hf
    rw [h.faults] at hf
    cases hf
  obtain ⟨t', hrun, hidle⟩ := run_troubled (s := s) h.idle steady
  obtain ⟨fs, halone, hnone⟩ := s.course.troubled_of_none (w := w) h.faults
  rw [halone] at hrun hidle
  refine ⟨t', hrun, hidle.world, hidle.ready, hidle.asleep, hidle.stale, ?_⟩
  rw [hidle.faults]
  exact hnone

end Timeline

/-! ## A turn of one of several callers -/

/-- What a caller has left to do is this course. No call of it has been made yet. -/
inductive Strand.Runs : Strand α → Course α → Prop where
  | own (work : Service α) : Runs (.own work) work.course
  | handed (task : Task Outcome) (next : Option Outcome → Service α) :
      Runs (.handed task next) (task.course fun outcome => (next (some outcome)).course)

/-- What the end of a turn leaves of a course. -/
inductive Turn.Leaves : Turn α → Course α → Prop where
  | finish (a : α) : Leaves (.finish (.finished a)) (.ended a)
  | yield {rest : Strand α} {course : Course α} (runs : rest.Runs course) :
      Leaves (.yield rest) course

open Interleaving

/-- These calls of a course are made in this turn. -/
def Strand.Makes (run : Turn α × Timeline) (w : World) (course : Course α) (ready : List Job) :
    Prop :=
  ∃ n v course', run.1.Leaves course' ∧ run.2.Plain v ready ∧
    turns (Course.turn World.answer) n w course = (course', v)

/-- One call more is made. -/
theorem Strand.Makes.calling {run : Turn α × Timeline} {w : World} {ready : List Job} {c : Call}
    {next : Answer c → Course α}
    (h : Makes run (w.answer c).2 (next (w.answer c).1) ready) :
    Makes run w (.calling c next) ready := by
  obtain ⟨n, v, course', hleaves, hplain, hturns⟩ := h
  exact ⟨n + 1, v, course', hleaves, hplain, hturns⟩

variable {w : World} {t : Timeline} {ready : List Job}

theorem Strand.runOwn_makes {s : Service α} (h : t.Plain w ready) :
    Makes (runOwn s t) w s.course ready := by
  induction s generalizing t w with
  | done a => exact ⟨0, w, _, .finish a, h, rfl⟩
  | note n rest ih => exact ih (h.note n)
  | ask c next ih =>
    obtain ⟨t₁, heffect, hplain⟩ := (h.place c).effect c
    have hrun : runOwn (.ask c next) t = runOwn (next (w.answer c).1) t₁ := by
      rw [runOwn]
      simp only [h.current, ne_eq, not_true_eq_false, if_false, heffect]
    rw [hrun]
    exact (ih _ hplain).calling
  | handOver task next _ => exact ⟨0, w, _, .yield (.handed task next), h, rfl⟩

theorem Strand.runTask_makes {task : Task Outcome} {after : Option Outcome → Service α}
    (h : t.Plain w ready) :
    Makes (runTask after task t) w
      (task.course fun outcome => (after (some outcome)).course) ready := by
  induction task generalizing t w with
  | done outcome => exact runOwn_makes h
  | note n rest ih => exact ih (h.note n)
  | ask c next ih =>
    obtain ⟨t₁, heffect, hplain⟩ := (h.place c).effect c
    have hrun : runTask after (.ask c next) t = runTask after (next (w.answer c).1) t₁ := by
      rw [runTask]
      simp only [h.current, ne_eq, not_true_eq_false, if_false, heffect]
    rw [hrun]
    exact (ih _ hplain).calling

theorem Strand.Runs.makes {s : Strand α} {course : Course α} (h : s.Runs course)
    (plain : t.Plain w ready) : Makes (s.run t) w course ready := by
  cases h with
  | own work => exact runOwn_makes plain
  | handed task next => exact runTask_makes plain

/-! ## Several callers -/

/-- The callers whose turn will come have the courses before them that are there; the others have
ended as their courses have. -/
structure Crowd.Plays (c : Crowd α) (d : Interleaving (Course α)) (waiting : List Nat) : Prop where
  timeline : c.timeline.Plain d.world (waiting.map .awaited)
  apart : waiting.Nodup
  going : ∀ {n}, n ∈ waiting → ∃ s course, c.strands[n]? = some s ∧ s.Runs course ∧
    d.strands[n]? = some course
  ended : ∀ {n ending}, (n, ending) ∈ c.endings →
    ∃ a, ending = .finished a ∧ d.result? n = some a

/-- A course that has ended stays as it is. -/
theorem Interleaving.result?_play {d : Interleaving (Course α)} {i : Nat} {a : α}
    (h : d.result? i = some a) (reply : Collaborators) (schedule : List Nat) :
    (d.play (Course.turn reply) schedule).result? i = some a := by
  refine play_keeps (fun d => d.result? i = some a) (fun d j _ hd _ => ?_) h schedule
  by_cases hij : i = j
  · subst j
    rwa [turn_of_ended (result?_eq_some_iff.1 hd)]
  · rwa [result?_turn_of_ne hij]

namespace Crowd

variable {c : Crowd α} {d : Interleaving (Course α)} {waiting : List Nat} {n : Nat}

theorem Plays.turn {s : Strand α} {course : Course α} (h : c.Plays d waiting)
    (away : n ∉ waiting) (hs : c.strands[n]? = some s) (runs : s.Runs course)
    (hd : d.strands[n]? = some course) :
    ∃ schedule waiting',
      (c.turn n s).Plays (d.play (Course.turn World.answer) schedule) waiting' := by
  obtain ⟨k, v, course', hleaves, hplain, hturns⟩ := runs.makes h.timeline
  have hplay := play_replicate hd hturns
  have hended : ∀ {m ending}, (m, ending) ∈ c.endings → ∃ a, ending = .finished a ∧
      (d.play (Course.turn World.answer) (List.replicate k n)).result? m = some a := by
    intro m ending hm
    obtain ⟨a, ha, hresult⟩ := h.ended hm
    exact ⟨a, ha, result?_play hresult _ _⟩
  -- the others have not moved
  have hothers : ∀ {strands : List (Strand α)} {m}, m ∈ waiting →
      (m ≠ n → strands[m]? = c.strands[m]?) →
      ∃ s course, strands[m]? = some s ∧ s.Runs course ∧
        (d.strands.set n course')[m]? = some course := by
    intro strands m hm hsame
    have hne : m ≠ n := fun hmn => away (hmn ▸ hm)
    obtain ⟨s, course, hs, runs, hcourse⟩ := h.going hm
    exact ⟨s, course, (hsame hne).trans hs, runs,
      (getElem?_set_eq_some_iff hd).2 (.inr ⟨hne, hcourse⟩)⟩
  rw [Crowd.turn]
  generalize s.run c.timeline = r at *
  obtain ⟨turn, t⟩ := r
  cases hleaves with
  | finish a =>
    refine ⟨List.replicate k n, waiting, ?_, h.apart, fun hm => ?_, fun {m ending} hm => ?_⟩
    · rw [hplay]
      exact hplain
    · rw [hplay]
      exact hothers hm fun _ => rfl
    · rcases List.mem_append.1 hm with hm | hm
      · exact hended hm
      · cases List.mem_singleton.1 hm
        refine ⟨a, rfl, ?_⟩
        rw [hplay, result?, (getElem?_set_eq_some_iff hd).2 (.inl ⟨rfl, rfl⟩)]
        rfl
  | @yield rest course' runs' =>
    refine ⟨List.replicate k n, waiting ++ [n], ?_, ?_, fun {m} hm => ?_, hended⟩
    · rw [hplay, List.map_append]
      exact hplain.enqueue _
    · exact List.nodup_append.2 ⟨h.apart, by simp, by
        rintro m hm _ hn rfl
        exact away (List.mem_singleton.1 hn ▸ hm)⟩
    · rw [hplay]
      rcases List.mem_append.1 hm with hm | hm
      · exact hothers hm fun hne => List.getElem?_set_ne (Ne.symm hne)
      · cases List.mem_singleton.1 hm
        exact ⟨rest, course', (getElem?_set_eq_some_iff hs).2 (.inl ⟨rfl, rfl⟩), runs',
          (getElem?_set_eq_some_iff hd).2 (.inl ⟨rfl, rfl⟩)⟩

/-- The next turn is that of the caller who has waited longest. -/
theorem Plays.untilTurn (h : c.Plays d waiting) :
    c.timeline.untilTurn none = (none, c.timeline) ∧ waiting = [] ∨
      ∃ n rest t, c.timeline.untilTurn none = (some n, t) ∧ waiting = n :: rest ∧
        ({ c with timeline := t } : Crowd α).Plays d rest ∧ n ∉ rest := by
  obtain ⟨hworld, hready, hasleep, hstale, hfaults⟩ := h.timeline
  have hturns : c.timeline.untilTurn none =
      Timeline.takeTurns none c.timeline.turnBound c.timeline := rfl
  rw [hturns, Timeline.turnBound, Timeline.takeTurns.eq_def]
  cases waiting with
  | nil => exact .inl ⟨by simp [hready, hasleep, Timeline.nextWake?], rfl⟩
  | cons n rest =>
    obtain ⟨away, apart⟩ := List.nodup_cons.1 h.apart
    refine .inr ⟨n, rest, { c.timeline with ready := rest.map .awaited }, ?_, rfl, ?_, away⟩
    · simp [hready]
    · exact ⟨⟨hworld, rfl, hasleep, hstale, hfaults⟩, apart,
        fun hm => h.going (List.mem_cons_of_mem _ hm), h.ended⟩

theorem Plays.settle (h : c.Plays d waiting) : c.timeline.settle.world = d.world := by
  obtain ⟨hworld, hready, hasleep, hstale, hfaults⟩ := h.timeline
  rw [Timeline.settle, Timeline.turnBound, Timeline.takeTurns.eq_def]
  cases waiting with
  | nil => simp [hready, hasleep, Timeline.nextWake?, Timeline.moveTo, hworld]
  | cons n rest => simp [hready, hworld]

theorem Plays.run (h : c.Plays d waiting) (fuel : Nat) :
    ∃ schedule, (c.run fuel).timeline.world = (d.play (Course.turn World.answer) schedule).world ∧
      ∀ n ending, (n, ending) ∈ (c.run fuel).endings → ∃ a, ending = .finished a ∧
        (d.play (Course.turn World.answer) schedule).result? n = some a := by
  induction fuel generalizing c d waiting with
  | zero => exact ⟨[], h.timeline.world, fun _ _ => h.ended⟩
  | succ fuel ih =>
    rw [Crowd.run]
    split
    · exact ⟨[], h.settle, fun _ _ => h.ended⟩
    rcases h.untilTurn with ⟨hnone, rfl⟩ | ⟨n, rest, t, hsome, rfl, hrest, away⟩
    · rw [hnone]
      exact ⟨[], h.timeline.world, fun _ _ => h.ended⟩
    · obtain ⟨s, course, hs, runs, hd⟩ := h.going (List.mem_cons_self ..)
      obtain ⟨first, waiting', hturn⟩ := hrest.turn away hs runs hd
      obtain ⟨schedule, hworld, hended⟩ := ih hturn
      simp only [hsome, Option.bind_some, hs, Option.map_some]
      refine ⟨first ++ schedule, ?_⟩
      rw [play_append]
      exact ⟨hworld, hended⟩

theorem plays_start (callers : List (Service α)) (h : t.Plain w []) :
    (start callers t).Plays ⟨w, callers.map Service.course⟩ (List.range callers.length) := by
  have hplain : ∀ (ns : List Nat) (t : Timeline) (ready : List Job), t.Plain w ready →
      (ns.foldl (fun t n => t.enqueue (.awaited n)) t).Plain w (ready ++ ns.map .awaited) := by
    intro ns
    induction ns with
    | nil => simp
    | cons n ns ih =>
      intro t ready h
      simpa using ih _ _ (h.enqueue (.awaited n))
  refine ⟨hplain _ t [] h, List.nodup_range, fun {n} hn => ?_, fun hm => ?_⟩
  · have hlt := List.mem_range.1 hn
    exact ⟨.own callers[n], callers[n].course, by simp [start, hlt], .own _, by simp [hlt]⟩
  · cases hm

end Crowd

/-- Without faults, callers who come at once do what their courses do by some schedule. -/
theorem Timeline.together_play (callers : List (Service α)) (h : t.Plain w []) :
    ∃ schedule, (t.together callers).2.world =
        (play (Course.turn World.answer) ⟨w, callers.map Service.course⟩ schedule).world ∧
      ∀ n ending, (n, ending) ∈ (t.together callers).1 → ∃ a, ending = .finished a ∧
        (play (Course.turn World.answer) ⟨w, callers.map Service.course⟩ schedule).result? n =
          some a := by
  cases callers with
  | nil => exact ⟨[], h.world, fun _ _ hm => by cases hm⟩
  | cons s rest => exact (Crowd.plays_start (s :: rest) h).run _

end BookingDesk
