import BookingDesk.Proofs.OneByOne

/-!
# Work that takes no time

Where no call takes time, a caller who is alone never misses a deadline that lies ahead, and ends
like one who would have waited for ever (`Timeline.runBefore_of_prompt`).
-/
namespace BookingDesk

variable {α : Type} {fs : Faults}

/-- No call takes time. -/
def Faults.Prompt (fs : Faults) : Prop := ∀ k f, fs.get? k = some f → f.delay = 0

theorem Faults.prompt_empty : Prompt .empty := nofun

namespace Faults.Prompt

theorem set (h : fs.Prompt) {k : Call.Kind} {f : Fault} (prompt : f.delay = 0) :
    (fs.set k f).Prompt := by
  intro k' g hg
  rcases Faults.of_get?_set hg with ⟨-, rfl⟩ | hg
  · exact prompt
  · exact h k' g hg

theorem current (h : fs.Prompt) (k : Call.Kind) : (fs.current k).1 = 0 := by
  rw [Faults.current]
  split
  · rename_i f hf
    split
    · exact h k f hf
    · rfl
  · rfl

theorem afterCall (h : fs.Prompt) (k : Call.Kind) : (fs.afterCall k).Prompt := by
  intro k' f hf
  rw [Faults.afterCall, Table.get?_modify] at hf
  split at hf
  · obtain ⟨g, hg, rfl⟩ := Option.map_eq_some_iff.1 hf
    have hdelay : g.next.delay = g.delay := by
      rw [Fault.next]
      split <;> rfl
    exact hdelay.trans (h k' g hg)
  · exact h k' f hf

end Faults.Prompt

namespace Timeline

variable {t t' : Timeline} {w : World}

/-! ## A deadline ahead -/

/-- No job is under way, no call takes time, and the moment lies ahead. -/
structure Before (t : Timeline) (time : Nat) : Prop where
  ready : t.ready = []
  asleep : t.asleep = []
  stale : t.stale = none
  prompt : t.faults.Prompt
  early : t.clock < time

namespace Before

variable {time : Nat}

theorem idle (h : t.Before time) : t.Idle t.world t.faults :=
  ⟨rfl, rfl, h.ready, h.asleep, h.stale⟩

theorem note (h : t.Before time) (n : Notice) : (t.note n).Before time :=
  ⟨h.ready, h.asleep, h.stale, h.prompt, h.early⟩

theorem place (h : t.Before time) (c : Call) : (t.place c).Before time :=
  ⟨h.ready, h.asleep, h.stale, h.prompt.afterCall c.kind, h.early⟩

theorem effect (h : t.Before time) {c : Call} {e : Effect} {answer : Option (Answer c)}
    (heffect : t.effect c e = (answer, t')) : t'.Before time := by
  have hsnd : t' = { t with world := t'.world } := by
    have := t.effect_snd c e
    rwa [heffect] at this
  rw [hsnd]
  exact ⟨h.ready, h.asleep, h.stale, h.prompt, h.early⟩

theorem untilTurn_enqueue (h : t.Before time) (number : Nat) :
    (t.enqueue (.awaited number)).untilTurn (some time) = (some number, t) := by
  obtain ⟨_, _, _, clock, ready, asleep, _, _⟩ := t
  obtain rfl : ready = [] := h.ready
  obtain rfl : asleep = [] := h.asleep
  have early : ¬ time ≤ clock := Nat.not_le.2 h.early
  simp [untilTurn, enqueue, turnBound, takeTurns, early]

/-- A caller waits for the task that was handed over as long as it takes. -/
theorem awaitTask_eq (h : t.Before time) (task : Task Outcome) :
    awaitTask (some time) task t = awaitTask none task t ∧
      (awaitTask none task t).2.Before time := by
  induction task generalizing t with
  | done outcome =>
    refine ⟨rfl, ?_⟩
    rw [awaitTask, h.idle.settle_eq]
    exact h
  | note n rest ih => exact ih (h.note n)
  | ask c next ih =>
    rw [awaitTask, awaitTask]
    simp only [h.prompt.current, if_true]
    rcases heffect : (t.place c).effect c (t.faults.current c.kind).2 with ⟨_ | answer, t'⟩
    · have h' := (h.place c).effect heffect
      simp only [h'.idle.settle_eq]
      exact ⟨trivial, h'⟩
    · exact ih answer ((h.place c).effect heffect)

theorem run_eq {deadline : Deadline} (h : t.Before deadline.time) (s : Service α) :
    run (some deadline) s t = run none s t := by
  induction s generalizing t with
  | done a => rfl
  | note n rest ih => exact ih (h.note n)
  | ask c next ih =>
    have early : deadline.isMissed t.clock = false := by
      have := h.early
      rw [Deadline.isMissed]
      split <;> simp <;> omega
    have hpass : (t.place c).passUntil t.clock = t.place c := if_pos (Nat.le_refl t.clock)
    have hclock : (t.place c).clock = t.clock := rfl
    rw [run, run]
    simp only [h.prompt.current, hclock, Nat.add_zero, hpass, Option.filter_none,
      Option.filter_some, early, if_false, Bool.false_eq_true]
    rcases heffect : (t.place c).effect c (t.faults.current c.kind).2 with ⟨_ | answer, t'⟩
    · rfl
    · exact ih answer ((h.place c).effect heffect)
  | handOver task next ih =>
    obtain ⟨htask, h'⟩ := h.awaitTask_eq task
    rw [run, run]
    simp only [Option.map_some, Option.map_none, h.untilTurn_enqueue, h.idle.untilTurn_enqueue,
      htask]
    revert h'
    rcases awaitTask none task t with ⟨outcome | _ | _, t'⟩
    · exact fun h' => ih _ h'
    · exact fun _ => rfl
    · exact fun h' => ih _ h'

end Before

theorem runBefore_of_prompt (h : t.Idle w fs) (prompt : fs.Prompt) {limit : Nat}
    (positive : 0 < limit) (s : Service α) : t.runBefore limit s = run none s t := by
  have before : t.Before (t.clock + limit) :=
    ⟨h.ready, h.asleep, h.stale, h.faults.symm ▸ prompt, Nat.lt_add_of_pos_right positive⟩
  rw [runBefore, if_neg (Nat.ne_of_gt positive)]
  exact before.run_eq s

end Timeline
end BookingDesk
