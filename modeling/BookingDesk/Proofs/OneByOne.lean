import BookingDesk.Schedule.Timeline

/-!
# One caller after another

A desk is idle when no job is under way. A caller who then waits to the end is alone with the
collaborators, however long their calls take: waiting only moves the clock on
(`Timeline.Idle.passUntil_eq`), a task that is handed over goes on at once
(`Timeline.Idle.untilTurn_enqueue`, `Timeline.Idle.untilTurn_fallAsleep`), and a call is answered by
the books (`Timeline.Idle.carryOut`). Before that it is told which faults leave no trace.
-/
namespace BookingDesk

/-! ## Faults that leave no trace -/

/-- The call is carried out, or it fails without being carried out and is no `remove`. -/
def Effect.Clean (k : Call.Kind) (e : Effect) : Prop :=
  e = .none ∨ k ≠ .remove ∧ ∃ message, e = .fail message

def Faults.Clean (fs : Faults) : Prop := ∀ k f, fs.get? k = some f → f.effect.Clean k

theorem Faults.clean_empty : Clean .empty := by
  intro k f h
  rw [Table.get?_empty] at h
  cases h

theorem Faults.get?_set (fs : Faults) (k : Call.Kind) (f : Fault) (k' : Call.Kind) :
    (fs.set k f).get? k' = if k' = k then some f else fs.get? k' := by
  rw [Faults.set, Table.get?_insertNew, Table.get?_erase, Table.get?_erase, if_pos rfl]
  split <;> rfl

theorem Faults.of_get?_set {fs : Faults} {k k' : Call.Kind} {f g : Fault}
    (h : (fs.set k f).get? k' = some g) : k' = k ∧ g = f ∨ fs.get? k' = some g := by
  rw [Faults.get?_set] at h
  split at h
  · rename_i hk
    exact .inl ⟨hk, (Option.some_inj.1 h).symm⟩
  · exact .inr h

theorem Faults.Clean.set {fs : Faults} (h : fs.Clean) {k : Call.Kind} {f : Fault}
    (clean : f.effect.Clean k) : (fs.set k f).Clean := by
  intro k' g hg
  rcases Faults.of_get?_set hg with ⟨rfl, rfl⟩ | hg
  · exact clean
  · exact h k' g hg

theorem Fault.effect_next (f : Fault) : f.next.effect = f.effect := by
  rw [Fault.next]
  split <;> rfl

/-- A call that is affected has the effect of the fault of its kind. -/
theorem Faults.current_effect (fs : Faults) (k : Call.Kind) :
    (fs.current k).2 = .none ∨ ∃ f, fs.get? k = some f ∧ (fs.current k).2 = f.effect := by
  rw [Faults.current]
  split
  · rename_i f hf
    split
    · exact .inr ⟨f, hf, rfl⟩
    · exact .inl rfl
  · exact .inl rfl

/-- Calls do not change what a fault does to those that it affects. -/
theorem Faults.get?_afterCall {fs : Faults} {k k' : Call.Kind} {f : Fault}
    (h : (fs.afterCall k').get? k = some f) : ∃ g, fs.get? k = some g ∧ f.effect = g.effect := by
  rw [Faults.afterCall, Table.get?_modify] at h
  split at h
  · obtain ⟨g, hg, rfl⟩ := Option.map_eq_some_iff.1 h
    exact ⟨g, hg, g.effect_next⟩
  · exact ⟨f, h, rfl⟩

theorem Faults.Clean.current {fs : Faults} (h : fs.Clean) (k : Call.Kind) :
    (fs.current k).2.Clean k := by
  obtain hnone | ⟨f, hf, heffect⟩ := fs.current_effect k
  · exact .inl hnone
  · exact heffect ▸ h k f hf

theorem Faults.Clean.afterCall {fs : Faults} (h : fs.Clean) (k : Call.Kind) :
    (fs.afterCall k).Clean := by
  intro k' f hf
  obtain ⟨g, hg, heffect⟩ := Faults.get?_afterCall hf
  exact heffect ▸ h k' g hg

namespace Timeline

variable {t t' : Timeline} {w : World} {fs : Faults}

/-! ## What an effect changes -/

theorem carryOut_snd (t : Timeline) (c : Call) :
    (t.carryOut c).2 = { t with world := (t.carryOut c).2.world } := by
  obtain ⟨_, _, stale, _, _, _, _, _⟩ := t
  cases stale <;> cases c <;> rfl

/-- An effect changes the books at most. -/
theorem effect_snd (t : Timeline) (c : Call) (e : Effect) :
    (t.effect c e).2 = { t with world := (t.effect c e).2.world } := by
  cases e with
  | none | failAfter message => exact t.carryOut_snd c
  | fail message | crash => rfl
  | answer value =>
    rw [effect]
    split
    · rfl
    · exact t.carryOut_snd c
  | nothing =>
    rw [effect]
    split
    · rfl
    · exact t.carryOut_snd c

theorem effect_calls (t : Timeline) (c : Call) (e : Effect) :
    (t.effect c e).2.calls = t.calls := by
  rw [t.effect_snd c e]

theorem calls_eq_of_effect {c : Call} {e : Effect} {answer : Option (Answer c)}
    (h : t.effect c e = (answer, t')) : t'.calls = t.calls := by
  rw [← t.effect_calls c e, h]

theorem calls_place_append (t : Timeline) (c : Call) (later : List Call) :
    t.calls ++ c :: later = (t.place c).calls ++ later := by
  rw [place, List.append_assoc]
  rfl

/-! ## An idle desk -/

/-- No job is under way; these are the books and the faults. -/
structure Idle (t : Timeline) (w : World) (fs : Faults) : Prop where
  world : t.world = w
  faults : t.faults = fs
  ready : t.ready = []
  asleep : t.asleep = []
  stale : t.stale = none

theorem idle_start (w : World) : (start w).Idle w .empty := ⟨rfl, rfl, rfl, rfl, rfl⟩

theorem Idle.equip (h : t.Idle w fs) (fs' : Faults) :
    ({ t with faults := fs' } : Timeline).Idle w fs' :=
  ⟨h.world, rfl, h.ready, h.asleep, h.stale⟩

theorem Idle.note (h : t.Idle w fs) (n : Notice) : (t.note n).Idle w fs :=
  ⟨h.world, h.faults, h.ready, h.asleep, h.stale⟩

theorem Idle.place (h : t.Idle w fs) (c : Call) : (t.place c).Idle w (fs.afterCall c.kind) :=
  ⟨h.world, by rw [Timeline.place, h.faults], h.ready, h.asleep, h.stale⟩

theorem Idle.wait (h : t.Idle w fs) (time : Nat) :
    ({ t with clock := time } : Timeline).Idle w fs :=
  ⟨h.world, h.faults, h.ready, h.asleep, h.stale⟩

theorem Idle.moveTo (h : t.Idle w fs) (time : Nat) :
    t.moveTo time = { t with clock := max t.clock time } := by
  obtain ⟨_, _, _, _, ready, asleep, _, _⟩ := t
  obtain rfl : ready = [] := h.ready
  obtain rfl : asleep = [] := h.asleep
  rfl

/-- Nobody takes a turn; only the clock moves on. -/
theorem Idle.takeTurns (h : t.Idle w fs) (time fuel : Nat) :
    takeTurns (some time) (fuel + 1) t = (none, { t with clock := max t.clock time }) := by
  have hwake : t.nextWake? = none := by
    rw [Timeline.nextWake?, h.asleep]
    rfl
  rw [Timeline.takeTurns.eq_def, ← h.moveTo time]
  simp [h.ready, hwake]

/-- Whoever waits on an idle desk only passes the time. -/
theorem Idle.passUntil_eq (h : t.Idle w fs) (time : Nat) :
    t.passUntil time = { t with clock := max t.clock time } := by
  rw [Timeline.passUntil]
  split
  · rename_i hpast
    rw [Nat.max_eq_left hpast]
  · rw [turnBound, h.takeTurns]

theorem Idle.passUntil (h : t.Idle w fs) (time : Nat) : (t.passUntil time).Idle w fs := by
  rw [h.passUntil_eq]
  exact h.wait _

theorem Idle.settle_eq (h : t.Idle w fs) : t.settle = t := by
  rw [Timeline.settle, turnBound, h.takeTurns, Nat.max_self]

/-- A task that is handed over is the next to take a turn. -/
theorem Idle.untilTurn_enqueue (h : t.Idle w fs) (number : Nat) :
    (t.enqueue (.awaited number)).untilTurn none = (some number, t) := by
  obtain ⟨_, _, _, _, ready, asleep, _, _⟩ := t
  obtain rfl : ready = [] := h.ready
  obtain rfl : asleep = [] := h.asleep
  rfl

/-- So is a task that had to wait. -/
theorem Idle.untilTurn_fallAsleep (h : t.Idle w fs) (wake number : Nat) :
    (t.fallAsleep wake (.awaited number)).untilTurn none =
      (some number, { t with clock := max t.clock wake }) := by
  obtain ⟨world, faults, stale, clock, ready, asleep, calls, notices⟩ := t
  obtain rfl : ready = [] := h.ready
  obtain rfl : asleep = [] := h.asleep
  have hwoken : ((Timeline.mk world faults stale clock [] [] calls notices).fallAsleep wake
      (.awaited number)).moveTo wake =
        ⟨world, faults, stale, max clock wake, [.awaited number], [], calls, notices⟩ := by
    simp [Timeline.moveTo, fallAsleep]
  have hwait : ((Timeline.mk world faults stale clock [] [] calls notices).fallAsleep wake
      (.awaited number)).untilTurn none =
        Timeline.takeTurns none 7 (((Timeline.mk world faults stale clock [] [] calls
          notices).fallAsleep wake (.awaited number)).moveTo wake) := rfl
  rw [hwait, hwoken]
  rfl

/-- Without a stale version in the way, a call is answered by the books. -/
theorem Idle.carryOut (h : t.Idle w fs) (c : Call) :
    t.carryOut c = ((w.answer c).1, { t with world := (w.answer c).2 }) := by
  rw [← h.world]
  cases c <;> simp only [Timeline.carryOut, h.stale]

theorem Idle.answered (h : t.Idle w fs) (v : World) :
    ({ t with world := v } : Timeline).Idle v fs :=
  ⟨rfl, h.faults, h.ready, h.asleep, h.stale⟩

end Timeline
end BookingDesk
