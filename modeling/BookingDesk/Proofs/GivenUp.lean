import BookingDesk.Proofs.HandedOver
import BookingDesk.Proofs.Troubled

/-!
# Callers who give up

A caller who is alone gives up. Either nothing but questions has been asked, or a task has been
handed over, and it goes on as the only job under way: each of its calls meets the same faults and
the same books as if the caller had waited (`Timeline.Ends`). Main statements: giving up leaves
nothing half done (`Errand.given_up`), and the task comes to its end if only time passes
(`Timeline.Ends.exists_still`).
-/
namespace BookingDesk

variable {α : Type} {w v : World} {fs : Faults} {cs : List Call}

/-- The calls that a task makes with these faults in the way, and the books in the end. -/
def Task.deeds : Task α → Faults → World → List Call × World
  | .done _, _, w => ([], w)
  | .note _ rest, fs, w => rest.deeds fs w
  | .ask c next, fs, w =>
    let struck := World.struck (fs.current c.kind).2 w c
    let later := (next struck.1).deeds (fs.afterCall c.kind) struck.2
    (c :: later.1, later.2)

/-- With these faults and books, the rest of a job is these calls and leaves these books. The task
makes so many more calls at most. -/
inductive Job.Leads (fs : Faults) (w : World) : Job → List Call × World → Nat → Prop
  | task {work : Task Outcome} {n : Nat} (bound : work.CallsAtMost n) :
      Leads fs w (.task work) (work.deeds fs w) n
  | call {c : Call} {e : Effect} {next : Answer c → Task Outcome} {n : Nat} (steady : e ≠ .crash)
      (bound : ∀ answer, (next answer).CallsAtMost n) :
      Leads fs w (.call c e next)
        ((next (World.struck e w c).1).deeds fs (World.struck e w c).2) n

/-- Whoever asks leaves the books as they are. -/
theorem Service.Asks.troubled_world {s : Service α} (h : s.Asks) :
    (s.course.troubled fs w).2.1 = w := by
  induction s generalizing fs with
  | done a => rfl
  | note n rest ih => exact ih h
  | ask c next ih =>
    rw [course, Course.troubled, World.struck_snd_of_not_isWrite h.1]
    exact ih _ (h.2 _)
  | handOver task next => cases h

namespace Timeline

instance (ending : Ending α) : Decidable (ending = .givenUp) :=
  match ending with
  | .givenUp => isTrue rfl
  | .finished _ | .crashed => isFalse nofun

variable {t t' : Timeline} {j : Job} {n k : Nat} {deeds : List Call × World}

/-! ## One job on an idle desk -/

/-- No job is under way. -/
structure Still (t : Timeline) : Prop where
  ready : t.ready = []
  asleep : t.asleep = []

theorem Idle.still (h : t.Idle w fs) : t.Still := ⟨h.ready, h.asleep⟩

theorem Idle.moveTo_enqueue (h : t.Idle w fs) (j : Job) (time : Nat) :
    (t.enqueue j).moveTo time = ({ t with clock := max t.clock time } : Timeline).enqueue j := by
  obtain ⟨_, _, _, _, ready, asleep, _, _⟩ := t
  obtain rfl : ready = [] := h.ready
  obtain rfl : asleep = [] := h.asleep
  rfl

/-- Whoever sleeps is woken or sleeps on. -/
theorem Idle.moveTo_fallAsleep (h : t.Idle w fs) (wake : Nat) (j : Job) (time : Nat) :
    (t.fallAsleep wake j).moveTo time =
      if wake ≤ time then ({ t with clock := max t.clock time } : Timeline).enqueue j
      else ({ t with clock := max t.clock time } : Timeline).fallAsleep wake j := by
  obtain ⟨_, _, _, _, ready, asleep, _, _⟩ := t
  obtain rfl : ready = [] := h.ready
  obtain rfl : asleep = [] := h.asleep
  by_cases hwake : wake ≤ time <;> simp [Timeline.moveTo, fallAsleep, enqueue, hwake]

theorem Idle.nextWake?_fallAsleep (h : t.Idle w fs) (wake : Nat) (j : Job) :
    (t.fallAsleep wake j).nextWake? = some wake := by
  rw [nextWake?, fallAsleep, h.asleep]
  rfl

theorem Idle.detach_enqueue (h : t.Idle w fs) (number : Nat) (j : Job) :
    (t.enqueue (.awaited number)).detach j = t.enqueue j := by
  simp [detach, enqueue, h.ready, h.asleep]

theorem Idle.detach_fallAsleep (h : t.Idle w fs) (wake number : Nat) (j : Job) :
    (t.fallAsleep wake (.awaited number)).detach j = t.fallAsleep wake j := by
  simp [detach, fallAsleep, h.ready, h.asleep]

theorem Idle.turnBound_enqueue (h : t.Idle w fs) (j : Job) : (t.enqueue j).turnBound = 8 := by
  simp [turnBound, enqueue, h.ready, h.asleep]

theorem Idle.turnBound_fallAsleep (h : t.Idle w fs) (wake : Nat) (j : Job) :
    (t.fallAsleep wake j).turnBound = 8 := by
  simp [turnBound, fallAsleep, h.ready, h.asleep]

/-- A job that nobody waits for has its turn. -/
theorem Idle.takeTurns_enqueue (h : t.Idle w fs) (leads : j.Leads fs w deeds n)
    (limit : Option Nat) (fuel : Nat) :
    Timeline.takeTurns limit (fuel + 1) (t.enqueue j) =
      Timeline.takeTurns limit fuel (takeTurn j t) := by
  obtain ⟨_, _, _, _, ready, asleep, _, _⟩ := t
  obtain rfl : ready = [] := h.ready
  cases leads <;> rfl

/-- One that sleeps is woken, unless the limit comes first. -/
theorem Idle.takeTurns_fallAsleep (h : t.Idle w fs) (wake : Nat) (j : Job) (limit : Option Nat)
    (fuel : Nat) :
    Timeline.takeTurns limit (fuel + 1) (t.fallAsleep wake j) =
      if limit.all (wake < ·) then
        Timeline.takeTurns limit fuel
          (({ t with clock := max t.clock wake } : Timeline).enqueue j)
      else (none, limit.elim (t.fallAsleep wake j) (t.fallAsleep wake j).moveTo) := by
  have hready : (t.fallAsleep wake j).ready = [] := h.ready
  rw [Timeline.takeTurns.eq_def]
  simp only [hready, h.nextWake?_fallAsleep, Option.filter_some]
  by_cases hwake : limit.all (wake < ·)
  · simp only [hwake, if_true]
    rw [h.moveTo_fallAsleep, if_pos (Nat.le_refl _)]
  · simp only [hwake, if_false, Bool.false_eq_true]

/-! ## What one job leads to -/

/-- At most one job is under way. When it has ended, after so many turns and waits at most, these
calls are on record and these are the books. -/
inductive Ends : Timeline → List Call → World → Nat → Prop
  | still {t : Timeline} {w : World} {fs : Faults} {k : Nat} (idle : t.Idle w fs) :
      Ends t t.calls w k
  | ready {t : Timeline} {w : World} {fs : Faults} {j : Job} {deeds : List Call × World} {n k : Nat}
      (idle : t.Idle w fs) (steady : fs.Steady) (leads : j.Leads fs w deeds n) (bound : 2 * n < k) :
      Ends (t.enqueue j) (t.calls ++ deeds.1) deeds.2 k
  | asleep {t : Timeline} {w : World} {fs : Faults} {j : Job} {deeds : List Call × World}
      {n k : Nat} (wake : Nat) (idle : t.Idle w fs) (steady : fs.Steady)
      (leads : j.Leads fs w deeds n) (bound : 2 * n + 1 < k) :
      Ends (t.fallAsleep wake j) (t.calls ++ deeds.1) deeds.2 k

theorem Ends.mono (h : t.Ends cs v n) (hnk : n ≤ k) : t.Ends cs v k := by
  cases h with
  | still idle => exact .still idle
  | ready idle steady leads bound => exact .ready idle steady leads (Nat.lt_of_lt_of_le bound hnk)
  | asleep wake idle steady leads bound =>
    exact .asleep wake idle steady leads (Nat.lt_of_lt_of_le bound hnk)

theorem Ends.of_still (h : t.Ends cs v k) (still : t.Still) : t.calls = cs ∧ t.world = v := by
  cases h with
  | still idle => exact ⟨rfl, idle.world⟩
  | ready => exact absurd still.ready (by simp [enqueue])
  | asleep => exact absurd still.asleep (by simp [fallAsleep])

theorem runTask_ends {task : Task Outcome} (h : t.Idle w fs) (steady : fs.Steady)
    (bound : task.CallsAtMost n) :
    (runTask task t).Ends (t.calls ++ (task.deeds fs w).1) (task.deeds fs w).2 (2 * n) := by
  induction task generalizing t w fs n with
  | done outcome =>
    rw [Task.deeds, List.append_nil]
    exact .still h
  | note notice rest ih => exact ih (h.note notice) steady bound
  | ask c next ih =>
    obtain ⟨m, rfl, bound⟩ := bound
    rw [runTask, Task.deeds]
    simp only [h.faults, t.calls_place_append]
    split
    · exact .asleep _ (h.place c) (steady.afterCall _) (.call (steady.current _) bound) (by omega)
    · obtain ⟨t', heffect, hidle⟩ := (h.place c).effect (steady.current c.kind) c
      rw [← calls_eq_of_effect heffect]
      simp only [heffect]
      exact (ih _ hidle (steady.afterCall _) (bound _)).mono (by omega)

theorem takeTurn_ends (h : t.Idle w fs) (steady : fs.Steady) (leads : j.Leads fs w deeds n) :
    (takeTurn j t).Ends (t.calls ++ deeds.1) deeds.2 (2 * n) := by
  cases leads with
  | task bound => exact runTask_ends h steady bound
  | @call c e next n hcrash bound =>
    obtain ⟨t', heffect, hidle⟩ := h.effect hcrash c
    rw [takeTurn, ← calls_eq_of_effect heffect]
    simp only [heffect]
    exact runTask_ends hidle steady (bound _)

theorem Ends.moveTo (h : t.Ends cs v k) (time : Nat) : (t.moveTo time).Ends cs v k := by
  cases h with
  | still idle =>
    rw [idle.moveTo]
    exact .still (idle.wait _)
  | ready idle steady leads bound =>
    rw [idle.moveTo_enqueue]
    exact .ready (idle.wait _) steady leads bound
  | asleep wake idle steady leads bound =>
    rw [idle.moveTo_fallAsleep]
    split
    · exact .ready (idle.wait _) steady leads (by omega)
    · exact .asleep wake (idle.wait _) steady leads bound

/-- Whatever turns are taken, they lead to the same. -/
theorem Ends.takeTurns (h : t.Ends cs v k) (limit : Option Nat) (fuel : Nat) :
    (takeTurns limit fuel t).2.Ends cs v k := by
  induction fuel generalizing t k with
  | zero => exact h
  | succ fuel ih =>
    cases h with
    | still idle =>
      have hwake : t.nextWake? = none := by
        rw [nextWake?, idle.asleep]
        rfl
      rw [Timeline.takeTurns.eq_def]
      simp only [idle.ready, hwake, Option.filter_none]
      cases limit with
      | none => exact .still idle
      | some time => exact (Ends.still idle).moveTo time
    | ready idle steady leads bound =>
      rw [idle.takeTurns_enqueue leads]
      exact (ih (takeTurn_ends idle steady leads)).mono (by omega)
    | asleep wake idle steady leads bound =>
      rw [idle.takeTurns_fallAsleep]
      split
      · exact ih (.ready (idle.wait _) steady leads (by omega))
      · cases limit with
        | none => exact .asleep wake idle steady leads bound
        | some time => exact (Ends.asleep wake idle steady leads bound).moveTo time

theorem Ends.advance (h : t.Ends cs v k) (ms : Nat) : (t.advance ms).Ends cs v k := by
  rw [Timeline.advance, passUntil]
  split
  · exact h
  · exact h.takeTurns _ _

theorem Ends.waits (h : t.Ends cs v k) (waits : List Nat) :
    (waits.foldl Timeline.advance t).Ends cs v k := by
  induction waits generalizing t with
  | nil => exact h
  | cons ms waits ih => exact ih (h.advance ms)

/-- After all waits there are turns enough for the job to end. -/
theorem Ends.exists_takeTurns_still {fuel : Nat} (h : t.Ends cs v k) (hk : k ≤ fuel) :
    ∃ time, ∀ limit ≥ time, (Timeline.takeTurns (some limit) fuel t).2.Still := by
  induction fuel generalizing t k with
  | zero =>
    cases h with
    | still idle => exact ⟨0, fun _ _ => idle.still⟩
    | ready | asleep => omega
  | succ fuel ih =>
    cases h with
    | still idle =>
      refine ⟨0, fun limit _ => ?_⟩
      rw [idle.takeTurns]
      exact (idle.wait _).still
    | ready idle steady leads bound =>
      obtain ⟨time, htime⟩ := ih (takeTurn_ends idle steady leads) (by omega)
      refine ⟨time, fun limit hlimit => ?_⟩
      rw [idle.takeTurns_enqueue leads]
      exact htime limit hlimit
    | @asleep t w fs j deeds n k wake idle steady leads bound =>
      have hwoken := Ends.ready (idle.wait (max t.clock wake)) steady leads (Nat.lt_succ_self _)
      obtain ⟨time, htime⟩ := ih hwoken (by omega)
      refine ⟨max time (wake + 1), fun limit hlimit => ?_⟩
      have hwake : wake < limit := by omega
      rw [idle.takeTurns_fallAsleep, if_pos (by simpa using hwake)]
      exact htime limit (by omega)

theorem Ends.exists_still (h : t.Ends cs v 8) : ∃ ms, (t.advance ms).Still := by
  have hbound : t.turnBound = 8 ∨ t.Still := by
    cases h with
    | still idle => exact .inr idle.still
    | ready idle => exact .inl (idle.turnBound_enqueue _)
    | asleep wake idle => exact .inl (idle.turnBound_fallAsleep _ _)
  rcases hbound with hbound | still
  · obtain ⟨time, htime⟩ := h.exists_takeTurns_still (Nat.le_refl _)
    refine ⟨time + 1, ?_⟩
    rw [Timeline.advance, passUntil, if_neg (by omega), hbound]
    exact htime _ (by omega)
  · refine ⟨0, ?_⟩
    have hpast : t.clock + 0 ≤ t.clock := Nat.le_refl _
    rw [Timeline.advance, passUntil, if_pos hpast]
    exact still

/-! ## A caller who waits until a limit -/

/-- A task that is handed over has its turn, unless the caller has given up before. -/
theorem Idle.untilTurn_enqueue_cases (h : t.Idle w fs) (number : Nat) (limit : Option Nat) :
    (t.enqueue (.awaited number)).untilTurn limit = (some number, t) ∨
      limit ≠ none ∧ (t.enqueue (.awaited number)).untilTurn limit =
        (none, t.enqueue (.awaited number)) := by
  rw [untilTurn]
  split
  · rename_i hlimit
    refine .inr ⟨?_, rfl⟩
    rintro rfl
    cases hlimit
  · refine .inl ?_
    obtain ⟨_, _, _, _, ready, asleep, _, _⟩ := t
    obtain rfl : ready = [] := h.ready
    obtain rfl : asleep = [] := h.asleep
    rfl

/-- A task that has to wait goes on when it has woken up, unless the caller gives up before. -/
theorem Idle.untilTurn_fallAsleep_cases (h : t.Idle w fs) (wake number : Nat)
    (limit : Option Nat) :
    (t.fallAsleep wake (.awaited number)).untilTurn limit =
        (some number, { t with clock := max t.clock wake }) ∨
      limit ≠ none ∧ ∃ time u, (t.fallAsleep wake (.awaited number)).untilTurn limit = (none, u) ∧
        ∀ j : Job, u.detach j = ({ t with clock := time } : Timeline).enqueue j ∨
          u.detach j = ({ t with clock := time } : Timeline).fallAsleep wake j := by
  rw [untilTurn]
  split
  · rename_i hlimit
    refine .inr ⟨?_, t.clock, _, rfl, fun j => .inr (h.detach_fallAsleep ..)⟩
    rintro rfl
    cases hlimit
  rw [h.turnBound_fallAsleep, h.takeTurns_fallAsleep]
  split
  · refine .inl ?_
    obtain ⟨_, _, _, _, ready, asleep, _, _⟩ := t
    obtain rfl : ready = [] := h.ready
    rfl
  · rename_i hall
    cases limit with
    | none => exact absurd rfl hall
    | some time =>
      refine .inr ⟨Option.some_ne_none _, max t.clock time, _, rfl, fun j => ?_⟩
      rw [Option.elim_some, h.moveTo_fallAsleep]
      split
      · exact .inl ((h.wait _).detach_enqueue ..)
      · exact .inr ((h.wait _).detach_fallAsleep ..)

/-- A call of a task takes effect at some time, unless the caller gives up before. -/
theorem Idle.place_cases (h : t.Idle w fs) (c : Call) (delay : Nat) (limit : Option Nat) :
    ∃ r, (if delay = 0 then (some 0, t.place c) else
        ((t.place c).fallAsleep ((t.place c).clock + delay) (.awaited 0)).untilTurn limit) = r ∧
      ((∃ time, r = (some 0, { t.place c with clock := time })) ∨
        limit ≠ none ∧ ∃ wake time u, r = (none, u) ∧ ∀ j : Job,
          u.detach j = ({ t.place c with clock := time } : Timeline).enqueue j ∨
            u.detach j = ({ t.place c with clock := time } : Timeline).fallAsleep wake j) := by
  refine ⟨_, rfl, ?_⟩
  split
  · exact .inl ⟨(t.place c).clock, rfl⟩
  · rcases (h.place c).untilTurn_fallAsleep_cases ((t.place c).clock + delay) 0 limit with
      hturn | ⟨hlimit, time, u, hturn, hdetach⟩
    · exact .inl ⟨_, hturn⟩
    · exact .inr ⟨hlimit, _, time, u, hturn, hdetach⟩

/-- Whether or not the caller gives up, the task does the same. -/
theorem awaitTask_ends {task : Task Outcome} (h : t.Idle w fs) (steady : fs.Steady)
    (bound : task.CallsAtMost n) (limit : Option Nat) :
    (∃ outcome t' fs', awaitTask limit task t = (.finished outcome, t') ∧
        t'.Idle (task.deeds fs w).2 fs' ∧ t'.calls = t.calls ++ (task.deeds fs w).1) ∨
      limit ≠ none ∧ ∃ t', awaitTask limit task t = (.givenUp, t') ∧
        t'.Ends (t.calls ++ (task.deeds fs w).1) (task.deeds fs w).2 (2 * n) := by
  induction task generalizing t w fs n with
  | done outcome =>
    refine .inl ⟨outcome, t.settle, fs, rfl, ?_⟩
    rw [h.settle_eq, Task.deeds, List.append_nil]
    exact ⟨h, rfl⟩
  | note notice rest ih => exact ih (h.note notice) steady bound
  | ask c next ih =>
    obtain ⟨m, rfl, bound⟩ := bound
    rw [awaitTask, Task.deeds]
    simp only [h.faults, t.calls_place_append]
    obtain ⟨r, hplace, ⟨time, rfl⟩ | ⟨hlimit, wake, time, u, rfl, hdetach⟩⟩ :=
      h.place_cases c (fs.current c.kind).1 limit
    · obtain ⟨t', heffect, hidle⟩ := ((h.place c).wait time).effect (steady.current c.kind) c
      have hsame : t'.calls = (t.place c).calls := (calls_eq_of_effect heffect).trans rfl
      simp only [hplace, heffect]
      rw [← hsame]
      rcases ih _ hidle (steady.afterCall _) (bound _) with hend | ⟨hlimit, t₁, hrun, hends⟩
      · exact .inl hend
      · exact .inr ⟨hlimit, t₁, hrun, hends.mono (by omega)⟩
    · simp only [hplace]
      refine .inr ⟨hlimit, _, rfl, ?_⟩
      have hidle := (h.place c).wait time
      have leads : Job.Leads (fs.afterCall c.kind) w (.call c (fs.current c.kind).2 next) _ _ :=
        .call (steady.current c.kind) bound
      rcases hdetach (.call c (fs.current c.kind).2 next) with hready | hasleep
      · rw [hready]
        exact .ready hidle (steady.afterCall _) leads (by omega)
      · rw [hasleep]
        exact .asleep wake hidle (steady.afterCall _) leads (by omega)

/-- Only questions have been asked since, and the books are the same. -/
structure OnlyAsked (t t' : Timeline) : Prop where
  world : t'.world = t.world
  calls : ∃ asked, t'.calls = t.calls ++ asked ∧ ∀ c ∈ asked, c.isWrite = false

theorem onlyAsked_ask (t : Timeline) {c : Call} (hc : c.isWrite = false)
    (hworld : t'.world = t.world) (hcalls : t'.calls = t.calls ++ [c]) : t.OnlyAsked t' :=
  ⟨hworld, [c], hcalls, by simpa using hc⟩

theorem OnlyAsked.trans {t₁ t₂ : Timeline} (h : t.OnlyAsked t₁) (h' : t₁.OnlyAsked t₂) :
    t.OnlyAsked t₂ := by
  obtain ⟨asked, hcalls, hasked⟩ := h.calls
  obtain ⟨asked', hcalls', hasked'⟩ := h'.calls
  refine ⟨h'.world.trans h.world, asked ++ asked', ?_, ?_⟩
  · rw [hcalls', hcalls, List.append_assoc]
  · intro c hc
    exact (List.mem_append.1 hc).elim (hasked c) (hasked' c)

theorem run_quiet {s : Service α} (quiet : s.Quiet) (deadline : Option Deadline) (t : Timeline) :
    ∃ a t', run deadline s t = (.finished a, t') ∧ t'.world = t.world ∧ t'.calls = t.calls := by
  induction s generalizing t with
  | done a => exact ⟨a, t, rfl, rfl, rfl⟩
  | note n rest ih => exact ih quiet (t.note n)
  | ask c next => cases quiet
  | handOver task next => cases quiet

/-- A caller who gives up while asking leaves nothing behind. After that the task goes on to where
it would have gone if the caller had waited. -/
theorem run_givenUp {s : Service α} {deadline : Option Deadline} (h : t.Idle w fs)
    (steady : fs.Steady) (hs : s.HandsOver) (hrun : run deadline s t = (.givenUp, t')) :
    t'.Ends t'.calls t'.world 8 ∧ t.OnlyAsked t' ∨
      t'.Ends (run none s t).2.calls (run none s t).2.world 8 := by
  induction s generalizing t w fs with
  | done a => cases hrun
  | note n rest ih =>
    exact (ih (h.note n) steady hs hrun).imp_left fun hleft =>
      ⟨hleft.1, hleft.2.world, hleft.2.calls⟩
  | ask c next ih =>
    obtain ⟨hask, hnext⟩ := hs
    have hwait := (h.place c).passUntil ((t.place c).clock + (fs.current c.kind).1)
    obtain ⟨t₁, heffect, hidle⟩ := hwait.effect (steady.current c.kind) c
    have hpassed : ∀ time, ((t.place c).passUntil time).calls = t.calls ++ [c] := by
      intro time
      rw [(h.place c).passUntil_eq]
      rfl
    have hcalls : t₁.calls = t.calls ++ [c] := by
      rw [← hpassed, calls_eq_of_effect heffect]
    rw [World.struck_snd_of_not_isWrite hask] at hidle
    rw [run] at hrun ⊢
    simp only [h.faults, Option.filter_none, heffect] at hrun ⊢
    split at hrun
    · cases hrun
      have hgone := fun time => (h.place c).passUntil time
      exact .inl ⟨(hgone _).world ▸ .still (hgone _),
        onlyAsked_ask t hask ((hgone _).world.trans h.world.symm) (hpassed _)⟩
    · have hfirst := onlyAsked_ask t hask (hidle.world.trans h.world.symm) hcalls
      exact (ih _ hidle (steady.afterCall _) (hnext _) hrun).imp_left fun hleft =>
        ⟨hleft.1, hfirst.trans hleft.2⟩
  | handOver task next =>
    obtain ⟨bound, hquiet⟩ := hs
    -- the caller who waits
    obtain ⟨outcome, t₁, fs₁, htask, hidle, hcalls⟩ :=
      (awaitTask_ends h steady bound none).resolve_right fun hgone => hgone.1 rfl
    obtain ⟨a, t₂, hafter, hworld₂, hcalls₂⟩ := run_quiet (hquiet (some outcome)) none t₁
    have hwhole : run none (.handOver task next) t = (.finished a, t₂) := by
      rw [run]
      simp only [Option.map_none, h.untilTurn_enqueue, htask, hafter]
    rw [hwhole, hcalls₂, hcalls, hworld₂, hidle.world]
    -- the caller who gives up
    refine .inr ?_
    rw [run] at hrun
    rcases h.untilTurn_enqueue_cases 0 (deadline.map Deadline.time) with hturn | ⟨-, hturn⟩
    · simp only [hturn] at hrun
      rcases awaitTask_ends h steady bound (deadline.map Deadline.time) with
        ⟨outcome', t₃, fs₃, htask', -, -⟩ | ⟨-, t₃, htask', hends⟩
      · obtain ⟨a', t₄, hafter', -, -⟩ := run_quiet (hquiet (some outcome')) deadline t₃
        simp only [htask', hafter'] at hrun
        cases hrun
      · simp only [htask'] at hrun
        cases hrun
        exact hends.mono (by omega)
    · simp only [hturn] at hrun
      cases hrun
      rw [h.detach_enqueue]
      exact .ready h steady (.task bound) (by omega)

end Timeline

/-! ## Errands -/

open Timeline

/-- Somebody who comes alone, with whatever errand, and gives up, leaves nothing half done. When no
job is under way any more, only questions have been asked, or the calls and the books are what they
would have been if the caller had waited to the end. -/
theorem Errand.given_up {t t' : Timeline} {limit : Nat} (e : Errand) (idle : t.Idle w fs)
    (steady : fs.Steady)
    (gaveUp : t.runWithin (some limit) e.service = (.givenUp, t') ∨
      t.runBefore limit e.service = (.givenUp, t')) :
    ∃ a whole, run none e.service t = (.finished a, whole) ∧ whole.Still ∧
      (∃ ms, (t'.advance ms).Still) ∧
      ∀ waits : List Nat, (waits.foldl advance t').Still →
        t.OnlyAsked (waits.foldl advance t') ∨
          (waits.foldl advance t').calls = whole.calls ∧
            (waits.foldl advance t').world = whole.world := by
  obtain ⟨whole, hwhole, hidle⟩ := run_troubled (s := e.service) idle steady
  refine ⟨_, whole, hwhole, hidle.still, ?_⟩
  have hleft : t'.Ends t'.calls t'.world 8 ∧ t.OnlyAsked t' ∨
      t'.Ends whole.calls whole.world 8 := by
    have hsnd : (run none e.service t).2 = whole := by rw [hwhole]
    rw [← hsnd]
    rcases gaveUp with hrun | hrun
    · exact run_givenUp idle steady e.serves.handsOver hrun
    · rw [runBefore] at hrun
      split at hrun
      · cases hrun
        exact .inl ⟨idle.world ▸ .still idle, rfl, [], (List.append_nil _).symm, by simp⟩
      · exact run_givenUp idle steady e.serves.handsOver hrun
  rcases hleft with ⟨hends, hasked⟩ | hends
  · refine ⟨hends.exists_still, fun waits still => .inl ?_⟩
    obtain ⟨hcalls, hworld⟩ := (hends.waits waits).of_still still
    exact ⟨hworld.trans hasked.world, hcalls ▸ hasked.calls⟩
  · refine ⟨hends.exists_still, fun waits still => .inr ?_⟩
    exact (hends.waits waits).of_still still

/-- The caller has gone when the slot is not reserved; the booking is taken back all the same. -/
theorem Errand.given_up_reserving :
    let fs := Faults.set .empty .reserve ⟨0, none, 1000, .fail "down"⟩
    let t := { start Sample.world with faults := fs }
    let e := request (.create (Sample.name _ 1) Sample.book)
    let t' := (t.runWithin (some 500) e.service).2
    (t.Idle Sample.world fs ∧ fs.Steady ∧ t.runWithin (some 500) e.service = (.givenUp, t')) ∧
    ∃ a whole, run none e.service t = (.finished a, whole) ∧ whole.Still ∧
      (∃ ms, (t'.advance ms).Still) ∧
      ∀ waits : List Nat, (waits.foldl advance t').Still →
        t.OnlyAsked (waits.foldl advance t') ∨
          (waits.foldl advance t').calls = whole.calls ∧
            (waits.foldl advance t').world = whole.world := by
  intro fs t e t'
  have idle : t.Idle Sample.world fs := (idle_start Sample.world).equip fs
  have steady : fs.Steady :=
    (Faults.clean_empty.set (.inr ⟨Call.Kind.noConfusion, "down", rfl⟩)).steady
  have hending : (t.runWithin (some 500) e.service).1 = .givenUp := by decide +kernel
  have gaveUp : t.runWithin (some 500) e.service = (.givenUp, t') := Prod.ext hending rfl
  exact ⟨⟨idle, steady, gaveUp⟩, given_up e idle steady (.inl gaveUp)⟩

end BookingDesk
