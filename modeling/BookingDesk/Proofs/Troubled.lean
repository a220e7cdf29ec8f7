import BookingDesk.Proofs.OneByOne
import BookingDesk.Proofs.Stage

/-!
# A caller with troubled collaborators

A caller who is alone waits as long as the calls take, and what the faults make of them is told by
the course: each call meets the fault that its kind then has (`Course.troubled`). Main statements:
unless somebody breaks down, this is how the run of the caller ends, and its calls are on record
(`Timeline.run_recorded`); and what every call of a stage keeps, a request keeps to its end
(`Course.Follows.recorded`).
-/
namespace BookingDesk

variable {α : Type} {c : Call} {w : World} {fs : Faults}

/-! ## What becomes of a call -/

/-- How a call is answered whose fault has this effect. A breakdown gives no answer; it is left out
here. -/
def World.struck (e : Effect) : Collaborators := fun w c =>
  match e with
  | .none | .crash => w.answer c
  | .fail message => (.error ⟨message⟩, w)
  | .failAfter message => (.error ⟨message⟩, (w.answer c).2)
  | .answer value =>
    match c.yesOrNo? value with
    | some reply => (.ok reply, w)
    | none => w.answer c
  | .nothing =>
    match c.absence? with
    | some reply => (.ok reply, w)
    | none => w.answer c

/-- Whatever becomes of a call, it is carried out or not. -/
theorem World.struck_snd (e : Effect) (w : World) (c : Call) :
    (struck e w c).2 = w ∨ (struck e w c).2 = (w.answer c).2 := by
  cases e with
  | none | crash | failAfter message => exact .inr rfl
  | fail message => exact .inl rfl
  | answer value =>
    rw [struck]
    split
    · exact .inl rfl
    · exact .inr rfl
  | nothing =>
    rw [struck]
    split
    · exact .inl rfl
    · exact .inr rfl

/-- A question changes nothing, however it is answered. -/
theorem World.struck_snd_of_not_isWrite (h : c.isWrite = false) (e : Effect) (w : World) :
    (struck e w c).2 = w := by
  rcases struck_snd e w c with hsame | hdone
  · exact hsame
  · rw [hdone, w.answer_snd_of_not_isWrite h]

/-! ## Faults without breakdown -/

/-- Nobody breaks down. -/
def Faults.Steady (fs : Faults) : Prop := ∀ k f, fs.get? k = some f → f.effect ≠ .crash

/-- Where calls are carried out or fail without being carried out, nobody breaks down. -/
theorem Faults.Clean.steady (h : fs.Clean) : fs.Steady := by
  intro k f hf
  rcases h k f hf with hnone | ⟨-, message, hfail⟩
  · rw [hnone]
    exact Effect.noConfusion
  · rw [hfail]
    exact Effect.noConfusion

theorem Faults.Steady.current (h : fs.Steady) (k : Call.Kind) : (fs.current k).2 ≠ .crash := by
  obtain hnone | ⟨f, hf, heffect⟩ := fs.current_effect k
  · rw [hnone]
    exact Effect.noConfusion
  · exact heffect ▸ h k f hf

theorem Faults.Steady.afterCall (h : fs.Steady) (k : Call.Kind) : (fs.afterCall k).Steady := by
  intro k' f hf
  obtain ⟨g, hg, heffect⟩ := Faults.get?_afterCall hf
  exact heffect ▸ h k' g hg

/-- A call does not change the faults of calls of other kinds. -/
theorem Faults.current_afterCall {k k' : Call.Kind} (hne : k ≠ k') :
    (fs.afterCall k').current k = fs.current k := by
  rw [Faults.current, Faults.current, Faults.afterCall, Table.get?_modify, if_neg hne]

/-- The failure that the next call of a kind meets instead of being carried out. -/
def Faults.failure? (fs : Faults) (k : Call.Kind) : Option Failure :=
  match (fs.current k).2 with
  | .fail message => some ⟨message⟩
  | _ => none

/-- The failure that is the answer of the next call of a kind although it is carried out. -/
def Faults.lateFailure? (fs : Faults) (k : Call.Kind) : Option Failure :=
  match (fs.current k).2 with
  | .failAfter message => some ⟨message⟩
  | _ => none

theorem World.struck_of_failure? {f : Failure} (h : fs.failure? c.kind = some f) (w : World) :
    struck (fs.current c.kind).2 w c = (.error f, w) := by
  rw [Faults.failure?] at h
  split at h
  · rename_i heffect
    cases h
    rw [heffect]
    rfl
  · cases h

theorem World.struck_of_lateFailure? {f : Failure} (h : fs.lateFailure? c.kind = some f)
    (w : World) : struck (fs.current c.kind).2 w c = (.error f, (w.answer c).2) := by
  rw [Faults.lateFailure?] at h
  split at h
  · rename_i heffect
    cases h
    rw [heffect]
    rfl
  · cases h

theorem Faults.failure?_afterCall {k k' : Call.Kind} (hne : k ≠ k') :
    (fs.afterCall k').failure? k = fs.failure? k := by
  rw [failure?, failure?, current_afterCall hne]

theorem Faults.lateFailure?_afterCall {k k' : Call.Kind} (hne : k ≠ k') :
    (fs.afterCall k').lateFailure? k = fs.lateFailure? k := by
  rw [lateFailure?, lateFailure?, current_afterCall hne]

/-! ## The course of a caller who is alone -/

/-- Makes all calls with these faults in the way, and tells which faults are left. -/
def Course.troubled : Course α → Faults → World → α × World × Faults
  | .ended a, fs, w => (a, w, fs)
  | .calling c next, fs, w =>
    (next (World.struck (fs.current c.kind).2 w c).1).troubled (fs.afterCall c.kind)
      (World.struck (fs.current c.kind).2 w c).2

/-- The calls that are made then. -/
def Course.calls : Course α → Faults → World → List Call
  | .ended _, _, _ => []
  | .calling c next, fs, w =>
    c :: (next (World.struck (fs.current c.kind).2 w c).1).calls (fs.afterCall c.kind)
      (World.struck (fs.current c.kind).2 w c).2

/-- Calls that are made one after another, each with the effect that it meets. -/
def Faults.effects (fs : Faults) : List Call → List (Call × Effect)
  | [] => []
  | c :: calls => (c, (fs.current c.kind).2) :: (fs.afterCall c.kind).effects calls

/-- Where there are no faults, the course goes on as if alone. -/
theorem Course.troubled_of_none (course : Course α) (h : ∀ k, fs.get? k = none) :
    ∃ fs', course.troubled fs w = ((course.alone w).1, (course.alone w).2, fs') ∧
      ∀ k, fs'.get? k = none := by
  induction course generalizing fs w with
  | ended a => exact ⟨fs, rfl, h⟩
  | calling c next ih =>
    have hnow : fs.current c.kind = (0, .none) := by rw [Faults.current, h]
    have hthen : ∀ k, (fs.afterCall c.kind).get? k = none := by
      intro k
      rw [Faults.afterCall, Table.get?_modify, h, Option.map_none, ite_self]
    rw [troubled, hnow]
    exact ih _ hthen

namespace Timeline

variable {t : Timeline}

theorem Idle.effect (h : t.Idle w fs) {e : Effect} (steady : e ≠ .crash) (c : Call) :
    ∃ t', t.effect c e = (some (World.struck e w c).1, t') ∧
      t'.Idle (World.struck e w c).2 fs := by
  have hcarry := h.carryOut c
  have hdone := h.answered (w.answer c).2
  cases e with
  | none => exact ⟨_, by rw [Timeline.effect, hcarry]; rfl, hdone⟩
  | fail message => exact ⟨t, rfl, h⟩
  | failAfter message => exact ⟨_, by rw [Timeline.effect, hcarry]; rfl, hdone⟩
  | answer value =>
    rw [World.struck, Timeline.effect]
    cases c.yesOrNo? value with
    | some reply => exact ⟨t, rfl, h⟩
    | none => exact ⟨_, by rw [hcarry], hdone⟩
  | nothing =>
    rw [World.struck, Timeline.effect]
    cases c.absence? with
    | some reply => exact ⟨t, rfl, h⟩
    | none => exact ⟨_, by rw [hcarry], hdone⟩
  | crash => exact absurd rfl steady

theorem awaitTask_recorded (task : Task Outcome) (h : t.Idle w fs) (steady : fs.Steady) :
    ∃ outcome t' v fs' made, awaitTask none task t = (.finished outcome, t') ∧ t'.Idle v fs' ∧
      fs'.Steady ∧ t'.calls = t.calls ++ made ∧ ∀ after : Outcome → Course α,
        (task.course after).troubled fs w = (after outcome).troubled fs' v ∧
          (task.course after).calls fs w = made ++ (after outcome).calls fs' v := by
  induction task generalizing t w fs with
  | done outcome =>
    rw [awaitTask, h.settle_eq]
    exact ⟨outcome, t, w, fs, [], rfl, h, steady, (List.append_nil _).symm, fun _ => ⟨rfl, rfl⟩⟩
  | note n rest ih => exact ih (h.note n) steady
  | ask c next ih =>
    -- whether or not the call has to wait, it meets the same fault on the same books
    obtain ⟨t', hturn, hidle, hplaced⟩ : ∃ t', (if (fs.current c.kind).1 = 0 then
        (some 0, t.place c) else ((t.place c).fallAsleep ((t.place c).clock +
          (fs.current c.kind).1) (.awaited 0)).untilTurn none) = (some 0, t') ∧
        t'.Idle w (fs.afterCall c.kind) ∧ t'.calls = (t.place c).calls := by
      split
      · exact ⟨_, rfl, h.place c, rfl⟩
      · exact ⟨_, (h.place c).untilTurn_fallAsleep _ 0, (h.place c).wait _, rfl⟩
    obtain ⟨t'', heffect, hidle'⟩ := hidle.effect (steady.current c.kind) c
    obtain ⟨outcome, t₁, v, fs', made, hrun, hidle₁, hsteady, hcalls, hcourse⟩ :=
      ih (World.struck (fs.current c.kind).2 w c).1 hidle' (steady.afterCall c.kind)
    refine ⟨outcome, t₁, v, fs', c :: made, ?_, hidle₁, hsteady, ?_, fun after => ?_⟩
    · rw [awaitTask]
      simp only [h.faults, hturn, heffect, hrun]
    · rw [hcalls, calls_eq_of_effect heffect, hplaced, calls_place_append]
    · exact ⟨(hcourse after).1, congrArg (c :: ·) (hcourse after).2⟩

/-- Unless somebody breaks down, a caller who is alone ends as the course does with these faults in
the way, and has made its calls. -/
theorem run_recorded {s : Service α} (h : t.Idle w fs) (steady : fs.Steady) :
    ∃ t', run none s t = (.finished (s.course.troubled fs w).1, t') ∧
      t'.Idle (s.course.troubled fs w).2.1 (s.course.troubled fs w).2.2 ∧
      t'.calls = t.calls ++ s.course.calls fs w := by
  induction s generalizing t w fs with
  | done a => exact ⟨t, rfl, h, (List.append_nil _).symm⟩
  | note n rest ih => exact ih (h.note n) steady
  | ask c next ih =>
    have hwait := (h.place c).passUntil ((t.place c).clock + (fs.current c.kind).1)
    obtain ⟨t', heffect, hidle⟩ := hwait.effect (steady.current c.kind) c
    obtain ⟨t₁, hrun, hend, hcalls⟩ := ih _ hidle (steady.afterCall c.kind)
    refine ⟨t₁, ?_, hend, ?_⟩
    · rw [run]
      simp only [h.faults, Option.filter_none, heffect, hrun]
      rfl
    · rw [hcalls, calls_eq_of_effect heffect, (h.place c).passUntil_eq]
      exact (calls_place_append t c _).symm
  | handOver task next ih =>
    obtain ⟨outcome, t', v, fs', made, htask, hidle, hsteady, hcalls, hcourse⟩ :=
      awaitTask_recorded (α := α) task h steady
    obtain ⟨t₁, hrun, hend, hcalls'⟩ := ih (some outcome) hidle hsteady
    obtain ⟨hboth, hmade⟩ : (Service.handOver task next).course.troubled fs w =
        (next (some outcome)).course.troubled fs' v ∧
        (Service.handOver task next).course.calls fs w =
          made ++ (next (some outcome)).course.calls fs' v := hcourse _
    rw [hboth, hmade]
    refine ⟨t₁, ?_, hend, ?_⟩
    · rw [run]
      simp only [Option.map_none, h.untilTurn_enqueue, htask, hrun]
    · rw [hcalls', hcalls, List.append_assoc]

theorem run_troubled {s : Service α} (h : t.Idle w fs) (steady : fs.Steady) :
    ∃ t', run none s t = (.finished (s.course.troubled fs w).1, t') ∧
      t'.Idle (s.course.troubled fs w).2.1 (s.course.troubled fs w).2.2 := by
  obtain ⟨t', hrun, hidle, -⟩ := run_recorded (s := s) h steady
  exact ⟨t', hrun, hidle⟩

end Timeline

/-! ## Requests with faults in the way -/

namespace Course.Follows

variable {course : Course Outcome} {g : Stage}

/-- What every call of a stage keeps, the course keeps to its end. The effects of the calls are on
record. -/
theorem recorded {P : Stage → Faults → World → List (Call × Effect) → Prop}
    (keeps : ∀ g fs w met c, P g fs w met → g.call? = some c →
      P (g.next c (World.struck (fs.current c.kind).2 w c).1) (fs.afterCall c.kind)
        (World.struck (fs.current c.kind).2 w c).2 (met ++ [(c, (fs.current c.kind).2)]))
    (h : course.Follows g) (met : List (Call × Effect)) (start : P g fs w met) :
    ∃ g', g'.outcome? = some (course.troubled fs w).1 ∧
      P g' (course.troubled fs w).2.2 (course.troubled fs w).2.1
        (met ++ fs.effects (course.calls fs w)) := by
  induction course generalizing g fs w met with
  | ended outcome => exact ⟨g, h, by rwa [calls, Faults.effects, List.append_nil]⟩
  | calling c next ih =>
    obtain ⟨g', hended, hkept⟩ := ih _ (h.2 _) _ (keeps g fs w met c start h.1)
    rw [List.append_assoc] at hkept
    exact ⟨g', hended, hkept⟩

theorem troubled {P : Stage → Faults → World → Prop}
    (keeps : ∀ g fs w c, P g fs w → g.call? = some c →
      P (g.next c (World.struck (fs.current c.kind).2 w c).1) (fs.afterCall c.kind)
        (World.struck (fs.current c.kind).2 w c).2)
    (h : course.Follows g) (start : P g fs w) :
    ∃ g', g'.outcome? = some (course.troubled fs w).1 ∧
      P g' (course.troubled fs w).2.2 (course.troubled fs w).2.1 :=
  h.recorded (P := fun g fs w _ => P g fs w) (fun g fs w _ c => keeps g fs w c) [] start

theorem troubled_of_outcome? (h : course.Follows g) {outcome : Outcome}
    (ended : g.outcome? = some outcome) : course.troubled fs w = (outcome, w, fs) := by
  cases course with
  | ended o =>
    have ho : g.outcome? = some o := h
    rw [ended, Option.some_inj] at ho
    rw [Course.troubled, ho]
  | calling c next =>
    have hc := Stage.call?_eq_none_iff.2 ⟨outcome, ended⟩
    rw [h.1] at hc
    cases hc

/-- One call more is made, and the rest of the course follows the next stage. -/
theorem troubled_of_call? (h : course.Follows g) (hc : g.call? = some c) (fs : Faults) (w : World) :
    ∃ rest : Course Outcome,
      rest.Follows (g.next c (World.struck (fs.current c.kind).2 w c).1) ∧
      course.troubled fs w =
        rest.troubled (fs.afterCall c.kind) (World.struck (fs.current c.kind).2 w c).2 := by
  cases course with
  | ended o =>
    have hnone := Stage.call?_eq_none_iff.2 ⟨o, h⟩
    rw [hc] at hnone
    cases hnone
  | calling c' next =>
    have hcall := h.1
    rw [hc, Option.some_inj] at hcall
    subst c'
    exact ⟨_, h.2 _, rfl⟩

end Course.Follows
end BookingDesk
