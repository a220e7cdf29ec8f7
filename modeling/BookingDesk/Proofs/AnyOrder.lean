import BookingDesk.Proofs.Courses
import BookingDesk.Proofs.Footprint
import BookingDesk.Proofs.Isolation
import BookingDesk.Proofs.Keyed
import BookingDesk.Proofs.Seen

/-!
# Requests that have nothing to do with each other

Requests that concern different bookings and different slots share nothing but the numbers of
bookings of customers, which are only added to. So turns of two of them can be taken in either order
(`Parted.turn_comm`), hence those of all in any order (`Parted.play_perm`). Main statement: however
their calls interleave, each of them ends as it does when they are served one after another, in
whatever order (`independent_in_any_order`).
-/
namespace BookingDesk

variable {α β : Type}

/-! ## Courses that stay inside a footprint -/

/-- All calls concern this booking and this slot only, as long as what is found does. -/
def Course.Inside (f : Footprint) : Course α → Prop
  | .ended _ => True
  | .calling c next => c.Inside f ∧ ∀ answer, c.Fits f answer → (next answer).Inside f

/-- There are no more calls than so many, whatever the answers are. -/
def Course.CallsAtMost : Course α → Nat → Prop
  | .ended _, _ => True
  | .calling _ next, n => ∃ m, n = m + 1 ∧ ∀ answer, (next answer).CallsAtMost m

theorem Course.CallsAtMost.mono {c : Course α} {n m : Nat} (h : c.CallsAtMost n) (hnm : n ≤ m) :
    c.CallsAtMost m := by
  induction c generalizing n m with
  | ended a => trivial
  | calling call next ih =>
    obtain ⟨k, rfl, hnext⟩ := h
    obtain ⟨l, rfl⟩ : ∃ l, m = l + 1 := ⟨m - 1, by omega⟩
    exact ⟨l, rfl, fun answer => ih answer (hnext answer) (by omega)⟩

namespace Stage

/-- What the stage knows of is this booking, in this slot. -/
def Inside (f : Footprint) : Stage → Prop
  | askSlot id c _ | askCustomer id c _ | askStaff id c _ | readSlot id c _ =>
    id = f.booking ∧ f.slot = some c.slot
  | insert b | reserve b | takeBack b _ | replace b _ | release b =>
    b.id = f.booking ∧ f.slot = some b.slot
  | load ch => ch.booking = f.booking
  | count _ | booked _ | changed _ | failed _ => True

/-- How many calls there may still be. -/
def left : Stage → Nat
  | askSlot _ _ _ => 7
  | askCustomer _ _ _ => 6
  | askStaff _ _ _ => 5
  | readSlot _ _ _ => 4
  | insert _ | load _ => 3
  | reserve _ | replace _ _ => 2
  | count _ | takeBack _ _ | release _ => 1
  | booked _ | changed _ | failed _ => 0

variable {f : Footprint} {g : Stage} {c : Call}

theorem Inside.call (h : g.Inside f) (hc : g.call? = some c) : c.Inside f := by
  cases g with
  | askSlot id cmd _ | readSlot id cmd _ | reserve b | release b =>
    cases hc
    exact h.2
  | askCustomer id cmd _ | askStaff id cmd _ | count b =>
    cases hc
    trivial
  | insert b | load ch | replace b _ =>
    cases hc
    exact h
  | takeBack b _ =>
    cases hc
    exact h.1
  | booked _ | changed _ | failed _ => cases hc

theorem Inside.next (h : g.Inside f) (hc : g.call? = some c) {answer : Answer c}
    (fits : c.Fits f answer) : (g.next c answer).Inside f := by
  cases g with
  | askSlot id cmd _ | askCustomer id cmd _ | askStaff id cmd _ =>
    cases hc
    rcases answer with failure | _ | _
    · trivial
    · trivial
    · exact h
  | readSlot id cmd notes =>
    cases hc
    rcases answer with failure | _ | slot
    · trivial
    · trivial
    · show (made id cmd notes (some slot)).Inside f
      rw [made]
      cases hb : cmd.booking id notes slot.start slot.finish with
      | error e => trivial
      | ok b =>
        obtain ⟨-, rfl⟩ := CreateBooking.booking_eq_ok_iff.1 hb
        exact h
  | insert b =>
    cases hc
    rcases answer with failure | _
    · trivial
    · exact h
  | reserve b =>
    cases hc
    rcases answer with failure | _ | _
    · exact h
    · exact h
    · trivial
  | count b | takeBack b _ | release b =>
    cases hc
    trivial
  | load ch =>
    cases hc
    rcases answer with failure | _ | b
    · trivial
    · trivial
    · show (found ch (some b)).Inside f
      rw [found]
      cases hch : ch.apply b with
      | error e => trivial
      | ok new =>
        obtain ⟨-, rfl⟩ := Change.apply_eq_ok_iff.1 hch
        exact fits
  | replace b before =>
    cases hc
    rcases answer with failure | _ | _
    · trivial
    · trivial
    · show (replaced b before).Inside f
      rw [replaced]
      split
      · exact h
      · trivial
  | booked _ | changed _ | failed _ => cases hc

theorem left_next (hc : g.call? = some c) (answer : Answer c) :
    (g.next c answer).left + 1 ≤ g.left := by
  cases g with
  | askSlot _ _ _ | askCustomer _ _ _ | askStaff _ _ _ | reserve _ =>
    cases hc
    rcases answer with failure | _ | _ <;> simp [next, left]
  | readSlot id cmd notes =>
    cases hc
    rcases answer with failure | _ | slot
    · simp [next, left]
    · simp [next, made, left]
    · simp only [next, made]
      cases cmd.booking id notes slot.start slot.finish <;> simp [left]
  | insert _ =>
    cases hc
    rcases answer with failure | _ <;> simp [next, left]
  | count _ | takeBack _ _ | release _ =>
    cases hc
    simp [next, left]
  | load ch =>
    cases hc
    rcases answer with failure | _ | b
    · simp [next, left]
    · simp [next, found, left]
    · simp only [next, found]
      cases ch.apply b <;> simp [left]
  | replace b before =>
    cases hc
    rcases answer with failure | _ | _
    · simp [next, left]
    · simp [next, left]
    · simp only [next, replaced]
      split <;> simp [left]
  | booked _ | changed _ | failed _ => cases hc

end Stage

theorem Course.Follows.inside {f : Footprint} {c : Course Outcome} {g : Stage} (h : c.Follows g)
    (hg : g.Inside f) : c.Inside f := by
  induction c generalizing g with
  | ended outcome => trivial
  | calling call next ih =>
    obtain ⟨hcall, hnext⟩ := h
    exact ⟨hg.call hcall, fun answer fits => ih answer (hnext answer) (hg.next hcall fits)⟩

theorem Course.Follows.callsAtMost {c : Course Outcome} {g : Stage} (h : c.Follows g) {n : Nat}
    (hn : g.left ≤ n) : c.CallsAtMost n := by
  induction c generalizing g n with
  | ended outcome => trivial
  | calling call next ih =>
    obtain ⟨hcall, hnext⟩ := h
    have hstep := fun answer => Stage.left_next hcall answer
    cases n with
    | zero => exact absurd (hstep (.error ⟨""⟩)) (by omega)
    | succ m =>
      refine ⟨m, rfl, fun answer => ih answer (hnext answer) ?_⟩
      have := hstep answer
      omega

/-! ## Turns in either order -/

namespace Interleaving

/-- The books hold the same, and the strands have come equally far. -/
def Same (d e : Interleaving (Course α)) : Prop := d.world.Same e.world ∧ d.strands = e.strands

/-- Every strand stays inside a footprint of its own. -/
structure Parted (footprints : List Footprint) (d : Interleaving (Course α)) : Prop where
  length : d.strands.length = footprints.length
  apart : footprints.Pairwise Footprint.Apart
  inside : ∀ {i : Nat} {f c}, footprints[i]? = some f → d.strands[i]? = some c → c.Inside f
  fits : ∀ f ∈ footprints, d.world.Fits f

/-- A strand goes on to its end, with nobody else about. -/
def finish (d : Interleaving (Course α)) (i : Nat) : Interleaving (Course α) :=
  match d.strands[i]? with
  | none => d
  | some c => ⟨(c.alone d.world).2, d.strands.set i (.ended (c.alone d.world).1)⟩

/-- The strands go on to their ends one after another. -/
def finishAll (d : Interleaving (Course α)) (order : List Nat) : Interleaving (Course α) :=
  order.foldl finish d

variable {footprints : List Footprint} {d d' e : Interleaving (Course α)} {i j : Nat}
  {schedule schedule' : List Nat}

theorem Same.refl (d : Interleaving (Course α)) : d.Same d := ⟨.refl _, rfl⟩

theorem Same.symm (h : d.Same e) : e.Same d := ⟨h.1.symm, h.2.symm⟩

theorem Same.trans (h : d.Same d') (g : d'.Same e) : d.Same e := ⟨h.1.trans g.1, h.2.trans g.2⟩

theorem Same.result?_eq (h : d.Same e) (i : Nat) : d.result? i = e.result? i := by
  rw [result?, result?, h.2]

theorem call?_eq_some_iff {c : Call} :
    d.call? i = some c ↔ ∃ next, d.strands[i]? = some (.calling c next) := by
  rw [call?, Option.bind_eq_some_iff]
  constructor
  · rintro ⟨_ | ⟨c, next⟩, hc, hcall⟩
    · cases hcall
    · cases hcall
      exact ⟨next, hc⟩
  · rintro ⟨next, hc⟩
    exact ⟨_, hc, rfl⟩

/-- Without a call to make, a turn changes nothing. -/
theorem turn_of_call?_none (h : d.call? i = none) :
    d.turn (Course.turn World.answer) i = d := by
  obtain heq | ⟨c, next, hc, -⟩ := d.turn_cases World.answer i
  · exact heq
  · rw [call?_eq_some_iff.2 ⟨next, hc⟩] at h
    cases h

theorem call?_turn_of_ne (hne : i ≠ j) :
    (d.turn (Course.turn World.answer) j).call? i = d.call? i := by
  rw [call?, call?, getElem?_turn_of_ne hne]

namespace Parted

theorem footprint {c : Course α} (h : d.Parted footprints) (hc : d.strands[i]? = some c) :
    ∃ f, footprints[i]? = some f := by
  have hi : i < footprints.length := h.length ▸ (List.getElem?_eq_some_iff.1 hc).1
  exact ⟨footprints[i], List.getElem?_eq_getElem hi⟩

theorem apart_of_ne {f g : Footprint} (h : d.Parted footprints) (hf : footprints[i]? = some f)
    (hg : footprints[j]? = some g) (hne : i ≠ j) : f.Apart g := by
  have hpair := List.pairwise_iff_getElem.1 h.apart
  obtain ⟨hi, rfl⟩ := List.getElem?_eq_some_iff.1 hf
  obtain ⟨hj, rfl⟩ := List.getElem?_eq_some_iff.1 hg
  rcases Nat.lt_or_gt_of_ne hne with hlt | hgt
  · exact hpair i j hi hj hlt
  · exact (hpair j i hj hi hgt).symm

theorem turn (h : d.Parted footprints) (i : Nat) :
    (d.turn (Course.turn World.answer) i).Parted footprints := by
  obtain heq | ⟨call, next, hc, heq⟩ := d.turn_cases World.answer i
  · rwa [heq]
  obtain ⟨f, hf⟩ := h.footprint hc
  obtain ⟨hcall, hnext⟩ := h.inside hf hc
  obtain ⟨hanswer, hworld⟩ := (h.fits f (List.mem_of_getElem? hf)).answer hcall
  rw [heq]
  refine ⟨by rw [List.length_set, h.length], h.apart, fun {j g c} hg hc' => ?_, fun g hg => ?_⟩
  · rcases (getElem?_set_eq_some_iff hc).1 hc' with ⟨rfl, rfl⟩ | ⟨-, hc'⟩
    · rw [hf, Option.some_inj] at hg
      exact hg ▸ hnext _ hanswer
    · exact h.inside hg hc'
  · obtain ⟨j, hg⟩ := List.getElem?_of_mem hg
    by_cases hji : j = i
    · subst hji
      rw [hf, Option.some_inj] at hg
      exact hg ▸ hworld
    · exact (h.fits g (List.mem_of_getElem? hg)).answer_apart (h.apart_of_ne hg hf hji) hcall

theorem play (h : d.Parted footprints) (schedule : List Nat) :
    (d.play (Course.turn World.answer) schedule).Parted footprints :=
  play_keeps _ (fun _ i _ h _ => h.turn i) h schedule

/-- The next call of a strand stays inside its footprint. -/
theorem call {c : Call} {next : Answer c → Course α} (h : d.Parted footprints)
    (hc : d.strands[i]? = some (.calling c next)) :
    ∃ f, footprints[i]? = some f ∧ c.Inside f := by
  obtain ⟨f, hf⟩ := h.footprint hc
  exact ⟨f, hf, (h.inside hf hc).1⟩

/-- The same turn of two that are the same. -/
theorem same_turn (h : d.Parted footprints) (same : d.Same e) (i : Nat) :
    (d.turn (Course.turn World.answer) i).Same (e.turn (Course.turn World.answer) i) := by
  obtain ⟨hworld, hstrands⟩ := same
  cases hc : d.strands[i]? with
  | none =>
    rw [turn_of_none hc, turn_of_none (hstrands ▸ hc)]
    exact ⟨hworld, hstrands⟩
  | some course =>
    cases course with
    | ended a =>
      rw [turn_of_ended hc, turn_of_ended (hstrands ▸ hc)]
      exact ⟨hworld, hstrands⟩
    | calling call next =>
      obtain ⟨f, -, hcall⟩ := h.call hc
      obtain ⟨hanswer, hsame⟩ := hworld.answer hcall
      rw [turn_of_some hc, turn_of_some (hstrands ▸ hc)]
      exact ⟨hsame, by rw [Course.turn, Course.turn, hanswer, hstrands]⟩

theorem same_play (h : d.Parted footprints) (same : d.Same e) (schedule : List Nat) :
    (d.play (Course.turn World.answer) schedule).Same
      (e.play (Course.turn World.answer) schedule) := by
  induction schedule generalizing d e with
  | nil => exact same
  | cons i rest ih => exact ih (h.turn i) (h.same_turn same i)

/-- Turns of two strands can be taken in either order. -/
theorem turn_comm (h : d.Parted footprints) (hne : i ≠ j) :
    ((d.turn (Course.turn World.answer) i).turn (Course.turn World.answer) j).Same
      ((d.turn (Course.turn World.answer) j).turn (Course.turn World.answer) i) := by
  cases hi : d.call? i with
  | none =>
    rw [turn_of_call?_none hi, turn_of_call?_none ((call?_turn_of_ne hne).trans hi)]
    exact .refl _
  | some c =>
    cases hj : d.call? j with
    | none =>
      rw [turn_of_call?_none hj, turn_of_call?_none ((call?_turn_of_ne hne.symm).trans hj)]
      exact .refl _
    | some c' =>
      obtain ⟨next, hc⟩ := call?_eq_some_iff.1 hi
      obtain ⟨next', hc'⟩ := call?_eq_some_iff.1 hj
      obtain ⟨f, hf, hcall⟩ := h.call hc
      obtain ⟨g, hg, hcall'⟩ := h.call hc'
      obtain ⟨hanswer', hanswer, hworld⟩ :=
        World.answer_comm (w := d.world) (h.apart_of_ne hf hg hne) hcall hcall'
      have hnext : (d.turn (Course.turn World.answer) i).strands[j]? = some (.calling c' next') :=
        (getElem?_turn_of_ne hne.symm).trans hc'
      have hnext' : (d.turn (Course.turn World.answer) j).strands[i]? = some (.calling c next) :=
        (getElem?_turn_of_ne hne).trans hc
      rw [turn_of_some hnext, turn_of_some hnext', turn_of_some hc, turn_of_some hc']
      refine ⟨hworld, ?_⟩
      simp only [Course.turn, hanswer, hanswer']
      rw [List.set_comm _ _ hne]

/-- Turns can be taken in any order. -/
theorem play_perm (h : d.Parted footprints) (perm : schedule.Perm schedule') :
    (d.play (Course.turn World.answer) schedule).Same
      (d.play (Course.turn World.answer) schedule') := by
  induction perm generalizing d with
  | nil => exact .refl _
  | cons i _ ih => exact ih (h.turn i)
  | swap i j rest =>
    by_cases hij : i = j
    · subst hij
      exact .refl _
    · exact ((h.turn j).turn i).same_play (h.turn_comm (Ne.symm hij)) rest
  | trans _ _ ih ih' => exact (ih h).trans (ih' h)

end Parted

/-! ## One after another -/

/-- With enough turns in a row, a course comes to its end. -/
theorem turns_of_callsAtMost {c : Course α} {n : Nat} (h : c.CallsAtMost n) (w : World) :
    turns (Course.turn World.answer) n w c = (.ended (c.alone w).1, (c.alone w).2) := by
  induction n generalizing c w with
  | zero =>
    cases c with
    | ended a => rfl
    | calling call next =>
      obtain ⟨m, hm, -⟩ := h
      cases hm
  | succ n ih =>
    cases c with
    | ended a => exact ih (c := .ended a) trivial w
    | calling call next =>
      obtain ⟨m, hm, hnext⟩ := h
      cases hm
      exact ih (hnext _) _

theorem finish_of_none (h : d.strands[i]? = none) : d.finish i = d := by
  rw [finish, h]

theorem finish_of_some {c : Course α} (h : d.strands[i]? = some c) :
    d.finish i = ⟨(c.alone d.world).2, d.strands.set i (.ended (c.alone d.world).1)⟩ := by
  rw [finish, h]

theorem getElem?_finish_of_ne (hne : j ≠ i) : (d.finish i).strands[j]? = d.strands[j]? := by
  cases h : d.strands[i]? with
  | none => rw [finish_of_none h]
  | some c => rw [finish_of_some h, List.getElem?_set_ne hne.symm]

theorem play_of_call?_none (h : ∀ i ∈ schedule, d.call? i = none) :
    d.play (Course.turn World.answer) schedule = d := by
  induction schedule with
  | nil => rfl
  | cons i rest ih =>
    rw [play_cons, turn_of_call?_none (h i List.mem_cons_self)]
    exact ih fun j hj => h j (List.mem_cons_of_mem i hj)

theorem play_replicate_of_callsAtMost {c : Course α} {n : Nat} (hc : d.strands[i]? = some c)
    (atMost : c.CallsAtMost n) :
    d.play (Course.turn World.answer) (List.replicate n i) = d.finish i := by
  rw [play_replicate hc (turns_of_callsAtMost atMost d.world), finish_of_some hc]

/-- The turns of one strand can all be taken first. -/
theorem Parted.finish {c : Course α} {n : Nat} (h : d.Parted footprints)
    (hc : d.strands[i]? = some c) (atMost : c.CallsAtMost n) (enough : n ≤ schedule.count i) :
    (d.finish i).Parted footprints ∧ (d.play (Course.turn World.answer) schedule).Same
      ((d.finish i).play (Course.turn World.answer) (schedule.filter (!· == i))) := by
  have hfinish := play_replicate_of_callsAtMost hc (atMost.mono enough)
  have perm := List.filter_append_perm (· == i) schedule
  rw [List.filter_beq] at perm
  refine ⟨hfinish ▸ h.play _, ?_⟩
  rw [← hfinish, ← play_append]
  exact h.play_perm perm.symm

/-- With enough turns for everyone, whoever comes first, it is as if one came after another. -/
theorem Parted.finishAll {n : Nat} {order : List Nat} (h : d.Parted footprints)
    (nodup : order.Nodup) (all : ∀ i ∈ schedule, i < d.strands.length → i ∈ order)
    (going : ∀ i ∈ order, ∃ c, d.strands[i]? = some c ∧ c.CallsAtMost n)
    (enough : ∀ i ∈ order, n ≤ schedule.count i) :
    (d.play (Course.turn World.answer) schedule).Same (d.finishAll order) := by
  induction order generalizing d schedule with
  | nil =>
    have hnobody : ∀ i ∈ schedule, d.call? i = none := by
      intro i hi
      have hlength := Nat.le_of_not_lt fun hlt => absurd (all i hi hlt) List.not_mem_nil
      rw [call?, List.getElem?_eq_none hlength, Option.bind_none]
    rw [play_of_call?_none hnobody]
    exact .refl _
  | cons i rest ih =>
    obtain ⟨hi, hrest⟩ := List.nodup_cons.1 nodup
    obtain ⟨c, hc, hatMost⟩ := going i List.mem_cons_self
    obtain ⟨hparted, hsame⟩ := h.finish hc hatMost (enough i List.mem_cons_self)
    have hne : ∀ j ∈ rest, j ≠ i := by
      rintro j hj rfl
      exact hi hj
    refine hsame.trans (ih hparted hrest (fun j hj hlt => ?_) (fun j hj => ?_) fun j hj => ?_)
    · obtain ⟨hj, hji⟩ := List.mem_filter.1 hj
      have hlength : (d.finish i).strands.length = d.strands.length := by
        rw [finish_of_some hc, List.length_set]
      rcases List.mem_cons.1 (all j hj (hlength ▸ hlt)) with rfl | hj
      · simp at hji
      · exact hj
    · rw [getElem?_finish_of_ne (hne j hj)]
      exact going j (List.mem_cons_of_mem i hj)
    · rw [List.count_filter (by simpa using hne j hj)]
      exact enough j (List.mem_cons_of_mem i hj)

end Interleaving

/-! ## Requests -/

/-- Wherever the books come from, every booking stands under its own identifier. -/
theorem World.Reachable.keyed {w : World} (h : w.Reachable) : w.Keyed := by
  induction h with
  | empty => exact nofun
  | addSlot _ _ ih | addCustomer _ _ _ ih | addStaff _ _ _ ih => exact ih
  | @run w errands schedule _ ih =>
    refine Interleaving.play_keeps (fun d => d.world.Keyed) (fun d i c hd _ => ?_) ih schedule
    obtain heq | ⟨call, next, -, heq⟩ := d.turn_cases World.answer i
    · rwa [heq]
    · rw [heq]
      exact World.Keyed.answer hd call

namespace Request

variable {requests : List Request} {w : World} {f g : Footprint} {r : Request}

/-- A create concerns the booking that it is going to make and the slot that is asked for; a change
concerns its booking and the slot of that one. -/
def footprint (w : World) : Request → Footprint
  | create id c => ⟨id, some c.slot⟩
  | update ⟨_, id, _, _, _⟩ => ⟨id, (w.bookings.get? id).map Booking.slot⟩
  | confirm ⟨_, id, _⟩ | cancel ⟨_, id, _⟩ | complete ⟨_, id, _⟩ =>
    ⟨id, (w.bookings.get? id).map Booking.slot⟩

/-- The requests concern different bookings and different slots. No identifier that is drawn is in
use. -/
structure Independent (requests : List Request) (w : World) : Prop where
  apart : requests.Pairwise fun r r' => (r.footprint w).Apart (r'.footprint w)
  unused : ∀ r ∈ requests, ∀ id, r.drawn? = some id → w.bookings.get? id = none

theorem inside_start (w : World) (r : Request) : r.start.Inside (r.footprint w) := by
  cases r with
  | create id c =>
    rw [start]
    cases c.validate with
    | error e => trivial
    | ok notes => exact ⟨rfl, rfl⟩
  | update c =>
    rw [start]
    cases c.validate with
    | error e => trivial
    | ok notes => rfl
  | confirm c | cancel c | complete c => rfl

theorem left_start (r : Request) : r.start.left ≤ 7 := by
  rcases r.start_cases with ⟨e, h⟩ | ⟨id, c, notes, -, -, h⟩ | ⟨ch, h⟩ <;>
    simp [h, Stage.left]

theorem fits_footprint (keyed : w.Keyed) (unused : ∀ id, r.drawn? = some id →
    w.bookings.get? id = none) : w.Fits (r.footprint w) := by
  intro row hrow
  cases r with
  | create id c =>
    rw [footprint, unused id rfl] at hrow
    cases hrow
  | update c | confirm c | cancel c | complete c =>
    exact ⟨keyed _ row hrow, congrArg (Option.map Booking.slot) hrow⟩

theorem parted_courses (keyed : w.Keyed) (independent : Independent requests w) :
    (courses requests w).Parted (requests.map (footprint w)) where
  length := by simp [courses]
  apart := List.pairwise_map.2 independent.apart
  inside {i f c} hf hc := by
    rw [List.getElem?_map, Option.map_eq_some_iff] at hf
    obtain ⟨r, hr, rfl⟩ := hf
    rw [courses, List.getElem?_map, hr, Option.map_some, Option.some_inj] at hc
    exact hc ▸ (follows_start r).inside (inside_start w r)
  fits f hf := by
    obtain ⟨r, hr, rfl⟩ := List.mem_map.1 hf
    exact fits_footprint keyed (independent.unused r hr)

theorem strands_courses {i : Nat} (w : World) (hi : i < requests.length) :
    ∃ c, (courses requests w).strands[i]? = some c ∧ c.CallsAtMost 7 := by
  refine ⟨requests[i].service.course, ?_, (follows_start _).callsAtMost (left_start _)⟩
  simp [courses, hi]

/-- Turns enough for everyone. -/
def allTurns (requests : List Request) : List Nat :=
  ((List.range requests.length).map (List.replicate 7)).flatten

theorem mem_allTurns {i : Nat} : i ∈ allTurns requests ↔ i < requests.length := by
  simp [allTurns]

theorem le_count_allTurns {i : Nat} (hi : i < requests.length) :
    7 ≤ (allTurns requests).count i := by
  rw [← List.replicate_sublist_iff]
  exact List.sublist_flatten_of_mem (List.mem_map.2 ⟨i, List.mem_range.2 hi, rfl⟩)

/-- However the calls of independent requests interleave, each request ends as it does when they are
served one after another, in any order. Each of them has ended after seven turns, and when all of
them have, the books hold the same. -/
theorem independent_in_any_order (reachable : w.Reachable) (independent : Independent requests w)
    (schedule : List Nat) {order : List Nat} (perm : order.Perm (List.range requests.length)) :
    let d := (courses requests w).play (Course.turn World.answer) schedule
    let e := (courses requests w).finishAll order
    (∀ i outcome, d.result? i = some outcome → e.result? i = some outcome) ∧
      (∀ i < requests.length, 7 ≤ schedule.count i → (d.result? i).isSome = true) ∧
      ((∀ i < requests.length, (d.result? i).isSome = true) → d.world.Same e.world) := by
  intro d e
  have parted := parted_courses reachable.keyed independent
  have horder : ∀ {i}, i ∈ order ↔ i < requests.length := by
    intro i
    rw [perm.mem_iff, List.mem_range]
  have hlength : (courses requests w).strands.length = requests.length := by simp [courses]
  -- the schedule goes on until everyone has ended for sure
  have hall : (d.play (Course.turn World.answer) (allTurns requests)).Same e := by
    rw [← Interleaving.play_append]
    refine parted.finishAll (perm.nodup_iff.2 List.nodup_range)
      (fun i _ hi => horder.2 (hlength ▸ hi)) (fun i hi => strands_courses w (horder.1 hi))
      fun i hi => ?_
    have := le_count_allTurns (horder.1 hi)
    rw [List.count_append]
    omega
  refine ⟨fun i outcome h => ?_, fun i hi enough => ?_, fun ended => ?_⟩
  · rw [← hall.result?_eq]
    exact Interleaving.result?_play h _ _
  · obtain ⟨c, hc, atMost⟩ := strands_courses w hi
    obtain ⟨-, hsame⟩ := parted.finish hc atMost enough
    have hended : ((courses requests w).finish i).result? i = some (c.alone w).1 := by
      rw [Interleaving.finish_of_some hc, Interleaving.result?_eq_some_iff]
      exact (Interleaving.getElem?_set_eq_some_iff hc).2 (.inl ⟨rfl, rfl⟩)
    rw [hsame.result?_eq, Interleaving.result?_play hended]
    rfl
  · have hidle : d.play (Course.turn World.answer) (allTurns requests) = d := by
      refine Interleaving.play_of_call?_none fun i hi => ?_
      obtain ⟨outcome, h⟩ := Option.isSome_iff_exists.1 (ended i (mem_allTurns.1 hi))
      rw [Interleaving.call?, Interleaving.result?_eq_some_iff.1 h]
      rfl
    exact hidle ▸ hall.1

/-- Two bookings of one customer are made while a third one is cancelled. -/
theorem independent_in_any_order_three :
    let slot (n : Nat) : Slot := { Sample.slot with id := Sample.name _ n }
    let book (n : Nat) := create (Sample.name _ n) { Sample.book with slot := Sample.name _ n }
    let v := (Sample.world.addSlot (slot 2)).addSlot (slot 3)
    let w := ((Errand.courses [.request (book 1)] v).play (Course.turn World.answer)
      (List.replicate 7 0)).world
    let requests := [book 2, book 3, cancel ⟨Sample.name _ 1, Sample.name _ 1, .ofSecond 60⟩]
    let schedule := (List.replicate 7 [0, 2, 1]).flatten
    w.Reachable ∧ Independent requests w ∧ [2, 1, 0].Perm (List.range requests.length) ∧
      ((courses requests w).play (Course.turn World.answer) schedule).world.Same
        ((courses requests w).finishAll [2, 1, 0]).world := by
  intro slot book v w requests schedule
  have hv : v.Reachable :=
    (((((World.Reachable.empty).addSlot _).addCustomer _ _).addStaff _ _).addSlot _).addSlot _
  have reachable : w.Reachable := hv.run _ _
  have independent : Independent requests w := ⟨by decide, by decide⟩
  have perm : [2, 1, 0].Perm (List.range requests.length) := by decide
  obtain ⟨-, hended, hsame⟩ := independent_in_any_order reachable independent schedule perm
  exact ⟨reachable, independent, perm, hsame fun i hi => hended i hi (by revert i; decide)⟩

end Request
end BookingDesk
