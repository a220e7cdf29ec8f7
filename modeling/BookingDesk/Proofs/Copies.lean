import BookingDesk.Proofs.Reached

/-!
# Look-ups that find any copy

A change is decided on the booking that was looked up, and stored later. Here a look-up may find any
copy of a booking, however old (`World.answerFrom`), and requests make their calls in turns
(`Request.Run`). What a request has done to come to its stage tells which booking it has looked up
and which row it has moved (`Past`). Main statement: this is so after any number of turns
(`Run.sound`).
-/
namespace BookingDesk

/-! ## Look-ups that find a copy -/

/-- Every look-up finds this copy, whatever it asks for; without one, the books answer. -/
def World.answerFrom (copy : Option Booking) : Collaborators := fun w c =>
  match c, copy with
  | .find _ _, some b => (.ok (some b), w)
  | c, _ => w.answer c

theorem World.answerFrom_find_snd (copy : Option Booking) (w : World) (business : BusinessId)
    (booking : BookingId) : (answerFrom copy w (.find business booking)).2 = w := by
  cases copy <;> rfl

namespace Stage

variable {w w' : World} {g g' : Stage} {id : BookingId} {b : Booking}

/-- Only a look-up can find a copy. -/
theorem turn_of_ne_load (h : ∀ ch, g ≠ load ch) (copy : Option Booking) (w : World) :
    g.turn (World.answerFrom copy) w = g.act w := by
  cases g with
  | load ch => exact absurd rfl (h ch)
  | _ => cases copy <;> rfl

/-- What is looked up is changed and about to be stored, or the request fails. -/
theorem turn_load (ch : Change) (copy : Option Booking) (w : World) :
    ((load ch).turn (World.answerFrom copy) w).2 = w ∧
      ((∃ e, ((load ch).turn (World.answerFrom copy) w).1 = failed e) ∨
        ∃ old, (World.answerFrom copy w (.find ch.business ch.booking)).1 = .ok (some old) ∧
          ch.admits old.status = true ∧
          ((load ch).turn (World.answerFrom copy) w).1 = replace (ch.result old) old.status) := by
  refine ⟨World.answerFrom_find_snd copy w _ _, ?_⟩
  simp only [turn, call?]
  cases (World.answerFrom copy w (.find ch.business ch.booking)).1 with
  | error f => exact .inl ⟨_, rfl⟩
  | ok answer =>
    cases answer with
    | none => exact .inl ⟨_, rfl⟩
    | some old =>
      simp only [next, found, Change.apply]
      cases hadmits : ch.admits old.status with
      | false => exact .inl ⟨_, rfl⟩
      | true => exact .inr ⟨old, rfl, hadmits, rfl⟩

/-- Whatever is looked up, a turn stores a booking, takes one back, stores a new version of one, or
leaves all bookings as they are. -/
theorem rows_of_turn (g : Stage) (copy : Option Booking) (w : World) :
    (g.turn (World.answerFrom copy) w).2.bookings = w.bookings ∨
      (∃ b, g = insert b ∧ (g.turn (World.answerFrom copy) w).1 = reserve b ∧
        w.bookings.get? b.id = none ∧ (g.turn (World.answerFrom copy) w).2 = w.insert b) ∨
      (∃ b e, g = takeBack b e ∧ (g.turn (World.answerFrom copy) w).2 = w.remove b.id) ∨
      ∃ b stored, g = replace b stored.status ∧ w.bookings.get? b.id = some stored ∧
        (g.turn (World.answerFrom copy) w).1 = Stage.replaced b stored.status ∧
        (g.turn (World.answerFrom copy) w).2 = w.replace b := by
  by_cases hload : ∃ ch, g = load ch
  · obtain ⟨ch, rfl⟩ := hload
    exact .inl (congrArg World.bookings (turn_load ch copy w).1)
  · rw [turn_of_ne_load (fun ch h => hload ⟨ch, h⟩)]
    rcases (turns w g).rows with hrows | ⟨b, hg, hnext, hfresh, hw⟩ | ⟨b, e, hg, -, hw⟩ |
      ⟨b, before, stored, hg, hnext, hfound, -, rfl, hw⟩
    · exact .inl hrows
    · exact .inr (.inl ⟨b, hg, hnext, hfresh, hw⟩)
    · exact .inr (.inr (.inl ⟨b, e, hg, hw⟩))
    · exact .inr (.inr (.inr ⟨b, stored, hg, hfound, hnext, hw⟩))

/-- A conditional write comes too late or stores the new version. -/
theorem Turns.of_replace {before : Status} (h : Turns w (replace b before) g' w') :
    g' = failed .modifiedMeanwhile ∨ ∃ stored, w.bookings.get? b.id = some stored ∧
      stored.status = before ∧ g' = Stage.replaced b before ∧ w' = w.replace b := by
  cases h with
  | replaced found own same => exact .inr ⟨_, found, same, rfl, rfl⟩
  | overtaken _ => exact .inl rfl
  | rests ended => cases ended

/-- The identifier of the booking that is yet to be stored. -/
def toStore? : Stage → Option BookingId
  | askSlot id _ _ | askCustomer id _ _ | askStaff id _ _ | readSlot id _ _ => some id
  | insert b => some b.id
  | _ => none

theorem Turns.toStore (h : Turns w g g' w') (hid : g'.toStore? = some id) :
    g.toStore? = some id := by
  cases h with
  | slotFree _ _ _ | customerKnown _ | staffKnown _ => exact hid
  | slotRead known own made =>
    obtain ⟨-, rfl⟩ := CreateBooking.booking_eq_ok_iff.1 made
    exact hid
  | replaced _ _ _ =>
    rw [Stage.replaced] at hid
    split at hid <;> cases hid
  | rests _ => exact hid
  | _ => cases hid

theorem toStore_of_turn {copy : Option Booking}
    (hid : (g.turn (World.answerFrom copy) w).1.toStore? = some id) : g.toStore? = some id := by
  by_cases hload : ∃ ch, g = load ch
  · obtain ⟨ch, rfl⟩ := hload
    obtain ⟨e, he⟩ | ⟨old, -, -, hnext⟩ := (turn_load ch copy w).2
    · rw [he] at hid
      cases hid
    · rw [hnext] at hid
      cases hid
  · rw [turn_of_ne_load (fun ch h => hload ⟨ch, h⟩)] at hid
    exact (turns w g).toStore hid

/-- The stage is one of a create that has not failed. -/
def isCreating : Stage → Bool
  | load _ | replace _ _ | release _ | changed _ | failed _ => false
  | _ => true

theorem Turns.isCreating (h : Turns w g g' w') (hg : g.isCreating = true) :
    g'.isCreating = true ∨ ∃ e, g' = failed e := by
  cases h with
  | slotTaken _ | customerUnknown _ | staffUnknown _ | slotRefused _ | notInserted _
  | takenBack _ _ | nothingToTakeBack _ => exact .inr ⟨_, rfl⟩
  | rests _ => exact .inl hg
  | slotFree _ _ _ | customerKnown _ | staffKnown _ | slotRead _ _ _ | inserted _ | reserved _ _
  | raceLost _ | counted | notCounted => exact .inl rfl
  | _ => cases hg

/-- A booking that is about to be stored is pending. -/
theorem Turns.pending_of_insert (h : Turns w g (insert b) w') : b.status = .pending := by
  generalize hg : insert b = g' at h
  cases h with
  | slotRead known own made =>
    cases hg
    rw [(CreateBooking.booking_eq_ok_iff.1 made).2]
  | replaced _ _ _ =>
    rw [Stage.replaced] at hg
    split at hg <;> cases hg
  | rests ended =>
    subst hg
    cases ended
  | _ => cases hg

end Stage

/-! ## Runs -/

namespace Request

/-- Requests that make their calls in turns. -/
structure Run where
  requests : List Request
  start : World
  /-- Whose turn it is, and the copy that is found in this turn. -/
  turns : List (Nat × Option Booking)

namespace Run

/-- After so many turns. -/
def after (r : Run) (n : Nat) : Interleaving (Course Outcome) :=
  (courses r.requests r.start).playWith (fun copy => Course.turn (World.answerFrom copy))
    (r.turns.take n)

def row (r : Run) (n : Nat) (id : BookingId) : Option Booking :=
  (r.after n).world.bookings.get? id

/-- What a caller is told in the end. -/
def outcome? (r : Run) (i : Nat) : Option Outcome := (r.after r.turns.length).result? i

/-- In this turn, the request looks up a booking and finds this one. -/
def Loads (r : Run) (i n : Nat) (b : Booking) : Prop :=
  ∃ copy business id, r.turns[n]? = some (i, copy) ∧
    (r.after n).call? i = some (.find business id) ∧
    (World.answerFrom copy (r.after n).world (.find business id)).1 = .ok (some b)

/-- In this turn, which is that of the request, a row changes from one status to another. -/
def Moves (r : Run) (i n : Nat) (id : BookingId) (s t : Status) : Prop :=
  (∃ copy, r.turns[n]? = some (i, copy)) ∧ s ≠ t ∧
    (∃ old, r.row n id = some old ∧ old.status = s) ∧
    ∃ new, r.row (n + 1) id = some new ∧ new.status = t

/-! ## Turn by turn -/

variable {r : Run} {i j k n m : Nat} {q : Request} {id : BookingId} {old row : Booking} {g : Stage}
  {ch : Change} {copy : Option Booking}

/-- The stages after so many turns. -/
def stagesAfter (r : Run) (n : Nat) : Interleaving Stage :=
  (stages r.requests r.start).playWith (fun copy => Stage.turn (World.answerFrom copy))
    (r.turns.take n)

theorem alike_after (r : Run) (n : Nat) :
    Interleaving.Alike Course.Follows (r.after n) (r.stagesAfter n) :=
  playWith_requests _ _ _ _

theorem row_eq (r : Run) (n : Nat) (id : BookingId) :
    r.row n id = (r.stagesAfter n).world.bookings.get? id := by
  rw [row, (r.alike_after n).1]

theorem stagesAfter_succ (r : Run) (n : Nat) :
    r.stagesAfter (n + 1) = r.turns[n]?.elim (r.stagesAfter n) fun p =>
      (r.stagesAfter n).turn (Stage.turn (World.answerFrom p.2)) p.1 := by
  rw [stagesAfter, Interleaving.playWith, List.take_add_one, List.foldl_append]
  cases r.turns[n]? <;> rfl

theorem stagesAfter_succ_of_turn (hturn : r.turns[n]? = some (i, copy))
    (hg : (r.stagesAfter n).strands[i]? = some g) :
    r.stagesAfter (n + 1) =
      ⟨(g.turn (World.answerFrom copy) (r.stagesAfter n).world).2, (r.stagesAfter n).strands.set i
        (g.turn (World.answerFrom copy) (r.stagesAfter n).world).1⟩ := by
  rw [stagesAfter_succ, hturn, Option.elim_some, Interleaving.turn_of_some hg]

/-- A turn is one of a request that is there, or nothing happens. -/
theorem turn_cases (r : Run) (n : Nat) :
    (r.stagesAfter (n + 1) = r.stagesAfter n ∧
      ∀ i copy, r.turns[n]? = some (i, copy) → (r.stagesAfter n).strands[i]? = none) ∨
    ∃ i copy g, r.turns[n]? = some (i, copy) ∧ (r.stagesAfter n).strands[i]? = some g := by
  cases hturn : r.turns[n]? with
  | none => exact .inl ⟨by rw [stagesAfter_succ, hturn, Option.elim_none], fun _ _ h => by cases h⟩
  | some p =>
    obtain ⟨i, copy⟩ := p
    cases hg : (r.stagesAfter n).strands[i]? with
    | none =>
      refine .inl ⟨?_, fun j copy' h => ?_⟩
      · rw [stagesAfter_succ, hturn, Option.elim_some, Interleaving.turn_of_none hg]
      · cases h
        exact hg
    | some g => exact .inr ⟨i, copy, g, rfl, hg⟩

/-- A request that looks up a booking is about to do so. -/
theorem Loads.stage (h : r.Loads i n old) (hg : (r.stagesAfter n).strands[i]? = some g) :
    ∃ ch, g = .load ch := by
  obtain ⟨_, business, id, -, hcall, -⟩ := h
  rw [(r.alike_after n).call?_eq, hg, Option.bind_some] at hcall
  cases g with
  | load ch => exact ⟨ch, rfl⟩
  | _ => cases hcall

theorem loads_iff (hturn : r.turns[n]? = some (i, copy))
    (hg : (r.stagesAfter n).strands[i]? = some (.load ch)) :
    r.Loads i n old ↔ (World.answerFrom copy (r.stagesAfter n).world
      (.find ch.business ch.booking)).1 = .ok (some old) := by
  have hcall : (r.after n).call? i = some (.find ch.business ch.booking) := by
    rw [(r.alike_after n).call?_eq, hg]
    rfl
  rw [← (r.alike_after n).1]
  constructor
  · rintro ⟨copy', business, id, hturn', hcall', hfound⟩
    rw [hturn] at hturn'
    rw [hcall] at hcall'
    cases hturn'
    cases hcall'
    exact hfound
  · exact fun hfound => ⟨copy, _, _, hturn, hcall, hfound⟩

/-- How a row can change. -/
theorem row_succ (r : Run) (n : Nat) :
    (∀ id, r.row (n + 1) id = r.row n id) ∨
    ∃ i copy g, r.turns[n]? = some (i, copy) ∧ (r.stagesAfter n).strands[i]? = some g ∧
      ((∃ b, g = .insert b ∧ (r.stagesAfter (n + 1)).strands[i]? = some (.reserve b) ∧
        r.row n b.id = none ∧
        ∀ id, r.row (n + 1) id = if id = b.id then some b else r.row n id) ∨
      (∃ b e, g = .takeBack b e ∧
        ∀ id, r.row (n + 1) id = if id = b.id then none else r.row n id) ∨
      ∃ b stored, g = .replace b stored.status ∧ r.row n b.id = some stored ∧
        ∀ id, r.row (n + 1) id = if id = b.id then some b else r.row n id) := by
  simp only [row_eq]
  rcases r.turn_cases n with ⟨hsame, -⟩ | ⟨i, copy, g, hturn, hg⟩
  · rw [hsame]
    exact .inl fun _ => rfl
  rw [stagesAfter_succ_of_turn hturn hg]
  rcases g.rows_of_turn copy (r.stagesAfter n).world with hrows | ⟨b, hb, hreserve, hfresh, hw⟩ |
    ⟨b, e, hb, hw⟩ | ⟨b, stored, hb, hfound, -, hw⟩
  · exact .inl fun id => by simp only [hrows]
  · refine .inr ⟨i, copy, g, hturn, hg, .inl ⟨b, hb, ?_, hfresh, fun id => ?_⟩⟩
    · rw [hreserve, Interleaving.getElem?_set hg, if_pos rfl]
    · simp only [hw, World.get?_insert hfresh]
  · refine .inr ⟨i, copy, g, hturn, hg, .inr (.inl ⟨b, e, hb, fun id => ?_⟩)⟩
    simp only [hw, World.get?_remove]
  · refine .inr ⟨i, copy, g, hturn, hg, .inr (.inr ⟨b, stored, hb, hfound, fun id => ?_⟩)⟩
    simp only [hw, World.get?_replace]
    split
    · rename_i hid
      rw [hid, hfound, Option.map_some]
    · rfl

/-- Only a conditional write moves a row, and only its own. -/
theorem Moves.stage {s t : Status} (h : r.Moves i n id s t) :
    ∃ b before, (r.stagesAfter n).strands[i]? = some (.replace b before) ∧ id = b.id := by
  obtain ⟨⟨copy, hturn⟩, hne, ⟨old, hold, rfl⟩, new, hnew, rfl⟩ := h
  have hother : r.row (n + 1) id ≠ r.row n id := by
    intro hrow
    rw [hrow, hold] at hnew
    cases hnew
    exact hne rfl
  rcases r.row_succ n with hrow | ⟨j, copy', g, hturn', hg, ⟨b, -, -, hfresh, hrow⟩ |
    ⟨b, e, -, hrow⟩ | ⟨b, stored, rfl, -, hrow⟩⟩
  · exact absurd (hrow id) hother
  · by_cases hid : id = b.id
    · rw [← hid, hold] at hfresh
      cases hfresh
    · exact absurd ((hrow id).trans (if_neg hid)) hother
  · by_cases hid : id = b.id
    · rw [hrow, if_pos hid] at hnew
      cases hnew
    · exact absurd ((hrow id).trans (if_neg hid)) hother
  · by_cases hid : id = b.id
    · rw [hturn] at hturn'
      cases hturn'
      exact ⟨b, _, hg, hid⟩
    · exact absurd ((hrow id).trans (if_neg hid)) hother

/-! ## What a request has done -/

/-- By this turn the request has looked up this booking, once, and may change it. -/
structure Loaded (r : Run) (i n : Nat) (q : Request) (ch : Change) (old : Booking) : Prop where
  asks : q.start = .load ch
  found : ∃ m < n, r.Loads i m old
  only : ∀ {m b}, m < n → r.Loads i m b → b = old
  admitted : ch.admits old.status = true

/-- In turn `k` the request has stored what it makes of this booking, and has moved nothing else. -/
structure Made (r : Run) (i n k : Nat) (ch : Change) (old : Booking) : Prop where
  turn : ∃ copy, r.turns[k]? = some (i, copy)
  stored : ∃ row, r.row k old.id = some row ∧ row.status = old.status
  made : r.row (k + 1) old.id = some (ch.result old)
  only : ∀ {m id s t}, m < n → r.Moves i m id s t → m = k ∧ id = old.id

/-- What a request has done to come to its stage. -/
inductive Past (r : Run) (i n : Nat) (q : Request) : Stage → Prop
  | creating {g : Stage} (draws : q.drawn? ≠ none) (creating : g.isCreating = true)
      (pending : ∀ b, g = .insert b → b.status = .pending)
      (unread : ∀ {m b}, m < n → ¬ r.Loads i m b) : Past r i n q g
  | load {ch : Change} (asks : q.start = .load ch) (unread : ∀ {m b}, m < n → ¬ r.Loads i m b)
      (unmoved : ∀ {m id s t}, m < n → ¬ r.Moves i m id s t) : Past r i n q (.load ch)
  | replace {ch : Change} {old : Booking} (loaded : r.Loaded i n q ch old)
      (unmoved : ∀ {m id s t}, m < n → ¬ r.Moves i m id s t) :
      Past r i n q (.replace (ch.result old) old.status)
  | made {ch : Change} {k : Nat} {old : Booking} {g : Stage} (loaded : r.Loaded i n q ch old)
      (made : r.Made i n k ch old) (has : g.HasMade (ch.result old)) : Past r i n q g
  | failed {e} : Past r i n q (.failed e)

/-- In turn `n`, the request looks up nothing and moves nothing. -/
def Rests (r : Run) (i n : Nat) : Prop :=
  (∀ b, ¬ r.Loads i n b) ∧ ∀ id s t, ¬ r.Moves i n id s t

theorem rests_of_turn_ne (h : ∀ copy, r.turns[n]? ≠ some (i, copy)) : r.Rests i n := by
  constructor
  · rintro b ⟨copy, _, _, hturn, -⟩
    exact h copy hturn
  · rintro id s t ⟨⟨copy, hturn⟩, -⟩
    exact h copy hturn

theorem not_loads (hg : (r.stagesAfter n).strands[i]? = some g) (hne : ∀ ch, g ≠ .load ch)
    (b : Booking) : ¬ r.Loads i n b := by
  intro h
  obtain ⟨ch, rfl⟩ := h.stage hg
  exact hne ch rfl

theorem not_moves (hg : (r.stagesAfter n).strands[i]? = some g)
    (hne : ∀ b before, g ≠ .replace b before) (id : BookingId) (s t : Status) :
    ¬ r.Moves i n id s t := by
  intro h
  obtain ⟨b, before, hreplace, -⟩ := h.stage
  rw [hg, Option.some_inj] at hreplace
  exact hne b before hreplace

/-- What was not done by turn `n`, nor in it, has not been done after it. -/
theorem not_of_lt_succ {P : Nat → Prop} (h : ∀ {m}, m < n → ¬ P m) (hn : ¬ P n)
    (hm : m < n + 1) : ¬ P m := by
  obtain hlt | rfl := Nat.lt_succ_iff_lt_or_eq.1 hm
  · exact h hlt
  · exact hn

theorem Loaded.succ (h : r.Loaded i n q ch old) (unread : ∀ b, ¬ r.Loads i n b) :
    r.Loaded i (n + 1) q ch old := by
  obtain ⟨m, hm, hfound⟩ := h.found
  refine ⟨h.asks, ⟨m, by omega, hfound⟩, fun {m b} hm hloads => ?_, h.admitted⟩
  obtain hlt | rfl := Nat.lt_succ_iff_lt_or_eq.1 hm
  · exact h.only hlt hloads
  · exact absurd hloads (unread b)

theorem Made.succ (h : r.Made i n k ch old) (unmoved : ∀ id s t, ¬ r.Moves i n id s t) :
    r.Made i (n + 1) k ch old := by
  refine ⟨h.turn, h.stored, h.made, fun {m id s t} hm hmoves => ?_⟩
  obtain hlt | rfl := Nat.lt_succ_iff_lt_or_eq.1 hm
  · exact h.only hlt hmoves
  · exact absurd hmoves (unmoved id s t)

theorem Past.succ (h : r.Past i n q g) (rests : r.Rests i n) : r.Past i (n + 1) q g := by
  cases h with
  | creating draws creating pending unread =>
    exact .creating draws creating pending (not_of_lt_succ unread (rests.1 _))
  | load asks unread unmoved =>
    exact .load asks (not_of_lt_succ unread (rests.1 _)) (not_of_lt_succ unmoved (rests.2 _ _ _))
  | replace loaded unmoved =>
    exact .replace (loaded.succ rests.1) (not_of_lt_succ unmoved (rests.2 _ _ _))
  | made loaded made has => exact .made (loaded.succ rests.1) (made.succ rests.2) has
  | failed => exact .failed

/-- What has not been looked up before is looked up now, or the request fails. -/
theorem Past.turn_load (asks : q.start = .load ch) (unread : ∀ {m b}, m < n → ¬ r.Loads i m b)
    (unmoved : ∀ {m id s t}, m < n → ¬ r.Moves i m id s t) (hturn : r.turns[n]? = some (i, copy))
    (hg : (r.stagesAfter n).strands[i]? = some (.load ch)) :
    r.Past i (n + 1) q
      ((Stage.load ch).turn (World.answerFrom copy) (r.stagesAfter n).world).1 := by
  obtain ⟨-, ⟨e, he⟩ | ⟨old, hfound, hadmits, hnext⟩⟩ :=
    Stage.turn_load ch copy (r.stagesAfter n).world
  · rw [he]
    exact .failed
  · have hmoves := not_moves hg fun _ _ => Stage.noConfusion
    rw [hnext]
    refine .replace ⟨asks, ⟨n, by omega, (loads_iff hturn hg).2 hfound⟩, ?_, hadmits⟩
      (not_of_lt_succ unmoved (hmoves _ _ _))
    intro m b hm hloads
    obtain hlt | rfl := Nat.lt_succ_iff_lt_or_eq.1 hm
    · exact absurd hloads (unread hlt)
    · rw [loads_iff hturn hg, hfound] at hloads
      cases hloads
      rfl

/-- What has been looked up is changed and stored, or the request fails. -/
theorem Past.turn_replace (loaded : r.Loaded i n q ch old)
    (unmoved : ∀ {m id s t}, m < n → ¬ r.Moves i m id s t) (hturn : r.turns[n]? = some (i, copy))
    (hg : (r.stagesAfter n).strands[i]? = some (.replace (ch.result old) old.status)) :
    r.Past i (n + 1) q ((Stage.replace (ch.result old) old.status).turn (World.answerFrom copy)
      (r.stagesAfter n).world).1 := by
  have hload : ∀ ch', Stage.replace (ch.result old) old.status ≠ .load ch' :=
    fun _ => Stage.noConfusion
  have t := Stage.turns (r.stagesAfter n).world (.replace (ch.result old) old.status)
  have hnext := stagesAfter_succ_of_turn hturn hg
  rw [Stage.turn_of_ne_load hload] at hnext ⊢
  obtain hfailed | ⟨stored, hfound, hsame, hreplaced, hw⟩ := t.of_replace
  · rw [hfailed]
    exact .failed
  · have made : r.Made i (n + 1) n ch old := by
      refine ⟨⟨copy, hturn⟩, ⟨stored, ?_, hsame⟩, ?_, fun {m id s t} hm hmoves => ?_⟩
      · rw [row_eq]
        exact hfound
      · rw [row_eq, hnext, hw, World.get?_replace]
        exact (if_pos rfl).trans (congrArg _ hfound)
      · obtain hlt | rfl := Nat.lt_succ_iff_lt_or_eq.1 hm
        · exact absurd hmoves (unmoved hlt)
        · obtain ⟨b, before, hb, hid⟩ := hmoves.stage
          rw [hg] at hb
          cases hb
          exact ⟨rfl, hid⟩
    rw [hreplaced]
    exact .made (loaded.succ (not_loads hg hload)) made (Stage.hasMade_replaced _ _)

theorem Past.turn (h : r.Past i n q g) (hturn : r.turns[n]? = some (i, copy))
    (hg : (r.stagesAfter n).strands[i]? = some g) :
    r.Past i (n + 1) q (g.turn (World.answerFrom copy) (r.stagesAfter n).world).1 := by
  cases h with
  | creating draws creating pending unread =>
    have hload : ∀ ch, g ≠ .load ch := by
      rintro ch rfl
      cases creating
    have unread' := fun {m} b => not_of_lt_succ (m := m) (unread (b := b)) (not_loads hg hload b)
    have t := Stage.turns (r.stagesAfter n).world g
    rw [Stage.turn_of_ne_load hload]
    obtain creating' | ⟨e, he⟩ := t.isCreating creating
    · exact .creating draws creating' (fun b hb => (hb ▸ t).pending_of_insert) (unread' _)
    · rw [he]
      exact .failed
  | load asks unread unmoved => exact turn_load asks unread unmoved hturn hg
  | replace loaded unmoved => exact turn_replace loaded unmoved hturn hg
  | made loaded made has =>
    have hload : ∀ ch, g ≠ .load ch := by
      rintro ch rfl
      cases has <;> contradiction
    have hreplace : ∀ b before, g ≠ .replace b before := by
      rintro b before rfl
      cases has <;> contradiction
    rw [Stage.turn_of_ne_load hload]
    exact .made (loaded.succ (not_loads hg hload)) (made.succ (not_moves hg hreplace))
      (has.turn (Stage.turns _ g)).1
  | failed => exact .failed

theorem past_start (r : Run) (i : Nat) (q : Request) : r.Past i 0 q q.start := by
  have unread : ∀ {m b}, m < 0 → ¬ r.Loads i m b := fun hm => absurd hm (Nat.not_lt_zero _)
  have unmoved : ∀ {m id s t}, m < 0 → ¬ r.Moves i m id s t :=
    fun hm => absurd hm (Nat.not_lt_zero _)
  obtain ⟨e, he⟩ | ⟨id, c, notes, rfl, -, hask⟩ | ⟨ch, hload⟩ := q.start_cases
  · rw [he]
    exact .failed
  · rw [hask]
    exact .creating (Option.some_ne_none _) rfl (fun _ => Stage.noConfusion) unread
  · rw [hload]
    exact .load hload unread unmoved

/-! ## All of the requests -/

/-- A booking that is yet to be stored is stored by one create only, and was never stored. -/
structure Sound (r : Run) (n : Nat) : Prop where
  apart : ∀ {i j : Nat} {g g' : Stage} {id}, (r.stagesAfter n).strands[i]? = some g →
    (r.stagesAfter n).strands[j]? = some g' → g.toStore? = some id → g'.toStore? = some id → i = j
  unstored : ∀ {i : Nat} {g : Stage} {id m}, (r.stagesAfter n).strands[i]? = some g →
    g.toStore? = some id → m ≤ n → r.row m id = none
  past : ∀ {i : Nat} {g}, (r.stagesAfter n).strands[i]? = some g →
    ∃ q, r.requests[i]? = some q ∧ r.Past i n q g

theorem create_of_toStore (h : q.start.toStore? = some id) : ∃ c, q = .create id c := by
  obtain ⟨e, he⟩ | ⟨id', c, notes, rfl, -, hask⟩ | ⟨ch, hload⟩ := q.start_cases
  · rw [he] at h
    cases h
  · rw [hask] at h
    cases h
    exact ⟨c, rfl⟩
  · rw [hload] at h
    cases h

theorem sound_start (fresh : Fresh r.requests r.start) : r.Sound 0 where
  apart hg hg' hid hid' := by
    obtain ⟨q, hq, rfl⟩ := strand_stages hg
    obtain ⟨q', hq', rfl⟩ := strand_stages hg'
    obtain ⟨c, rfl⟩ := create_of_toStore hid
    obtain ⟨c', rfl⟩ := create_of_toStore hid'
    exact fresh.unique hq hq'
  unstored {i g id m} hg hid hm := by
    obtain ⟨q, hq, rfl⟩ := strand_stages hg
    obtain ⟨c, rfl⟩ := create_of_toStore hid
    obtain rfl : m = 0 := by omega
    exact fresh.unused id (mem_drawn hq)
  past {i g} hg := by
    obtain ⟨q, hq, rfl⟩ := strand_stages hg
    exact ⟨q, hq, r.past_start i q⟩

/-- A request has not moved in a turn, or it was its turn. -/
theorem strand_succ (h : (r.stagesAfter (n + 1)).strands[i]? = some g) :
    ((r.stagesAfter n).strands[i]? = some g ∧ r.Rests i n) ∨
    ∃ copy g₀, r.turns[n]? = some (i, copy) ∧ (r.stagesAfter n).strands[i]? = some g₀ ∧
      g = (g₀.turn (World.answerFrom copy) (r.stagesAfter n).world).1 := by
  rcases r.turn_cases n with ⟨hsame, hnobody⟩ | ⟨j, copy, g₀, hturn, hg⟩
  · rw [hsame] at h
    refine .inl ⟨h, rests_of_turn_ne fun copy hturn => ?_⟩
    rw [hnobody i copy hturn] at h
    cases h
  · rw [stagesAfter_succ_of_turn hturn hg] at h
    obtain ⟨rfl, rfl⟩ | ⟨hne, h⟩ := (Interleaving.getElem?_set_eq_some_iff hg).1 h
    · exact .inr ⟨copy, g₀, hturn, hg, rfl⟩
    · refine .inl ⟨h, rests_of_turn_ne fun copy' hturn' => ?_⟩
      rw [hturn] at hturn'
      cases hturn'
      exact hne rfl

theorem toStore_of_succ (h : (r.stagesAfter (n + 1)).strands[i]? = some g)
    (hid : g.toStore? = some id) :
    ∃ g₀, (r.stagesAfter n).strands[i]? = some g₀ ∧ g₀.toStore? = some id := by
  obtain ⟨h, -⟩ | ⟨copy, g₀, -, hg, rfl⟩ := strand_succ h
  · exact ⟨g, h, hid⟩
  · exact ⟨g₀, hg, Stage.toStore_of_turn hid⟩

/-- A booking that is yet to be stored after a turn is not stored in it. -/
theorem Sound.row_succ_eq_none (h : r.Sound n) (hg : (r.stagesAfter (n + 1)).strands[i]? = some g)
    (hid : g.toStore? = some id) : r.row (n + 1) id = none := by
  obtain ⟨g₀, hg₀, hid₀⟩ := toStore_of_succ hg hid
  have hnone : r.row n id = none := h.unstored hg₀ hid₀ (Nat.le_refl n)
  rcases r.row_succ n with hrow | ⟨j, copy, g', -, hg', ⟨b, rfl, hreserve, -, hrow⟩ |
    ⟨b, e, -, hrow⟩ | ⟨b, stored, -, hfound, hrow⟩⟩
  · rw [hrow, hnone]
  · by_cases heq : id = b.id
    · obtain rfl : i = j := h.apart hg₀ hg' hid₀ (heq ▸ rfl)
      rw [hg] at hreserve
      cases hreserve
      cases hid
    · rw [hrow, if_neg heq, hnone]
  · rw [hrow, hnone, ite_self]
  · by_cases heq : id = b.id
    · rw [heq, hfound] at hnone
      cases hnone
    · rw [hrow, if_neg heq, hnone]

theorem Sound.succ (h : r.Sound n) : r.Sound (n + 1) where
  apart hg hg' hid hid' := by
    obtain ⟨g₀, hg₀, hid₀⟩ := toStore_of_succ hg hid
    obtain ⟨g₁, hg₁, hid₁⟩ := toStore_of_succ hg' hid'
    exact h.apart hg₀ hg₁ hid₀ hid₁
  unstored {i g id m} hg hid hm := by
    obtain hlt | rfl := Nat.lt_or_eq_of_le hm
    · obtain ⟨g₀, hg₀, hid₀⟩ := toStore_of_succ hg hid
      exact h.unstored hg₀ hid₀ (Nat.le_of_lt_succ hlt)
    · exact h.row_succ_eq_none hg hid
  past {i g} hg := by
    obtain ⟨hg, rests⟩ | ⟨copy, g₀, hturn, hg₀, rfl⟩ := strand_succ hg
    · obtain ⟨q, hq, past⟩ := h.past hg
      exact ⟨q, hq, past.succ rests⟩
    · obtain ⟨q, hq, past⟩ := h.past hg₀
      exact ⟨q, hq, past.turn hturn hg₀⟩

theorem sound (fresh : Fresh r.requests r.start) (n : Nat) : r.Sound n := by
  induction n with
  | zero => exact sound_start fresh
  | succ n ih => exact ih.succ

end Run
end Request
end BookingDesk
