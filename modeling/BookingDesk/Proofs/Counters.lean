import BookingDesk.Proofs.Endangered
import BookingDesk.Proofs.Leaving
import BookingDesk.Proofs.Seen

/-!
# How many bookings a customer has

A create stores its booking, takes the slot and then adds one to the customer's number of bookings,
or it takes the booking back. In between there is one booking more than the number says. So the
bookings that are stored are counted as often as they should be, but for the creates whose tasks are
in between (`Visit.unsettled`). Main statement: this is so after any number of turns
(`Visit.counters_agree`).
-/
namespace BookingDesk

/-! ## Counting the values of a table -/

namespace Table

variable {κ α : Type} [DecidableEq κ] {t : Table κ α} {k : κ} {old : α} (p : α → Bool)

theorem countP_insertNew (h : t.get? k = none) (a : α) :
    (t.insertNew k a).values.countP p = t.values.countP p + if p a then 1 else 0 := by
  rw [insertNew, dif_neg (get?_eq_none_iff.1 h)]
  simp [values, List.countP_singleton]

theorem countP_modify (h : t.get? k = some old) {f : α → α} (hf : p (f old) = p old) :
    (t.modify k f).values.countP p = t.values.countP p := by
  simp only [values, modify, List.map_map, List.countP_map]
  refine List.countP_congr fun e he => ?_
  by_cases hk : e.1 = k
  · have hold : e.2 = old := by
      rw [← hk] at h
      exact Option.some.inj ((get?_eq_some_iff.2 he).symm.trans h)
    simp [hk, hold, hf]
  · simp [hk]

theorem countP_erase (h : t.get? k = some old) :
    (t.erase k).values.countP p + (if p old then 1 else 0) = t.values.countP p := by
  obtain ⟨es, nodup⟩ := t
  have hmem := get?_eq_some_iff.1 h
  simp only [values, erase, List.countP_map]
  clear h
  induction es with
  | nil => cases hmem
  | cons e es ih =>
    obtain ⟨hhead, htail⟩ := List.nodup_cons.1 nodup
    rcases List.mem_cons.1 hmem with rfl | hmem
    · have hrest : es.filter (·.1 ≠ k) = es := by
        refine List.filter_eq_self.2 ?_
        grind
      rw [List.filter_cons_of_neg (by simp), hrest]
      simp [List.countP_cons]
    · have hne : e.1 ≠ k := by grind
      rw [List.filter_cons_of_pos (by simpa using hne), List.countP_cons, List.countP_cons,
        ← ih htail hmem]
      omega

end Table

/-- Two ways of counting that differ in one place. -/
theorem countP_range_of_ne {p q : Nat → Bool} {i n : Nat} (hi : i < n) (h : ∀ j ≠ i, p j = q j) :
    (List.range n).countP p + (if q i then 1 else 0) =
      (List.range n).countP q + if p i then 1 else 0 := by
  induction n with
  | zero => cases hi
  | succ n ih =>
    simp only [List.range_succ, List.countP_append, List.countP_singleton]
    by_cases hin : i = n
    · subst i
      have hsame : (List.range n).countP p = (List.range n).countP q := by
        refine List.countP_congr fun j hj => ?_
        rw [h j (Nat.ne_of_lt (List.mem_range.1 hj))]
      omega
    · rw [h n (Ne.symm hin)]
      have := ih (by omega)
      omega

/-! ## Bookings of a customer -/

namespace World

variable {w : World} {business : BusinessId} {customer : CustomerId}

def isOf (business : BusinessId) (customer : CustomerId) (b : Booking) : Bool :=
  b.business = business && b.customer = customer

/-- How many bookings of a customer are stored. -/
def storedFor (w : World) (business : BusinessId) (customer : CustomerId) : Nat :=
  w.bookings.values.countP (isOf business customer)

theorem length_select (w : World) (business : BusinessId) (customer : CustomerId) :
    (w.select business (·.customer = customer)).length = w.storedFor business customer := by
  rw [select, List.length_mergeSort, ← List.countP_eq_length_filter]
  rfl

theorem storedFor_insert {b : Booking} (fresh : w.bookings.get? b.id = none) :
    (w.insert b).storedFor business customer =
      w.storedFor business customer + if isOf business customer b then 1 else 0 :=
  Table.countP_insertNew _ fresh b

theorem storedFor_remove {id : BookingId} {b : Booking} (found : w.bookings.get? id = some b) :
    (w.remove id).storedFor business customer + (if isOf business customer b then 1 else 0) =
      w.storedFor business customer :=
  Table.countP_erase _ found

theorem storedFor_replace {b stored : Booking} (found : w.bookings.get? b.id = some stored)
    (same : isOf business customer b = isOf business customer stored) :
    (w.replace b).storedFor business customer = w.storedFor business customer :=
  Table.countP_modify _ found same

theorem bookingCount_countBooking {b : BusinessId} {c : CustomerId}
    (known : w.customers.contains (b, c) = true) (business : BusinessId) (customer : CustomerId) :
    (w.countBooking b c).bookingCount business customer =
      w.bookingCount business customer + if b = business ∧ c = customer then 1 else 0 := by
  rw [bookingCount, bookingCount, countBooking, Table.get?_modify]
  by_cases hsame : (business, customer) = (b, c)
  · obtain ⟨count, hcount⟩ := Option.isSome_iff_exists.1 known
    cases hsame
    simp [hcount]
  · rw [if_neg hsame, if_neg fun h => hsame (by rw [h.1, h.2])]
    rfl

end World

/-! ## Creates that are in between -/

namespace Stage

variable {w w' : World} {g g' : Stage}

/-- The booking of a create, while it is stored and neither counted nor taken back. -/
def unsettled? : Stage → Option Booking
  | reserve b | count b | takeBack b _ => some b
  | _ => none

theorem kept?_of_unsettled? {b : Booking} (h : g.unsettled? = some b) : g.kept? = some b := by
  cases g <;> first | exact h | cases h

def isUnsettled (business : BusinessId) (customer : CustomerId) (g : Stage) : Bool :=
  g.unsettled?.any (World.isOf business customer)

variable {business : BusinessId} {customer : CustomerId}

theorem isUnsettled_of_none (h : g.unsettled? = none) :
    g.isUnsettled business customer = false := by
  rw [isUnsettled, h]
  rfl

theorem isUnsettled_of_some {b : Booking} (h : g.unsettled? = some b) :
    g.isUnsettled business customer = World.isOf business customer b := by
  rw [isUnsettled, h]
  rfl

theorem unsettled?_replaced (b : Booking) (before : Status) :
    (Stage.replaced b before).unsettled? = none := by
  rw [Stage.replaced]
  split <;> rfl

/-- A turn of a stage keeps the balance between the bookings that are stored, the number of bookings
of the customer and the creates that are in between. -/
theorem Turns.balance (h : Turns w g g' w')
    (counts : ∀ b, g = Stage.count b → w' = w.countBooking b.business b.customer ∧
      w.customers.contains (b.business, b.customer) = true)
    (takesBack : ∀ b e, g = Stage.takeBack b e → ∃ stored, w.bookings.get? b.id = some stored ∧
      stored.business = b.business ∧ stored.customer = b.customer)
    (replaces : ∀ b before stored, g = Stage.replace b before →
      w.bookings.get? b.id = some stored →
      b.business = stored.business ∧ b.customer = stored.customer) :
    w'.storedFor business customer + w.bookingCount business customer +
        (if g.isUnsettled business customer then 1 else 0) =
      w.storedFor business customer + w'.bookingCount business customer +
        if g'.isUnsettled business customer then 1 else 0 := by
  cases h with
  | @inserted b fresh =>
    rw [World.storedFor_insert fresh, isUnsettled_of_none (g := insert b) rfl,
      isUnsettled_of_some (g := reserve b) rfl]
    show _ + w.bookingCount business customer + _ = _ + w.bookingCount business customer + _
    simp only [Bool.false_eq_true, if_false]
    omega
  | @counted b =>
    obtain ⟨-, known⟩ := counts b rfl
    rw [World.bookingCount_countBooking known, isUnsettled_of_some (g := count b) rfl,
      isUnsettled_of_none (g := booked b) rfl]
    show w.storedFor business customer + _ + _ = _
    simp only [World.isOf, Bool.and_eq_true, decide_eq_true_eq, Bool.false_eq_true, if_false]
    omega
  | @notCounted b =>
    obtain ⟨hw, known⟩ := counts b rfl
    have hmore := World.bookingCount_countBooking known b.business b.customer
    rw [← hw, if_pos ⟨rfl, rfl⟩] at hmore
    omega
  | @takenBack b e stored found own =>
    obtain ⟨_, found', hbusiness, hcustomer⟩ := takesBack _ _ rfl
    obtain rfl := Option.some.inj (found.symm.trans found')
    have hsame : World.isOf business customer stored = World.isOf business customer b := by
      rw [World.isOf, World.isOf, hbusiness, hcustomer]
    rw [← World.storedFor_remove found, isUnsettled_of_some (g := takeBack b e) rfl,
      isUnsettled_of_none (g := failed e) rfl, hsame]
    show _ + w.bookingCount business customer + _ = _ + w.bookingCount business customer + _
    simp only [Bool.false_eq_true, if_false]
    omega
  | nothingToTakeBack absent =>
    obtain ⟨stored, found, hbusiness, -⟩ := takesBack _ _ rfl
    exact absurd hbusiness (absent stored found)
  | @replaced b before stored found own same =>
    obtain ⟨hbusiness, hcustomer⟩ := replaces _ _ _ rfl found
    rw [World.storedFor_replace found (by rw [World.isOf, World.isOf, hbusiness, hcustomer]),
      isUnsettled_of_none (unsettled?_replaced b before)]
    rfl
  | _ => rfl

end Stage

/-! ## Requests that come and go -/

namespace Request

/-- The request is to make a booking for this customer. -/
def creates (business : BusinessId) (customer : CustomerId) : Request → Bool
  | create _ c => c.business = business && c.customer = customer
  | _ => false

variable {requests : List Request} {w : World} {id : BookingId}

/-- What comes of one create has one business and one customer. -/
theorem Descends.same {row row' : Booking} (h : Descends requests w id row)
    (h' : Descends requests w id row') (fresh : Fresh requests w) :
    row.business = row'.business ∧ row.customer = row'.customer := by
  obtain ⟨c, b, hc, hmakes, hversion⟩ := h
  obtain ⟨i, hi⟩ := List.getElem?_of_mem hc
  have hversion' := h'.isVersionOf fresh hi hmakes
  exact ⟨hversion.business_eq.trans hversion'.business_eq.symm,
    hversion.customer_eq.trans hversion'.customer_eq.symm⟩

end Request

/-- The call takes the slot of a booking that is stored, counts the booking or takes it back. -/
def Call.settles : Call → Bool
  | reserve _ _ | countBooking _ _ | remove _ _ => true
  | _ => false

theorem Sample.bookingCount_world (business : BusinessId) (customer : CustomerId) :
    world.bookingCount business customer = 0 := by
  have hcustomers : world.customers.get? (business, customer) =
      (World.empty.customers.insertNew (name _ 1, name _ 1) 0).get? (business, customer) := rfl
  rw [World.bookingCount, hcustomers, Table.get?_insertNew]
  split
  · rfl
  · rfl

namespace Request.Visit

/-- How many creates for a customer have a task that has stored its booking and neither counted it
nor taken it back. -/
def unsettled (v : Visit) (n : Nat) (business : BusinessId) (customer : CustomerId) : Nat :=
  (List.range v.requests.length).countP fun i =>
    v.requests[i]?.any (·.creates business customer) &&
      ((v.after n).strands[i]?.bind Caller.task?).any Call.settles

variable {v : Visit} {n i : Nat} {business : BusinessId} {customer : CustomerId}

/-- The same, told from the stages. -/
def unsettledStages (v : Visit) (n : Nat) (business : BusinessId) (customer : CustomerId) : Nat :=
  (List.range v.requests.length).countP fun i =>
    (v.stagesAfter n).strands[i]?.any (·.isUnsettled business customer)

/-- The task that is about to settle a booking is that of a create that is in between. -/
theorem settles_task?_iff {c : Caller Outcome} {g : Stage} (h : c.Follows id g) :
    c.task?.any Call.settles = true ↔ ∃ b, g.unsettled? = some b := by
  constructor
  · intro hsettles
    obtain ⟨call, htask, hsettles⟩ := (Option.any_eq_true _ _).1 hsettles
    have hcall := h.call?_eq (Caller.call?_of_task? htask)
    cases g with
    | reserve b | count b | takeBack b _ => exact ⟨b, rfl⟩
    | booked _ | changed _ | failed _ => cases hcall
    | _ =>
      cases hcall
      cases hsettles
  · rintro ⟨b, hb⟩
    cases g with
    | reserve _ | count _ | takeBack _ _ =>
      rw [h.task?_eq rfl rfl]
      rfl
    | _ => cases hb

theorem unsettled_eq (under : Underway v.requests v.start (v.stagesAfter n))
    (business : BusinessId) (customer : CustomerId) :
    v.unsettled n business customer = v.unsettledStages n business customer := by
  refine List.countP_congr fun i hi => ?_
  have hlt := List.mem_range.1 hi
  have hr : v.requests[i]? = some v.requests[i] := List.getElem?_eq_getElem hlt
  obtain ⟨g, hg, hreach⟩ := under.strand hr
  obtain ⟨c, hc, hfollows⟩ := (v.alike_after n).strand_right hg
  rw [hr, hg, hc, Option.any_some, Option.any_some, Option.bind_some, Bool.and_eq_true,
    settles_task?_iff hfollows]
  cases hb : g.unsettled? with
  | none => simp [Stage.isUnsettled_of_none hb]
  | some b =>
    obtain ⟨command, hcreate, hmakes⟩ := hreach.create_of_kept (Stage.kept?_of_unsettled? hb)
    rw [hcreate, Stage.isUnsettled_of_some hb, creates, World.isOf, hmakes.business_eq,
      hmakes.customer_eq]
    simp

/-- The bookings that are stored for each customer are as many as have been counted, and those of
the creates that are in between. -/
structure Balanced (v : Visit) (n : Nat) : Prop where
  traced : Traced v.requests v.start (v.stagesAfter n)
  accounted : Accounted v.requests (v.stagesAfter n)
  balance : ∀ business customer, (v.stagesAfter n).world.storedFor business customer =
    (v.stagesAfter n).world.bookingCount business customer +
      v.unsettledStages n business customer

theorem balanced_zero (fresh : Fresh v.requests v.start)
    (empty : ∀ id, v.start.bookings.get? id = none)
    (uncounted : ∀ business customer, v.start.bookingCount business customer = 0) :
    v.Balanced 0 where
  traced := traced_stages empty
  accounted := accounted_stages (fun id row hrow => by rw [empty] at hrow; cases hrow) fresh
  balance business customer := by
    have hstored : v.start.storedFor business customer = 0 := by
      refine List.countP_eq_zero.2 fun b hb => ?_
      obtain ⟨id, hid⟩ := Table.mem_values_iff.1 hb
      rw [empty] at hid
      cases hid
    have hunsettled : v.unsettledStages 0 business customer = 0 := by
      refine List.countP_eq_zero.2 fun i _ hunsettled => ?_
      obtain ⟨g, hg, hunsettled⟩ := (Option.any_eq_true _ _).1 hunsettled
      obtain ⟨r, -, rfl⟩ := strand_stages hg
      obtain ⟨b, hb, -⟩ := (Option.any_eq_true _ _).1 hunsettled
      have hkept := Stage.kept?_of_unsettled? hb
      rw [kept?_start] at hkept
      cases hkept
    rw [hunsettled]
    exact hstored.trans (uncounted business customer).symm

section

variable {g g' : Stage} {w : World} (h : v.Balanced n) (fresh : Fresh v.requests v.start)
  (under : Underway v.requests v.start (v.stagesAfter n))
  (hg : (v.stagesAfter n).strands[i]? = some g) (hact : g.act (v.stagesAfter n).world = (g', w))
include h fresh under hg hact

/-- A turn keeps the balance, for what a stage finds stored of a booking is of the same customer. -/
theorem Balanced.balance_turn (business : BusinessId) (customer : CustomerId) :
    w.storedFor business customer + (v.stagesAfter n).world.bookingCount business customer +
        (if g.isUnsettled business customer then 1 else 0) =
      (v.stagesAfter n).world.storedFor business customer + w.bookingCount business customer +
        if g'.isUnsettled business customer then 1 else 0 := by
  obtain ⟨r, hr, hreach⟩ := under.request hg
  refine (Stage.turns_of_act hact).balance ?_ ?_ ?_
  · rintro b rfl
    obtain ⟨c, rfl, hmakes⟩ := hreach.create_of_kept rfl
    have known := hmakes.known.2
    rw [← under.ground.customers] at known
    rw [Stage.act_count known] at hact
    cases hact
    exact ⟨rfl, known⟩
  · rintro b e rfl
    obtain ⟨c, rfl, hmakes⟩ := hreach.create_of_kept rfl
    have descends : Descends v.requests v.start b.id b :=
      ⟨c, b, List.mem_of_getElem? hr, hmakes, .refl b⟩
    obtain ⟨stored, hstored, -⟩ := h.accounted.kept hg rfl
    exact ⟨stored, hstored, (h.traced.rows hstored).same descends fresh⟩
  · rintro b before stored rfl hstored
    exact (h.traced.versions hr hg rfl).1.same (h.traced.rows hstored) fresh

theorem Balanced.turn
    (hstages : v.stagesAfter (n + 1) = ⟨w, (v.stagesAfter n).strands.set i g'⟩) :
    v.Balanced (n + 1) := by
  have t := Stage.turns_of_act hact
  obtain ⟨r, hr, -⟩ := under.request hg
  refine ⟨hstages ▸ h.traced.turn under hg t, hstages ▸ h.accounted.turn under fresh hg t,
    fun business customer => ?_⟩
  have hbalance := h.balance_turn fresh under hg hact business customer
  have hi : i < v.requests.length := (List.getElem?_eq_some_iff.1 hr).1
  have hcount := countP_range_of_ne hi
    (p := fun j => (v.stagesAfter n).strands[j]?.any (·.isUnsettled business customer))
    (q := fun j => (v.stagesAfter (n + 1)).strands[j]?.any (·.isUnsettled business customer))
    fun j hj => by rw [hstages, Interleaving.getElem?_set hg, if_neg hj]
  simp only [hstages, hg, Interleaving.getElem?_set hg, if_true, Option.any_some] at hcount
  have hbefore := h.balance business customer
  rw [unsettledStages] at hbefore ⊢
  rw [hstages]
  simp only [Interleaving.getElem?_set hg]
  omega

end

theorem Balanced.rest (h : v.Balanced n) (hstages : v.stagesAfter (n + 1) = v.stagesAfter n) :
    v.Balanced (n + 1) where
  traced := hstages ▸ h.traced
  accounted := hstages ▸ h.accounted
  balance business customer := by
    rw [unsettledStages, hstages]
    exact h.balance business customer

theorem balanced (fresh : Fresh v.requests v.start)
    (empty : ∀ id, v.start.bookings.get? id = none)
    (uncounted : ∀ business customer, v.start.bookingCount business customer = 0) (n : Nat) :
    Underway v.requests v.start (v.stagesAfter n) ∧ v.Balanced n :=
  keeps fresh (balanced_zero fresh empty uncounted) (fun _ _ hstages h => h.rest hstages)
    (fun _ _ _ _ _ _ under _ hg _ hact hstages h => h.turn fresh under hg hact hstages) n

/-- The number of bookings of each customer agrees with the bookings that are stored, but for the
creates that are in between; and when no task is under way, it is the length of the customer's
list. -/
theorem counters_agree (v : Visit) (fresh : Fresh v.requests v.start)
    (empty : ∀ id, v.start.bookings.get? id = none)
    (uncounted : ∀ business customer, v.start.bookingCount business customer = 0) (n : Nat)
    (business : BusinessId) (customer : CustomerId) :
    (v.after n).world.storedFor business customer =
        (v.after n).world.bookingCount business customer + v.unsettled n business customer ∧
      (¬ v.Outstanding n → ∃ bs,
        ((v.after n).world.answer (.ofCustomer business customer)).1 = .ok bs ∧
          (v.after n).world.bookingCount business customer = bs.length) := by
  obtain ⟨under, h⟩ := balanced fresh empty uncounted n
  have hagree : (v.after n).world.storedFor business customer =
      (v.after n).world.bookingCount business customer + v.unsettled n business customer := by
    rw [(v.alike_after n).1, unsettled_eq under]
    exact h.balance business customer
  refine ⟨hagree, fun hidle => ⟨_, rfl, ?_⟩⟩
  have hnone : v.unsettled n business customer = 0 := by
    refine List.countP_eq_zero.2 fun i _ hunsettled => ?_
    obtain ⟨call, hcall, -⟩ := (Option.any_eq_true _ _).1 (Bool.and_eq_true_iff.1 hunsettled).2
    obtain ⟨c, hc, htask⟩ := Option.bind_eq_some_iff.1 hcall
    exact hidle ⟨i, c, hc, by rw [htask]; rfl⟩
  rw [World.length_select, hagree, hnone, Nat.add_zero]

/-- The caller has left; the booking has been stored, and the slot is about to be taken. -/
theorem counters_agree_between :
    let v : Visit := ⟨[.create (Sample.name _ 1) Sample.book], Sample.world,
      List.replicate 5 (0, false) ++ [(0, true)]⟩
    Fresh v.requests v.start ∧ (∀ id, v.start.bookings.get? id = none) ∧
      (∀ business customer, v.start.bookingCount business customer = 0) ∧
      v.unsettled 6 (Sample.name _ 1) (Sample.name _ 1) = 1 ∧
      (v.after 6).world.storedFor (Sample.name _ 1) (Sample.name _ 1) =
        (v.after 6).world.bookingCount (Sample.name _ 1) (Sample.name _ 1) +
          v.unsettled 6 (Sample.name _ 1) (Sample.name _ 1) ∧
      (¬ v.Outstanding 6 → ∃ bs,
        ((v.after 6).world.answer (.ofCustomer (Sample.name _ 1) (Sample.name _ 1))).1 = .ok bs ∧
          (v.after 6).world.bookingCount (Sample.name _ 1) (Sample.name _ 1) = bs.length) := by
  intro v
  have fresh : Fresh v.requests v.start := ⟨by decide, fun _ _ => rfl⟩
  exact ⟨fresh, fun _ => rfl, Sample.bookingCount_world, by decide +kernel,
    counters_agree v fresh (fun _ => rfl) Sample.bookingCount_world 6 _ _⟩

end Request.Visit

end BookingDesk
