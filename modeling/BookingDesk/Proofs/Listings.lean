import BookingDesk.Proofs.Keyed
import BookingDesk.Proofs.Seen
import BookingDesk.Proofs.WellFormed
import Mathlib.Data.List.Nodup
import Mathlib.Data.List.Perm.Basic

/-!
# Lists of bookings

A list shows the bookings of a business that are wanted, each of them once and the earlier ones
first. What is wanted is asked of a booking's customer or staff, and these are the same in all
versions of it, as is its start; so a change of a booking is not seen in the order of a list
(`World.Revises`). Main statement: what the lists show, that they do not hang on the order in which
the books were filled, that those of all customers together are the list of the business, and that
no change of a booking moves it (`World.listings_exact`).
-/
namespace BookingDesk

/-! ## The lists that can be asked for -/

inductive Listing where
  | ofCustomer (customer : CustomerId)
  | ofStaff (staff : StaffId)
  | ofBusiness
deriving DecidableEq, Repr

namespace Listing

def wants : Listing → Booking → Bool
  | ofCustomer customer, b => b.customer = customer
  | ofStaff staff, b => b.staff = staff
  | ofBusiness, _ => true

/-- How the books answer the call for the list, and what they are then. -/
def found (w : World) (business : BusinessId) : Listing → Except Failure (List Booking) × World
  | ofCustomer customer => w.answer (.ofCustomer business customer)
  | ofStaff staff => w.answer (.ofStaff business staff)
  | ofBusiness => w.answer (.ofBusiness business)

/-- All versions of a booking are in the same lists. -/
theorem wants_eq {a b : Booking} (h : a.IsVersionOf b) (l : Listing) : l.wants a = l.wants b := by
  rw [h]
  cases l <;> rfl

end Listing

namespace World

variable {v w : World} {business : BusinessId} {l : Listing} {b : Booking}

def listing (w : World) (business : BusinessId) (l : Listing) : List Booking :=
  w.select business l.wants

theorem found_eq (w : World) (business : BusinessId) (l : Listing) :
    l.found w business = (.ok (w.listing business l), w) := by
  cases l <;> rfl

theorem listing_perm (w : World) (business : BusinessId) (l : Listing) :
    (w.listing business l).Perm (((w.rowsOf business).map Prod.snd).filter l.wants) := by
  rw [listing, select_eq]
  exact List.mergeSort_perm _ _

theorem listing_ofBusiness_perm (w : World) (business : BusinessId) :
    (w.listing business .ofBusiness).Perm ((w.rowsOf business).map Prod.snd) := by
  have hall : ((w.rowsOf business).map Prod.snd).filter Listing.ofBusiness.wants =
      (w.rowsOf business).map Prod.snd := List.filter_eq_self.2 fun _ _ => rfl
  exact hall ▸ w.listing_perm business .ofBusiness

theorem mem_listing_iff (keyed : w.Keyed) :
    b ∈ w.listing business l ↔
      w.bookings.get? b.id = some b ∧ b.business = business ∧ l.wants b = true := by
  rw [(w.listing_perm business l).mem_iff, List.mem_filter, List.mem_map]
  constructor
  · rintro ⟨⟨⟨id, row⟩, hrow, rfl⟩, hwants⟩
    obtain ⟨hrow, hbusiness⟩ := mem_rowsOf_iff.1 hrow
    exact ⟨keyed id row hrow ▸ hrow, hbusiness, hwants⟩
  · rintro ⟨hrow, hbusiness, hwants⟩
    exact ⟨⟨(b.id, b), mem_rowsOf_iff.2 ⟨hrow, hbusiness⟩, rfl⟩, hwants⟩

/-- No list shows two versions of a booking. -/
theorem nodup_ids (keyed : w.Keyed) (business : BusinessId) (l : Listing) :
    ((w.listing business l).map Booking.id).Nodup := by
  have hids : ((w.rowsOf business).map Prod.snd).map Booking.id =
      (w.rowsOf business).map Prod.fst := by
    rw [List.map_map]
    refine List.map_congr_left fun row hrow => ?_
    exact keyed _ _ (mem_rowsOf_iff.1 hrow).1
  have hrows : (((w.rowsOf business).map Prod.snd).map Booking.id).Nodup := by
    rw [hids]
    exact w.bookings.nodup.sublist (List.filter_sublist.map _)
  exact (((w.listing_perm business l).map _).nodup_iff).2
    (hrows.sublist (List.filter_sublist.map _))

theorem nodup_listing (keyed : w.Keyed) (business : BusinessId) (l : Listing) :
    (w.listing business l).Nodup :=
  List.Nodup.of_map _ (nodup_ids keyed business l)

theorem pairwise_listing (w : World) (business : BusinessId) (l : Listing) :
    (w.listing business l).Pairwise fun a b => a.start ≤ b.start :=
  pairwise_mergeSort_start _

/-! ## The parts of a list -/

/-- The parts of a list by a key, over all keys, make up the list. -/
theorem flatMap_filter_perm {α κ : Type} [DecidableEq κ] (key : α → κ) {keys : List κ}
    (nodup : keys.Nodup) {items : List α} (all : ∀ a ∈ items, key a ∈ keys) :
    (keys.flatMap fun k => items.filter (key · = k)).Perm items := by
  induction keys generalizing items with
  | nil =>
    cases items with
    | nil => exact .refl _
    | cons a rest => cases all a (List.mem_cons_self ..)
  | cons k rest ih =>
    obtain ⟨away, nodup⟩ := List.nodup_cons.1 nodup
    have hothers : (rest.flatMap fun j => items.filter (key · = j)).Perm
        (items.filter fun a => !decide (key a = k)) := by
      have hall : ∀ a ∈ items.filter fun a => !decide (key a = k), key a ∈ rest := by
        intro a ha
        rw [List.mem_filter, Bool.not_eq_true', decide_eq_false_iff_not] at ha
        exact (List.mem_cons.1 (all a ha.1)).resolve_left ha.2
      refine List.Perm.trans (.of_eq (List.flatMap_congr fun j hj => ?_)) (ih nodup hall)
      rw [List.filter_filter]
      refine List.filter_congr fun a _ => ?_
      by_cases hkey : key a = j
      · have hne : key a ≠ k := fun hk => away (hk ▸ hkey ▸ hj)
        simp [hkey, hkey ▸ hne]
      · simp [hkey]
    rw [List.flatMap_cons]
    exact (hothers.append_left _).trans (List.filter_append_perm _ items)

/-- So do the lists of the customers, or of the members of staff, whose bookings there are. -/
theorem flatMap_listing_perm {κ : Type} [DecidableEq κ] {key : Booking → κ} {part : κ → Listing}
    (hpart : ∀ k, (part k).wants = fun b => decide (key b = k)) {keys : List κ}
    (nodup : keys.Nodup) (all : ∀ b ∈ w.listing business .ofBusiness, key b ∈ keys) :
    (keys.flatMap fun k => w.listing business (part k)).Perm
      (w.listing business .ofBusiness) := by
  have hwhole := w.listing_ofBusiness_perm business
  have hparts : (keys.flatMap fun k => w.listing business (part k)).Perm
      (keys.flatMap fun k => ((w.rowsOf business).map Prod.snd).filter (key · = k)) :=
    List.Perm.flatMap_left _ fun k _ => hpart k ▸ w.listing_perm business (part k)
  refine hparts.trans (.trans (flatMap_filter_perm key nodup fun b hb => ?_) hwhole.symm)
  exact all b (hwhole.mem_iff.2 hb)

/-! ## Books with other versions -/

/-- The same bookings stand in the books, in other versions at most. -/
def Revises (v w : World) : Prop :=
  ∀ id, Option.Rel Booking.IsVersionOf (v.bookings.get? id) (w.bookings.get? id)

theorem revises_of_eq (h : ∀ id, v.bookings.get? id = w.bookings.get? id) : v.Revises w := by
  intro id
  rw [h id]
  cases w.bookings.get? id with
  | none => exact .none
  | some b => exact .some (.refl b)

namespace Revises

variable {id : BookingId} {row : Booking}

theorem some_left (h : v.Revises w) (hrow : v.bookings.get? id = some row) :
    ∃ old, w.bookings.get? id = some old ∧ row.IsVersionOf old := by
  have hrel := h id
  rw [hrow] at hrel
  revert hrel
  generalize w.bookings.get? id = x
  rintro (version | _)
  exact ⟨_, rfl, version⟩

theorem some_right (h : v.Revises w) (hrow : w.bookings.get? id = some row) :
    ∃ new, v.bookings.get? id = some new ∧ new.IsVersionOf row := by
  have hrel := h id
  rw [hrow] at hrel
  revert hrel
  generalize v.bookings.get? id = x
  rintro (version | _)
  exact ⟨_, rfl, version⟩

theorem keyed (h : v.Revises w) (keyed : w.Keyed) : v.Keyed := by
  intro id row hrow
  obtain ⟨old, hold, version⟩ := h.some_left hrow
  rw [version.id_eq, keyed id old hold]

/-- A booking is in the same lists. -/
theorem mem_ids_iff (h : v.Revises w) (keyed : w.Keyed) (business : BusinessId) (l : Listing)
    (id : BookingId) :
    id ∈ (v.listing business l).map Booking.id ↔ id ∈ (w.listing business l).map Booking.id := by
  simp only [List.mem_map, mem_listing_iff keyed, mem_listing_iff (h.keyed keyed)]
  constructor
  · rintro ⟨b, ⟨hrow, hbusiness, hwants⟩, rfl⟩
    obtain ⟨old, hold, version⟩ := h.some_left hrow
    rw [version.id_eq, version.business_eq, l.wants_eq version] at *
    exact ⟨old, ⟨hold, hbusiness, hwants⟩, rfl⟩
  · rintro ⟨b, ⟨hrow, hbusiness, hwants⟩, rfl⟩
    obtain ⟨new, hnew, version⟩ := h.some_right hrow
    rw [← version.id_eq, ← version.business_eq, ← l.wants_eq version] at *
    exact ⟨new, ⟨hnew, hbusiness, hwants⟩, rfl⟩

/-- The starts are the same in each list. -/
theorem starts_eq (h : v.Revises w) (keyed : w.Keyed) (business : BusinessId) (l : Listing) :
    (v.listing business l).map (·.start) = (w.listing business l).map (·.start) := by
  -- the start of a booking can be told from its identifier
  have hstart : ∀ u : World, u.Revises w →
      (u.listing business l).map (·.start) = ((u.listing business l).map Booking.id).map
        fun id => ((w.bookings.get? id).map (·.start)).getD (.ofSecond 0) := by
    intro u hu
    rw [List.map_map]
    refine List.map_congr_left fun b hb => ?_
    obtain ⟨old, hold, version⟩ :=
      hu.some_left ((mem_listing_iff (hu.keyed keyed)).1 hb).1
    simp only [Function.comp_apply, hold, Option.map_some, Option.getD_some]
    rw [version]
  have hids : ((v.listing business l).map Booking.id).Perm
      ((w.listing business l).map Booking.id) :=
    (List.perm_ext_iff_of_nodup (nodup_ids (h.keyed keyed) business l)
      (nodup_ids keyed business l)).2 (h.mem_ids_iff keyed business l)
  refine List.Perm.eq_of_pairwise (fun _ _ _ _ => Instant.le_antisymm)
    (List.pairwise_map.2 (v.pairwise_listing business l))
    (List.pairwise_map.2 (w.pairwise_listing business l)) ?_
  rw [hstart v h, hstart w (revises_of_eq fun _ => rfl)]
  exact hids.map _

/-- A version of what stands in the books may be stored. -/
theorem replace {b old : Booking} (h : v.Revises w) (hold : w.bookings.get? b.id = some old)
    (version : b.IsVersionOf old) : (v.replace b).Revises w := by
  intro id
  rw [get?_replace]
  split
  · rename_i hid
    subst hid
    obtain ⟨new, hnew, -⟩ := h.some_right hold
    rw [hnew, hold]
    exact .some version
  · exact h id

end Revises

end World

/-! ## Changes, in whatever order and whatever fails -/

/-- What the stage is about to store is a version of what stands in the books. -/
def Stage.Revising (w : World) : Stage → Prop
  | replace b _ => ∃ old, w.bookings.get? b.id = some old ∧ b.IsVersionOf old
  | load _ | release _ | changed _ | failed _ => True
  | _ => False

section

variable {v w : World} {g : Stage} {call : Call}

theorem Request.revising_start {r : Request} (change : r.drawn? = none) : r.start.Revising w := by
  cases r with
  | create _ _ => cases change
  | update c =>
    rw [start]
    split <;> trivial
  | confirm c | cancel c | complete c => trivial

theorem Stage.Revising.next (h : g.Revising w) (hc : g.call? = some call) (keyed : w.Keyed)
    (revises : v.Revises w) {answer : Answer call} (truthful : call.Truthful v answer) :
    (g.next call answer).Revising w := by
  cases g with
  | load ch =>
    cases hc
    rcases answer with f | _ | b
    · trivial
    · trivial
    obtain ⟨hrow, -⟩ := World.booking?_eq_some_iff.1 truthful
    obtain ⟨old, hold, version⟩ := revises.some_left hrow
    show (found ch (some b)).Revising w
    rw [found]
    cases hb : ch.apply b with
    | error e => trivial
    | ok new =>
      obtain ⟨-, rfl⟩ := Change.apply_eq_ok_iff.1 hb
      refine ⟨old, ?_, (ch.isVersionOf_result b).trans version⟩
      rw [Change.id_result, version.id_eq, keyed _ _ hold, hold]
  | replace b before =>
    cases hc
    rcases answer with f | _ | _
    · trivial
    · trivial
    · show (replaced b before).Revising w
      rw [replaced]
      split <;> trivial
  | release b =>
    cases hc
    trivial
  | changed _ | failed _ => cases hc
  | _ => cases h

/-- Whatever becomes of its call, the same bookings stand in the books. -/
theorem Stage.Revising.struck (h : g.Revising w) (hc : g.call? = some call)
    (revises : v.Revises w) (effect : Effect) : (World.struck effect v call).2.Revises w := by
  rcases World.struck_snd effect v call with hsame | hdone
  · rwa [hsame]
  rw [hdone]
  cases g with
  | load ch =>
    cases hc
    exact revises
  | replace b before =>
    cases hc
    obtain ⟨old, hold, version⟩ := h
    simp only [World.answer]
    split
    · exact revises.replace hold version
    · exact revises
  | release b =>
    cases hc
    simp only [World.answer]
    split <;> exact revises
  | changed _ | failed _ => cases hc
  | _ => cases h

end

namespace Errand

variable {w : World} {d : Interleaving (Caller Receipt)}

/-- The same bookings stand in the books, and every caller is about to change one of them. -/
structure Changing (w : World) (d : Interleaving (Caller Receipt)) : Prop where
  revises : d.world.Revises w
  callers : ∀ c ∈ d.strands, ∃ (f : Outcome → Receipt) (g : Stage), c.Follows f g ∧ g.Revising w

theorem changing_callers {changes : List Request} (h : ∀ r ∈ changes, r.drawn? = none) :
    Changing w (callers (changes.map .request) w) where
  revises := World.revises_of_eq fun _ => rfl
  callers c hc := by
    simp only [callers, List.map_map, List.mem_map, Function.comp_apply] at hc
    obtain ⟨r, hr, rfl⟩ := hc
    have hfollows := (follows_start r).map Receipt.booking
    rw [← Service.course_map] at hfollows
    have hands : (r.service.map Receipt.booking).HandsOver :=
      r.handsOver.andThen fun _ => trivial
    exact ⟨_, _, Service.follows_caller hands hfollows, Request.revising_start (h r hr)⟩

theorem Changing.turn (h : Changing w d) (keyed : w.Keyed) (i : Nat) (effect : Option Effect) :
    Changing w (d.turn (Caller.step (effect.map World.struck)) i) := by
  cases hc : d.strands[i]? with
  | none =>
    rw [Interleaving.turn_of_none hc]
    exact h
  | some c =>
    obtain ⟨f, g, follows, revising⟩ := h.callers c (List.mem_of_getElem? hc)
    rw [Interleaving.turn_of_some hc]
    have hothers : ∀ {c' : Caller Receipt} {g' : Stage}, c'.Follows f g' → g'.Revising w →
        ∀ c ∈ d.strands.set i c', ∃ (f : Outcome → Receipt) (g : Stage),
          c.Follows f g ∧ g.Revising w := by
      intro c' g' follows' revising' c hc
      rcases List.mem_or_eq_of_mem_set hc with hother | rfl
      · exact h.callers c hother
      · exact ⟨f, g', follows', revising'⟩
    rcases follows.step (effect.map World.struck) d.world with
      ⟨hworld, hnext, -⟩ | ⟨answer, call, hreply, -, hcall, hworld, hnext⟩
    · exact ⟨hworld.symm ▸ h.revises, hothers hnext revising⟩
    · obtain ⟨effect, -, rfl⟩ := Option.map_eq_some_iff.1 hreply
      rw [Stage.turn, hcall] at hworld hnext
      have truthful := World.struck_truthful effect d.world call
      exact ⟨hworld.symm ▸ revising.struck hcall h.revises effect,
        hothers hnext (revising.next hcall keyed h.revises truthful)⟩

theorem Changing.playWith (h : Changing w d) (keyed : w.Keyed)
    (turns : List (Nat × Option Effect)) :
    Changing w (d.playWith (fun effect => Caller.step (effect.map World.struck)) turns) := by
  induction turns generalizing d with
  | nil => exact h
  | cons p turns ih => exact ih (h.turn keyed p.1 p.2)

/-- Changes of bookings leave the same bookings, in whatever order their calls are made, whatever
becomes of these and whoever leaves. -/
theorem revises_after {changes : List Request} (keyed : w.Keyed)
    (h : ∀ r ∈ changes, r.drawn? = none) (turns : List (Nat × Option Effect)) :
    (after (changes.map .request) w turns).world.Revises w :=
  ((changing_callers h).playWith keyed turns).revises

end Errand

/-! ## All about the lists -/

/-- Of the books of the desk: a list shows each booking of the business that is wanted once, and
nothing else, by the time of its start. In what order the books were filled is not seen, but for
bookings that start together. The lists of all customers together are the list of the business, and
so are those of all members of staff. Changes of bookings, whatever becomes of their calls, neither
take a booking from a list to another nor change the starts in a list. -/
theorem World.listings_exact {w : World} (keyed : w.Keyed) (business : BusinessId) :
    (∀ l : Listing,
      l.found w business = (.ok (w.listing business l), w) ∧
      (∀ b, (w.listing business l).count b =
        if w.bookings.get? b.id = some b ∧ b.business = business ∧ l.wants b = true then 1
        else 0) ∧
      (w.listing business l).Pairwise (fun a b => a.start ≤ b.start) ∧
      (∀ v : World, (∀ id, v.bookings.get? id = w.bookings.get? id) →
        (v.listing business l).Perm (w.listing business l) ∧
          (v.listing business l).map (·.start) = (w.listing business l).map (·.start)) ∧
      ∀ changes : List Request, (∀ r ∈ changes, r.drawn? = none) → ∀ turns,
        let v := (Errand.after (changes.map .request) w turns).world
        (∀ id, id ∈ (v.listing business l).map Booking.id ↔
          id ∈ (w.listing business l).map Booking.id) ∧
        (v.listing business l).map (·.start) = (w.listing business l).map (·.start)) ∧
    (∀ customers : List CustomerId, customers.Nodup →
      (∀ b ∈ w.listing business .ofBusiness, b.customer ∈ customers) →
      (customers.flatMap fun c => w.listing business (.ofCustomer c)).Perm
        (w.listing business .ofBusiness)) ∧
    ∀ staff : List StaffId, staff.Nodup →
      (∀ b ∈ w.listing business .ofBusiness, b.staff ∈ staff) →
      (staff.flatMap fun s => w.listing business (.ofStaff s)).Perm
        (w.listing business .ofBusiness) := by
  refine ⟨fun l => ⟨w.found_eq business l, fun b => ?_, w.pairwise_listing business l,
    fun v hsame => ?_, fun changes hchanges turns => ?_⟩, fun customers nodup all => ?_,
    fun staff nodup all => ?_⟩
  · rw [(nodup_listing keyed business l).count]
    simp only [mem_listing_iff keyed]
  · have hrevises := revises_of_eq hsame
    refine ⟨?_, hrevises.starts_eq keyed business l⟩
    rw [List.perm_ext_iff_of_nodup (nodup_listing (hrevises.keyed keyed) business l)
      (nodup_listing keyed business l)]
    intro b
    rw [mem_listing_iff keyed, mem_listing_iff (hrevises.keyed keyed), hsame]
  · have hrevises := Errand.revises_after keyed hchanges turns
    exact ⟨hrevises.mem_ids_iff keyed business l, hrevises.starts_eq keyed business l⟩
  · exact flatMap_listing_perm (fun _ => rfl) nodup all
  · exact flatMap_listing_perm (fun _ => rfl) nodup all

/-- Two bookings, of which the one that was stored first starts later. The earlier one is cancelled,
and its caller is told of a failure. -/
theorem World.listings_exact_two_bookings :
    let later : Booking :=
      { Sample.booking with
        id := Sample.name _ 2, customer := Sample.name _ 2, start := .ofSecond 3600
        finish := .ofSecond 5400 }
    let w := (Sample.world.insert later).insert Sample.booking
    let business := Sample.booking.business
    let cancel := Request.cancel ⟨business, Sample.booking.id, .ofSecond 1⟩
    let turns := [(0, some .none), (0, some (.failAfter "down"))]
    let v := (Errand.after [.request cancel] w turns).world
    (w.Keyed ∧ v.bookings.get? Sample.booking.id =
      some { Sample.booking with status := .cancelled, updatedAt := .ofSecond 1 }) ∧
    (w.listing business .ofBusiness).count Sample.booking = 1 ∧
    (w.listing business (.ofCustomer later.customer)).count Sample.booking = 0 ∧
    (w.listing business .ofBusiness).Pairwise (fun a b => a.start ≤ b.start) ∧
    (v.listing business .ofBusiness).map (·.start) =
      (w.listing business .ofBusiness).map (·.start) ∧
    ([Sample.booking.customer, later.customer].flatMap fun c =>
      w.listing business (.ofCustomer c)).Perm (w.listing business .ofBusiness) := by
  intro later w business cancel turns v
  have keyed : w.Keyed :=
    Table.KeyedBy.insertNew (Table.KeyedBy.insertNew Request.keyed_sample rfl) rfl
  have hrows : ∀ b, w.bookings.get? b.id = some b → b = Sample.booking ∨ b = later := by
    intro b hb
    rcases (get?_insert_eq_some_iff rfl).1 hb with ⟨-, rfl⟩ | hb
    · exact .inl rfl
    rcases (get?_insert_eq_some_iff rfl).1 hb with ⟨-, rfl⟩ | hb
    · exact .inr rfl
    · cases hb
  have hcustomers : ∀ b ∈ w.listing business .ofBusiness,
      b.customer ∈ [Sample.booking.customer, later.customer] := by
    intro b hb
    rcases hrows b ((mem_listing_iff keyed).1 hb).1 with rfl | rfl <;> simp
  obtain ⟨hlists, hparts, -⟩ := listings_exact keyed business
  obtain ⟨-, hcount, hsorted, -, hchanges⟩ := hlists .ofBusiness
  obtain ⟨-, hcount', -⟩ := hlists (.ofCustomer later.customer)
  have hnone : ∀ r ∈ [cancel], r.drawn? = none := by simp [cancel, Request.drawn?]
  refine ⟨⟨keyed, rfl⟩, ?_, ?_, hsorted, (hchanges [cancel] hnone _).2, ?_⟩
  · rw [hcount, if_pos ⟨rfl, rfl, rfl⟩]
  · rw [hcount', if_neg (by decide)]
  · exact hparts _ (by decide) hcustomers

end BookingDesk
