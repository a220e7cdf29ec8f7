import BookingDesk.Proofs.Keyed
import BookingDesk.Proofs.Tables
import BookingDesk.Store.World
import Mathlib.Data.List.Forall2
import Mathlib.Data.List.Perm.Basic

/-!
# Rows and what they stand for

A tuple stands for a booking, or for a slot and who holds it, if its columns have the values of it.
Main statements: a row of a booking reads back as the booking (`Booking.Fills.booking_row`), and
when items fill the rows of a relation, one each, then those with a property fill the rows that are
selected by it (`Fill.filter`), and the changed items fill the rows that are changed alike
(`Fill.map`).
-/
namespace BookingDesk

namespace Database

/-! ## Items that fill rows -/

section Fill

variable {α β : Type} {R : α → Tuple → Prop} {S : β → Tuple → Prop} {items : List α}
  {rows rows' : List Tuple}

/-- The items fill the rows, one each, in any order. -/
def Fill (R : α → Tuple → Prop) (items : List α) (rows : List Tuple) : Prop :=
  ∃ filling, filling.Perm items ∧ List.Forall₂ R filling rows

namespace Fill

theorem of_forall₂ (h : List.Forall₂ R items rows) : Fill R items rows := ⟨items, .refl _, h⟩

theorem append (h : Fill R items rows) {a : α} {r : Tuple} (new : R a r) :
    Fill R (items ++ [a]) (rows ++ [r]) := by
  obtain ⟨filling, hperm, hall⟩ := h
  exact ⟨filling ++ [a], hperm.append_right [a], List.rel_append hall (.cons new .nil)⟩

/-- Only the items matter that there are. -/
theorem mem (h : Fill R items rows) : Fill (fun a r => a ∈ items ∧ R a r) items rows := by
  obtain ⟨filling, hperm, hall⟩ := h
  exact ⟨filling, hperm, (List.forall₂_and_left _ _).2 ⟨fun a ha => hperm.mem_iff.1 ha, hall⟩⟩

theorem map (h : Fill R items rows) {f : α → β} {g : Tuple → Tuple}
    (alike : ∀ a ∈ items, ∀ r, R a r → S (f a) (g r)) : Fill S (items.map f) (rows.map g) := by
  obtain ⟨filling, hperm, hall⟩ := h.mem
  refine ⟨filling.map f, hperm.map f, ?_⟩
  rw [List.forall₂_map_left_iff, List.forall₂_map_right_iff]
  exact hall.imp fun a r har => alike a har.1 r har.2

theorem filter (h : Fill R items rows) {p : α → Bool} {q : Tuple → Bool}
    (alike : ∀ a r, R a r → p a = q r) : Fill R (items.filter p) (rows.filter q) := by
  obtain ⟨filling, hperm, hall⟩ := h
  refine ⟨filling.filter p, hperm.filter p, ?_⟩
  exact List.rel_filter (fun a r har => Bool.eq_iff_iff.1 (alike a r har)) hall

/-- The rows may come in any order. -/
theorem perm (h : Fill R items rows) (hperm : rows'.Perm rows) : Fill R items rows' := by
  obtain ⟨filling, hfilling, hall⟩ := h
  have hcomp : Relation.Comp (List.Forall₂ R) List.Perm filling rows' := ⟨rows, hall, hperm.symm⟩
  rw [List.forall₂_comp_perm_eq_perm_comp_forall₂] at hcomp
  obtain ⟨filling', hfilling', hall'⟩ := hcomp
  exact ⟨filling', hfilling'.symm.trans hfilling, hall'⟩

theorem length_eq (h : Fill R items rows) : rows.length = items.length := by
  obtain ⟨filling, hperm, hall⟩ := h
  rw [← hall.length_eq, hperm.length_eq]

theorem countP_eq (h : Fill R items rows) {p : α → Bool} {q : Tuple → Bool}
    (alike : ∀ a r, R a r → p a = q r) : rows.countP q = items.countP p := by
  rw [List.countP_eq_length_filter, List.countP_eq_length_filter, (h.filter alike).length_eq]

/-- What there is one of at most fills one row at most. -/
theorem toList_cases {o : Option α} (h : Fill R o.toList rows) :
    o = none ∧ rows = [] ∨ ∃ a r, o = some a ∧ rows = [r] ∧ R a r := by
  obtain ⟨filling, hperm, hall⟩ := h
  cases o with
  | none =>
    rw [Option.toList_none, List.perm_nil] at hperm
    subst hperm
    cases hall
    exact .inl ⟨rfl, rfl⟩
  | some a =>
    rw [Option.toList_some, List.perm_singleton] at hperm
    subst hperm
    cases hall with
    | cons har hnil =>
      cases hnil
      exact .inr ⟨a, _, rfl, rfl, har⟩

theorem map_eq_of_forall₂ (h : List.Forall₂ R items rows) {f : α → β} {g : Tuple → β}
    (alike : ∀ a r, R a r → f a = g r) : rows.map g = items.map f := by
  induction h with
  | nil => rfl
  | cons har _ ih => rw [List.map_cons, List.map_cons, alike _ _ har, ih]

theorem map_perm (h : Fill R items rows) {f : α → β} {g : Tuple → β}
    (alike : ∀ a r, R a r → f a = g r) : (rows.map g).Perm (items.map f) := by
  obtain ⟨filling, hperm, hall⟩ := h
  rw [map_eq_of_forall₂ hall alike]
  exact hperm.map f

end Fill

/-! ## Rows of a table -/

section Keyed

variable {κ : Type} [DecidableEq κ] {t : Table κ α} {key : α → κ} {k : κ} {p : α → Bool}
  {q : Tuple → Bool}

/-- How many rows an update or a deletion concerns that names a key. -/
theorem Fill.countP_key (h : Fill R t.values rows) (keyed : t.KeyedBy key)
    (concerned : ∀ a r, R a r → (p a && key a = k) = q r) :
    rows.countP q = if ((t.get? k).filter p).isSome then 1 else 0 := by
  rw [h.countP_eq concerned, List.countP_eq_length_filter, keyed.filter_values_and]
  cases (t.get? k).filter p <;> rfl

/-- An update that names a key changes the value under the key, if it has the property that is
asked for. -/
theorem Fill.modify (h : Fill R t.values rows) (keyed : t.KeyedBy key)
    (concerned : ∀ a r, R a r → (p a && key a = k) = q r) {f : α → α} {g : Tuple → Tuple}
    (alike : ∀ a r, t.get? k = some a → p a = true → R a r → R (f a) (g r)) :
    Fill R (if ((t.get? k).filter p).isSome then t.modify k f else t).values
      (rows.map fun r => if q r then g r else r) := by
  rw [keyed.values_modify_if]
  refine h.map fun a ha r har => ?_
  rw [← concerned a r har]
  by_cases hpk : (p a && key a = k) = true
  · obtain ⟨hp, hk⟩ := Bool.and_eq_true_iff.1 hpk
    rw [if_pos hpk, if_pos hpk]
    exact alike a r (keyed.get?_eq ha (of_decide_eq_true hk)) hp har
  · rw [if_neg hpk, if_neg hpk]
    exact har

/-- A deletion that names a key takes out the value under the key, if it has the property that is
asked for. -/
theorem Fill.erase (h : Fill R t.values rows) (keyed : t.KeyedBy key)
    (concerned : ∀ a r, R a r → (p a && key a = k) = q r) :
    Fill R (if ((t.get? k).filter p).isSome then t.erase k else t).values
      (rows.filter (!q ·)) := by
  rw [keyed.values_erase_if]
  refine h.filter fun a r har => ?_
  rw [concerned a r har]

end Keyed
end Fill

theorem Tuple.eq_of_mem_zip {r : Tuple} {columns : List Column} {values : List Value}
    (h : columns.map r = values) {c : Column} {v : Value} (hv : (c, v) ∈ columns.zip values) :
    r c = v := by
  subst h
  induction columns with
  | nil => cases hv
  | cons d columns ih =>
    rw [List.map_cons, List.zip_cons_cons, List.mem_cons] at hv
    rcases hv with heq | hv
    · cases heq
      rfl
    · exact ih hv

end Database

/-! ## Bookings and slots -/

open Database

/-- The times of a booking. -/
def Booking.times (b : Booking) : List Instant := [b.start, b.finish, b.createdAt, b.updatedAt]

/-- All times are whole microseconds: the database takes them as they are. -/
def Booking.IsWhole (b : Booking) : Prop := ∀ t ∈ b.times, t.toMicroseconds = t

/-- The tuple has the values of the booking. -/
structure Booking.Fills (b : Booking) (r : Tuple) : Prop where
  values : bookingColumns.map r = bookingValues b
  whole : b.IsWhole

/-- The tuple has the values of the slot, and tells who holds it. -/
structure SlotEntry.Fills (entry : SlotEntry) (r : Tuple) : Prop where
  values : slotColumns.map r = [ofId entry.slot.id, ofId entry.slot.business,
    ofId entry.slot.staff, .time entry.slot.start, .time entry.slot.finish]
  reserved : r .isReserved = .bool entry.holder.isSome
  holder : r .bookingId = entry.holder.elim .null ofId

namespace Booking

variable {b : Booking} {r : Tuple}

theorem IsWhole.ofInstant_eq (h : b.IsWhole) {t : Instant} (ht : t ∈ b.times) :
    ofInstant t = .time t := by
  rw [ofInstant, h t ht]

/-- A row with the values of a booking, in any order of its columns, reads back as the booking. -/
theorem IsWhole.booking_row {row : Row} (whole : b.IsWhole)
    (values : ∀ p ∈ bookingColumns.zip (bookingValues b), row.lookup p.1 = some p.2) :
    row.booking = some (.ok b) := by
  simp only [bookingColumns, bookingValues, List.zip_cons_cons, List.zip_nil_right,
    List.forall_mem_cons] at values
  obtain ⟨hid, hbusiness, hcustomer, hstaff, hservice, hslot, hstart, hfinish, hstatus, hnotes,
    hcreated, hupdated, -⟩ := values
  rw [whole.ofInstant_eq (by simp [times])] at hstart hfinish hcreated hupdated
  have hbooking : row.bookingWith? b.status b.notes = some b := by
    simp [Row.bookingWith?, Row.id?, Row.uuid?, Row.time?, *, ofId]
  simp [Row.booking, Row.text?, hstatus, hnotes, ofStatus, hbooking]

theorem Fills.value (h : b.Fills r) {c : Column} {v : Value}
    (hv : (c, v) ∈ bookingColumns.zip (bookingValues b)) : r c = v :=
  Tuple.eq_of_mem_zip h.values hv

theorem Fills.booking_row (h : b.Fills r) : (r.row bookingColumns).booking = some (.ok b) := by
  refine h.whole.booking_row fun p hp => ?_
  rw [Tuple.lookup_row (List.of_mem_zip hp).1, h.value hp]

/-- What fills the rows is what is read from them. -/
theorem bookings_row {bs : List Booking} {rows : List Tuple} (h : List.Forall₂ Fills bs rows) :
    bookings (rows.map (·.row bookingColumns)) = some (.ok bs) := by
  induction h with
  | nil => rfl
  | cons hfill _ ih => simp [bookings, hfill.booking_row, ih, Except.map]

end Booking
namespace SlotEntry

variable {entry : SlotEntry} {r : Tuple}

theorem Fills.value (h : entry.Fills r) {c : Column} {v : Value}
    (hv : (c, v) ∈ slotColumns.zip [ofId entry.slot.id, ofId entry.slot.business,
      ofId entry.slot.staff, .time entry.slot.start, .time entry.slot.finish]) : r c = v :=
  Tuple.eq_of_mem_zip h.values hv

theorem Fills.slot_row (h : entry.Fills r) : (r.row slotColumns).slot? = some entry.slot := by
  have hvalues : ∀ p ∈ slotColumns.zip [ofId entry.slot.id, ofId entry.slot.business,
      ofId entry.slot.staff, .time entry.slot.start, .time entry.slot.finish],
      (r.row slotColumns).lookup p.1 = some p.2 := by
    intro p hp
    rw [Tuple.lookup_row (List.of_mem_zip hp).1, h.value hp]
  simp only [slotColumns, List.zip_cons_cons, List.zip_nil_right, List.forall_mem_cons] at hvalues
  obtain ⟨hid, hbusiness, hstaff, hstart, hfinish, -⟩ := hvalues
  simp [Row.slot?, Row.id?, Row.uuid?, Row.time?, slotColumns, *, ofId]

theorem Fills.reserved_row (h : entry.Fills r) :
    (r.row [.isReserved]).bool? .isReserved = some entry.holder.isSome := by
  simp [Row.bool?, Tuple.lookup_row, h.reserved]

end SlotEntry
end BookingDesk
