import BookingDesk.Store.World

/-!
# Values that carry their keys

Bookings and slots stand in their tables under their own identifiers. Of such a table the values
tell everything: main statements are what each change of the table does to them (`values_modify`,
`values_erase`) and that a key picks out one of them at most (`filter_values`). The desk's own books
are kept so whatever is called (`World.Keyed.answer`).
-/
namespace BookingDesk

/-- Every value stands under its own key. -/
def Table.KeyedBy {κ α : Type} [DecidableEq κ] (t : Table κ α) (key : α → κ) : Prop :=
  ∀ k a, t.get? k = some a → key a = k

namespace Table.KeyedBy

variable {κ α : Type} [DecidableEq κ] {t : Table κ α} {key : α → κ}

theorem key_eq (h : t.KeyedBy key) {p : κ × α} (hp : p ∈ t.entries) : key p.2 = p.1 :=
  h _ _ (Table.get?_eq_some_iff.2 hp)

theorem get?_eq (h : t.KeyedBy key) {k : κ} {a : α} (ha : a ∈ t.values) (hk : key a = k) :
    t.get? k = some a := by
  obtain ⟨j, hj⟩ := Table.mem_values_iff.1 ha
  rw [← hk, h j a hj, hj]

theorem isSome_filter (h : t.KeyedBy key) {k : κ} {a : α} (ha : a ∈ t.values) (hk : key a = k)
    {p : α → Bool} : ((t.get? k).filter p).isSome = p a := by
  rw [h.get?_eq ha hk]
  cases hp : p a <;> simp [Option.filter, hp]

theorem values_modify (h : t.KeyedBy key) (k : κ) (f : α → α) :
    (t.modify k f).values = t.values.map fun a => if key a = k then f a else a := by
  simp only [Table.values, Table.modify, List.map_map]
  refine List.map_congr_left fun p hp => ?_
  simp [h.key_eq hp]

theorem values_erase (h : t.KeyedBy key) (k : κ) :
    (t.erase k).values = t.values.filter (key · ≠ k) := by
  simp only [Table.values, Table.erase, List.filter_map]
  refine congrArg _ (List.filter_congr fun p hp => ?_)
  simp [h.key_eq hp]

/-- There is one value at most under a key. -/
theorem filter_values (h : t.KeyedBy key) (k : κ) :
    t.values.filter (key · = k) = (t.get? k).toList := by
  have hentries : t.values.filter (key · = k) = (t.entries.filter (·.1 = k)).map Prod.snd := by
    rw [Table.values, List.filter_map]
    refine congrArg _ (List.filter_congr fun p hp => ?_)
    simp [h.key_eq hp]
  rw [hentries]
  obtain ⟨es, nodup⟩ := t
  simp only [Table.get?]
  clear h hentries
  induction es with
  | nil => rfl
  | cons e es ih =>
    obtain ⟨j, a⟩ := e
    obtain ⟨hnot, hrest⟩ := List.nodup_cons.1 nodup
    by_cases hjk : j = k
    · subst j
      have hnone : es.filter (·.1 = k) = [] := by
        refine List.filter_eq_nil_iff.2 fun p hp hpk => hnot ?_
        exact List.mem_map.2 ⟨p, hp, of_decide_eq_true hpk⟩
      simp [hnone]
    · have hkj : (k == j) = false := beq_false_of_ne (Ne.symm hjk)
      rw [List.filter_cons_of_neg (by simpa using hjk), List.lookup_cons, hkj]
      exact ih hrest

/-- Neither is there more than one with any property. -/
theorem filter_values_and (h : t.KeyedBy key) (k : κ) (p : α → Bool) :
    (t.values.filter fun a => p a && key a = k) = ((t.get? k).filter p).toList := by
  rw [← List.filter_filter, h.filter_values]
  cases t.get? k with
  | none => rfl
  | some a => by_cases hp : p a <;> simp [Option.filter, hp]

/-- A change of the value under a key, if it has some property. -/
theorem values_modify_if (h : t.KeyedBy key) (k : κ) (p : α → Bool) (f : α → α) :
    (if ((t.get? k).filter p).isSome then t.modify k f else t).values =
      t.values.map fun a => if p a && key a = k then f a else a := by
  split
  · rename_i hsome
    rw [h.values_modify]
    refine List.map_congr_left fun a ha => ?_
    by_cases hk : key a = k
    · rw [h.isSome_filter ha hk] at hsome
      simp [hk, hsome]
    · simp [hk]
  · rename_i hnone
    rw [List.map_congr_left fun a ha => ?_, List.map_id']
    by_cases hk : key a = k
    · rw [h.isSome_filter ha hk] at hnone
      simp [hnone]
    · simp [hk]

theorem values_erase_if (h : t.KeyedBy key) (k : κ) (p : α → Bool) :
    (if ((t.get? k).filter p).isSome then t.erase k else t).values =
      t.values.filter fun a => !(p a && key a = k) := by
  split
  · rename_i hsome
    rw [h.values_erase]
    refine List.filter_congr fun a ha => ?_
    by_cases hk : key a = k
    · rw [h.isSome_filter ha hk] at hsome
      simp [hk, hsome]
    · simp [hk]
  · rename_i hnone
    refine (List.filter_eq_self.2 fun a ha => ?_).symm
    by_cases hk : key a = k
    · rw [h.isSome_filter ha hk] at hnone
      simp [hnone]
    · simp [hk]

theorem insertNew (h : t.KeyedBy key) {k : κ} {a : α} (hkey : key a = k) :
    (t.insertNew k a).KeyedBy key := by
  intro j b hb
  rw [Table.get?_insertNew] at hb
  split at hb
  · subst j
    cases hk : t.get? k with
    | none =>
      rw [hk] at hb
      exact Option.some.inj hb ▸ hkey
    | some c =>
      rw [hk] at hb
      exact Option.some.inj hb ▸ h k c hk
  · exact h j b hb

theorem modify (h : t.KeyedBy key) {k : κ} {f : α → α} (hf : ∀ a, key a = k → key (f a) = k) :
    (t.modify k f).KeyedBy key := by
  intro j b hb
  rw [Table.get?_modify] at hb
  split at hb
  · subst j
    obtain ⟨a, ha, rfl⟩ := Option.map_eq_some_iff.1 hb
    exact hf a (h k a ha)
  · exact h j b hb

theorem erase (h : t.KeyedBy key) (k : κ) : (t.erase k).KeyedBy key := by
  intro j b hb
  rw [Table.get?_erase] at hb
  split at hb
  · cases hb
  · exact h j b hb

end Table.KeyedBy

theorem Table.values_insertNew {κ α : Type} [DecidableEq κ] {t : Table κ α} {k : κ}
    (h : t.get? k = none) (a : α) : (t.insertNew k a).values = t.values ++ [a] := by
  simp [Table.values, Table.insertNew, Table.get?_eq_none_iff.1 h]

/-- Every booking stands under its own identifier. -/
def World.Keyed (w : World) : Prop := w.bookings.KeyedBy Booking.id

/-- So it goes on, whatever is called. -/
theorem World.Keyed.answer {w : World} (h : w.Keyed) (c : Call) : (w.answer c).2.Keyed := by
  cases c with
  | insert b =>
    simp only [World.answer]
    split
    · exact h
    · exact Table.KeyedBy.insertNew h rfl
  | replace b expected =>
    simp only [World.answer]
    split
    · exact Table.KeyedBy.modify h fun _ _ => rfl
    · exact h
  | remove business id =>
    simp only [World.answer]
    split
    · exact Table.KeyedBy.erase h id
    · exact h
  | reserve _ _ | release _ | countBooking _ _ =>
    simp only [World.answer]
    split <;> exact h
  | _ => exact h

end BookingDesk
