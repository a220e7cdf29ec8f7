/-!
# Tables

A finite table from keys to values; no key occurs twice. Its values come in the order in which their
keys were first put in.
-/
namespace BookingDesk

structure Table (κ α : Type) where
  entries : List (κ × α)
  nodup : (entries.map Prod.fst).Nodup

namespace Table

variable {κ α : Type} [DecidableEq κ]

def empty : Table κ α := ⟨[], List.nodup_nil⟩

instance : Inhabited (Table κ α) := ⟨empty⟩

def get? (t : Table κ α) (k : κ) : Option α := t.entries.lookup k

def contains (t : Table κ α) (k : κ) : Bool := (t.get? k).isSome

def values (t : Table κ α) : List α := t.entries.map Prod.snd

/-- A value that is there is kept. -/
def insertNew (t : Table κ α) (k : κ) (a : α) : Table κ α :=
  if h : k ∈ t.entries.map Prod.fst then t
  else
    { entries := t.entries ++ [(k, a)]
      nodup := by
        rw [List.map_append, List.nodup_append]
        exact ⟨t.nodup, by simp, by
          intro x hx y hy e
          simp at hy
          exact h (hy ▸ e ▸ hx)⟩ }

/-- Changes the value of a key, if it has one. -/
def modify (t : Table κ α) (k : κ) (f : α → α) : Table κ α :=
  { entries := t.entries.map fun (k', a) => (k', if k' = k then f a else a)
    nodup := by
      have h : (fun p : κ × α => p.1) ∘ (fun p : κ × α => (p.1, if p.1 = k then f p.2 else p.2)) =
          Prod.fst := rfl
      rw [List.map_map]
      exact h ▸ t.nodup }

def erase (t : Table κ α) (k : κ) : Table κ α :=
  { entries := t.entries.filter (·.1 ≠ k)
    nodup := t.nodup.sublist (List.filter_sublist.map _) }

/-! ## Looking up after a change -/

theorem get?_eq_some_iff {t : Table κ α} {k : κ} {a : α} :
    t.get? k = some a ↔ (k, a) ∈ t.entries := by
  obtain ⟨es, h⟩ := t
  simp only [get?]
  induction es with
  | nil => simp
  | cons e es ih =>
    have hn : e.1 ∉ es.map Prod.fst ∧ (es.map Prod.fst).Nodup := List.nodup_cons.1 h
    by_cases hk : k = e.1
    · subst hk
      have : ∀ b, (e.1, b) ∉ es := by grind
      grind
    · grind

theorem get?_eq_none_iff {t : Table κ α} {k : κ} :
    t.get? k = none ↔ k ∉ t.entries.map Prod.fst := by
  simp only [Option.eq_none_iff_forall_ne_some, ne_eq, get?_eq_some_iff]
  grind

theorem mem_values_iff {t : Table κ α} {a : α} : a ∈ t.values ↔ ∃ k, t.get? k = some a := by
  simp only [values, get?_eq_some_iff]
  grind

@[simp] theorem get?_empty (k : κ) : (empty : Table κ α).get? k = none := rfl

theorem get?_insertNew (t : Table κ α) (k : κ) (a : α) (j : κ) :
    (t.insertNew k a).get? j = if j = k then some ((t.get? k).getD a) else t.get? j := by
  by_cases h : k ∈ t.entries.map Prod.fst
  · rw [insertNew, dif_pos h]
    obtain ⟨b, hb⟩ := Option.ne_none_iff_exists'.1 fun hn => get?_eq_none_iff.1 hn h
    grind
  · have hn : t.get? k = none := get?_eq_none_iff.2 h
    rw [insertNew, dif_neg h, hn]
    simp only [get?] at *
    rw [List.lookup_append]
    grind

theorem get?_modify (t : Table κ α) (k : κ) (f : α → α) (j : κ) :
    (t.modify k f).get? j = if j = k then (t.get? j).map f else t.get? j := by
  simp only [get?, modify]
  induction t.entries with
  | nil => simp
  | cons e es ih => grind

theorem get?_erase (t : Table κ α) (k j : κ) :
    (t.erase k).get? j = if j = k then none else t.get? j := by
  simp only [get?, erase]
  induction t.entries with
  | nil => simp
  | cons e es ih => grind

theorem insertNew_of_contains {t : Table κ α} {k : κ} (h : t.contains k = true) (a : α) :
    t.insertNew k a = t := by
  have hmem : k ∈ t.entries.map Prod.fst := by
    refine Decidable.byContradiction fun hn => ?_
    rw [contains, get?_eq_none_iff.2 hn] at h
    cases h
  rw [insertNew, dif_pos hmem]

/-- A value that is put in and taken out again leaves nothing. -/
theorem erase_insertNew {t : Table κ α} {k : κ} (h : t.get? k = none) (a : α) :
    (t.insertNew k a).erase k = t := by
  have habsent := get?_eq_none_iff.1 h
  obtain ⟨es, nodup⟩ := t
  have hsame : es.filter (·.1 ≠ k) = es := by
    refine List.filter_eq_self.2 ?_
    grind
  rw [insertNew, dif_neg habsent]
  simp only [erase, List.filter_append, hsame, mk.injEq]
  simp

end Table
end BookingDesk
