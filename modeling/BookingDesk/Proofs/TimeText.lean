import BookingDesk.Proofs.Calendar
import BookingDesk.Time.Text

/-!
# Instants told and read again

What is written of an instant ends every number with a mark, so each reader stops where the writer
did. An instant whose date can be told is read back as it was, to the nanosecond; one that was read
is of this kind.
-/
namespace BookingDesk

namespace Instant

open Time Text Decimal

/-! ## Numbers and marks -/

/-- Digits are read up to the first character that is none. -/
theorem digits?_append {ds cs : List Char} {c : Char} {most : Nat} (hne : ds ≠ [])
    (hds : ∀ d ∈ ds, d.isDigit = true) (hmost : ds.length ≤ most) (hc : c.isDigit = false) :
    digits? most (ds ++ c :: cs) = some (Nat.ofDigitChars 10 ds 0, c :: cs) := by
  have htake : ((ds ++ c :: cs).take most).takeWhile Char.isDigit = ds := by
    rw [List.take_append, List.take_of_length_le hmost, List.takeWhile_append_of_pos hds]
    cases most - ds.length <;> simp [hc]
  simp [digits?, htake, hne]

theorem dropWhile_isBlank_of_isDigit {ds : List Char} (hne : ds ≠ [])
    (hds : ∀ d ∈ ds, d.isDigit = true) (rest : List Char) :
    (ds ++ rest).dropWhile isBlank = ds ++ rest := by
  cases ds with
  | nil => exact absurd rfl hne
  | cons d ds => simp [isBlank_of_isDigit (hds d (List.mem_cons_self ..))]

theorem number?_padded {n : Nat} (h : n < 100) {c : Char} (hc : c.isDigit = false)
    (cs : List Char) : number? (padded 2 n ++ c :: cs) = some (n, c :: cs) := by
  rw [number?, dropWhile_isBlank_of_isDigit (padded_ne_nil 2 n) fun _ => isDigit_of_mem_padded,
    digits?_append (padded_ne_nil 2 n) (fun _ => isDigit_of_mem_padded)
      (Nat.le_of_eq (length_padded (by decide) h)) hc, ofDigitChars_padded]

/-! ## Years and fractions -/

theorem year?_minus (cs : List Char) :
    year? ('-' :: cs) = (digits? cs.length cs).map fun p => (-(p.1 : Int), p.2) := rfl

theorem year?_plus (cs : List Char) :
    year? ('+' :: cs) = (digits? cs.length cs).map fun p => ((p.1 : Int), p.2) := rfl

theorem year?_writeYear (y : Int) (cs : List Char) :
    year? (writeYear y ++ '-' :: cs) = some (y, '-' :: cs) := by
  have hdigits : ∀ {n : Nat}, ∀ d ∈ padded 4 n, d.isDigit = true := fun _ => isDigit_of_mem_padded
  rw [writeYear]
  split
  · rename_i h
    obtain ⟨d, ds, hds⟩ := List.exists_cons_of_ne_nil (padded_ne_nil 4 y.toNat)
    have hd : d.isDigit = true := hdigits d (hds ▸ List.mem_cons_self ..)
    have hfour : y.toNat < 10000 := by omega
    have hread : digits? 4 (padded 4 y.toNat ++ '-' :: cs) = some (y.toNat, '-' :: cs) := by
      rw [digits?_append (padded_ne_nil 4 _) hdigits
        (Nat.le_of_eq (length_padded (by decide) hfour)) rfl, ofDigitChars_padded]
    rw [year?, dropWhile_isBlank_of_isDigit (padded_ne_nil 4 _) hdigits]
    rw [hds] at hread ⊢
    simp only [List.cons_append] at *
    split
    · rename_i heq
      cases heq
      exact absurd hd (by decide)
    · rename_i heq
      cases heq
      exact absurd hd (by decide)
    · simp [hread]
      omega
  · rename_i h
    have hread : digits? (padded 4 y.natAbs ++ '-' :: cs).length (padded 4 y.natAbs ++ '-' :: cs) =
        some (y.natAbs, '-' :: cs) := by
      rw [digits?_append (padded_ne_nil 4 _) hdigits (by simp) rfl, ofDigitChars_padded]
    by_cases hy : y < 0
    · have hsign : -(y.natAbs : Int) = y := by omega
      rw [if_pos hy, List.cons_append, year?_minus, hread, Option.map_some, hsign]
    · have hsign : (y.natAbs : Int) = y := by omega
      rw [if_neg hy, List.cons_append, year?_plus, hread, Option.map_some, hsign]

theorem mark?_cons {c : Char} (h : isBlank c = false) (cs : List Char) :
    mark? c (c :: cs) = some cs := by
  simp [mark?, h]

theorem fraction?_writeFraction {nano : Nat} (h : nano < nanosPerSecond) :
    fraction? (writeFraction nano ++ ['Z']) = some (nano, ['Z']) := by
  have hread : ∀ {width n : Nat}, 0 < width → width ≤ 9 → n < 10 ^ width →
      fraction? ('.' :: padded width n ++ ['Z']) = some (n * 10 ^ (9 - width), ['Z']) := by
    intro width n hpos hmost hn
    have hlength := length_padded hpos hn
    simp [fraction?, digits?_append (padded_ne_nil width n) (fun _ => isDigit_of_mem_padded)
      (hlength ▸ hmost) (show 'Z'.isDigit = false from rfl), ofDigitChars_padded, hlength]
  rw [nanosPerSecond] at h
  rw [writeFraction]
  split
  · rename_i hzero
    rw [hzero]
    rfl
  · split
    · rw [hread (by decide) (by decide) (by omega)]
      simp
      omega
    · split
      · rw [hread (by decide) (by decide) (by omega)]
        simp
        omega
      · rw [hread (by decide) (by decide) (by omega)]
        simp

theorem writeFraction_append (nano : Nat) :
    ∃ c cs, writeFraction nano ++ ['Z'] = c :: cs ∧ c.isDigit = false := by
  rw [writeFraction]
  split
  · exact ⟨'Z', [], rfl, rfl⟩
  · split
    · exact ⟨'.', _, rfl, rfl⟩
    · split
      · exact ⟨'.', _, rfl, rfl⟩
      · exact ⟨'.', _, rfl, rfl⟩

/-! ## Whole instants -/

/-- A reader has found something, and the next one goes on. -/
theorem bind_of_eq_some {α β : Type} {o : Option α} {a : α} (h : o = some a) (f : α → Option β) :
    (o >>= f) = f a := by
  rw [h]
  rfl

/-- An instant that can be told is read back as it was written. -/
theorem read?_write {t : Instant} (told : isTold t.date = true) : read? t.write = some t := by
  obtain ⟨hdate, hhour, hminute, hsecond, hnano⟩ := t.isValid_civil
  obtain ⟨hmonth, hday⟩ := hdate.le
  have hcivil := ofCivil?_civil told
  rw [write]
  generalize t.civil = c at *
  -- every mark ends the number before it and is no blank
  have hcolon : isBlank ':' = false := by decide
  have hhyphen : isBlank '-' = false := by decide
  have hmark : '-'.isDigit = false ∧ 'T'.isDigit = false ∧ ':'.isDigit = false := by decide
  obtain ⟨d, cs, hbehind, hd⟩ := writeFraction_append c.nano
  have hlast : number? (padded 2 c.second ++ (writeFraction c.nano ++ ['Z'])) =
      some (c.second, writeFraction c.nano ++ ['Z']) := by
    rw [hbehind, number?_padded (by omega) hd]
  have hoffset : offset? (['Z'].dropWhile isBlank) = some (0, []) := rfl
  simp only [List.append_assoc, List.cons_append]
  refine (bind_of_eq_some (year?_writeYear _ _) _).trans ?_
  refine (bind_of_eq_some (mark?_cons hhyphen _) _).trans ?_
  refine (bind_of_eq_some (number?_padded (by omega) hmark.1 _) _).trans ?_
  refine (bind_of_eq_some (mark?_cons hhyphen _) _).trans ?_
  refine (bind_of_eq_some (number?_padded (by omega) hmark.2.1 _) _).trans ?_
  refine (bind_of_eq_some (number?_padded (by omega) hmark.2.2 _) _).trans ?_
  refine (bind_of_eq_some (mark?_cons hcolon _) _).trans ?_
  refine (bind_of_eq_some (number?_padded (by omega) hmark.2.2 _) _).trans ?_
  refine (bind_of_eq_some (mark?_cons hcolon _) _).trans ?_
  refine (bind_of_eq_some hlast _).trans ?_
  refine (bind_of_eq_some (fraction?_writeFraction hnano) _).trans ?_
  exact (bind_of_eq_some hoffset _).trans hcivil

@[simp] theorem ofString?_toString {t : Instant} (told : isTold t.date = true) :
    ofString? (toString t) = some t := by
  have hchars : (toString t).toList = t.write := String.toList_ofList
  rw [ofString?, hchars, read?_write told]

/-- What is read can be told. -/
theorem isTold_of_ofString? {s : String} {t : Instant} (h : ofString? s = some t) :
    isTold t.date = true := by
  rw [ofString?, read?] at h
  iterate 4 obtain ⟨_, -, h⟩ := Option.bind_eq_some_iff.1 h
  obtain ⟨⟨day, _ | ⟨c, cs⟩⟩, -, h⟩ := Option.bind_eq_some_iff.1 h
  · cases h
  dsimp only at h
  split at h
  · iterate 8 obtain ⟨_, -, h⟩ := Option.bind_eq_some_iff.1 h
    exact isTold_of_ofCivil? (Option.ite_none_right_eq_some.1 h).2
  · cases h

end Instant
end BookingDesk
