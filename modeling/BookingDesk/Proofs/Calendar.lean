import BookingDesk.Time.Instant

/-!
# Days and dates

The year of a day is guessed from the mean length of a year and corrected by one at most; that is
always enough. So dates and day numbers stand for each other, and the date and time of day of an
instant that can be told lead back to the instant. Main statement: `Instant.ofCivil?_civil`.
-/
namespace BookingDesk

namespace Time

theorem daysBeforeYear_succ (y : Int) :
    daysBeforeYear (y + 1) = daysBeforeYear y + 365 + if isLeapYear y then 1 else 0 := by
  simp only [daysBeforeYear, isLeapYear, decide_eq_true_eq]
  split <;> omega

theorem foldr_monthLengths (leap : Bool) :
    (monthLengths leap).foldr (· + ·) 0 = 365 + if leap then 1 else 0 := by
  cases leap <;> rfl

namespace Date

/-! ## The year of a day -/

theorem daysBeforeYear_yearOf_le (n : Int) : daysBeforeYear (yearOf n) ≤ n := by
  simp only [yearOf]
  split
  · simp only [daysBeforeYear] at *
    omega
  · split
    · assumption
    · omega

theorem lt_daysBeforeYear_yearOf (n : Int) : n < daysBeforeYear (yearOf n + 1) := by
  simp only [yearOf]
  split
  · rw [Int.sub_add_cancel]
    assumption
  · split
    · simp only [daysBeforeYear] at *
      omega
    · omega

/-! ## The month of a day -/

/-- The whole months and the days behind them are all the days, and the days are fewer than the next
month has. -/
theorem splitMonths_spec {ns : List Nat} {d : Nat} (h : d < ns.foldr (· + ·) 0) :
    (ns.take (splitMonths ns d).1).foldr (· + ·) 0 + (splitMonths ns d).2 = d ∧
      (splitMonths ns d).2 < ns.getD (splitMonths ns d).1 0 := by
  fun_induction splitMonths ns d with
  | case1 d => simp at h
  | case2 n ns d hd => simpa using hd
  | case3 n ns d hd m d' hsplit ih =>
    have hrest : d - n < ns.foldr (· + ·) 0 := by simp at h; omega
    have := ih hrest
    simp only [hsplit] at this
    simp [List.getD] at *
    omega

/-! ## Dates -/

/-- How far into its year a day is, and that its month and day of the month come to as much. -/
theorem ofDayNumber_spec (n : Int) :
    let d := ofDayNumber n
    (daysBeforeYear d.year + daysBeforeMonth (isLeapYear d.year) d.month + (d.day - 1 : Nat) =
      n + daysToEpoch) ∧ d.IsValid := by
  have hle := daysBeforeYear_yearOf_le (n + daysToEpoch)
  have hlt := lt_daysBeforeYear_yearOf (n + daysToEpoch)
  rw [daysBeforeYear_succ] at hlt
  simp only [ofDayNumber]
  generalize yearOf (n + daysToEpoch) = year at *
  have hinside : (n + daysToEpoch - daysBeforeYear year).toNat <
      (monthLengths (isLeapYear year)).foldr (· + ·) 0 := by
    rw [foldr_monthLengths]
    split at hlt <;> simp_all <;> omega
  obtain ⟨hsum, hday⟩ := splitMonths_spec hinside
  generalize splitMonths (monthLengths (isLeapYear year))
    (n + daysToEpoch - daysBeforeYear year).toNat = split at *
  constructor
  · simp only [daysBeforeMonth, Nat.add_sub_cancel]
    omega
  · simp only [IsValid, Nat.add_sub_cancel]
    omega

theorem dayNumber_ofDayNumber (n : Int) : (ofDayNumber n).dayNumber = n := by
  have := (ofDayNumber_spec n).1
  simp only [dayNumber]
  omega

theorem isValid_ofDayNumber (n : Int) : (ofDayNumber n).IsValid := (ofDayNumber_spec n).2

theorem IsValid.le {d : Date} (h : d.IsValid) : d.month ≤ 12 ∧ d.day ≤ 31 := by
  obtain ⟨_, _, hday⟩ := h
  have hlengths : ∀ leap, (monthLengths leap).length = 12 ∧ ∀ n ∈ monthLengths leap, n ≤ 31 := by
    decide
  obtain ⟨hlength, hmost⟩ := hlengths (isLeapYear d.year)
  by_cases hmonth : d.month - 1 < 12
  · have hlt : d.month - 1 < (monthLengths (isLeapYear d.year)).length := by omega
    have := hmost _ (List.getElem_mem hlt)
    simp [hlt] at hday
    omega
  · simp [List.getD, List.getElem?_eq_none (Nat.le_of_not_lt (hlength ▸ hmonth))] at hday
    omega

end Date

/-- All years of four digits can be told, and many more. -/
theorem isTold_of_year {d : Date} (h : 0 ≤ d.year ∧ d.year ≤ 9999) : isTold d = true := by
  have hfirst : firstYear ≤ d.year := Int.le_trans (by decide) h.1
  have hlast : d.year ≤ lastYear := Int.le_trans h.2 (by decide)
  simp [isTold, hfirst, hlast]

end Time

/-! ## Instants -/

namespace Instant

open Time

theorem isValid_civil (t : Instant) : t.civil.IsValid := by
  refine ⟨Date.isValid_ofDayNumber _, ?_, ?_, ?_, ?_⟩
  · simp only [civil]
    omega
  · simp only [civil]
    omega
  · simp only [civil]
    split <;> omega
  · have := t.nano_lt
    simp only [civil]
    split <;> omega

theorem dayNumber_date (t : Instant) : t.date.dayNumber = t.second / 86400 :=
  Date.dayNumber_ofDayNumber _

/-- The date and time of day that an instant shows lead back to it. -/
theorem ofCivil?_civil {t : Instant} (told : isTold t.date = true) :
    ofCivil? t.civil 0 = some t := by
  have hdate : t.civil.date = t.date := rfl
  have hleap := t.leap
  have heq : ∀ {s : Int} {n : Nat} (h h'), s = t.second → n = t.nano →
      (⟨s, n, h, h'⟩ : Instant) = t := by
    rintro _ _ _ _ rfl rfl
    rfl
  rw [ofCivil?, dif_pos t.isValid_civil]
  dsimp only
  rw [heq, hdate, told]
  · rfl
  · rw [hdate, dayNumber_date]
    simp only [civil]
    by_cases h : nanosPerSecond ≤ t.nano
    · have := hleap h
      simp [h]
      omega
    · have : (t.second % 86400).toNat % 60 ≠ 60 := by omega
      simp [h, this]
      omega
  · simp only [civil]
    by_cases h : nanosPerSecond ≤ t.nano
    · simp [h]
    · have : (t.second % 86400).toNat % 60 ≠ 60 := by omega
      simp [h, this]

/-- Whatever a date and a time of day lead to can be told. -/
theorem isTold_of_ofCivil? {c : Civil} {offset : Int} {t : Instant}
    (h : ofCivil? c offset = some t) : isTold t.date = true := by
  rw [ofCivil?] at h
  split at h
  · obtain ⟨htold, ht⟩ := Option.ite_none_right_eq_some.1 h
    cases ht
    exact (Bool.and_eq_true_iff.1 htold).2
  · cases h

end Instant
end BookingDesk
