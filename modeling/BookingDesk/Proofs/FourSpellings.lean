import BookingDesk.Uuid
import Mathlib.Data.List.Basic

/-!
# The spellings of an identifier

An identifier is read from four spellings and in either case. Main statement: these are all texts
that are read, and each is read as the identifier that it spells (`Uuid.read?_eq_some_iff`).
-/
namespace BookingDesk

/-! ## Lower case -/

namespace Text

theorem not_le_of_not_ascii {c last : Char} (h : 128 ≤ c.toNat) (hlast : last.toNat < 128) :
    ¬ c ≤ last := by
  intro hle
  have hnat : c.toNat ≤ last.toNat := UInt32.le_iff_toNat_le.1 hle
  omega

/-- Only some of the first characters have another case. -/
theorem toLower_of_not_ascii {c : Char} (h : 128 ≤ c.toNat) : c.toLower = c := by
  unfold Char.toLower
  refine dif_neg fun hupper => ?_
  have hZ : ¬ c ≤ 'Z' := not_le_of_not_ascii h (by decide)
  exact hZ hupper.2

/-- What holds of the first characters one by one holds of all if case does not matter for it
beyond them. -/
theorem forall_of_ascii {p : Char → Prop} [DecidablePred p]
    (ascii : ((List.range 128).all fun n => p (Char.ofNat n)) = true)
    (beyond : ∀ c : Char, 128 ≤ c.toNat → c.toLower = c → p c) (c : Char) : p c := by
  by_cases h : c.toNat < 128
  · have hc := List.all_eq_true.1 ascii c.toNat (List.mem_range.2 h)
    rw [Char.ofNat_toNat] at hc
    exact of_decide_eq_true hc
  · exact beyond c (Nat.not_lt.1 h) (toLower_of_not_ascii (Nat.not_lt.1 h))

/-- Marks have no case. -/
theorem toLower_eq_mark_iff {mark : Char} (h : mark ∈ ['-', '\x7b', '\x7d']) {c : Char} :
    c.toLower = mark ↔ c = mark := by
  have hsame {c : Char} (hlower : c.toLower = c) : c.toLower = mark ↔ c = mark := by rw [hlower]
  simp only [List.mem_cons, List.not_mem_nil, or_false] at h
  obtain rfl | rfl | rfl := h
  · exact forall_of_ascii (p := fun c => c.toLower = '-' ↔ c = '-') (by decide +kernel)
      (fun c _ => hsame) c
  · exact forall_of_ascii (p := fun c => c.toLower = '\x7b' ↔ c = '\x7b') (by decide +kernel)
      (fun c _ => hsame) c
  · exact forall_of_ascii (p := fun c => c.toLower = '\x7d' ↔ c = '\x7d') (by decide +kernel)
      (fun c _ => hsame) c

end Text

namespace Hex

/-- A digit in either case is the digit in lower case. -/
theorem digit?_eq_some_iff {c : Char} {d : Fin 16} : digit? c = some d ↔ c.toLower = digit d := by
  refine Text.forall_of_ascii (p := fun c => ∀ d, digit? c = some d ↔ c.toLower = digit d)
    (by decide +kernel) (fun c hc hlower d => ?_) c d
  have hdigit : (digit d).toNat < 128 := by
    revert d
    decide
  have hnone : digit? c = none := by
    have h9 : ¬ c ≤ '9' := Text.not_le_of_not_ascii hc (by decide)
    have hf : ¬ c ≤ 'f' := Text.not_le_of_not_ascii hc (by decide)
    have hF : ¬ c ≤ 'F' := Text.not_le_of_not_ascii hc (by decide)
    simp only [digit?, h9, hf, hF, and_false, if_false]
  rw [hlower, hnone]
  grind

theorem mapM_digit?_eq_some_iff {cs : List Char} {ds : List (Fin 16)} :
    cs.mapM digit? = some ds ↔ cs.map Char.toLower = ds.map digit := by
  induction cs generalizing ds with
  | nil => cases ds <;> simp
  | cons c cs ih =>
    rw [List.mapM_cons]
    cases ds with
    | nil => simp [Option.bind_eq_some_iff]
    | cons d ds =>
      rw [List.map_cons, List.map_cons, List.cons_eq_cons, ← digit?_eq_some_iff, ← ih]
      simp [Option.bind_eq_some_iff]

end Hex

namespace Uuid

/-- A group that others follow ends before a hyphen. -/
theorem readGroups?_cons_iff {n : Nat} {ns : List Nat} (more : ns ≠ []) {cs : List Char}
    {ds : List (Fin 16)} : readGroups? (n :: ns) cs = some ds ↔
      ∃ before rest first others, cs = before ++ '-' :: rest ∧ before.length = n ∧
        before.mapM Hex.digit? = some first ∧ readGroups? ns rest = some others ∧
          ds = first ++ others := by
  obtain ⟨m, ns, rfl⟩ := List.exists_cons_of_ne_nil more
  constructor
  · intro h
    rw [readGroups?] at h
    · split at h
      · rename_i rest hrest
        simp only [Option.bind_eq_bind, Option.bind_eq_some_iff, Option.pure_def,
          Option.some_inj] at h
        obtain ⟨first, hfirst, others, hothers, rfl⟩ := h
        have hcs : cs = cs.take n ++ '-' :: rest := by rw [← hrest, List.take_append_drop]
        have hlength : (cs.take n).length = n := by
          have hdrop := congrArg List.length hrest
          rw [List.length_drop, List.length_cons] at hdrop
          rw [List.length_take]
          omega
        exact ⟨_, rest, first, others, hcs, hlength, hfirst, hothers, rfl⟩
      · cases h
    · exact List.cons_ne_nil m ns
  · rintro ⟨before, rest, first, others, rfl, rfl, hfirst, hothers, rfl⟩
    rw [readGroups?, List.drop_left, List.take_left]
    · simp [hfirst, hothers]
    · exact List.cons_ne_nil m ns

/-- Groups are read from what is written in groups, in either case. -/
theorem readGroups?_eq_some_iff {ns : List Nat} {cs : List Char} {ds : List (Fin 16)} :
    readGroups? ns cs = some ds ↔
      ds.length = total ns ∧ cs.map Char.toLower = writeGroups ns ds := by
  induction ns generalizing cs ds with
  | nil => cases cs <;> cases ds <;> simp [readGroups?, writeGroups, total]
  | cons n ns ih =>
    cases ns with
    | nil =>
      simp only [readGroups?, writeGroups, total, Nat.add_zero]
      constructor
      · intro h
        split at h
        · rename_i hcs
          rw [Hex.mapM_digit?_eq_some_iff] at h
          have hlength : ds.length = n := by
            rw [← hcs, ← List.length_map Char.toLower, h, List.length_map]
          rw [List.take_of_length_le (Nat.le_of_eq hlength)]
          exact ⟨hlength, h⟩
        · cases h
      · rintro ⟨hlength, heq⟩
        rw [List.take_of_length_le (Nat.le_of_eq hlength)] at heq
        have hcs : cs.length = n := by
          rw [← List.length_map Char.toLower, heq, List.length_map, hlength]
        rw [if_pos hcs, Hex.mapM_digit?_eq_some_iff, heq]
    | cons m ns =>
      rw [readGroups?_cons_iff (List.cons_ne_nil m ns), total, writeGroups]
      · simp only [ih, Hex.mapM_digit?_eq_some_iff]
        constructor
        · rintro ⟨before, rest, first, others, rfl, rfl, hfirst, ⟨hothers, hrest⟩, rfl⟩
          have hlength : first.length = before.length := by
            simpa using (congrArg List.length hfirst).symm
          have hmark : '-'.toLower = '-' := rfl
          rw [List.take_left' hlength, List.drop_left' hlength, List.length_append, hothers]
          simp [hlength, hfirst, hrest, hmark]
        · rintro ⟨hlength, heq⟩
          obtain ⟨before, behind, rfl, hbefore, hbehind⟩ := List.map_eq_append_iff.1 heq
          obtain ⟨mark, rest, rfl, hmark, hrest⟩ := List.map_eq_cons_iff.1 hbehind
          obtain rfl := (Text.toLower_eq_mark_iff (by simp)).1 hmark
          refine ⟨before, rest, ds.take n, ds.drop n, rfl, ?_, hbefore, ⟨?_, hrest⟩, by simp⟩
          · have hdigits := congrArg List.length hbefore
            simp only [List.length_map, List.length_take] at hdigits
            omega
          · rw [List.length_drop]
            omega
      · exact List.cons_ne_nil m ns

/-! ## Four spellings -/

/-- The texts that spell the identifier, in lower case. -/
def spellings (u : Uuid) : List (List Char) :=
  [u.digits.map Hex.digit, u.write, '\x7b' :: u.write ++ ['\x7d'], "urn:uuid:".toList ++ u.write]

theorem ofDigits?_eq_some_iff {ds : List (Fin 16)} {u : Uuid} :
    ofDigits? ds = some u ↔ ds = u.digits := by
  constructor
  · intro h
    rw [ofDigits?] at h
    split at h <;> cases h
    rfl
  · rintro rfl
    exact ofDigits?_digits u

/-- The groups are read with a hyphen between two of them. -/
theorem readGroups?_bind_iff {cs : List Char} {u : Uuid} :
    readGroups? groups cs >>= ofDigits? = some u ↔ cs.map Char.toLower = u.write := by
  rw [Option.bind_eq_bind, Option.bind_eq_some_iff]
  simp only [readGroups?_eq_some_iff, ofDigits?_eq_some_iff]
  constructor
  · rintro ⟨ds, ⟨-, h⟩, rfl⟩
    exact h
  · intro h
    exact ⟨u.digits, ⟨u.length_digits, h⟩, rfl⟩

section

variable {cs : List Char}

theorem unwrap_of_length (h : cs.length = 36) : unwrap cs = cs := by
  simp [unwrap, h]

theorem unwrap_braces (h : cs.length = 36) : unwrap ('\x7b' :: cs ++ ['\x7d']) = cs := by
  rw [unwrap, if_pos ⟨by simp [h], rfl, List.getLast?_concat⟩]
  simp

theorem unwrap_scheme {scheme : List Char}
    (hscheme : scheme.map Char.toLower = "urn:uuid:".toList) (h : cs.length = 36) :
    unwrap (scheme ++ cs) = cs := by
  have hlength : scheme.length = 9 := by
    rw [← List.length_map Char.toLower, hscheme]
    rfl
  simp [unwrap, List.take_left' hlength, List.drop_left' hlength, hlength, h, hscheme]

/-- What stands around the groups. -/
theorem unwrap_cases (cs : List Char) :
    unwrap cs = cs ∨ cs = '\x7b' :: unwrap cs ++ ['\x7d'] ∨
      ∃ scheme, scheme.map Char.toLower = "urn:uuid:".toList ∧ cs = scheme ++ unwrap cs := by
  unfold unwrap
  split
  · rename_i hbraces
    obtain ⟨hlength, hfirst, hlast⟩ := hbraces
    refine .inr (.inl ?_)
    obtain _ | ⟨first, _ | ⟨second, rest⟩⟩ := cs
    · cases hfirst
    · cases hlength
    · obtain rfl := Option.some_inj.1 hfirst
      rw [List.getLast?_cons_cons] at hlast
      rw [List.drop_one, List.tail_cons, List.cons_append, List.dropLast_append_getLast? _ hlast]
  · split
    · rename_i hscheme
      exact .inr (.inr ⟨cs.take 9, hscheme.2, (List.take_append_drop 9 cs).symm⟩)
    · exact .inl rfl

theorem mem_spellings_iff {u : Uuid} : cs ∈ u.spellings ↔ cs = u.digits.map Hex.digit ∨
    cs = u.write ∨ cs = '\x7b' :: u.write ++ ['\x7d'] ∨ cs = "urn:uuid:".toList ++ u.write := by
  simp [spellings]

end

/-- In either case, the identifier is read from its four spellings and from no other text. -/
theorem read?_eq_some_iff {cs : List Char} {u : Uuid} :
    read? cs = some u ↔ cs.map Char.toLower ∈ u.spellings := by
  have hdigits := u.length_digits
  have hwrite := u.length_write
  unfold read?
  rw [mem_spellings_iff]
  split
  · rename_i hlength
    rw [Option.bind_eq_bind, Option.bind_eq_some_iff]
    simp only [Hex.mapM_digit?_eq_some_iff, ofDigits?_eq_some_iff, exists_eq_right]
    constructor
    · exact .inl
    · rintro (h | h | h | h)
      · exact h
      all_goals
        have hsame := congrArg List.length h
        simp [hlength, hwrite] at hsame
  · rename_i hlength
    rw [readGroups?_bind_iff]
    constructor
    · intro h
      obtain heq | heq | ⟨scheme, hscheme, heq⟩ := unwrap_cases cs
      · exact .inr (.inl (heq ▸ h))
      · refine .inr (.inr (.inl ?_))
        rw [heq]
        simp [h]
      · refine .inr (.inr (.inr ?_))
        rw [heq, List.map_append, hscheme, h]
    · have hgroups {inner : List Char} (h : inner.map Char.toLower = u.write) :
          inner.length = 36 := by
        rw [← List.length_map Char.toLower, h, hwrite]
      rintro (h | h | h | h)
      · have hsame := congrArg List.length h
        simp [hlength, hdigits] at hsame
      · rwa [unwrap_of_length (hgroups h)]
      · obtain ⟨front, behind, rfl, hfront, hbehind⟩ := List.map_eq_append_iff.1 h
        obtain ⟨first, inner, rfl, hfirst, hinner⟩ := List.map_eq_cons_iff.1 hfront
        obtain ⟨last, rest, rfl, hlast, hrest⟩ := List.map_eq_cons_iff.1 hbehind
        obtain rfl := List.map_eq_nil_iff.1 hrest
        obtain rfl := (Text.toLower_eq_mark_iff (by simp)).1 hfirst
        obtain rfl := (Text.toLower_eq_mark_iff (by simp)).1 hlast
        rwa [unwrap_braces (hgroups hinner)]
      · obtain ⟨scheme, inner, rfl, hscheme, hinner⟩ := List.map_eq_append_iff.1 h
        rwa [unwrap_scheme hscheme (hgroups hinner)]

end Uuid
end BookingDesk
