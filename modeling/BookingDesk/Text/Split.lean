/-!
# Pieces of a text

A text cut at every occurrence of a character, or at the first one.
-/
namespace BookingDesk.Text

/-- The pieces between the separators; there is one more of them than of separators. -/
def splitAtAll (sep : Char) : List Char → List (List Char)
  | [] => [[]]
  | c :: cs =>
    match splitAtAll sep cs with
    | [] => [[]]
    | piece :: pieces => if c = sep then [] :: piece :: pieces else (c :: piece) :: pieces

theorem splitAtAll_ne_nil (sep : Char) (cs : List Char) : splitAtAll sep cs ≠ [] := by
  fun_induction splitAtAll sep cs <;> simp

theorem splitAtAll_of_not_mem {sep : Char} {cs : List Char} (h : sep ∉ cs) :
    splitAtAll sep cs = [cs] := by
  induction cs with
  | nil => rfl
  | cons c cs ih => grind [splitAtAll]

theorem splitAtAll_append {sep : Char} {before : List Char} (h : sep ∉ before)
    (behind : List Char) :
    splitAtAll sep (before ++ sep :: behind) = before :: splitAtAll sep behind := by
  induction before with
  | nil =>
    obtain ⟨piece, pieces, hbehind⟩ := List.exists_cons_of_ne_nil (splitAtAll_ne_nil sep behind)
    simp [splitAtAll, hbehind]
  | cons c cs ih => grind [splitAtAll]

/-- What stands before the first separator, and what behind it if there is one. -/
def splitAtFirst (sep : Char) (cs : List Char) : List Char × Option (List Char) :=
  match cs.dropWhile (· ≠ sep) with
  | [] => (cs, none)
  | _ :: rest => (cs.takeWhile (· ≠ sep), some rest)

theorem dropWhile_ne_of_not_mem {sep : Char} {cs : List Char} (h : sep ∉ cs) :
    cs.dropWhile (· ≠ sep) = [] := by
  induction cs <;> grind [List.dropWhile_nil, List.dropWhile_cons]

theorem splitAtFirst_of_not_mem {sep : Char} {cs : List Char} (h : sep ∉ cs) :
    splitAtFirst sep cs = (cs, none) := by
  rw [splitAtFirst, dropWhile_ne_of_not_mem h]

end BookingDesk.Text
