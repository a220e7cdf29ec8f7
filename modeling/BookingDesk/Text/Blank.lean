/-!
# Blanks

The characters with the property White_Space, and the text that is left when they are taken off
both ends. Main statements: nothing but blanks is taken off (`exists_eq_append_trim`), and all
blanks around a text are (`trim_append`).
-/
namespace BookingDesk.Text

def isBlank (c : Char) : Bool :=
  let n := c.toNat
  (9 ≤ n && n ≤ 13) || n == 0x20 || n == 0x85 || n == 0xA0 || n == 0x1680
    || (0x2000 ≤ n && n ≤ 0x200A) || n == 0x2028 || n == 0x2029 || n == 0x202F || n == 0x205F
    || n == 0x3000

/-- What is left when the blanks at both ends are taken off. -/
def trim (cs : List Char) : List Char :=
  ((cs.dropWhile isBlank).reverse.dropWhile isBlank).reverse

theorem isBlank_of_isDigit {c : Char} (h : c.isDigit = true) : isBlank c = false := by
  have hdigit : 48 ≤ c.toNat ∧ c.toNat ≤ 57 := Char.isDigit_iff_toNat.1 h
  simp [isBlank]
  omega

/-! ## What is taken off -/

/-- Only blanks are taken off. -/
theorem exists_eq_append_trim (cs : List Char) : ∃ before after,
    cs = before ++ trim cs ++ after ∧ ∀ c ∈ before ++ after, isBlank c = true := by
  have hfront := List.takeWhile_append_dropWhile (p := isBlank) (l := cs)
  have hback := List.takeWhile_append_dropWhile (p := isBlank) (l := (cs.dropWhile isBlank).reverse)
  refine ⟨cs.takeWhile isBlank, ((cs.dropWhile isBlank).reverse.takeWhile isBlank).reverse, ?_, ?_⟩
  · rw [trim, List.append_assoc, ← List.reverse_append, hback, List.reverse_reverse, hfront]
  · intro c hc
    rcases List.mem_append.1 hc with hc | hc
    · exact List.all_eq_true.1 List.all_takeWhile c hc
    · exact List.all_eq_true.1 List.all_takeWhile c (List.mem_reverse.1 hc)

theorem dropWhile_isBlank {blanks cs : List Char} (hblanks : ∀ c ∈ blanks, isBlank c = true)
    (hcs : ∀ c ∈ cs.head?, isBlank c = false) : (blanks ++ cs).dropWhile isBlank = cs := by
  rw [List.dropWhile_append_of_pos hblanks]
  cases cs with
  | nil => rfl
  | cons c cs => rw [List.dropWhile_cons_of_neg (by simp [hcs c rfl])]

/-- All blanks around a text are taken off. -/
theorem trim_append {before cs after : List Char}
    (hblanks : ∀ c ∈ before ++ after, isBlank c = true) (hcs : ∀ c ∈ cs, isBlank c = false) :
    trim (before ++ cs ++ after) = cs := by
  cases cs with
  | nil =>
    have hall : (before ++ after ++ []).dropWhile isBlank = [] :=
      dropWhile_isBlank hblanks (by simp)
    rw [List.append_nil] at hall
    rw [List.append_nil, trim, hall]
    rfl
  | cons first cs =>
    rw [List.forall_mem_append] at hblanks
    have hfirst : isBlank first = false := hcs first List.mem_cons_self
    have hlast : ∀ c ∈ (first :: cs).reverse.head?, isBlank c = false := fun c hc =>
      hcs c (List.mem_reverse.1 (List.mem_of_mem_head? hc))
    rw [trim, List.append_assoc, dropWhile_isBlank hblanks.1 (by simpa using hfirst),
      List.reverse_append, dropWhile_isBlank (by simpa using hblanks.2) hlast,
      List.reverse_reverse]

end BookingDesk.Text
