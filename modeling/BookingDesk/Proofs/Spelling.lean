import BookingDesk.Json.Shape

/-!
# From tokens to text and back

Every token that is over with its last character can be told from what follows it, and a text is
told from the escapes it is spelled with. So a document of such tokens is taken apart into the
tokens it was put together from. Numerals are not of this kind: they end where something else
begins. Main statement: `tokensOf_render`.
-/
namespace BookingDesk.Json

/-- The token is over with its last character, and a text is one of characters only. -/
def Token.Closed : Token → Prop
  | .text pieces => ∃ cs : List Char, pieces = cs.map .char
  | .number _ | .bad => False
  | _ => True

theorem Token.closed_ofString (s : String) : (Token.ofString s).Closed := ⟨s.toList, rfl⟩

theorem fourDigits_control {n : Nat} (h : n < 32) :
    fourDigits n = ['0', '0', Hex.digit (Hex.ofNat (n / 16)), Hex.digit (Hex.ofNat n)] := by
  revert n
  decide

namespace Scan

variable {found : List Token} {seen : List Piece}

/-- Goes over some characters. -/
abbrev steps (s : Scan) (cs : List Char) : Scan := (cs.map some).foldl step s

theorem steps_append (s : Scan) (cs ds : List Char) :
    s.steps (cs ++ ds) = (s.steps cs).steps ds := by
  simp [steps]

/-! ## Inside a text -/

/-- An escaped control character goes over as the four digits of its number. -/
theorem steps_control {c : Char} (h : c.toNat < 0x20) :
    (⟨found, .text seen⟩ : Scan).steps ('\\' :: 'u' :: fourDigits c.toNat) =
      ⟨found, .text (.char c :: seen)⟩ := by
  have hzero : Hex.digit? '0' = some 0 := rfl
  have hunit : c.toNat / 16 % 16 * 16 + c.toNat % 16 = c.toNat := by omega
  have hpiece : pieceOf c.toNat = .char c := by
    have : ¬ 0xD800 ≤ c.toNat := by omega
    have : ¬ 0xDC00 ≤ c.toNat := by omega
    simp [pieceOf, isLeading, isTrailing, *]
  simp [steps, fourDigits_control h, step, enter, hzero, Hex.ofNat, hunit, hpiece]

theorem steps_escape (c : Char) :
    (⟨found, .text seen⟩ : Scan).steps (escape c) = ⟨found, .text (.char c :: seen)⟩ := by
  rw [escape]
  split
  · subst c; rfl
  split
  · subst c; rfl
  split
  · subst c; rfl
  split
  · subst c; rfl
  split
  · subst c; rfl
  split
  · subst c; rfl
  split
  · subst c; rfl
  split
  · exact steps_control ‹_›
  · -- a character that stands for itself
    simp [steps, step, enter, *]

theorem steps_escapes (cs : List Char) :
    (⟨found, .text seen⟩ : Scan).steps (cs.flatMap escape) =
      ⟨found, .text ((cs.map Piece.char).reverse ++ seen)⟩ := by
  induction cs generalizing seen with
  | nil => rfl
  | cons c cs ih => simp [steps_append, steps_escape, ih]

/-! ## Between tokens -/

theorem steps_spell {t : Token} (closed : t.Closed) :
    (⟨found, .between⟩ : Scan).steps t.spell = ⟨t :: found, .between⟩ := by
  cases t with
  | text pieces =>
    obtain ⟨cs, rfl⟩ := closed
    have hbody : (cs.map Piece.char).flatMap Piece.spell = cs.flatMap escape := by
      rw [List.flatMap_map]
      rfl
    have hopen : (⟨found, .between⟩ : Scan).steps ['"'] = ⟨found, .text []⟩ := rfl
    rw [Token.spell, hbody, ← List.singleton_append, steps_append, steps_append, hopen,
      steps_escapes]
    simp [steps, step, emit]
  | number spelling => cases closed
  | bad => cases closed
  | bool value => cases value <;> rfl
  | _ => rfl

theorem steps_spells {ts : List Token} (closed : ∀ t ∈ ts, t.Closed) :
    (⟨found, .between⟩ : Scan).steps (ts.flatMap Token.spell) =
      ⟨ts.reverse ++ found, .between⟩ := by
  induction ts generalizing found with
  | nil => rfl
  | cons t ts ih =>
    obtain ⟨ht, hts⟩ := List.forall_mem_cons.1 closed
    simp [steps_append, steps_spell ht, ih hts]

end Scan

/-- A document is taken apart into the tokens it was put together from. -/
theorem tokensOf_render {ts : List Token} (closed : ∀ t ∈ ts, t.Closed) :
    tokensOf (render ts) = ts := by
  have hscan : ((ts.flatMap Token.spell).map some).foldl Scan.step ⟨[], .between⟩ =
      ⟨ts.reverse ++ [], .between⟩ := Scan.steps_spells closed
  rw [tokensOf, render, String.toList_ofList, tokens, Scan.start, hscan]
  simp [Scan.finish]

namespace Shape

variable {α : Type}

/-- What is written ends nowhere but at its end. -/
def Closes (s : Shape α) : Prop := ∀ a, ∀ t ∈ s.write a, t.Closed

/-- A value that returns through its tokens returns through its document. -/
theorem Returns.decode_encode {s : Shape α} {a : α} (h : s.Returns a) (closes : s.Closes) :
    s.decode (s.encode a) = .ok a := by
  have hread := h []
  rw [List.append_nil] at hread
  rw [decode, encode, tokensOf_render (closes a), Reader.readAll, hread]

end Shape
end BookingDesk.Json
