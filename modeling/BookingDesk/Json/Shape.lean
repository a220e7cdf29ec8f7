import BookingDesk.Json.Reader

/-!
# The two directions of a kind of value

A `Shape` says how the values of a type are written as tokens and how they are read. A value returns
through it when it reads back as itself, whatever tokens follow.
-/
namespace BookingDesk.Json

structure Shape (α : Type) where
  write : α → List Token
  read : Reader α

namespace Shape

variable {α β : Type}

/-- Values of `β` are written as the values of `α` that stand for them. -/
def via (s : Shape α) (toForm : β → α) (ofForm : α → Except Fault β) : Shape β where
  write b := s.write (toForm b)
  read := s.read.refine ofForm

def text : Shape String where
  write s := [Token.ofString s]
  read := Reader.text

/-- Natural numbers below `bound`. -/
def natural (bound : Nat) : Shape Nat where
  write n := [.number (Decimal.write n)]
  read := Reader.natural bound

def optional (s : Shape α) : Shape (Option α) where
  write
    | none => [.null]
    | some a => s.write a
  read := s.read.optional

/-- Texts of which only some are wanted. -/
def spelled (write : α → String) (read? : String → Option α) : Shape α :=
  text.via write fun s => (read? s).elim (.error .mismatched) .ok

/-- The tokens of a list. -/
def writeList (s : Shape α) (as : List α) : List Token :=
  .openArray :: List.intercalate [.comma] (as.map s.write) ++ [.closeArray]

def encode (s : Shape α) (a : α) : String := render (s.write a)

/-- Reads a document that is one value. -/
def decode (s : Shape α) (document : String) : Except Fault α :=
  s.read.readAll (tokensOf document)

/-! ## Reading what was written -/

/-- A written value reads back as itself, whatever tokens follow. -/
def Returns (s : Shape α) (a : α) : Prop := ∀ rest, s.read (s.write a ++ rest) = .ok (a, rest)

theorem returns_text (s : String) : text.Returns s := by
  intro rest
  simp [text, Token.ofString, Reader.text]

theorem returns_natural {bound n : Nat} (h : n < bound) : (natural bound).Returns n := by
  intro rest
  simp [natural, Reader.natural, h]

theorem Returns.via {s : Shape α} {toForm : β → α} {ofForm : α → Except Fault β} {b : β}
    (hs : s.Returns (toForm b)) (hb : ofForm (toForm b) = .ok b) :
    (s.via toForm ofForm).Returns b := by
  intro rest
  simp [Shape.via, Reader.refine, hs rest, hb]

theorem returns_spelled {write : α → String} {read? : String → Option α} {a : α}
    (h : read? (write a) = some a) : (spelled write read?).Returns a :=
  (returns_text (write a)).via (by simp [h])

theorem returns_optional_none (s : Shape α) : s.optional.Returns none := fun _ => rfl

theorem Returns.optional_some {s : Shape α} {a : α} {t : Token} {ts : List Token} (h : s.Returns a)
    (hw : s.write a = t :: ts) (hn : t ≠ .null) : s.optional.Returns (some a) := by
  intro rest
  have h := h rest
  rw [hw, List.cons_append] at h
  simp only [optional, Reader.optional, hw, List.cons_append]
  split
  · simp_all
  · rw [h]

end Shape
end BookingDesk.Json
