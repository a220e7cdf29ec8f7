import BookingDesk.Booking.InvalidInput

/-!
# Notes

The text that goes with a booking: any characters, but at most five hundred of them.
-/
namespace BookingDesk

structure Notes where
  text : String
  bounded : text.length ≤ 500
deriving DecidableEq

namespace Notes

def maxLength : Nat := 500

instance : Repr Notes := ⟨fun n _ => repr n.text⟩

def empty : Notes := ⟨"", by decide⟩

instance : Inhabited Notes := ⟨empty⟩

def ofString (s : String) : Except InvalidInput Notes :=
  if h : s.length ≤ 500 then .ok ⟨s, h⟩ else .error (.notesTooLong maxLength s.length)

/-- Notes that need not be given. -/
def ofString? : Option String → Except InvalidInput (Option Notes)
  | none => .ok none
  | some s => (ofString s).map some

@[simp] theorem ofString_text (n : Notes) : ofString n.text = .ok n := by
  simp [ofString, n.bounded]

theorem ofString_eq_error {s : String} (h : 500 < s.length) :
    ofString s = .error (.notesTooLong 500 s.length) := by
  simp [ofString, maxLength, Nat.not_le.2 h]

/-- Notes that are admitted are as they were given. -/
theorem text_of_ofString {s : String} {n : Notes} (h : ofString s = .ok n) : n.text = s := by
  rw [ofString] at h
  split at h
  · cases h
    rfl
  · cases h

theorem of_ofString?_eq_ok {given : Option String} {notes : Option Notes}
    (h : ofString? given = .ok notes) :
    notes.map text = given ∧ ∀ s ∈ given, s.length ≤ 500 := by
  cases given with
  | none =>
    cases h
    exact ⟨rfl, nofun⟩
  | some s =>
    rw [ofString?] at h
    cases hn : ofString s with
    | error e =>
      rw [hn] at h
      cases h
    | ok n =>
      rw [hn] at h
      cases h
      obtain rfl := text_of_ofString hn
      exact ⟨rfl, fun _ hs => Option.some_inj.1 hs ▸ n.bounded⟩

end Notes
end BookingDesk
