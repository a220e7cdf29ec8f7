/-!
# The life of a booking

A booking starts as pending; it can be confirmed, and a confirmed one completed; until it is
completed it can be cancelled. The table below is the only place that knows this.
-/
namespace BookingDesk

inductive Status where
  | pending | confirmed | cancelled | completed
deriving DecidableEq, Repr

namespace Status

def all : List Status := [pending, confirmed, cancelled, completed]

def name : Status → String
  | pending => "pending"
  | confirmed => "confirmed"
  | cancelled => "cancelled"
  | completed => "completed"

instance : ToString Status := ⟨name⟩

def ofName? (s : String) : Option Status := all.find? (·.name = s)

/-- Why a text is no status. -/
def unknownName (s : String) : String := s!"Invalid booking status: {s}"

/-- Whether a booking may change from one status to another. -/
def allows : Status → Status → Bool
  | pending, confirmed | pending, cancelled => true
  | confirmed, cancelled | confirmed, completed => true
  | _, _ => false

def successors (s : Status) : List Status := all.filter s.allows

def isTerminal (s : Status) : Bool := s.successors.isEmpty

/-- Whether the booking still needs its slot. -/
def isActive : Status → Bool
  | pending | confirmed => true
  | cancelled | completed => false

@[simp] theorem mem_all (s : Status) : s ∈ all := by cases s <;> decide

theorem name_inj {a b : Status} : a.name = b.name ↔ a = b := by
  cases a <;> cases b <;> decide

@[simp] theorem ofName?_name (s : Status) : ofName? s.name = some s := by
  cases s <;> decide

/-- These are all the changes that there are. -/
theorem allows_iff {s t : Status} : s.allows t = true ↔
    (s, t) ∈ [(pending, confirmed), (pending, cancelled), (confirmed, cancelled),
      (confirmed, completed)] := by
  cases s <;> cases t <;> decide

theorem allows_self (s : Status) : s.allows s = false := by cases s <;> rfl

end Status

/-- The statuses between which a booking was not allowed to change. -/
structure ForbiddenChange where
  current : Status
  wanted : Status
deriving DecidableEq, Repr

def ForbiddenChange.message (e : ForbiddenChange) : String :=
  s!"cannot transition booking from {e.current} to {e.wanted}"

end BookingDesk
