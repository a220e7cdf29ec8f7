import BookingDesk.Service.Call
import BookingDesk.Store.Table

/-!
# Troubled collaborators

A fault makes calls of one kind slow or lets them go wrong: some calls are left alone first, and
then either all later ones are affected or a given number of them.
-/
namespace BookingDesk

/-- What becomes of an affected call. -/
inductive Effect where
  /-- It is carried out. -/
  | none
  /-- It fails without being carried out. -/
  | fail (message : String)
  /-- It is carried out and then fails. -/
  | failAfter (message : String)
  /-- It is answered without being carried out. -/
  | answer (value : Bool)
  /-- It is answered that there is no such thing. -/
  | nothing
  /-- Whoever called breaks down. -/
  | crash
deriving DecidableEq, Repr

structure Fault where
  /-- How many calls are left alone first. -/
  skip : Nat
  /-- How many calls are affected after that, if not all. -/
  times : Option Nat
  /-- How long an affected call takes before its effect, in milliseconds. -/
  delay : Nat
  effect : Effect
deriving DecidableEq, Repr

namespace Fault

/-- Whether the next call is affected. -/
def strikes (f : Fault) : Bool := f.skip = 0 && f.times ≠ some 0

/-- The fault that is left after one call. -/
def next (f : Fault) : Fault :=
  if f.skip ≠ 0 then { f with skip := f.skip - 1 } else { f with times := f.times.map (· - 1) }

end Fault

/-- The faults of the kinds of calls that have one. -/
abbrev Faults := Table Call.Kind Fault

namespace Faults

def set (fs : Faults) (k : Call.Kind) (f : Fault) : Faults := (fs.erase k).insertNew k f

/-- The delay and effect of the next call of a kind. -/
def current (fs : Faults) (k : Call.Kind) : Nat × Effect :=
  match fs.get? k with
  | some f => if f.strikes then (f.delay, f.effect) else (0, .none)
  | none => (0, .none)

/-- The faults that are left after a call of a kind. -/
def afterCall (fs : Faults) (k : Call.Kind) : Faults := fs.modify k Fault.next

end Faults

namespace Call

/-- The reply "yes" or "no", for calls that have one. -/
def yesOrNo? (value : Bool) : (c : Call) → Option c.Reply
  | isAvailable _ _ | reserve _ _ | customerExists _ _ | staffExists _ _ | replace _ _ => some value
  | _ => none

/-- The reply that there is no such thing, for calls that have one. -/
def absence? : (c : Call) → Option c.Reply
  | findSlot _ _ => some none
  | find _ _ => some none
  | _ => none

end Call
end BookingDesk
