import BookingDesk.Text.Blank
import BookingDesk.Text.Decimal
import BookingDesk.Text.Quoted

/-!
# Settings

The settings are texts with names; a setting without a text has a default. Three of them are
numbers, each below a power of two: they may have blanks around them and a plus sign in front. The
first of them that is no such number is the fault of the whole.
-/
namespace BookingDesk

structure Config where
  databaseUrl : String
  listenPort : Nat
  maxConnections : Nat
  /-- In seconds. -/
  requestTimeout : Nat
deriving DecidableEq, Repr

namespace Config

inductive Fault where
  | invalidNumber (name value : String)
deriving DecidableEq, Repr

def Fault.message : Fault → String
  | invalidNumber name value => s!"{name} must be a valid number (got {Text.quoted value})"

/-- A numeral below `bound`, between blanks, with or without a plus sign. -/
def numeral? (bound : Nat) (cs : List Char) : Option Nat :=
  Decimal.readBelow? bound (Decimal.dropPlus (Text.trim cs))

/-- The number with this name among the settings. -/
def number (lookup : String → Option String) (name : String) (bound default : Nat) :
    Except Fault Nat :=
  match lookup name with
  | none => .ok default
  | some value =>
    match numeral? bound value.toList with
    | some n => .ok n
    | none => .error (.invalidNumber name value)

def read (lookup : String → Option String) : Except Fault Config := do
  let listenPort ← number lookup "PORT" (Nat.pow 2 16) 3000
  let maxConnections ← number lookup "DATABASE_MAX_CONNECTIONS" (Nat.pow 2 32) 5
  let requestTimeout ← number lookup "REQUEST_TIMEOUT_SECS" (Nat.pow 2 64) 30
  return { databaseUrl := (lookup "DATABASE_URL").getD "postgres://localhost/booking", listenPort
           maxConnections, requestTimeout }

/-- All addresses of the machine, at the number to listen on. -/
def listenAddress (c : Config) : String := s!"0.0.0.0:{c.listenPort}"

end Config
end BookingDesk
