import BookingDesk.Text.Decimal
import BookingDesk.Time.Instant
import BookingDesk.Uuid

/-!
# Statements

The statements that are sent to the database, as data: what they read or write, which rows they
concern, and which of the values that go with them they use where. A value is named by its number,
from 1. `Statement.text` writes a statement in SQL.
-/
namespace BookingDesk.Database

inductive Relation where
  | bookings | slots | customers | staff
deriving DecidableEq, Repr

inductive Column where
  | bookingId | businessId | customerId | staffId | serviceId | slotId | startTime | endTime
  | status | notes | createdAt | updatedAt | isReserved | bookingCount
  /-- The column of a number of rows. -/
  | count
  /-- The column that tells whether there are rows. -/
  | present
deriving DecidableEq, Repr

inductive Value where
  | uuid (value : Uuid)
  | text (value : String)
  /-- To the microsecond. -/
  | time (value : Instant)
  | bool (value : Bool)
  | int (value : Int)
  | null
deriving DecidableEq, Repr

/-- What a column is set to. -/
inductive Assigned where
  | param (number : Nat)
  | constant (value : Bool)
  | null
  | now
  /-- One more than before. -/
  | incremented
deriving DecidableEq, Repr

inductive Condition where
  | equals (column : Column) (param : Nat)
  | isNot (column : Column)
deriving DecidableEq, Repr

/-- The rows that satisfy all of the conditions. -/
abbrev Conditions := List Condition

inductive Statement where
  /-- A new row, whose columns take the values in order. -/
  | insert (into : Relation) (columns : List Column)
  /-- Rows, in increasing order of a column if one is given. -/
  | select (columns : List Column) (source : Relation) (rows : Conditions) (order : Option Column)
  | count (source : Relation) (rows : Conditions)
  | anyOf (source : Relation) (rows : Conditions)
  | update (target : Relation) (assignments : List (Column × Assigned)) (rows : Conditions)
  | delete (source : Relation) (rows : Conditions)
deriving DecidableEq, Repr

/-! ## In SQL -/

def Relation.name : Relation → String
  | bookings => "bookings"
  | slots => "slots"
  | customers => "customers"
  | staff => "staff"

namespace Column

def name : Column → String
  | bookingId => "booking_id"
  | businessId => "business_id"
  | customerId => "customer_id"
  | staffId => "staff_id"
  | serviceId => "service_id"
  | slotId => "slot_id"
  | startTime => "start_time"
  | endTime => "end_time"
  | status => "status"
  | notes => "notes"
  | createdAt => "created_at"
  | updatedAt => "updated_at"
  | isReserved => "is_reserved"
  | bookingCount => "booking_count"
  | count => "count"
  | present => "exists"

def all : List Column :=
  [bookingId, businessId, customerId, staffId, serviceId, slotId, startTime, endTime, status, notes,
    createdAt, updatedAt, isReserved, bookingCount, count, present]

def ofName? (s : String) : Option Column := all.find? (·.name = s)

end Column

def paramText (number : Nat) : String := "$" ++ String.ofList (Decimal.write number)

def listed (texts : List String) : String := String.intercalate ", " texts

def Condition.text : Condition → String
  | equals column param => s!"{column.name} = {paramText param}"
  | isNot column => s!"NOT {column.name}"

def whereText (rows : Conditions) : String :=
  " WHERE " ++ String.intercalate " AND " (rows.map Condition.text)

def assignmentText : Column × Assigned → String
  | (column, .param number) => s!"{column.name} = {paramText number}"
  | (column, .constant true) => s!"{column.name} = TRUE"
  | (column, .constant false) => s!"{column.name} = FALSE"
  | (column, .null) => s!"{column.name} = NULL"
  | (column, .now) => s!"{column.name} = NOW()"
  | (column, .incremented) => s!"{column.name} = {column.name} + 1"

def Statement.text : Statement → String
  | insert into columns =>
    let params := (List.range columns.length).map fun n => paramText (n + 1)
    s!"INSERT INTO {into.name} ( {listed (columns.map Column.name)} ) VALUES ({listed params})"
  | select columns source rows order =>
    s!"SELECT {listed (columns.map Column.name)} FROM {source.name}" ++ whereText rows
      ++ order.elim "" fun column => s!" ORDER BY {column.name} ASC"
  | count source rows => s!"SELECT COUNT(*) FROM {source.name}" ++ whereText rows
  | anyOf source rows => s!"SELECT EXISTS(SELECT 1 FROM {source.name}" ++ whereText rows ++ ")"
  | update target assignments rows =>
    s!"UPDATE {target.name} SET {listed (assignments.map assignmentText)}" ++ whereText rows
  | delete source rows => s!"DELETE FROM {source.name}" ++ whereText rows

end BookingDesk.Database
