import BookingDesk.Database.Reading
import BookingDesk.Service.Program

/-!
# Working with a database

The service at work while its calls go to a database: every call sends one query, and the next reply
answers it. Queries that arrived and notices are kept in order.
-/
namespace BookingDesk.Database

structure Exchange where
  /-- What the database is going to say. -/
  replies : List Reply
  sent : List Query
  notices : List Notice

namespace Exchange

def start (replies : List Reply) : Exchange := ⟨replies, [], []⟩

def note (x : Exchange) (n : Notice) : Exchange := { x with notices := x.notices ++ [n] }

/-- The failure of a query whose values the database cannot take. -/
def disconnected : Failure :=
  ⟨"error communicating with database: Connection reset by peer (os error 104)"⟩

/-- Sends the query of a call and reads the reply. A database that says no more has failed, and one
that is sent a time after the last that can be told hangs up. -/
def call (x : Exchange) (c : Call) : Reading c.Reply × Exchange :=
  if (query c).isTold then
    let x := { x with sent := x.sent ++ [query c] }
    match x.replies with
    | [] => (read c (.failed "connection closed"), x)
    | reply :: rest => (read c reply, { x with replies := rest })
  else (some (.error disconnected), x)

def runTask : Task Outcome → Exchange → Option Outcome × Exchange
  | .done outcome, x => (some outcome, x)
  | .note n rest, x => runTask rest (x.note n)
  | .ask c next, x =>
    match x.call c with
    | (some answer, x) => runTask (next answer) x
    | (none, x) => (none, x)

/-- There is no result if a caller breaks down. -/
def run {α : Type} : Service α → Exchange → Option α × Exchange
  | .done a, x => (some a, x)
  | .note n rest, x => run rest (x.note n)
  | .ask c next, x =>
    match x.call c with
    | (some answer, x) => run (next answer) x
    | (none, x) => (none, x)
  | .handOver task next, x =>
    let (outcome, x) := runTask task x
    run (next outcome) x

end Exchange
end BookingDesk.Database
