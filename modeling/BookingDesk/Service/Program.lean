import BookingDesk.Service.Notice

/-!
# What the service does, as data

A `Task` is the tree of what may happen when some work is done: its nodes are calls, with one branch
for every answer, and notices. A `Service` is the same for the work of one caller, who may stop
waiting at any time. Work that must not be left half done is handed over: it goes on as a task of
its own when the caller has gone.
-/
namespace BookingDesk

inductive Task (α : Type) where
  | done (value : α)
  | ask (call : Call) (next : Answer call → Task α)
  | note (notice : Notice) (rest : Task α)

inductive Service (α : Type) where
  | done (value : α)
  | ask (call : Call) (next : Answer call → Service α)
  | note (notice : Notice) (rest : Service α)
  /-- Waits for a task. It may break down, and then has no outcome. -/
  | handOver (task : Task Outcome) (next : Option Outcome → Service α)

namespace Service

variable {α β γ : Type}

/-- One piece of work after another. -/
def andThen : Service α → (α → Service β) → Service β
  | done a, k => k a
  | ask c next, k => ask c fun answer => (next answer).andThen k
  | note n rest, k => note n (rest.andThen k)
  | handOver t next, k => handOver t fun outcome => (next outcome).andThen k

@[simp] theorem done_andThen (a : α) (k : α → Service β) : (done a).andThen k = k a := rfl

@[simp] theorem andThen_done (s : Service α) : s.andThen done = s := by
  induction s <;> simp_all [andThen]

theorem andThen_assoc (s : Service α) (k : α → Service β) (l : β → Service γ) :
    (s.andThen k).andThen l = s.andThen fun a => (k a).andThen l := by
  induction s <;> simp_all [andThen]

def fail (e : ServiceError) : Service (Except ServiceError α) := done (.error e)

end Service
end BookingDesk
