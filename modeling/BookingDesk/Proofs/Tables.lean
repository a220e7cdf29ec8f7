import BookingDesk.Booking.Notes
import BookingDesk.Booking.Status
import BookingDesk.Database.Exchange

/-!
# What the database does

The usual meaning of the statements: relations hold rows in no order, a statement reads or writes
just the rows that satisfy its conditions, and as a whole. The constraints of a relation are checked
when a statement has written to it; if they do not hold, the statement fails and changes nothing.
Rows may come in any order that the statement does not exclude, and a failure says anything. Main
statement: whatever is sent, the database does something (`Statement.exists_runs`).
-/
namespace BookingDesk.Database

/-- A row of a relation. A column that the relation does not have is null. -/
abbrev Tuple := Column → Value

abbrev Tables := Relation → List Tuple

/-! ## Values -/

/-- Times come in their order, and before all else. No statement orders by anything but a time. -/
def Value.le : Value → Value → Bool
  | time a, time b => a ≤ b
  | _, time _ => false
  | _, _ => true

theorem Value.le_trans {a b c : Value} (h : a.le b = true) (g : b.le c = true) : a.le c = true := by
  cases a <;> cases b <;> cases c <;> simp_all [le]
  exact Instant.le_trans h g

theorem Value.le_total (a b : Value) : (a.le b || b.le a) = true := by
  cases a <;> cases b <;> simp [le, Instant.le_total]

/-- The value with this number. -/
def param (params : List Value) (number : Nat) : Value := (params[number - 1]?).getD .null

/-- Null equals nothing, and what it is not is not known either. -/
def Condition.holds (params : List Value) (r : Tuple) : Condition → Bool
  | equals column number => r column ≠ .null && r column = param params number
  | isNot column => r column = .bool false

def Conditions.hold (rows : Conditions) (params : List Value) (r : Tuple) : Bool :=
  rows.all (·.holds params r)

def Assigned.value (params : List Value) (time : Instant) (before : Value) : Assigned → Value
  | param number => Database.param params number
  | constant value => .bool value
  | null => .null
  | now => .time time
  | incremented =>
    match before with
    | .int n => .int (n + 1)
    | _ => .null

namespace Tuple

/-- The values in order, each in its column. -/
def ofValues (columns : List Column) (values : List Value) : Tuple :=
  fun c => ((columns.zip values).lookup c).getD .null

/-- What a query is told of it. -/
def row (r : Tuple) (columns : List Column) : Row := columns.map fun c => (c, r c)

/-- The tuple after an update. -/
def assign (r : Tuple) (assignments : List (Column × Assigned)) (params : List Value)
    (now : Instant) : Tuple :=
  fun c =>
    match assignments.lookup c with
    | some assigned => assigned.value params now (r c)
    | none => r c

end Tuple

/-! ## Constraints -/

namespace Relation

/-- The column whose values are all different. -/
def key : Relation → Column
  | bookings => .bookingId
  | slots => .slotId
  | customers => .customerId
  | staff => .staffId

/-- The columns that must not be null. -/
def required : Relation → List Column
  | bookings =>
    [.bookingId, .businessId, .customerId, .staffId, .serviceId, .slotId, .startTime, .endTime,
      .status, .notes, .createdAt, .updatedAt]
  | slots =>
    [.slotId, .businessId, .staffId, .startTime, .endTime, .isReserved, .updatedAt]
  | customers => [.customerId, .businessId, .bookingCount]
  | staff => [.staffId, .businessId]

/-- The tuple starts before it ends. -/
def inTime (r : Tuple) : Bool :=
  match r .startTime, r .endTime with
  | .time start, .time finish => start < finish
  | _, _ => false

def checks : Relation → Tuple → Bool
  | bookings, r =>
    inTime r &&
      (match r .status with
        | .text s => Status.all.any (·.name = s)
        | _ => false) &&
      match r .notes with
        | .text s => s.length ≤ 500
        | _ => false
  | slots, r => inTime r
  | customers, _ | staff, _ => true

def admits (relation : Relation) (r : Tuple) : Bool :=
  relation.required.all (r · ≠ .null) && relation.checks r

/-- All constraints hold. -/
structure Sound (relation : Relation) (rows : List Tuple) : Prop where
  admitted : ∀ r ∈ rows, relation.admits r = true
  different : (rows.map (· relation.key)).Nodup

end Relation

/-! ## Statements -/

def Tables.set (db : Tables) (target : Relation) (rows : List Tuple) : Tables :=
  fun r => if r = target then rows else db r

@[simp] theorem Tables.set_self (db : Tables) (target : Relation) (rows : List Tuple) :
    db.set target rows target = rows :=
  if_pos rfl

/-- The rows after an update. -/
def updatedRows (assignments : List (Column × Assigned)) (conditions : Conditions)
    (params : List Value) (now : Instant) (rows : List Tuple) : List Tuple :=
  rows.map fun r => if conditions.hold params r then r.assign assignments params now else r

namespace Relation.Sound

variable {relation : Relation} {rows : List Tuple}

/-- A row that is admitted can be added if its key is new. -/
theorem append_iff (h : relation.Sound rows) {r : Tuple} (admitted : relation.admits r = true) :
    relation.Sound (rows ++ [r]) ↔ r relation.key ∉ rows.map (· relation.key) := by
  constructor
  · intro hnew hmem
    have hdifferent := hnew.different
    rw [List.map_append, List.nodup_append] at hdifferent
    exact hdifferent.2.2 _ hmem _ (by simp) rfl
  · intro hnew
    refine ⟨fun r' hr' => ?_, ?_⟩
    · rcases List.mem_append.1 hr' with hr' | hr'
      · exact h.admitted r' hr'
      · rw [List.mem_singleton.1 hr']
        exact admitted
    · rw [List.map_append, List.nodup_append]
      refine ⟨h.different, by simp, ?_⟩
      rintro v hv _ hr rfl
      rw [List.mem_singleton.1 hr] at hv
      exact hnew hv

theorem filter (h : relation.Sound rows) (p : Tuple → Bool) : relation.Sound (rows.filter p) :=
  ⟨fun r hr => h.admitted r (List.mem_filter.1 hr |>.1),
    h.different.sublist (List.filter_sublist.map _)⟩

/-- An update is possible if it keeps the keys and the rows that it leaves are admitted. -/
theorem updatedRows (h : relation.Sound rows) {assignments : List (Column × Assigned)}
    {conditions : Conditions} {params : List Value} {now : Instant}
    (key : assignments.lookup relation.key = none)
    (admitted : ∀ r, relation.admits r = true → conditions.hold params r = true →
      relation.admits (r.assign assignments params now) = true) :
    relation.Sound (updatedRows assignments conditions params now rows) := by
  constructor
  · intro r' hr'
    obtain ⟨r, hr, rfl⟩ := List.mem_map.1 hr'
    split
    · exact admitted r (h.admitted r hr) ‹_›
    · exact h.admitted r hr
  · have hkeys : (Database.updatedRows assignments conditions params now rows).map
        (· relation.key) = rows.map (· relation.key) := by
      rw [Database.updatedRows, List.map_map]
      refine List.map_congr_left fun r _ => ?_
      rw [Function.comp]
      split
      · simp only [Tuple.assign, key]
      · rfl
    rw [hkeys]
    exact h.different

end Relation.Sound

/-- What a statement with these values may answer, and what the relations hold then. -/
inductive Statement.Runs (params : List Value) (db : Tables) :
    Statement → Reply → Tables → Prop
  | inserted {into columns} (sound : into.Sound (db into ++ [.ofValues columns params])) :
      Runs params db (.insert into columns) (.affected 1)
        (db.set into (db into ++ [.ofValues columns params]))
  | notInserted {into columns} (text : String)
      (unsound : ¬ into.Sound (db into ++ [.ofValues columns params])) :
      Runs params db (.insert into columns) (.failed text) db
  | selected {columns source} {conditions : Conditions} {order} {found : List Tuple}
      (all : found.Perm ((db source).filter (conditions.hold params)))
      (ordered : ∀ c, order = some c → found.Pairwise fun r r' => (r c).le (r' c) = true) :
      Runs params db (.select columns source conditions order)
        (.rows (found.map (·.row columns))) db
  | counted {source} {conditions : Conditions} :
      Runs params db (.count source conditions)
        (.rows [[(.count, .int ((db source).countP (conditions.hold params)))]]) db
  | looked {source} {conditions : Conditions} :
      Runs params db (.anyOf source conditions)
        (.rows [[(.present, .bool ((db source).any (conditions.hold params)))]]) db
  | updated {target assignments} {conditions : Conditions} (now : Instant)
      (sound : target.Sound (updatedRows assignments conditions params now (db target))) :
      Runs params db (.update target assignments conditions)
        (.affected ((db target).countP (conditions.hold params)))
        (db.set target (updatedRows assignments conditions params now (db target)))
  | notUpdated {target assignments} {conditions : Conditions} (text : String) (now : Instant)
      (unsound : ¬ target.Sound (updatedRows assignments conditions params now (db target))) :
      Runs params db (.update target assignments conditions) (.failed text) db
  | deleted {source} {conditions : Conditions} :
      Runs params db (.delete source conditions)
        (.affected ((db source).countP (conditions.hold params)))
        (db.set source ((db source).filter (!conditions.hold params ·)))

def Query.Runs (q : Query) (db : Tables) (reply : Reply) (db' : Tables) : Prop :=
  q.statement.Runs q.params db reply db'

theorem Statement.exists_runs (s : Statement) (params : List Value) (db : Tables) :
    ∃ reply db', s.Runs params db reply db' := by
  cases s with
  | insert into columns =>
    by_cases h : into.Sound (db into ++ [.ofValues columns params])
    · exact ⟨_, _, .inserted h⟩
    · exact ⟨_, _, .notInserted "" h⟩
  | select columns source conditions order =>
    have hsorted (c : Column) (rows : List Tuple) :
        (rows.mergeSort fun r r' => (r c).le (r' c)).Pairwise
          fun r r' => (r c).le (r' c) = true := by
      refine List.pairwise_mergeSort (fun r r' r'' => ?_) (fun r r' => ?_) rows
      · exact Value.le_trans
      · exact Value.le_total _ _
    cases order with
    | none => exact ⟨_, _, .selected (.refl _) nofun⟩
    | some c =>
      refine ⟨_, _, .selected (List.mergeSort_perm _ fun r r' => (r c).le (r' c)) ?_⟩
      intro d hd
      exact Option.some.inj hd ▸ hsorted c _
  | count source conditions => exact ⟨_, _, .counted⟩
  | anyOf source conditions => exact ⟨_, _, .looked⟩
  | update target assignments conditions =>
    by_cases h : target.Sound (updatedRows assignments conditions params default (db target))
    · exact ⟨_, _, .updated default h⟩
    · exact ⟨_, _, .notUpdated "" default h⟩
  | delete source conditions => exact ⟨_, _, .deleted⟩

/-- The database serves calls one after another: what it replies to each, and what the relations
hold after each. -/
inductive Tables.Serves : Tables → List Call → List Reply → List Tables → Prop
  | nil {db} : Serves db [] [] []
  | cons {db db' c calls reply replies states} (runs : (query c).Runs db reply db')
      (rest : Serves db' calls replies states) :
      Serves db (c :: calls) (reply :: replies) (db' :: states)

theorem Tables.exists_serves (db : Tables) (calls : List Call) :
    ∃ replies states, db.Serves calls replies states := by
  induction calls generalizing db with
  | nil => exact ⟨[], [], .nil⟩
  | cons c calls ih =>
    obtain ⟨reply, db', hruns⟩ := Statement.exists_runs (query c).statement (query c).params db
    obtain ⟨replies, states, hrest⟩ := ih db'
    exact ⟨_, _, .cons hruns hrest⟩

/-! ## Tuples and rows -/

namespace Tuple

theorem lookup_row {r : Tuple} {columns : List Column} {c : Column} (h : c ∈ columns) :
    (r.row columns).lookup c = some (r c) := by
  induction columns with
  | nil => cases h
  | cons d columns ih =>
    by_cases hc : c = d
    · simp [row, hc]
    · rw [row, List.map_cons, List.lookup_cons, beq_false_of_ne hc]
      exact ih ((List.mem_cons.1 h).resolve_left hc)

end Tuple
end BookingDesk.Database
