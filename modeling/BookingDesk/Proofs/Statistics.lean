import BookingDesk.Proofs.HttpContract
import BookingDesk.Proofs.Listings
import BookingDesk.Proofs.OneField
import BookingDesk.Proofs.RoundTrip
import Mathlib.Algebra.GroupWithZero.Nat

/-!
# Statistics

How many bookings a business has of each status can be asked in two ways: the keeper of bookings
counts them, status by status, or they are listed and their statuses are told. The two take
different ways through the service and come to clients as different bodies. Main statement: they
agree (`World.statistics_agree`).
-/
namespace BookingDesk

/-! ## Counting -/

/-- How many bookings there are of each status. -/
def Status.countsIn (bs : List Booking) : List (Status × Nat) :=
  all.map fun s => (s, bs.countP (·.status = s))

theorem World.countP_listing (w : World) (business : BusinessId) (s : Status) :
    (w.bookings.values.countP fun b => b.business = business && b.status = s) =
      (w.listing business .ofBusiness).countP (·.status = s) := by
  rw [countP_eq, (w.listing_ofBusiness_perm business).countP_eq]

/-- Every booking has one status. -/
theorem Status.sum_countsIn (bs : List Booking) :
    ((countsIn bs).map Prod.snd).sum = bs.length := by
  induction bs with
  | nil => rfl
  | cons b bs ih =>
    simp only [countsIn, all, List.map_cons, List.map_nil, List.sum_cons, List.sum_nil,
      List.countP_cons, List.length_cons] at ih ⊢
    cases b.status <;> simp <;> omega

theorem Service.alone_countEach (business : BusinessId) (statuses : List Status) (w : World) :
    (countEach business statuses).course.alone w =
      (.ok (statuses.map fun s => (s, (w.listing business .ofBusiness).countP (·.status = s))),
        w) := by
  induction statuses with
  | nil => rfl
  | cons s rest ih =>
    rw [course_countEach_cons, Course.alone]
    simp only [World.answer, Course.alone_map, ih, List.map_cons, ← w.countP_listing]
    rfl

namespace Http

open Json

/-! ## What clients read -/

namespace Tally

/-- The number of each name. -/
def ofNames (names : List String) : Tally :=
  ⟨names.count "pending", names.count "confirmed", names.count "cancelled",
    names.count "completed"⟩

/-- The statuses of bookings are counted by their names. -/
theorem ofCounts_countsIn (bs : List Booking) :
    ofCounts (Status.countsIn bs) = ofNames (bs.map (·.status.name)) := by
  have hname : ∀ s : Status, (bs.map (·.status.name)).count s.name = bs.countP (·.status = s) := by
    intro s
    rw [List.count, List.countP_map]
    refine List.countP_congr fun b _ => ?_
    simp [Status.name_inj]
  simp only [Status.countsIn, ofNames, ← hname]
  rfl

/-- The last number that is given for a status, if there is one. -/
def last (counts : List (Status × Nat)) (s : Status) : Nat :=
  ((counts.filter (·.1 = s)).getLast?.map Prod.snd).getD 0

theorem get_set (t : Tally) (s s' : Status) (n : Nat) :
    (t.set s n).get s' = if s = s' then n else t.get s' := by
  cases s <;> cases s' <;> rfl

/-- Induction on the counts that are still to come. -/
theorem get_foldl_set (counts : List (Status × Nat)) (t : Tally) (s : Status) :
    (counts.foldl (fun t (s, n) => t.set s n) t).get s =
      ((counts.filter (·.1 = s)).getLast?.map Prod.snd).getD (t.get s) := by
  induction counts generalizing t with
  | nil => rfl
  | cons p rest ih =>
    rw [List.foldl_cons, ih, get_set]
    by_cases hp : p.1 = s
    · rw [if_pos hp, List.filter_cons_of_pos (by simpa using hp), List.getLast?_cons]
      cases (rest.filter (·.1 = s)).getLast? <;> rfl
    · rw [if_neg hp, List.filter_cons_of_neg (by simpa using hp)]

theorem ofCounts_eq (counts : List (Status × Nat)) :
    ofCounts counts =
      ⟨last counts .pending, last counts .confirmed, last counts .cancelled,
        last counts .completed⟩ := by
  have hget : ∀ s, (ofCounts counts).get s = last counts s := by
    intro s
    rw [ofCounts, get_foldl_set, last]
    cases s <;> rfl
  simp only [← hget]
  rfl

/-- The body as a client gets it. -/
def text (t : Tally) : String :=
  String.join
    ["\x7b\"pending\":", toString t.pending, ",\"confirmed\":", toString t.confirmed,
      ",\"cancelled\":", toString t.cancelled, ",\"completed\":", toString t.completed, "\x7d"]

theorem spell_write (n : Nat) : (Token.number (Decimal.write n)).spell = (toString n).toList := by
  simp [Token.spell, Decimal.write, Nat.repr]

theorem encode_eq_text (t : Tally) : shape.encode t = t.text := by
  have hwrite : shape.write t =
      [.openObject, .ofString "pending", .colon, .number (Decimal.write t.pending),
        .comma, .ofString "confirmed", .colon, .number (Decimal.write t.confirmed),
        .comma, .ofString "cancelled", .colon, .number (Decimal.write t.cancelled),
        .comma, .ofString "completed", .colon, .number (Decimal.write t.completed),
        .closeObject] := rfl
  have hspell : (shape.write t).flatMap Token.spell = t.text.toList := by
    rw [hwrite, text, String.toList_join]
    simp only [List.flatMap_cons, List.flatMap_nil, spell_write]
    rfl
  rw [Shape.encode, render, hspell, String.ofList_toList]

end Tally

namespace BookingView

/-- What stands before the status in a body. -/
def before (v : BookingView) : List (String × String) :=
  [("booking_id", toString v.booking), ("business_id", toString v.business),
    ("customer_id", toString v.customer), ("staff_id", toString v.staff),
    ("service_id", toString v.service), ("slot_id", toString v.slot),
    ("start_time", toString v.start), ("end_time", toString v.finish)]

/-- What stands after it. -/
def after (v : BookingView) : List (String × String) :=
  [("notes", v.notes), ("created_at", toString v.createdAt), ("updated_at", toString v.updatedAt)]

end BookingView

/-- A client reads the statuses of the bookings in a list, and nothing else. -/
def readStatuses (body : String) : Except Json.Fault (List String) :=
  (Reader.array (Fields.readOnly "status")).readAll (tokensOf body)

theorem readStatuses_list (bs : List Booking) :
    readStatuses (render (BookingView.shape.writeList (bs.map .ofBooking))) =
      .ok (bs.map (·.status.name)) := by
  have hread : ∀ v rest, Fields.readOnly "status" (BookingView.shape.write v ++ rest) =
      .ok (v.status, rest) := by
    intro v rest
    have hobject : BookingView.shape.write v =
        Fields.textObject (v.before ++ ("status", v.status) :: v.after) := rfl
    rw [hobject]
    exact Fields.readOnly_textObject (by simp [BookingView.before]) (by simp [BookingView.after])
      rest
  have harray := Reader.array_writeList hread (fun _ => ⟨_, rfl⟩) (bs.map .ofBooking) []
  rw [List.append_nil, List.map_map] at harray
  rw [readStatuses, tokensOf_render (BookingView.closes_shape.writeList _), Reader.readAll, harray]
  rfl

/-! ## Two requests -/

variable {r : Request} {business : BusinessId}

/-- A client asks for all bookings of its business. -/
structure Request.ListsAll (r : Request) (business : BusinessId) : Prop where
  method : r.method = .get
  path : r.path = "/bookings".toList
  query : r.listQuery = .ok ⟨none, none⟩
  tenant : r.tenant? = some business

/-- A client asks how many bookings of its business there are. -/
structure Request.CountsAll (r : Request) (business : BusinessId) : Prop where
  method : r.method = .get
  path : r.path = "/bookings/stats".toList
  tenant : r.tenant? = some business

/-- Nothing is asked for in particular. -/
theorem listQuery_of_query_eq_nil (h : r.query = []) : r.listQuery = .ok ⟨none, none⟩ := by
  rw [Request.listQuery, h]
  rfl

theorem respond_listsAll (h : r.ListsAll business) (fresh : BookingId) (now : Instant) :
    respond fresh now r = answer (Service.listOfBusiness business) listResponse := by
  have hroute : Route.ofPath? r.path = some (.desk .bookings) := by
    rw [h.path]
    decide +kernel
  simp [respond, respondOn, respondAt, h.method, hroute, h.tenant, h.query, given, listBookings,
    Route.methods, Place.methods]

theorem respond_countsAll (h : r.CountsAll business) (fresh : BookingId) (now : Instant) :
    respond fresh now r = answer (Service.count business) statsResponse := by
  have hroute : Route.ofPath? r.path = some (.desk .stats) := by
    rw [h.path]
    decide +kernel
  simp [respond, respondOn, respondAt, h.method, hroute, h.tenant, Route.methods, Place.methods]

variable {t : Timeline} {w : World} {limit : Nat}

theorem serve_plain (plain : t.Plain w []) (positive : 0 < limit) (fresh : BookingId)
    (now : Instant) (r : Request) :
    (serve limit fresh now r t).1 = some ((respond fresh now r).course.alone w).1 := by
  have hnone : ∀ {k f}, t.faults.get? k ≠ some f := by simp [plain.faults]
  have steady : t.faults.Steady := fun k f hf => absurd hf hnone
  have prompt : t.faults.Prompt := fun k f hf => absurd hf hnone
  obtain ⟨t', hserve, -⟩ := serve_prompt plain.idle steady prompt positive fresh now r
  obtain ⟨fs, halone, -⟩ := (respond fresh now r).course.troubled_of_none (w := w) plain.faults
  rw [hserve, halone]

theorem serve_listsAll (plain : t.Plain w []) (positive : 0 < limit) (h : r.ListsAll business)
    (fresh : BookingId) (now : Instant) :
    (serve limit fresh now r t).1 = some (listResponse (w.listing business .ofBusiness)) := by
  rw [serve_plain plain positive, respond_listsAll h, course_answer, Course.alone_map]
  rfl

theorem serve_countsAll (plain : t.Plain w []) (positive : 0 < limit) (h : r.CountsAll business)
    (fresh : BookingId) (now : Instant) :
    (serve limit fresh now r t).1 =
      some (statsResponse (Status.countsIn (w.listing business .ofBusiness))) := by
  rw [serve_plain plain positive, respond_countsAll h, course_answer, Course.alone_map,
    Service.count, Service.alone_countEach]
  rfl

end Http

/-! ## Both ways agree -/

theorem World.business_of_mem_listing {w : World} {business : BusinessId} {b : Booking}
    (h : b ∈ w.listing business .ofBusiness) : b.business = business := by
  rw [(w.listing_ofBusiness_perm business).mem_iff, List.mem_map] at h
  obtain ⟨row, hrow, rfl⟩ := h
  exact (mem_rowsOf_iff.1 hrow).2

/-- What other businesses have in the books does not count. -/
theorem World.countsIn_listing_of_rowsOf_perm {v w : World} {business : BusinessId}
    (h : (v.rowsOf business).Perm (w.rowsOf business)) :
    Status.countsIn (v.listing business .ofBusiness) =
      Status.countsIn (w.listing business .ofBusiness) := by
  refine List.map_congr_left fun s _ => ?_
  rw [(v.listing_ofBusiness_perm business).countP_eq, (h.map Prod.snd).countP_eq,
    (w.listing_ofBusiness_perm business).countP_eq]

open Http in
/-- Whatever the books hold, the numbers that a business is told are those of the bookings in its
list, and together they are as many as the list is long. The list is of its own bookings, and in
books where these are the same, so are the numbers. A client reads the statuses in the one body and
finds in the other how many there are of each name. Of any numbers that are given for statuses, that
body tells the last for each. -/
theorem World.statistics_agree (w : World) (business : BusinessId) :
    let listed := w.listing business .ofBusiness
    let counts := Status.countsIn listed
    (∀ t : Timeline, t.Plain w [] →
      (t.run none (Service.listOfBusiness business)).1 = .finished (.ok listed) ∧
      (t.run none (Service.count business)).1 = .finished (.ok counts)) ∧
    (counts.map Prod.snd).sum = listed.length ∧
    (∀ b ∈ listed, b.business = business) ∧
    (∀ v : World, (v.rowsOf business).Perm (w.rowsOf business) →
      Status.countsIn (v.listing business .ofBusiness) = counts) ∧
    (∀ t t' : Timeline, t.Plain w [] → t'.Plain w [] → ∀ limit limit', 0 < limit → 0 < limit' →
      ∀ r r' : Http.Request, r.ListsAll business → r'.CountsAll business →
      ∀ fresh fresh' now now', ∃ body names,
        (serve limit fresh now r t).1 = some (.json 200 body) ∧ readStatuses body = .ok names ∧
        (serve limit' fresh' now' r' t').1 = some (.json 200 (Tally.ofNames names).text)) ∧
    ∀ counts, statsResponse counts = .json 200 (Tally.text
      ⟨Tally.last counts .pending, Tally.last counts .confirmed, Tally.last counts .cancelled,
        Tally.last counts .completed⟩) := by
  intro listed counts
  refine ⟨fun t plain => ⟨?_, ?_⟩, Status.sum_countsIn listed, fun b => business_of_mem_listing,
    fun v => countsIn_listing_of_rowsOf_perm, ?_, fun counts => ?_⟩
  · obtain ⟨t', hrun, -⟩ := Timeline.run_alone (s := Service.listOfBusiness business) plain
    rw [hrun]
    rfl
  · obtain ⟨t', hrun, -⟩ := Timeline.run_alone (s := Service.count business) plain
    rw [hrun, Service.count, Service.alone_countEach]
    rfl
  · intro t t' plain plain' limit limit' positive positive' r r' lists tallies fresh fresh' now now'
    refine ⟨_, _, serve_listsAll plain positive lists fresh now, readStatuses_list listed, ?_⟩
    rw [serve_countsAll plain' positive' tallies, statsResponse, Tally.encode_eq_text,
      Tally.ofCounts_countsIn]
  · rw [statsResponse, Tally.encode_eq_text, Tally.ofCounts_eq]

open Http in
/-- Three bookings of one business and one of another. -/
theorem World.statistics_agree_four_bookings :
    let row (n : Nat) (status : Status) : Booking :=
      { Sample.booking with id := Sample.name _ n, status }
    let foreign : Booking := { row 4 .pending with business := Sample.name _ 2 }
    let w := (((Sample.world.insert (row 1 .pending)).insert (row 2 .cancelled)).insert
      (row 3 .cancelled)).insert foreign
    let business := Sample.booking.business
    let t := Timeline.start w
    let list : Http.Request := ⟨.get, "/bookings", Sample.order.headers, []⟩
    let stats : Http.Request := ⟨.get, "/bookings/stats", Sample.order.headers, []⟩
    (t.Plain w [] ∧ list.ListsAll business ∧ stats.CountsAll business) ∧
    (t.run none (Service.count business)).1 = .finished
      (.ok [(.pending, 1), (.confirmed, 0), (.cancelled, 2), (.completed, 0)]) ∧
    (w.listing business .ofBusiness).length = 3 ∧
    (∃ body names, (serve 1000 (Sample.name _ 5) (.ofSecond 0) list t).1 = some (.json 200 body) ∧
      readStatuses body = .ok names ∧
      (serve 1000 (Sample.name _ 5) (.ofSecond 0) stats t).1 =
        some (.json 200 (Tally.ofNames names).text)) ∧
    statsResponse [(.pending, 1), (.completed, 7), (.pending, 2)] =
      .json 200 (Tally.text ⟨2, 0, 0, 7⟩) := by
  intro row foreign w business t list stats
  have plain : t.Plain w [] := Timeline.plain_start w
  have lists : list.ListsAll business :=
    ⟨rfl, by decide +kernel, listQuery_of_query_eq_nil (by decide +kernel), Sample.tenant?_order⟩
  have tallies : stats.CountsAll business := ⟨rfl, by decide +kernel, Sample.tenant?_order⟩
  obtain ⟨hruns, hsum, -, -, hserved, hlast⟩ := statistics_agree w business
  have hcounts : Status.countsIn (w.listing business .ofBusiness) =
      [(.pending, 1), (.confirmed, 0), (.cancelled, 2), (.completed, 0)] := by
    simp only [Status.countsIn, ← w.countP_listing]
    rfl
  rw [hcounts] at hsum hruns
  exact ⟨⟨plain, lists, tallies⟩, (hruns t plain).2, hsum.symm,
    hserved t t plain plain 1000 1000 (by decide) (by decide) list stats lists tallies _ _ _ _,
    hlast _⟩

end BookingDesk
