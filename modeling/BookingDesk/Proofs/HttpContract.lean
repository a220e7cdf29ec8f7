import BookingDesk.Http.Serve
import BookingDesk.Proofs.AllOrNothing
import BookingDesk.Proofs.Courses
import BookingDesk.Proofs.OnTime

/-!
# What clients can rely on

A request that comes over HTTP is a question, or is refused at once, or is a request of the service
whose booking is told if there is one (`Http.Conduct`). So a question or a request that fails leaves
the books as they were, and one that succeeds tells of the booking as it is now stored, which is
what a client reads back. Main statement: `Http.serve_contract`.
-/
namespace BookingDesk

variable {α : Type} {w v : World} {fs : Faults}

theorem Course.troubled_map {β : Type} (f : α → β) (c : Course α) (fs : Faults) (w : World) :
    (c.map f).troubled fs w = (f (c.troubled fs w).1, (c.troubled fs w).2) := by
  induction c generalizing fs w with
  | ended a => rfl
  | calling c next ih => exact ih _ _ _

namespace Http

/-- The request was fulfilled. -/
def Response.Succeeds (a : Response) : Prop := a.status / 100 = 2

instance (a : Response) : Decidable a.Succeeds := inferInstanceAs (Decidable (_ = _))

/-- The request was refused, and the client is to blame. -/
def Response.Refuses (a : Response) : Prop := a.status / 100 = 4

theorem Response.Refuses.fails {a : Response} (h : a.Refuses) : ¬ a.Succeeds := by
  rw [Refuses] at h
  rw [Succeeds, h]
  decide

def Method.Writes (m : Method) : Prop := m = .post ∨ m = .patch

instance (m : Method) : Decidable m.Writes := inferInstanceAs (Decidable (_ ∨ _))

/-! ## How requests are answered -/

/-- A request is answered by what is found out, is refused without a call, or is a request of the
service, whose booking is told. -/
inductive Conduct (r : Request) : Service Response → Prop
  | asks {work : Service Response} (reads : ¬ r.method.Writes) (asks : work.Asks) : Conduct r work
  | refuses {work : Service Response} {a : Response} (ends : work.course = .ended a)
      (fails : ¬ a.Succeeds) : Conduct r work
  | serves (request : BookingDesk.Request) {status : Nat} (writes : r.method.Writes)
      (tenant : r.tenant? = some request.business) (good : status / 100 = 2) :
      Conduct r (answer request.service (bookingResponse status))

section

variable {r : Request} {business : BusinessId} {fresh : BookingId} {now : Instant}

theorem errorResponse_status (e : ServiceError) : (errorResponse e).status = statusOf e.kind := by
  rw [errorResponse]
  split <;> rfl

theorem errorResponse_fails (e : ServiceError) : ¬ (errorResponse e).Succeeds := by
  rw [Response.Succeeds, errorResponse_status]
  cases e.kind <;> decide

theorem conduct_given {found : Except Response α} {next : α → Service Response}
    (refuses : ∀ a, found = .error a → a.Refuses)
    (hnext : ∀ a, found = .ok a → Conduct r (next a)) : Conduct r (given found next) := by
  cases found with
  | error a => exact .refuses rfl (refuses a rfl).fails
  | ok a => exact hnext a rfl

theorem pathId_refuses {id : List Char} {a : Response} (h : pathId id = .error a) :
    a.Refuses := by
  rw [pathId] at h
  split at h <;> cases h
  rfl

theorem json_refuses {shape : Json.Shape α} {a : Response} (h : r.json shape = .error a) :
    a.Refuses := by
  rw [Request.json] at h
  split at h
  · cases h
    rfl
  · split at h
    · cases h
      rfl
    · split at h <;> cases h <;> rfl

theorem listQuery_refuses {a : Response} (h : r.listQuery = .error a) : a.Refuses := by
  simp only [Request.listQuery] at h
  split at h <;> cases h
  rfl

theorem command_refuses {body : UpdateRequest} {booking : BookingId} {a : Response}
    (h : (body.command business booking now).mapError badRequest = .error a) : a.Refuses := by
  cases hc : body.command business booking now with
  | error message =>
    rw [hc] at h
    cases h
    exact show 400 / 100 = 4 from rfl
  | ok c =>
    rw [hc] at h
    cases h

theorem asks_answer {work : Service.Query α} (h : work.Asks) (present : α → Response) :
    (answer work present).Asks := by
  refine h.andThen fun outcome => ?_
  cases outcome with
  | error e => exact quiet_answerError e
  | ok a => trivial

theorem asks_listBookings (business : BusinessId) (q : ListQuery) :
    (listBookings business q).Asks := by
  obtain ⟨customer, staff⟩ := q
  rcases customer with _ | customer <;> rcases staff with _ | staff
  · exact asks_answer (Service.asks_listOfBusiness business) _
  · exact asks_answer (Service.asks_listOfStaff business staff) _
  · exact asks_answer (Service.asks_listOfCustomer business customer) _
  · trivial

theorem conduct_changeBooking {work : ChangeStatus → Service Outcome}
    (request : ChangeStatus → BookingDesk.Request) (hwork : ∀ c, work c = (request c).service)
    (hbusiness : ∀ c, (request c).business = c.business) (writes : r.method.Writes)
    (tenant : r.tenant? = some business) (id : List Char) :
    Conduct r (changeBooking work business now id) := by
  refine conduct_given (fun a => pathId_refuses) fun booking _ => ?_
  rw [hwork]
  exact .serves _ writes (by rw [tenant, hbusiness]) rfl

theorem conduct_respondAt {place : Place} (allowed : r.method ∈ place.methods)
    (tenant : r.tenant? = some business) : Conduct r (respondAt fresh now r business place) := by
  cases place with
  | bookings =>
    rw [respondAt]
    split
    · rename_i hpost
      exact conduct_given (fun a => json_refuses) fun body _ =>
        .serves (.create fresh (body.command business now)) (.inl hpost) tenant rfl
    · rename_i hpost
      have reads : ¬ r.method.Writes := by grind [Method.Writes, Place.methods]
      exact conduct_given (fun a => listQuery_refuses) fun q _ =>
        .asks reads (asks_listBookings business q)
  | stats =>
    have reads : ¬ r.method.Writes := by grind [Method.Writes, Place.methods]
    exact .asks reads (asks_answer (Service.asks_countEach business _) _)
  | booking id =>
    rw [respondAt]
    split
    · rename_i hpatch
      refine conduct_given (fun a => pathId_refuses) fun booking _ =>
        conduct_given (fun a => json_refuses) fun body _ =>
          conduct_given (fun a => command_refuses) fun c hc => ?_
      cases business_of_command hc
      exact .serves (.update c) (.inr hpatch) tenant rfl
    · rename_i hpatch
      have reads : ¬ r.method.Writes := by grind [Method.Writes, Place.methods]
      exact conduct_given (fun a => pathId_refuses) fun booking _ =>
        .asks reads (asks_answer (Service.asks_get business booking) _)
  | confirm id =>
    have writes : r.method.Writes := by grind [Method.Writes, Place.methods]
    exact conduct_changeBooking .confirm (fun _ => rfl) (fun _ => rfl) writes tenant id
  | cancel id =>
    have writes : r.method.Writes := by grind [Method.Writes, Place.methods]
    exact conduct_changeBooking .cancel (fun _ => rfl) (fun _ => rfl) writes tenant id
  | complete id =>
    have writes : r.method.Writes := by grind [Method.Writes, Place.methods]
    exact conduct_changeBooking .complete (fun _ => rfl) (fun _ => rfl) writes tenant id

theorem conduct_respondOn (route : Route) : Conduct r (respondOn fresh now r route) := by
  rw [respondOn.eq_def]
  split
  · exact .refuses rfl (by simp [Response.Succeeds, Response.bare])
  · rename_i hallowed
    have allowed : r.method ∈ route.methods := by simpa using hallowed
    cases route with
    | health =>
      have reads : ¬ r.method.Writes := by grind [Method.Writes, Route.methods]
      exact .asks reads trivial
    | desk place =>
      cases htenant : r.tenant? with
      | none =>
        refine .refuses (a := errorResponse (.invalid .businessMissing)) ?_ (errorResponse_fails _)
        rfl
      | some business => exact conduct_respondAt allowed htenant

theorem Conduct.withoutBody {work : Service Response} (h : Conduct r work)
    (head : r.method = .head) : Conduct r (work.andThen fun a => .done a.withoutBody) := by
  cases h with
  | asks reads asks => exact .asks reads (asks.andThen fun _ => trivial)
  | @refuses _ a ends fails =>
    have hcourse := work.course_andThen (k := fun a => .done a.withoutBody)
      (f := Response.withoutBody) fun _ => rfl
    rw [ends] at hcourse
    exact .refuses hcourse fails
  | serves _ writes _ _ =>
    rw [head] at writes
    exact absurd writes (by decide)

/-- So every request is answered. -/
theorem conduct_respond (fresh : BookingId) (now : Instant) (r : Request) :
    Conduct r (respond fresh now r) := by
  have hwork : ∀ {work : Service Response}, Conduct r work →
      Conduct r (if r.method = .head then work.andThen fun a => .done a.withoutBody else work) := by
    intro work h
    split
    · rename_i head
      exact h.withoutBody head
    · exact h
  rw [respond]
  cases Route.ofPath? r.path with
  | none => exact hwork (.refuses rfl (by decide))
  | some route => exact hwork (conduct_respondOn route)

/-! ## What an answer says about the books -/

/-- What the answer to a request says about the books, which were `w` and now are `v`. -/
structure Holds (r : Request) (w v : World) (a : Response) : Prop where
  unchanged : ¬ r.method.Writes ∨ ¬ a.Succeeds → v = w
  told : r.method.Writes → a.Succeeds → ∃ status b, a = bookingResponse status b ∧
    r.tenant? = some b.business ∧ w.Records v b

theorem Conduct.holds {work : Service Response} (h : Conduct r work) (clean : fs.Clean)
    (w : World) : Holds r w (work.course.troubled fs w).2.1 (work.course.troubled fs w).1 := by
  cases h with
  | asks reads asks => exact ⟨fun _ => asks.troubled_world, fun writes => absurd writes reads⟩
  | refuses ends fails =>
    rw [ends]
    exact ⟨fun _ => rfl, fun _ succeeds => absurd succeeds fails⟩
  | serves request writes tenant good =>
    have hall := request.all_or_nothing clean w
    rw [course_answer, Course.troubled_map]
    revert hall
    rcases (request.service.course.troubled fs w).1 with e | b
    · exact fun hsame => ⟨fun _ => hsame, fun _ succeeds => absurd succeeds (errorResponse_fails e)⟩
    · rintro ⟨records, hb⟩
      refine ⟨fun h => ?_, fun _ _ => ⟨_, b, rfl, hb ▸ tenant, records⟩⟩
      rcases h with reads | fails
      · exact absurd writes reads
      · exact absurd good fails

end

/-! ## Reading a booking back -/

/-- An identifier can be written in a path as it is. -/
theorem plain_of_mem_write {u : Uuid} {c : Char} (h : c ∈ u.write) :
    c.toNat < 128 ∧ c ∉ ['%', '/', '?', '#'] := by
  have hdigit : ∀ d : Fin 16, (Hex.digit d).toNat < 128 ∧ Hex.digit d ∉ ['%', '/', '?', '#'] := by
    decide
  rcases Uuid.mem_write h with rfl | ⟨d, rfl⟩
  · decide
  · exact hdigit d

theorem not_mem_write {u : Uuid} {c : Char} (special : c ∈ ['%', '/', '?', '#']) :
    c ∉ u.write := fun h => (plain_of_mem_write h).2 special

theorem pathId_write (id : BookingId) : pathId id.value.write = .ok id := by
  have hdecode : Percent.decode? id.value.write = some (toString id.value) :=
    Percent.decode?_of_plain (fun c hc => (plain_of_mem_write hc).1) (not_mem_write (by decide))
  simp [pathId, hdecode]

theorem ofPath?_booking (id : BookingId) :
    Route.ofPath? ("/bookings/".toList ++ id.value.write) =
      some (.desk (.booking id.value.write)) := by
  have hsegments : Text.splitAtAll '/' ("bookings".toList ++ '/' :: id.value.write) =
      ["bookings".toList, id.value.write] := by
    rw [Text.splitAtAll_append (by decide), Text.splitAtAll_of_not_mem (not_mem_write (by decide))]
  have hlength : ∀ cs, id.value.write = cs → cs.length = 36 := by
    rintro _ rfl
    exact id.value.length_write
  have hne : id.value.write ≠ [] := fun h => absurd (hlength _ h) (by decide)
  have hstats : String.ofList id.value.write ≠ "stats" := fun h =>
    absurd (hlength "stats".toList (by rw [← h, String.toList_ofList])) (by decide)
  have hpath : Route.ofPath? ("/bookings/".toList ++ id.value.write) =
      Route.ofSegments? (Text.splitAtAll '/' ("bookings".toList ++ '/' :: id.value.write)) := rfl
  rw [hpath, hsegments]
  simp [Route.ofSegments?, hne, hstats]

/-- A client asks for a booking. -/
structure Request.Fetches (g : Request) (id : BookingId) : Prop where
  method : g.method = .get
  path : g.path = "/bookings/".toList ++ id.value.write

theorem fetches_target (id : BookingId) (headers : List (String × String)) (body : List UInt8) :
    Request.Fetches ⟨.get, "/bookings/" ++ toString id, headers, body⟩ id := by
  have htarget : ("/bookings/" ++ toString id).toList = "/bookings/".toList ++ id.value.write := by
    rw [String.toList_append]
    exact congrArg _ (String.toList_ofList ..)
  have habsent : ∀ c ∈ ['?', '#'], c ∉ "/bookings/".toList ++ id.value.write := by
    intro c hc h
    have hplain : ∀ c ∈ ['?', '#'], c ∉ "/bookings/".toList := by simp
    exact (List.mem_append.1 h).elim (hplain c hc)
      (not_mem_write (List.mem_of_mem_drop (i := 2) hc))
  have hlocal : Request.localTarget ⟨.get, "/bookings/" ++ toString id, headers, body⟩ =
      "/bookings/".toList ++ id.value.write := by
    rw [Request.localTarget, htarget, Text.splitAtFirst_of_not_mem (habsent '#' (by decide))]
    rfl
  refine ⟨rfl, ?_⟩
  rw [Request.path, hlocal, Text.splitAtFirst_of_not_mem (habsent '?' (by decide))]
  rfl

theorem respond_fetch {g : Request} {id : BookingId} {business : BusinessId} (h : g.Fetches id)
    (tenant : g.tenant? = some business) (fresh : BookingId) (now : Instant) :
    respond fresh now g = answer (Service.get business id) (bookingResponse 200) := by
  have hroute : Route.ofPath? g.path = some (.desk (.booking id.value.write)) := by
    rw [h.path, ofPath?_booking]
  simp [respond, respondOn, respondAt, h.method, hroute, tenant, pathId_write, given,
    Route.methods, Place.methods]

/-! ## Answers in time -/

variable {t : Timeline} {limit : Nat}

theorem serve_prompt (idle : t.Idle w fs) (steady : fs.Steady) (prompt : fs.Prompt)
    (positive : 0 < limit) (fresh : BookingId) (now : Instant) (r : Request) :
    let troubled := (respond fresh now r).course.troubled fs w
    ∃ t', serve limit fresh now r t = (some troubled.1, t') ∧
      t'.Idle troubled.2.1 troubled.2.2 := by
  obtain ⟨t', hrun, hidle⟩ := Timeline.run_troubled (s := respond fresh now r) idle steady
  refine ⟨t', ?_, hidle⟩
  rw [serve, Timeline.runBefore_of_prompt idle prompt positive, hrun]

/-- A stored booking is read back by its business, if nothing goes wrong. -/
theorem serve_fetch (idle : t.Idle w fs) {b : Booking} (stored : w.bookings.get? b.id = some b)
    {g : Request} (fetches : g.Fetches b.id) (tenant : g.tenant? = some b.business)
    (positive : 0 < limit) (fresh : BookingId) (now : Instant) :
    (serve limit fresh now g { t with faults := .empty }).1 = some (bookingResponse 200 b) := by
  have prompt : Faults.Prompt .empty := nofun
  obtain ⟨t', hserve, -⟩ := serve_prompt (idle.equip .empty) Faults.clean_empty.steady prompt
    positive fresh now g
  have hfound := World.booking?_eq_some_iff.2 ⟨stored, rfl⟩
  rw [hserve, respond_fetch fetches tenant, course_answer, Course.troubled_map]
  simp [Service.get, Service.load, Service.course, Course.troubled, Faults.current, World.struck,
    World.answer, hfound, conclude]

theorem respondLate_fails (r : Request) : ¬ (respondLate r).Succeeds :=
  show ¬ 408 / 100 = 2 by decide

/-- Calls may fail that are not carried out, but none takes time and `remove` does not fail. Then a
question, or a request that fails, leaves the books as they were. A request to make or change a
booking that succeeds tells of the booking that is now stored for its business, and nothing else has
changed but the slot of the booking and the number of its customer's bookings. The business reads
back the same. -/
theorem serve_contract (idle : t.Idle w fs) (clean : fs.Clean) (prompt : fs.Prompt) (limit : Nat)
    (fresh : BookingId) (now : Instant) (r : Request) :
    ∃ a t', serve limit fresh now r t = (some a, t') ∧
      (¬ r.method.Writes ∨ ¬ a.Succeeds → t'.world = w) ∧
      (r.method.Writes → a.Succeeds → ∃ status b, a = bookingResponse status b ∧
        r.tenant? = some b.business ∧ w.Records t'.world b ∧
        ∀ (g : Request) (limit' : Nat) (fresh' : BookingId) (now' : Instant), g.Fetches b.id →
          g.tenant? = r.tenant? → 0 < limit' →
          (serve limit' fresh' now' g { t' with faults := .empty }).1 =
            some (bookingResponse 200 b)) := by
  rcases Nat.eq_zero_or_pos limit with rfl | positive
  · exact ⟨respondLate r, t, rfl, fun _ => idle.world,
      fun _ succeeds => absurd succeeds (respondLate_fails r)⟩
  · obtain ⟨t', hserve, hidle⟩ := serve_prompt idle clean.steady prompt positive fresh now r
    have holds := (conduct_respond fresh now r).holds clean w
    rw [← hidle.world] at holds
    refine ⟨_, t', hserve, holds.unchanged, fun writes succeeds => ?_⟩
    obtain ⟨status, b, ha, tenant, records⟩ := holds.told writes succeeds
    refine ⟨status, b, ha, tenant, records, fun g limit' fresh' now' fetches same positive' => ?_⟩
    exact serve_fetch hidle (hidle.world ▸ records.stored) fetches (same.trans tenant) positive'
      fresh' now'

end Http

/-! ## An order -/

namespace Sample

/-- What a client of the small desk orders. -/
def ordered : Http.CreateRequest :=
  ⟨some (name _ 1), some (name _ 1), some (name _ 1), some slot.id, ""⟩

def order : Http.Request where
  method := .post
  target := "/bookings"
  headers := [("X-Business-Id", toString (name .business 1)), ("Content-Type", "application/json")]
  body := ((Http.CreateRequest.shape.write ordered).flatMap Json.Token.spell).map Char.toUInt8

/-- The small desk when bookings cannot be counted. -/
def uncounted : Timeline :=
  { Timeline.start world with faults := Faults.set .empty .countBooking ⟨0, none, 0, .fail "down"⟩ }

theorem tenant?_order : order.tenant? = some (name _ 1) := by
  simp only [Http.Request.tenant?, Http.Request.plainHeader?, String.all_bool_eq]
  decide +kernel

theorem hasJson_order : order.hasJson = true := by
  simp only [Http.Request.hasJson, Http.Request.plainHeader?, String.all_bool_eq]
  decide +kernel

theorem json_order : order.json Http.CreateRequest.shape = .ok ordered := by
  have hread : (Http.CreateRequest.shape.read.readFirst
      (Json.tokens (Utf8.symbols order.body))).toOption = some ordered := by decide +kernel
  have hshort : ¬ Http.maxBody < order.body.length := by decide +kernel
  simp only [Http.Request.json, hasJson_order, hshort]
  revert hread
  cases Http.CreateRequest.shape.read.readFirst (Json.tokens (Utf8.symbols order.body)) with
  | error fault => exact nofun
  | ok body =>
    rintro ⟨⟩
    rfl

theorem respond_order (fresh : BookingId) : Http.respond fresh (.ofSecond 0) order =
    Http.answer (Service.create fresh book) (Http.bookingResponse 201) := by
  have hroute : Http.Route.ofPath? order.path = some (.desk .bookings) := by decide +kernel
  have hmethod : order.method = .post := rfl
  simp [Http.respond, Http.respondOn, Http.respondAt, hroute, hmethod, tenant?_order, json_order,
    Http.given, Http.Route.methods, Http.Place.methods]
  rfl

end Sample

/-- The order is fulfilled although the booking is not counted, and the client reads back what it
was told. -/
theorem Http.serve_contract_order :
    let t := Sample.uncounted
    (t.Idle Sample.world t.faults ∧ t.faults.Clean ∧ t.faults.Prompt) ∧
    ∃ b t', serve 1000 (Sample.name _ 1) (.ofSecond 0) Sample.order t =
        (some (bookingResponse 201 b), t') ∧ Sample.world.Records t'.world b ∧
      (serve 1000 (Sample.name _ 2) (.ofSecond 1)
        ⟨.get, "/bookings/" ++ toString b.id, Sample.order.headers, []⟩
        { t' with faults := .empty }).1 = some (bookingResponse 200 b) := by
  intro t
  have idle : t.Idle Sample.world t.faults := (Timeline.idle_start Sample.world).equip _
  have clean : t.faults.Clean := Faults.clean_empty.set (.inr ⟨Call.Kind.noConfusion, _, rfl⟩)
  have prompt : t.faults.Prompt := Faults.prompt_empty.set rfl
  refine ⟨⟨idle, clean, prompt⟩, ?_⟩
  obtain ⟨a, t', hserve, -, told⟩ :=
    serve_contract idle clean prompt 1000 (Sample.name _ 1) (.ofSecond 0) Sample.order
  have hstatus : a.status = 201 := by
    obtain ⟨_, hserve', -⟩ := serve_prompt idle clean.steady prompt (by decide : 0 < 1000)
      (Sample.name _ 1) (.ofSecond 0) Sample.order
    have houtcome : ((Service.create (Sample.name _ 1) Sample.book).course.troubled t.faults
        Sample.world).1.toOption = some Sample.booking := by decide +kernel
    rw [hserve, Sample.respond_order, course_answer, Course.troubled_map] at hserve'
    revert hserve' houtcome
    generalize ((Service.create (Sample.name _ 1) Sample.book).course.troubled t.faults
      Sample.world).1 = outcome
    rcases outcome with e | b
    · exact fun _ => nofun
    · intro hserve' _
      cases hserve'
      rfl
  obtain ⟨status, b, rfl, -, records, reads⟩ :=
    told (.inl rfl) (by rw [Response.Succeeds, hstatus])
  obtain rfl : status = 201 := hstatus
  exact ⟨b, t', hserve, records, reads _ _ _ _ (fetches_target b.id _ _) rfl (by decide)⟩

end BookingDesk
