import BookingDesk.Proofs.FourSpellings
import BookingDesk.Proofs.HttpContract
import BookingDesk.Proofs.OneBusiness

/-!
# The gate

A request for bookings is answered for the business that its header names, and for no other. Two
things are shown for this: the header names a business if it spells one, with nothing but blanks
around it (`Http.Request.tenant?_eq_some_iff`), and all work on the request keeps to the business
that it names (`Http.keepsTo_respond`). Main statement: without a business a request is refused and
nothing else happens, and with one all calls name it (`Http.serve_gated`).
-/
namespace BookingDesk

variable {α : Type} {business : BusinessId} {copy : Option Booking}

/-! ## Blanks around a text -/

namespace Text

/-- The case of a character does not matter for whether it is blank. -/
theorem isBlank_toLower (c : Char) : isBlank c.toLower = isBlank c :=
  forall_of_ascii (p := fun c => isBlank c.toLower = isBlank c) (by decide +kernel)
    (fun _ _ hlower => by rw [hlower]) c

/-- Tabs and spaces are the only blanks in plain visible text. -/
theorem isBlank_iff_of_plain {c : Char} (plain : c = '\t' ∨ ' ' ≤ c ∧ c ≤ '~') :
    isBlank c = true ↔ c = '\t' ∨ c = ' ' := by
  revert plain
  refine forall_of_ascii
    (p := fun c => c = '\t' ∨ ' ' ≤ c ∧ c ≤ '~' → (isBlank c = true ↔ c = '\t' ∨ c = ' '))
    (by decide +kernel) (fun c hc _ plain => ?_) c
  obtain rfl | ⟨-, hle⟩ := plain
  · exact absurd hc (by decide)
  · exact absurd hle (not_le_of_not_ascii hc (by decide))

theorem not_isBlank_of_visible {c : Char} (h : 32 < c.toNat ∧ c.toNat < 127) :
    isBlank c = false := by
  simp [isBlank]
  omega

end Text

/-! ## The business of a request -/

theorem Uuid.not_isBlank_of_mem_spellings {u : Uuid} {cs : List Char} (h : cs ∈ u.spellings)
    {c : Char} (hc : c ∈ cs) : Text.isBlank c = false := by
  have hdigit : ∀ d : Fin 16, 32 < (Hex.digit d).toNat ∧ (Hex.digit d).toNat < 127 := by decide
  have hwrite {c : Char} (hc : c ∈ u.write) : 32 < c.toNat ∧ c.toNat < 127 := by
    obtain rfl | ⟨d, rfl⟩ := mem_write hc
    · decide
    · exact hdigit d
  have hscheme : ∀ c ∈ "urn:uuid:".toList, 32 < c.toNat ∧ c.toNat < 127 := by simp
  refine Text.not_isBlank_of_visible ?_
  obtain rfl | rfl | rfl | rfl := mem_spellings_iff.1 h
  · obtain ⟨d, -, rfl⟩ := List.mem_map.1 hc
    exact hdigit d
  · exact hwrite hc
  · simp only [List.cons_append, List.mem_cons, List.mem_append, List.not_mem_nil, or_false] at hc
    obtain rfl | hc | rfl := hc
    · decide
    · exact hwrite hc
    · decide
  · rcases List.mem_append.1 hc with hc | hc
    · exact hscheme c hc
    · exact hwrite hc

namespace Http

/-- The header `X-Business-Id` is plain visible text and spells the business, in either case, with
at most blanks around it. -/
def Request.Names (r : Request) (business : BusinessId) : Prop :=
  business ≠ .none ∧ ∃ value before spelling after, r.header? "x-business-id" = some value ∧
    value.toList = before ++ spelling ++ after ∧
    (∀ c ∈ value.toList, c = '\t' ∨ ' ' ≤ c ∧ c ≤ '~') ∧
    (∀ c ∈ before ++ after, c = '\t' ∨ c = ' ') ∧
    spelling.map Char.toLower ∈ business.value.spellings

variable {r : Request}

theorem Request.plainHeader?_eq_some_iff {name value : String} :
    r.plainHeader? name = some value ↔
      r.header? name = some value ∧ ∀ c ∈ value.toList, c = '\t' ∨ ' ' ≤ c ∧ c ≤ '~' := by
  simp [Request.plainHeader?, Option.filter_eq_some_iff, String.all_bool_eq]

theorem Request.tenant?_eq_some : r.tenant? = some business ↔
    business ≠ .none ∧ ∃ value, r.plainHeader? "x-business-id" = some value ∧
      Uuid.read? (Text.trim value.toList) = some business.value := by
  obtain ⟨u⟩ := business
  simp [Request.tenant?, Option.filter_eq_some_iff, Option.bind_eq_some_iff, Id.isNone, Id.none,
    and_comm]

/-- The header is read as the business that it names. -/
theorem Request.tenant?_eq_some_iff : r.tenant? = some business ↔ r.Names business := by
  simp only [Request.tenant?_eq_some, Request.plainHeader?_eq_some_iff, Uuid.read?_eq_some_iff]
  refine and_congr_right fun _ => ⟨?_, ?_⟩
  · rintro ⟨value, ⟨hvalue, plain⟩, hspelled⟩
    obtain ⟨before, after, heq, hblanks⟩ := Text.exists_eq_append_trim value.toList
    refine ⟨value, before, _, after, hvalue, heq, plain, fun c hc => ?_, hspelled⟩
    have hmem : c ∈ value.toList := by
      rw [heq, List.mem_append, List.mem_append]
      rcases List.mem_append.1 hc with hc | hc
      · exact .inl (.inl hc)
      · exact .inr hc
    exact (Text.isBlank_iff_of_plain (plain c hmem)).1 (hblanks c hc)
  · rintro ⟨value, before, spelling, after, hvalue, heq, plain, hblanks, hspelled⟩
    refine ⟨value, ⟨hvalue, plain⟩, ?_⟩
    rw [heq, Text.trim_append]
    · exact hspelled
    · intro c hc
      obtain rfl | rfl := hblanks c hc <;> rfl
    · intro c hc
      rw [← Text.isBlank_toLower]
      exact Uuid.not_isBlank_of_mem_spellings hspelled (List.mem_map_of_mem hc)

end Http

/-! ## Work of the service -/

theorem Call.names_of_eq {c : Call} (h : c.business? = some business) : c.Names business copy := by
  cases c with
  | replace b before => exact .inl (Option.some_inj.1 h)
  | _ => exact fun own hown => Option.some_inj.1 (hown.symm.trans h)

theorem Call.names_of_none {c : Call} (h : c.business? = none) : c.Names business copy := by
  cases c with
  | reserve slot booking | release slot =>
    exact fun own hown => absurd hown (Option.not_mem_none own)
  | _ => cases h

theorem Booking.business_of_changeStatus {b b' : Booking} {wanted : Status} {time : Instant}
    (h : b.changeStatus wanted time = .ok b') : b'.business = b.business := by
  unfold changeStatus at h
  split at h <;> cases h
  rfl

theorem Booking.business_of_update {b b' : Booking} {wanted : Option Status} {notes : Option Notes}
    {time : Instant} (h : b.update wanted notes time = .ok b') : b'.business = b.business := by
  unfold update at h
  split at h
  · cases h
    rfl
  · split at h
    · cases h
      rfl
    · rename_i wanted _
      cases hchanged : b.changeStatus wanted time with
      | error e =>
        rw [hchanged] at h
        cases h
      | ok changed =>
        rw [hchanged] at h
        cases h
        exact show changed.business = b.business from business_of_changeStatus hchanged

namespace Service

theorem keepsTo_takeBack {b : Booking} (h : b.business = business) (e : ServiceError) :
    (takeBack b e).KeepsTo business copy := by
  refine ⟨Call.names_of_eq (congrArg some h), fun removed _ => ?_⟩
  rcases removed with f | _ <;> trivial

theorem keepsTo_establish {b : Booking} (h : b.business = business) :
    (establish b).KeepsTo business copy := by
  refine ⟨Call.names_of_eq (congrArg some h), fun inserted _ => ?_⟩
  rcases inserted with f | _
  · trivial
  refine ⟨Call.names_of_none rfl, fun reserved _ => ?_⟩
  rcases reserved with f | _ | _
  · exact keepsTo_takeBack h _
  · exact keepsTo_takeBack h _
  · refine ⟨Call.names_of_eq (congrArg some h), fun counted _ => ?_⟩
    rcases counted with f | _ <;> trivial

theorem keepsTo_commit {b : Booking} (h : b.FoundFor business copy) (before : Status) :
    (commit b before).KeepsTo business copy := by
  refine ⟨h, fun written _ => ?_⟩
  rcases written with f | _ | _
  · trivial
  · trivial
  · dsimp only
    split
    · refine ⟨Call.names_of_none rfl, fun released _ => ?_⟩
      rcases released with f | _ <;> trivial
    · trivial

theorem keepsTo_await {task : Task Outcome} (htask : task.KeepsTo business copy)
    {next : Booking → Service Outcome} (hnext : ∀ b, (next b).KeepsTo business copy) :
    (await task next).KeepsTo business copy := by
  refine ⟨htask, fun outcome => ?_⟩
  rcases outcome with _ | e | b
  · trivial
  · trivial
  · exact hnext b

/-- A booking is made for the business of its command, whatever slot is found. -/
theorem keepsTo_create (fresh : BookingId) (c : CreateBooking) :
    (create fresh c).KeepsTo c.business copy := by
  rw [create]
  split
  · trivial
  refine ⟨Call.names_of_eq rfl, fun available _ => ?_⟩
  rcases available with f | _ | _
  · trivial
  · trivial
  refine ⟨Call.names_of_eq rfl, fun customer _ => ?_⟩
  rcases customer with f | _ | _
  · trivial
  · trivial
  refine ⟨Call.names_of_eq rfl, fun staff _ => ?_⟩
  rcases staff with f | _ | _
  · trivial
  · trivial
  refine ⟨Call.names_of_eq rfl, fun found _ => ?_⟩
  rcases found with f | _ | slot
  · trivial
  · trivial
  dsimp only
  split
  · trivial
  · rename_i b hb
    obtain ⟨-, rfl⟩ := CreateBooking.booking_eq_ok_iff.1 hb
    exact keepsTo_await (keepsTo_establish rfl) fun b => trivial

theorem keepsTo_load (booking : BookingId) {next : Booking → Service (Except ServiceError α)}
    (hnext : ∀ b, b.FoundFor business copy → (next b).KeepsTo business copy) :
    (load business booking next).KeepsTo business copy := by
  refine ⟨Call.names_of_eq rfl, fun found hfound => ?_⟩
  rcases found with f | _ | b
  · trivial
  · trivial
  · exact hnext b hfound

/-- What is stored belongs to the business that the booking belonged to when it was found. -/
theorem keepsTo_change (booking : BookingId) {f : Booking → Except ForbiddenChange Booking}
    (hf : ∀ b b', f b = .ok b' → b'.business = b.business) (notice : Status → Booking → Notice) :
    (change business booking f notice).KeepsTo business copy := by
  refine keepsTo_load booking fun current hcurrent => ?_
  split
  · trivial
  · rename_i changed hchanged
    have hfound : changed.FoundFor business copy := by
      rw [Booking.FoundFor, hf _ _ hchanged]
      exact hcurrent
    exact keepsTo_await (keepsTo_commit hfound _) fun b => trivial

theorem keepsTo_update (c : UpdateBooking) : (update c).KeepsTo c.business copy := by
  rw [update]
  split
  · trivial
  · exact keepsTo_change _ (fun _ _ => Booking.business_of_update) _

theorem keepsTo_changeStatus (wanted : Status) (c : ChangeStatus) :
    (changeStatus wanted c).KeepsTo c.business copy :=
  keepsTo_change _ (fun _ _ => Booking.business_of_changeStatus) _

theorem keepsTo_get (booking : BookingId) : (get business booking).KeepsTo business copy :=
  keepsTo_load booking fun _ _ => trivial

theorem keepsTo_whole (x : Except Failure α) : (whole x).KeepsTo business copy := by
  cases x <;> trivial

theorem keepsTo_listOfCustomer (customer : CustomerId) :
    (listOfCustomer business customer).KeepsTo business copy :=
  ⟨Call.names_of_eq rfl, fun x _ => keepsTo_whole x⟩

theorem keepsTo_listOfStaff (staff : StaffId) :
    (listOfStaff business staff).KeepsTo business copy :=
  ⟨Call.names_of_eq rfl, fun x _ => keepsTo_whole x⟩

theorem keepsTo_listOfBusiness : (listOfBusiness business).KeepsTo business copy :=
  ⟨Call.names_of_eq rfl, fun x _ => keepsTo_whole x⟩

theorem keepsTo_countEach (statuses : List Status) :
    (countEach business statuses).KeepsTo business copy := by
  induction statuses with
  | nil => trivial
  | cons s rest ih =>
    refine ⟨Call.names_of_eq rfl, fun counted _ => ?_⟩
    rcases counted with f | n
    · trivial
    · refine Service.KeepsTo.andThen ih fun counts => ?_
      rcases counts with e | counts <;> trivial

end Service

/-! ## Answers -/

namespace Http

variable {r : Request} {fresh : BookingId} {now : Instant}

theorem keepsTo_answerError (e : ServiceError) : (answerError e).KeepsTo business copy := by
  rw [answerError]
  split <;> trivial

theorem keepsTo_answer {work : Service.Query α} (h : work.KeepsTo business copy)
    (present : α → Response) : (answer work present).KeepsTo business copy := by
  refine h.andThen fun outcome => ?_
  rcases outcome with e | a
  · exact keepsTo_answerError e
  · trivial

theorem keepsTo_given {found : Except Response α} {next : α → Service Response}
    (hnext : ∀ a, found = .ok a → (next a).KeepsTo business copy) :
    (given found next).KeepsTo business copy := by
  cases found with
  | error a => trivial
  | ok a => exact hnext a rfl

theorem keepsTo_listBookings (q : ListQuery) :
    (listBookings business q).KeepsTo business copy := by
  obtain ⟨customer, staff⟩ := q
  rcases customer with _ | customer <;> rcases staff with _ | staff
  · exact keepsTo_answer Service.keepsTo_listOfBusiness _
  · exact keepsTo_answer (Service.keepsTo_listOfStaff staff) _
  · exact keepsTo_answer (Service.keepsTo_listOfCustomer customer) _
  · trivial

theorem keepsTo_changeBooking {work : ChangeStatus → Service Outcome}
    (h : ∀ c, (work c).KeepsTo c.business copy) (id : List Char) :
    (changeBooking work business now id).KeepsTo business copy :=
  keepsTo_given fun booking _ => keepsTo_answer (h ⟨business, booking, now⟩) _

theorem keepsTo_respondAt (place : Place) :
    (respondAt fresh now r business place).KeepsTo business copy := by
  cases place with
  | bookings =>
    rw [respondAt]
    split
    · exact keepsTo_given fun body _ =>
        keepsTo_answer (Service.keepsTo_create fresh (body.command business now)) _
    · exact keepsTo_given fun q _ => keepsTo_listBookings q
  | stats => exact keepsTo_answer (Service.keepsTo_countEach _) _
  | booking id =>
    rw [respondAt]
    split
    · refine keepsTo_given fun booking _ => keepsTo_given fun body _ => keepsTo_given fun c hc => ?_
      cases business_of_command hc
      exact keepsTo_answer (Service.keepsTo_update c) _
    · exact keepsTo_given fun booking _ => keepsTo_answer (Service.keepsTo_get booking) _
  | confirm id => exact keepsTo_changeBooking (Service.keepsTo_changeStatus .confirmed) id
  | cancel id => exact keepsTo_changeBooking (Service.keepsTo_changeStatus .cancelled) id
  | complete id => exact keepsTo_changeBooking (Service.keepsTo_changeStatus .completed) id

theorem keepsTo_respondOn (tenant : r.tenant? = some business) (route : Route) :
    (respondOn fresh now r route).KeepsTo business copy := by
  rw [respondOn.eq_def]
  split
  · trivial
  · cases route with
    | health => trivial
    | desk place =>
      simp only [tenant]
      exact keepsTo_respondAt place

/-- Work on a request keeps to the business that the request names. -/
theorem keepsTo_respond (names : r.Names business) (fresh : BookingId) (now : Instant) :
    (respond fresh now r).KeepsTo business copy := by
  have hwork : ∀ {work : Service Response}, work.KeepsTo business copy →
      Service.KeepsTo business copy
        (if r.method = .head then work.andThen fun a => .done a.withoutBody else work) := by
    intro work h
    split
    · exact h.andThen fun a => trivial
    · exact h
  rw [respond]
  cases Route.ofPath? r.path with
  | none => exact hwork trivial
  | some route => exact hwork (keepsTo_respondOn (Request.tenant?_eq_some_iff.2 names) route)

/-! ## The gate -/

/-- What is answered to a request that names no business. If only the head of an answer is asked
for, there is no body. -/
def businessRequired (r : Request) : Response :=
  let answer := refusal 400 "BUSINESS_ID_REQUIRED" "business_id is required"
  if r.method = .head then answer.withoutBody else answer

/-- Without a business nothing else is looked at. -/
theorem respond_of_unnamed {place : Place} (route : Route.ofPath? r.path = some (.desk place))
    (allowed : r.method ∈ place.methods) (unnamed : ∀ business, ¬ r.Names business)
    (fresh : BookingId) (now : Instant) : respond fresh now r = .done (businessRequired r) := by
  have htenant : r.tenant? = none := Option.eq_none_iff_forall_ne_some.2 fun business h =>
    unnamed business (Request.tenant?_eq_some_iff.1 h)
  have hallowed : (Route.desk place).methods.contains r.method = true :=
    List.contains_iff_mem.2 allowed
  have hrefusal : answerError (.invalid .businessMissing) =
      .done (refusal 400 "BUSINESS_ID_REQUIRED" "business_id is required") := rfl
  simp only [respond, route, respondOn, hallowed, htenant, hrefusal, businessRequired]
  split <;> rfl

theorem serve_of_unnamed {place : Place} (route : Route.ofPath? r.path = some (.desk place))
    (allowed : r.method ∈ place.methods) (unnamed : ∀ business, ¬ r.Names business)
    (fresh : BookingId) (now : Instant) (limit : Nat) (t : Timeline) : serve limit fresh now r t =
      (some (if limit = 0 then respondLate r else businessRequired r), t) := by
  rw [serve, respond_of_unnamed route allowed unnamed, Timeline.runBefore]
  by_cases hlimit : limit = 0
  · simp only [if_pos hlimit]
  · simp only [if_neg hlimit, Timeline.run]

theorem keepsTo_serve {t : Timeline} {before : List Call} (h : t.KeepsTo business copy before)
    (names : r.Names business) (limit : Nat) (fresh : BookingId) (now : Instant) :
    (serve limit fresh now r t).2.KeepsTo business copy before := by
  have hrun := h.runBefore (keepsTo_respond names fresh now) limit
  rw [serve]
  revert hrun
  rcases t.runBefore limit (respond fresh now r) with ⟨a | _ | _, t'⟩ <;> exact id

/-- A request at a desk that does not name a business, in whatever way, is refused for this reason,
whatever else is wrong with it; no call is made and everything stays as it was. Only if no time is
given at all, the answer is that it is too late. If the request names a business, then all calls of
its work name the same business, whatever is answered; so do all calls that are made because of it
on a desk where no job is under way, whatever goes wrong and whether or not the client waits. -/
theorem serve_gated {place : Place} (route : Route.ofPath? r.path = some (.desk place))
    (allowed : r.method ∈ place.methods) (fresh : BookingId) (now : Instant) :
    ((∀ business, ¬ r.Names business) → ∀ limit t, serve limit fresh now r t =
      (some (if limit = 0 then respondLate r else businessRequired r), t)) ∧
    ∀ business, r.Names business →
      (∀ copy, (respond fresh now r).KeepsTo business copy) ∧
      ∀ limit (t : Timeline), t.Still → ∀ waits : List Nat, ∃ made,
        (waits.foldl Timeline.advance (serve limit fresh now r t).2).calls = t.calls ++ made ∧
        ∀ c ∈ made, c.Names business t.stale := by
  refine ⟨fun unnamed limit t => serve_of_unnamed route allowed unnamed fresh now limit t,
    fun business names => ⟨fun copy => keepsTo_respond names fresh now, ?_⟩⟩
  intro limit t still waits
  have hserved := keepsTo_serve (still.keepsTo business) names limit fresh now
  exact (hserved.waits waits).calls

/-- Who changes a booking without an identifier and does not say in whose name, is told of the
latter. All calls for an order in the name of the desk's business, spelled in full, name it. -/
theorem serve_gated_order :
    let t := Timeline.start Sample.world
    let change : Request := ⟨.patch, "/bookings/7", [], []⟩
    let order : Request := { Sample.order with
      headers := [("X-BUSINESS-ID", "\tURN:uuid:" ++ toString (Sample.name .business 1) ++ " "),
        ("Content-Type", "application/json")] }
    ((Route.ofPath? change.path = some (.desk (.booking ['7'])) ∧
        Route.ofPath? order.path = some (.desk .bookings)) ∧
      change.method ∈ Place.methods (.booking ['7']) ∧ order.method ∈ Place.methods .bookings ∧
      (∀ business, ¬ change.Names business) ∧ order.Names (Sample.name _ 1) ∧ t.Still) ∧
    serve 1000 (Sample.name _ 1) (.ofSecond 0) change t =
      (some (refusal 400 "BUSINESS_ID_REQUIRED" "business_id is required"), t) ∧
    ∀ c ∈ (serve 1000 (Sample.name _ 1) (.ofSecond 0) order t).2.calls,
      c.Names (Sample.name _ 1) none := by
  intro t change order
  have hchange : Route.ofPath? change.path = some (.desk (.booking ['7'])) := by decide +kernel
  have horder : Route.ofPath? order.path = some (.desk .bookings) := by decide +kernel
  have unnamed : ∀ business, ¬ change.Names business := by
    intro business names
    have htenant := Request.tenant?_eq_some_iff.2 names
    exact Option.some_ne_none _ (htenant.symm.trans rfl)
  have names : order.Names (Sample.name _ 1) := by
    refine Request.tenant?_eq_some_iff.1 ?_
    simp only [Request.tenant?, Request.plainHeader?, String.all_bool_eq]
    decide +kernel
  have still : t.Still := ⟨rfl, rfl⟩
  refine ⟨⟨⟨hchange, horder⟩, by decide, by decide, unnamed, names, still⟩, ?_, ?_⟩
  · exact (serve_gated hchange (by decide) (Sample.name _ 1) (.ofSecond 0)).1 unnamed 1000 t
  · obtain ⟨-, runs⟩ :=
      (serve_gated horder (by decide) (Sample.name _ 1) (.ofSecond 0)).2 _ names
    obtain ⟨made, hmade, hnames⟩ := runs 1000 t still []
    exact hmade ▸ hnames

/-- The gate stays closed, but if there is no time at all, this is not what is said. -/
theorem gate_answers_late :
    let list : Request := ⟨.get, "/bookings", [], []⟩
    (Route.ofPath? list.path = some (.desk .bookings) ∧ list.method ∈ Place.methods .bookings ∧
      ∀ business, ¬ list.Names business) ∧
    (serve 0 (Sample.name _ 1) (.ofSecond 0) list (Timeline.start Sample.world)).1 =
      some (.bare 408) ∧
    Response.bare 408 ≠ businessRequired list := by
  intro list
  refine ⟨⟨by decide +kernel, by decide, fun business names => ?_⟩, by decide +kernel, ?_⟩
  · have htenant := Request.tenant?_eq_some_iff.2 names
    exact Option.some_ne_none _ (htenant.symm.trans rfl)
  · exact fun h => absurd (congrArg Response.status h) (by decide)

end Http
end BookingDesk
