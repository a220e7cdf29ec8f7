import BookingDesk.Proofs.Copies

/-!
# The life of a booking, whatever is read

A new version is stored only if the status is still the one that was looked up. So it does not
matter how old the copy was: along a run, a row is stored as pending and then moves along the table,
and each move is told as a success to exactly one caller. Main statement: every run is safe in this
sense (`Run.safe`).
-/
namespace BookingDesk

/-! ## The table -/

namespace Status

/-- How far a booking has come. -/
def rank : Status → Nat
  | pending => 0
  | confirmed => 1
  | cancelled | completed => 2

theorem rank_lt_of_allows {s t : Status} (h : s.allows t = true) : s.rank < t.rank := by
  simp only [allows_iff, List.mem_cons, Prod.mk.injEq, List.not_mem_nil, or_false] at h
  rcases h with ⟨rfl, rfl⟩ | ⟨rfl, rfl⟩ | ⟨rfl, rfl⟩ | ⟨rfl, rfl⟩ <;> decide

theorem rank_le_of_isTerminal {s : Status} (h : s.isTerminal = true) (t : Status) :
    t.rank ≤ s.rank := by
  cases s <;> cases t <;> first | decide | cases h

end Status

namespace Request.Run

/-- Rows live along the table, and each move is told as a success once. -/
structure Safe (r : Run) : Prop where
  pending : ∀ {n id row}, r.row n id = none → r.row (n + 1) id = some row → row.status = .pending
  along : ∀ {n id old row}, r.row n id = some old → r.row (n + 1) id = some row →
    row.status = old.status ∨ old.status.allows row.status = true
  terminal : ∀ {m n id old row}, m ≤ n → r.row m id = some old → old.status.isTerminal = true →
    r.row n id = some row → row.status = old.status
  /-- A new version is only stored where there is an old one. -/
  replaces : ∀ {n i copy b before id}, r.turns[n]? = some (i, copy) →
    (r.after n).call? i = some (.replace b before) → r.row n id = none → r.row (n + 1) id = none
  /-- A change that succeeds has looked up one booking; if the status is another now, one turn of
  the request has moved the row, from the status that was looked up. -/
  moved : ∀ {i q made}, r.requests[i]? = some q → q.drawn? = none →
    r.outcome? i = some (.ok made) →
    ∃ m old, r.Loads i m old ∧ made.id = old.id ∧
      ((∀ c, q ≠ .update c) → made.status ≠ old.status) ∧
      (made.status = old.status → ∀ n id s t, ¬ r.Moves i n id s t) ∧
      (made.status ≠ old.status → old.status.allows made.status = true ∧
        ∃ n, r.Moves i n old.id old.status made.status ∧ r.row (n + 1) old.id = some made ∧
          ∀ k id s t, r.Moves i k id s t → k = n)
  /-- Of changes that looked up the same status of a booking, one changes it. -/
  once : ∀ {i j m n old old' made made'}, r.Loads i m old → r.Loads j n old' → old.id = old'.id →
    old.status = old'.status → r.outcome? i = some (.ok made) →
    r.outcome? j = some (.ok made') → made.status ≠ old.status →
    made'.status ≠ old'.status → i = j

/-! ## The life of a row -/

variable {r : Run} {i k n m : Nat} {q : Request} {id : BookingId} {old row : Booking} {ch : Change}

/-- A row goes back to what it was before, or it is new and pending. -/
theorem Sound.row_step (h : r.Sound n) (hrow : r.row (n + 1) id = some row) :
    (∃ old, r.row n id = some old ∧
      (row.status = old.status ∨ old.status.allows row.status = true)) ∨
    row.status = .pending ∧ ∀ m ≤ n, r.row m id = none := by
  rcases r.row_succ n with hsame | ⟨i, copy, g, -, hg, ⟨b, rfl, -, -, hnext⟩ | ⟨b, e, -, hnext⟩ |
    ⟨b, stored, rfl, hstored, hnext⟩⟩
  · exact .inl ⟨row, hsame id ▸ hrow, .inl rfl⟩
  · rw [hnext] at hrow
    split at hrow
    · rename_i hid
      cases hrow
      obtain ⟨q, -, past⟩ := h.past hg
      cases past with
      | creating _ _ pending _ =>
        exact .inr ⟨pending _ rfl, fun m hm => h.unstored hg (hid ▸ rfl) hm⟩
      | made _ _ has => cases has <;> contradiction
    · exact .inl ⟨row, hrow, .inl rfl⟩
  · rw [hnext] at hrow
    split at hrow
    · cases hrow
    · exact .inl ⟨row, hrow, .inl rfl⟩
  · rw [hnext] at hrow
    split at hrow
    · rename_i hid
      cases hrow
      refine .inl ⟨stored, hid ▸ hstored, ?_⟩
      obtain ⟨q, -, past⟩ := h.past hg
      generalize hs : stored.status = before at past
      cases past with
      | creating _ creating _ _ => cases creating
      | replace loaded _ => exact Change.status_of_admits loaded.admitted
      | made _ _ has => cases has <;> contradiction
    · exact .inl ⟨row, hrow, .inl rfl⟩

/-- Along a run the status of a row stays or comes closer to the end. -/
theorem status_along (fresh : Fresh r.requests r.start) (hmn : m ≤ n)
    (hold : r.row m id = some old) (hrow : r.row n id = some row) :
    row.status = old.status ∨ old.status.rank < row.status.rank := by
  induction hmn generalizing row with
  | refl =>
    rw [hold] at hrow
    cases hrow
    exact .inl rfl
  | @step n hmn ih =>
    obtain ⟨mid, hmid, hstep⟩ | ⟨-, hnone⟩ := (sound fresh n).row_step hrow
    · have hleft := ih hmid
      obtain hsame | hallows := hstep
      · rwa [hsame]
      · have hlt := Status.rank_lt_of_allows hallows
        obtain hsame | hrank := hleft
        · exact .inr (hsame ▸ hlt)
        · exact .inr (Nat.lt_trans hrank hlt)
    · rw [hnone m hmn] at hold
      cases hold

/-- A row leaves a status once. -/
theorem moves_once (fresh : Fresh r.requests r.start) {j : Nat} {s t t' : Status}
    (h : r.Moves i m id s t) (h' : r.Moves j n id s t') : m = n := by
  have hne : ∀ {i j m n t t'}, r.Moves i m id s t → r.Moves j n id s t' → ¬ m < n := by
    rintro i j m n t t' ⟨-, hne, ⟨old, hold, rfl⟩, new, hnew, rfl⟩ ⟨-, -, ⟨old', hold', hs⟩, -⟩ hlt
    have hfirst := status_along fresh (Nat.le_succ m) hold hnew
    have hlater := status_along fresh hlt hnew hold'
    rw [hs] at hlater
    obtain hsame | hrank := hfirst
    · exact hne hsame.symm
    · obtain hsame | hrank' := hlater
      · exact hne hsame
      · omega
  have := hne h h'
  have := hne h' h
  omega

/-! ## Success -/

theorem Moves.lt_length {s t : Status} (h : r.Moves i m id s t) : m < r.turns.length := by
  obtain ⟨⟨copy, hturn⟩, -⟩ := h
  exact (List.getElem?_eq_some_iff.1 hturn).1

theorem Loads.lt_length (h : r.Loads i m old) : m < r.turns.length := by
  obtain ⟨copy, _, _, hturn, -⟩ := h
  exact (List.getElem?_eq_some_iff.1 hturn).1

/-- Whoever is told a success has made a booking, or changed the one that was looked up. -/
theorem of_ok (fresh : Fresh r.requests r.start) {made : Booking}
    (ok : r.outcome? i = some (.ok made)) :
    ∃ q, r.requests[i]? = some q ∧ ((q.drawn? ≠ none ∧ ∀ m b, ¬ r.Loads i m b) ∨
      ∃ ch old k, r.Loaded i r.turns.length q ch old ∧ r.Made i r.turns.length k ch old ∧
        made = ch.result old) := by
  rw [outcome?, (r.alike_after _).result?_eq] at ok
  cases hg : (r.stagesAfter r.turns.length).strands[i]? with
  | none =>
    rw [hg] at ok
    cases ok
  | some g =>
    rw [hg, Option.bind_some] at ok
    obtain ⟨q, hq, past⟩ := (sound fresh _).past hg
    refine ⟨q, hq, ?_⟩
    cases past with
    | creating draws _ _ unread =>
      exact .inl ⟨draws, fun m b hloads => unread (hloads.lt_length) hloads⟩
    | @made ch k old _ loaded hmade has =>
      obtain rfl | rfl := has
      · cases ok
      · cases ok
        exact .inr ⟨ch, old, k, loaded, hmade, rfl⟩
    | load | replace | failed => cases ok

/-- A change of status that is told as a success is one move of the row. -/
theorem Made.moves (h : r.Made i n k ch old) (hne : (ch.result old).status ≠ old.status) :
    r.Moves i k old.id old.status (ch.result old).status :=
  ⟨h.turn, hne.symm, h.stored, _, h.made, rfl⟩

theorem Made.not_moves (h : r.Made i r.turns.length k ch old)
    (hsame : (ch.result old).status = old.status) {s t : Status} : ¬ r.Moves i n id s t := by
  intro hmoves
  obtain ⟨rfl, rfl⟩ := h.only hmoves.lt_length hmoves
  obtain ⟨-, hne, ⟨row, hrow, rfl⟩, new, hnew, rfl⟩ := hmoves
  obtain ⟨stored, hstored, hstatus⟩ := h.stored
  rw [hstored] at hrow
  rw [h.made] at hnew
  cases hrow
  cases hnew
  exact hne (hstatus.trans hsame.symm)

/-- Whoever asks for a status, and not for an update, asks for another than there is. -/
theorem status_ne_of_admits (asks : q.start = .load ch) (hne : ∀ c, q ≠ .update c)
    (admitted : ch.admits old.status = true) : (ch.result old).status ≠ old.status := by
  have hwanted : ∀ wanted, old.status.allows wanted = true → wanted ≠ old.status := by
    rintro wanted hallows rfl
    rw [Status.allows_self] at hallows
    cases hallows
  cases q with
  | create id c => exact absurd asks start_ne_load_of_create
  | update c => exact absurd rfl (hne c)
  | confirm c | cancel c | complete c =>
    cases asks
    refine hwanted _ ?_
    simpa [Change.admits, Change.status_result] using admitted

/-- Whatever copies are looked up and however the calls interleave, a run is safe. -/
theorem safe (fresh : Fresh r.requests r.start) : r.Safe where
  pending {n id row} hnone hrow := by
    obtain ⟨old, hold, -⟩ | ⟨hpending, -⟩ := (sound fresh n).row_step hrow
    · rw [hnone] at hold
      cases hold
    · exact hpending
  along {n id old row} hold hrow := by
    obtain ⟨old', hold', hstep⟩ | ⟨-, hnone⟩ := (sound fresh n).row_step hrow
    · rw [hold] at hold'
      cases hold'
      exact hstep
    · rw [hnone n (Nat.le_refl n)] at hold
      cases hold
  terminal hmn hold hterminal hrow := by
    obtain hsame | hrank := status_along fresh hmn hold hrow
    · exact hsame
    · have hle := Status.rank_le_of_isTerminal hterminal
      exact absurd hrank (Nat.not_lt_of_le (hle _))
  replaces {n i copy b before id} hturn hcall hnone := by
    cases hg : (r.stagesAfter n).strands[i]? with
    | none =>
      rw [(r.alike_after n).call?_eq, hg] at hcall
      cases hcall
    | some g =>
      rw [(r.alike_after n).call?_eq, hg, Option.bind_some] at hcall
      rcases r.row_succ n with hrow | ⟨j, copy', g', hturn', hg', ⟨b, rfl, -, -, hrow⟩ |
        ⟨b, e, rfl, hrow⟩ | ⟨b, stored, -, hfound, hrow⟩⟩
      · rw [hrow, hnone]
      · rw [hturn] at hturn'
        cases hturn'
        rw [hg] at hg'
        cases hg'
        cases hcall
      · rw [hrow, hnone, ite_self]
      · rw [hrow]
        split
        · rename_i hid
          rw [hid, hfound] at hnone
          cases hnone
        · exact hnone
  moved {i q made} hq hdrawn ok := by
    obtain ⟨q', hq', ⟨draws, -⟩ | ⟨ch, old, k, loaded, hmade, rfl⟩⟩ := of_ok fresh ok
    · rw [hq] at hq'
      cases hq'
      exact absurd hdrawn draws
    rw [hq] at hq'
    cases hq'
    obtain ⟨m, -, hloads⟩ := loaded.found
    refine ⟨m, old, hloads, rfl, fun hne => status_ne_of_admits loaded.asks hne loaded.admitted,
      fun hsame _ _ _ _ => hmade.not_moves hsame, fun hne => ⟨?_, k, hmade.moves hne, hmade.made,
      fun _ _ _ _ hmoves => (hmade.only hmoves.lt_length hmoves).1⟩⟩
    exact (Change.status_of_admits loaded.admitted).resolve_left hne
  once {i j m n old old' made made'} hloads hloads' hid hstatus ok ok' hne hne' := by
    obtain ⟨q, -, ⟨-, unread⟩ | ⟨ch, _, k, loaded, hmade, rfl⟩⟩ := of_ok fresh ok
    · exact absurd hloads (unread m old)
    obtain ⟨q', -, ⟨-, unread⟩ | ⟨ch', _, k', loaded', hmade', rfl⟩⟩ := of_ok fresh ok'
    · exact absurd hloads' (unread n old')
    cases loaded.only hloads.lt_length hloads
    cases loaded'.only hloads'.lt_length hloads'
    have hmoves := hmade'.moves hne'
    rw [← hid, ← hstatus] at hmoves
    obtain rfl := moves_once fresh (hmade.moves hne) hmoves
    obtain ⟨copy, hturn⟩ := hmade.turn
    obtain ⟨copy', hturn'⟩ := hmade'.turn
    rw [hturn] at hturn'
    cases hturn'
    rfl

/-- A booking is confirmed; a copy of it from before is looked up, and the booking is not
cancelled. -/
theorem safe_stale_cancel :
    let confirmation : ChangeStatus := ⟨Sample.book.business, Sample.booking.id, .ofSecond 1⟩
    let cancellation : ChangeStatus := ⟨Sample.book.business, Sample.booking.id, .ofSecond 2⟩
    let r : Run := ⟨[.create (Sample.name _ 2) Sample.book, .confirm confirmation,
      .cancel cancellation], Sample.world.insert Sample.booking,
      [(0, none), (1, none), (1, none), (2, some Sample.booking), (2, none)]⟩
    (Fresh r.requests r.start ∧ (∃ made, r.outcome? 1 = some (.ok made)) ∧
      r.outcome? 2 = some (.error .modifiedMeanwhile)) ∧ r.Safe := by
  intro confirmation cancellation r
  have fresh : Fresh r.requests r.start := ⟨by decide, by decide⟩
  exact ⟨⟨fresh, ⟨_, rfl⟩, rfl⟩, safe fresh⟩

end Request.Run
end BookingDesk
