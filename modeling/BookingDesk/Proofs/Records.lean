import BookingDesk.Json.Record
import BookingDesk.Proofs.Spelling

/-!
# Records through JSON

While an object is read that was written from a row, the fields that come first are in place and the
members of the others are still to come; `Fields.Stands` says so, and one member more keeps it. So
the row that was written is the row that is read. The other way round, whatever form a record came
in, what was read of it returns: each value did, when it was read by itself.
-/
namespace BookingDesk.Json

namespace Fields

variable {αs : List Type} {fs : Fields αs}

def names : {αs : List Type} → Fields αs → List String
  | _, nil => []
  | _, cons f rest => f.name :: rest.names

/-- Every value of the row returns through the shape of its field. -/
def Returns : {αs : List Type} → Fields αs → Row αs → Prop
  | _, nil, () => True
  | _, cons f rest, (a, as) => f.shape.Returns a ∧ rest.Returns as

/-! ## What was written is read -/

/-- The first fields are in place; those of the others are still to come, as these members. -/
def Stands : {αs : List Type} → Fields αs → Row αs → PartialRow αs → List (List Token) → Prop
  | _, nil, (), (), ms => ms = []
  | _, cons f rest, (a, as), (slot, slots), ms =>
    slot = some a ∧ rest.Stands as slots ms ∨
      slot = none ∧ slots = rest.nothing ∧ ms = (cons f rest).members (a, as)

theorem stands_nothing (fs : Fields αs) (row : Row αs) :
    fs.Stands row fs.nothing (fs.members row) := by
  cases fs with
  | nil => rfl
  | cons f rest => exact .inr ⟨rfl, rfl, rfl⟩

theorem Stands.complete? {row : Row αs} {slots : PartialRow αs} (h : fs.Stands row slots []) :
    fs.complete? slots = some row := by
  induction fs with
  | nil => rfl
  | cons f rest ih =>
    obtain ⟨a, as⟩ := row
    obtain ⟨slot, slots⟩ := slots
    obtain ⟨rfl, hrest⟩ | ⟨-, -, hms⟩ := h
    · simp only [Fields.complete?, ih hrest]
      rfl
    · cases hms

/-- The next member finds its place empty, and fills it with its value. -/
theorem Stands.place? {row : Row αs} {slots : PartialRow αs} {m : List Token}
    {ms : List (List Token)} (h : fs.Stands row slots (m :: ms)) (distinct : fs.names.Nodup)
    (returns : fs.Returns row) :
    ∃ name ∈ fs.names, ∃ value slots' reader, m = Token.ofString name :: .colon :: value ∧
      fs.place? slots name = some (.ok reader) ∧ fs.Stands row slots' ms ∧
      ∀ rest, reader (value ++ rest) = .ok (slots', rest) := by
  induction fs with
  | nil => cases h
  | cons f rest ih =>
    obtain ⟨a, as⟩ := row
    obtain ⟨slot, slots⟩ := slots
    obtain ⟨hfirst, hrest⟩ := List.nodup_cons.1 distinct
    obtain ⟨rfl, hstands⟩ | ⟨rfl, rfl, hms⟩ := h
    · -- the first field is in place, so the member is of another
      obtain ⟨name, hname, value, slots', reader, rfl, hplace, hstands', hread⟩ :=
        ih hstands hrest returns.2
      have hne : f.name ≠ name := fun h => hfirst (h ▸ hname)
      refine ⟨name, List.mem_cons_of_mem _ hname, value, (some a, slots'),
        reader.refine fun slots => .ok (some a, slots), rfl, ?_, .inl ⟨rfl, hstands'⟩, ?_⟩
      · simp only [Fields.place?, if_neg hne, hplace, Option.map_some]
        rfl
      · intro rest
        simp only [Reader.refine, hread]
    · cases hms
      refine ⟨f.name, List.mem_cons_self .., f.shape.write a, (some a, rest.nothing),
        f.shape.read.refine fun a => .ok (some a, rest.nothing), rfl, ?_,
        .inl ⟨rfl, stands_nothing rest as⟩, ?_⟩
      · simp only [Fields.place?, if_true]
      · intro ts
        simp only [Reader.refine, returns.1 ts]

/-- One member more is read. -/
theorem Stands.readMember {row : Row αs} {slots : PartialRow αs} {m : List Token}
    {ms : List (List Token)} (h : fs.Stands row slots (m :: ms)) (distinct : fs.names.Nodup)
    (returns : fs.Returns row) :
    ∃ slots', fs.Stands row slots' ms ∧
      ∀ rest, fs.readMember slots (m ++ rest) = .ok (slots', rest) := by
  obtain ⟨name, -, value, slots', reader, rfl, hplace, hstands, hread⟩ :=
    h.place? distinct returns
  refine ⟨slots', hstands, fun rest => ?_⟩
  simp [Fields.readMember, Token.ofString, hplace, hread]

/-- The rest of the object is read, by induction on the members that are still to come. -/
theorem Stands.readMore {row : Row αs} (distinct : fs.names.Nodup) (returns : fs.Returns row)
    {ms : List (List Token)} {slots : PartialRow αs} (h : fs.Stands row slots ms) {fuel : Nat}
    (hfuel : ms.length ≤ fuel) (rest : List Token) :
    fs.readMore fuel slots (ms.flatMap (.comma :: ·) ++ .closeObject :: rest) =
      .ok (row, rest) := by
  induction ms generalizing slots fuel with
  | nil =>
    rw [List.flatMap_nil, List.nil_append, Fields.readMore, finish, h.complete?]
    rfl
  | cons m ms ih =>
    obtain ⟨slots', hstands, hread⟩ := h.readMember distinct returns
    cases fuel with
    | zero => simp at hfuel
    | succ fuel =>
      rw [List.flatMap_cons, List.append_assoc, List.cons_append, Fields.readMore, hread]
      exact ih hstands (Nat.le_of_succ_le_succ hfuel)

theorem intercalate_comma (m : List Token) (ms : List (List Token)) :
    List.intercalate [.comma] (m :: ms) = m ++ ms.flatMap (.comma :: ·) := by
  induction ms generalizing m with
  | nil => simp [List.intercalate]
  | cons n ms ih =>
    have := ih n
    simp_all [List.intercalate]

theorem length_le_flatMap (ms : List (List Token)) :
    ms.length ≤ (ms.flatMap (.comma :: ·)).length := by
  induction ms with
  | nil => simp
  | cons m ms ih =>
    simp only [List.flatMap_cons, List.length_append, List.length_cons]
    omega

theorem readObject_of_readMember {name : String} {slots : PartialRow αs} {ts rest : List Token}
    (h : fs.readMember fs.nothing (Token.ofString name :: ts) = .ok (slots, rest)) :
    fs.readObject (Token.ofString name :: ts) = fs.readMore (ts.length + 1) slots rest := by
  rw [Token.ofString] at h ⊢
  simp only [readObject, h, List.length_cons]

/-- The object of a row is read as the row. -/
theorem read_writeObject (distinct : fs.names.Nodup) {row : Row αs} (returns : fs.Returns row)
    (rest : List Token) : fs.read (fs.writeObject row ++ rest) = .ok (row, rest) := by
  have hstart := stands_nothing fs row
  simp only [writeObject, List.cons_append, List.append_assoc, List.nil_append, read]
  cases hms : fs.members row with
  | nil =>
    rw [hms] at hstart
    simp [List.intercalate, readObject, finish, hstart.complete?, Except.map]
  | cons m ms =>
    rw [hms] at hstart
    obtain ⟨name, -, value, -, -, rfl, -⟩ := hstart.place? distinct returns
    obtain ⟨slots, hstands, hread⟩ := hstart.readMember distinct returns
    have hfuel := length_le_flatMap ms
    simp only [List.cons_append] at hread
    simp only [intercalate_comma, List.cons_append, List.append_assoc,
      readObject_of_readMember (hread _)]
    refine hstands.readMore distinct returns ?_ rest
    simp only [List.length_cons, List.length_append]
    omega

end Fields

/-! ## What was read returns -/

/-- Whatever is read has the property. -/
def Reader.Gives {α : Type} (read : Reader α) (P : α → Prop) : Prop :=
  ∀ ⦃ts a rest⦄, read ts = .ok (a, rest) → P a

theorem Reader.Gives.refine {α β : Type} {read : Reader α} {P : α → Prop} {Q : β → Prop}
    {f : α → Except Fault β} (h : read.Gives P) (hf : ∀ a b, P a → f a = .ok b → Q b) :
    (read.refine f).Gives Q := by
  intro ts b rest hread
  rw [Reader.refine] at hread
  split at hread
  · cases hread
  · rename_i a rest' ha
    split at hread
    · cases hread
    · rename_i b' hb
      cases hread
      exact hf a b (h ha) hb

/-- Whatever is read through the shape returns. -/
def Shape.Stable {α : Type} (s : Shape α) : Prop := s.read.Gives s.Returns

/-- So does what stands for a field that is missing. -/
def Field.Stable {α : Type} (f : Field α) : Prop :=
  f.shape.Stable ∧ (∀ a ∈ f.absent, f.shape.Returns a) ∧ ∀ a ∈ f.short, f.shape.Returns a

namespace Fields

variable {αs : List Type} {fs : Fields αs} {slots : PartialRow αs} {row : Row αs}

def Stable : {αs : List Type} → Fields αs → Prop
  | _, nil => True
  | _, cons f rest => f.Stable ∧ rest.Stable

/-- Every value that is in place returns. -/
def ReturnsSoFar : {αs : List Type} → Fields αs → PartialRow αs → Prop
  | _, nil, () => True
  | _, cons f rest, (slot, slots) => (∀ a ∈ slot, f.shape.Returns a) ∧ rest.ReturnsSoFar slots

theorem returnsSoFar_nothing (fs : Fields αs) : fs.ReturnsSoFar fs.nothing := by
  induction fs with
  | nil => trivial
  | cons f rest ih => exact ⟨fun _ h => (Option.not_mem_none _ h).elim, ih⟩

theorem ReturnsSoFar.place? (h : fs.ReturnsSoFar slots) (stable : fs.Stable) {key : String}
    {reader : Reader (PartialRow αs)} (hplace : fs.place? slots key = some (.ok reader)) :
    reader.Gives fs.ReturnsSoFar := by
  induction fs with
  | nil => cases hplace
  | cons f fs ih =>
    obtain ⟨slot, slots⟩ := slots
    simp only [Fields.place?] at hplace
    split at hplace
    · cases slot with
      | some => cases hplace
      | none =>
        cases hplace
        refine stable.1.1.refine fun a slots' ha hslots => ?_
        cases hslots
        exact ⟨fun _ h => Option.mem_some.1 h ▸ ha, h.2⟩
    · obtain ⟨r, hr, hmap⟩ := Option.map_eq_some_iff.1 hplace
      cases r with
      | error => cases hmap
      | ok reader =>
        cases hmap
        refine (ih h.2 stable.2 hr).refine fun slots slots' hs hslots => ?_
        cases hslots
        exact ⟨h.1, hs⟩

theorem ReturnsSoFar.readMember (h : fs.ReturnsSoFar slots) (stable : fs.Stable) :
    (fs.readMember slots).Gives fs.ReturnsSoFar := by
  intro ts slots' rest hread
  simp only [Fields.readMember.eq_def] at hread
  split at hread
  · split at hread
    · cases hread
    · split at hread
      · cases hread
      · rename_i hplace
        exact h.place? stable hplace hread
      · -- the key names no field, so nothing has come into place
        cases hskip : Reader.skip ‹_› with
        | error => simp [hskip, Except.map] at hread
        | ok => simp_all [Except.map]
      · cases hread
  · cases hread

theorem ReturnsSoFar.complete? (h : fs.ReturnsSoFar slots) (stable : fs.Stable)
    (hrow : fs.complete? slots = some row) : fs.Returns row := by
  induction fs with
  | nil => trivial
  | cons f fs ih =>
    obtain ⟨slot, slots⟩ := slots
    obtain ⟨a, ha, hrow⟩ := Option.bind_eq_some_iff.1 hrow
    obtain ⟨as, has, hrow⟩ := Option.bind_eq_some_iff.1 hrow
    cases hrow
    refine ⟨?_, ih h.2 stable.2 has⟩
    cases slot with
    | none => exact stable.1.2.1 a ha
    | some => exact h.1 a ha

/-- The end of the object. -/
theorem ReturnsSoFar.finish (h : fs.ReturnsSoFar slots) (stable : fs.Stable)
    {ts rest : List Token} (hfinish : (fs.finish slots).map (·, ts) = .ok (row, rest)) :
    fs.Returns row := by
  rw [Fields.finish] at hfinish
  split at hfinish
  · rename_i hrow
    cases hfinish
    exact h.complete? stable hrow
  · cases hfinish

theorem ReturnsSoFar.readMore (h : fs.ReturnsSoFar slots) (stable : fs.Stable) (fuel : Nat) :
    (fs.readMore fuel slots).Gives fs.Returns := by
  induction fuel generalizing slots with
  | zero =>
    intro ts row rest hread
    rw [Fields.readMore.eq_def] at hread
    split at hread
    · exact h.finish stable hread
    · contradiction
    · cases hread
  | succ fuel ih =>
    intro ts row rest hread
    rw [Fields.readMore.eq_def] at hread
    split at hread
    · exact h.finish stable hread
    · split at hread
      · cases hread
      · rename_i heq _ _ _ hmember
        cases heq
        exact ih (h.readMember stable hmember) hread
    · cases hread

theorem Stable.readObject (stable : fs.Stable) : fs.readObject.Gives fs.Returns := by
  have hstart := returnsSoFar_nothing fs
  intro ts row rest hread
  simp only [Fields.readObject.eq_def] at hread
  split at hread
  · exact hstart.finish stable hread
  · split at hread
    · cases hread
    · rename_i hmember
      exact (hstart.readMember stable hmember).readMore stable _ hread

theorem Stable.readElements (stable : fs.Stable) (first : Bool) :
    (fs.readElements first).Gives fs.Returns := by
  induction fs generalizing first with
  | nil =>
    intro ts row rest hread
    trivial
  | cons f fs ih =>
    have hbehind : ∀ {a}, f.shape.Returns a →
        ((fs.readElements false).refine fun as => .ok (a, as)).Gives (cons f fs).Returns := by
      intro a ha
      refine (ih stable.2 false).refine fun as row has hrow => ?_
      cases hrow
      exact ⟨ha, has⟩
    intro ts row rest hread
    simp only [Fields.readElements.eq_def] at hread
    split at hread
    · split at hread
      · cases hread
      · rename_i hshort
        exact hbehind (stable.1.2.2 _ hshort) hread
    · cases hread
    · split at hread
      · cases hread
      · rename_i ha
        exact hbehind (stable.1.1 ha) hread
    · split at hread
      · cases hread
      · rename_i ha
        exact hbehind (stable.1.1 ha) hread
    · cases hread

theorem Stable.read (stable : fs.Stable) : fs.read.Gives fs.Returns := by
  intro ts row rest hread
  rw [Fields.read.eq_def] at hread
  split at hread
  · exact stable.readObject hread
  · exact stable.readElements true hread
  · cases hread

/-! ## What is written of a row -/

/-- The values of every field are written as tokens that end nowhere but at their end. -/
def Closes : {αs : List Type} → Fields αs → Prop
  | _, nil => True
  | _, cons f rest => f.shape.Closes ∧ rest.Closes

theorem Closes.of_mem_members (closes : fs.Closes) {m : List Token} (hm : m ∈ fs.members row)
    {t : Token} (ht : t ∈ m) : t.Closed := by
  induction fs with
  | nil => cases hm
  | cons f fs ih =>
    obtain ⟨a, as⟩ := row
    rcases List.mem_cons.1 hm with rfl | hm
    · rcases List.mem_cons.1 ht with rfl | ht
      · exact Token.closed_ofString f.name
      · rcases List.mem_cons.1 ht with rfl | ht
        · trivial
        · exact closes.1 a t ht
    · exact ih closes.2 hm

theorem Closes.of_mem_writeObject (closes : fs.Closes) {t : Token} (ht : t ∈ fs.writeObject row) :
    t.Closed := by
  have hmember : ∀ m ∈ fs.members row, ∀ t ∈ m, t.Closed := fun _ hm _ => closes.of_mem_members hm
  rw [writeObject] at ht
  cases hms : fs.members row with
  | nil =>
    simp [hms, List.intercalate] at ht
    rcases ht with rfl | rfl <;> trivial
  | cons m ms =>
    simp [hms, intercalate_comma] at ht hmember
    obtain rfl | ht | ⟨m', hm', rfl | ht⟩ | rfl := ht
    · trivial
    · exact hmember.1 t ht
    · trivial
    · exact hmember.2 m' hm' t ht
    · trivial

end Fields

/-! ## Shapes -/

namespace Shape

variable {α β : Type} {s : Shape α}

theorem closes_text : text.Closes := fun s t ht => by
  cases List.mem_singleton.1 ht
  exact Token.closed_ofString s

theorem Closes.via (h : s.Closes) {toForm : β → α} {ofForm : α → Except Fault β} :
    (s.via toForm ofForm).Closes := fun b => h (toForm b)

theorem closes_spelled {write : α → String} {read? : String → Option α} :
    (spelled write read?).Closes := closes_text.via

theorem Closes.optional (h : s.Closes) : s.optional.Closes
  | none, _, ht => by
    cases List.mem_singleton.1 ht
    trivial
  | some a, t, ht => h a t ht

theorem Closes.writeList (h : s.Closes) (as : List α) : ∀ t ∈ s.writeList as, t.Closed := by
  intro t ht
  cases as with
  | nil =>
    obtain rfl | ht := List.mem_cons.1 ht
    · trivial
    · cases List.mem_singleton.1 ht
      trivial
  | cons a as =>
    simp only [Shape.writeList, List.map_cons, Fields.intercalate_comma, List.mem_cons,
      List.mem_append, List.mem_flatMap, List.mem_map, List.not_mem_nil, or_false] at ht
    obtain (rfl | ht | ⟨_, ⟨b, -, rfl⟩, rfl | ht⟩) | rfl := ht
    · trivial
    · exact h a t ht
    · trivial
    · exact h b t ht
    · trivial

theorem stable_of_returns (h : ∀ a, s.Returns a) : s.Stable := fun _ a _ _ => h a

theorem stable_spelled {write : α → String} {read? : String → Option α}
    (h : ∀ t a, read? t = some a → read? (write a) = some a) : (spelled write read?).Stable := by
  refine (stable_of_returns returns_text).refine fun t a _ ha => returns_spelled (h t a ?_)
  cases hread : read? t <;> simp_all

/-- What was read of a document returns. -/
theorem Stable.of_decode (h : s.Stable) {document : String} {a : α}
    (hread : s.decode document = .ok a) : s.Returns a := by
  rw [decode, Reader.readAll] at hread
  split at hread
  · rename_i hread'
    cases hread
    exact h hread'
  · cases hread
  · cases hread

/-- A value that need not be there returns if it is written as a text. -/
theorem returns_optional {o : Option α}
    (h : ∀ a ∈ o, s.Returns a ∧ ∃ t : String, s.write a = [Token.ofString t]) :
    s.optional.Returns o := by
  cases o with
  | none => exact returns_optional_none s
  | some a =>
    obtain ⟨hreturns, t, hwrite⟩ := h a rfl
    exact hreturns.optional_some hwrite nofun

/-- Nothing stands for a field that must be there. -/
theorem Stable.required (h : s.Stable) (name : String) : (Field.required name s).Stable :=
  ⟨h, nofun, nofun⟩

section Record

variable {αs : List Type} {fs : Fields αs} {toRow : α → Row αs} {ofRow : Row αs → α}

theorem closes_record (closes : fs.Closes) : (record fs toRow ofRow).Closes :=
  fun _ _ ht => closes.of_mem_writeObject ht

theorem returns_record (distinct : fs.names.Nodup) {a : α} (returns : fs.Returns (toRow a))
    (same : ofRow (toRow a) = a) : (record fs toRow ofRow).Returns a := by
  intro rest
  simp only [record, Reader.refine, Fields.read_writeObject distinct returns, same]

theorem stable_record (distinct : fs.names.Nodup) (stable : fs.Stable)
    (same : ∀ row, toRow (ofRow row) = row) : (record fs toRow ofRow).Stable := by
  have hread : (fs.read.refine fun row => .ok (ofRow row)).Gives
      (record fs toRow ofRow).Returns := by
    refine stable.read.refine fun row a hrow ha => ?_
    cases ha
    exact returns_record distinct (by rwa [same]) (by rw [same])
  exact hread

end Record

end Shape
end BookingDesk.Json
