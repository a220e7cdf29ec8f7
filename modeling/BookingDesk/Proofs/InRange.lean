import BookingDesk.Config
import Mathlib.Data.List.Forall2

/-!
# Numbers in range

Three settings are numbers. What is accepted as one of them is said without the reader: blanks, at
most one plus sign and digits, for a number below the bound (`Config.Spells`). The reader accepts
nothing else (`Config.numeral?_eq_some_iff`), and the settings are read one after the other up to
the first that is at fault (`Config.read_cases`). Main statement: `Config.read_exactly`.
-/
namespace BookingDesk.Config

open Text Decimal

variable {lookup : String → Option String} {value : String} {n m bound : Nat}

/-! ## Numerals -/

/-- The text is a numeral of the number: digits, at least one, behind a plus sign or none, with
nothing but blanks around them. -/
def Spells (value : String) (n : Nat) : Prop :=
  ∃ before sign digits after, value.toList = before ++ (sign ++ digits) ++ after ∧
    (∀ c ∈ before ++ after, isBlank c = true) ∧ (sign = [] ∨ sign = ['+']) ∧
    digits ≠ [] ∧ (∀ c ∈ digits, c.isDigit = true) ∧ Nat.ofDigitChars 10 digits 0 = n

/-- A number that is written out, with zeros in front up to any width. -/
theorem spells_padded (n width : Nat) {before sign after : List Char}
    (hblanks : ∀ c ∈ before ++ after, isBlank c = true) (hsign : sign = [] ∨ sign = ['+']) :
    Spells (String.ofList (before ++ (sign ++ padded width n) ++ after)) n :=
  ⟨before, sign, padded width n, after, String.toList_ofList, hblanks, hsign,
    padded_ne_nil width n, fun _ => isDigit_of_mem_padded, ofDigitChars_padded width n⟩

theorem numeral?_eq_some_iff :
    numeral? bound value.toList = some n ↔ Spells value n ∧ n < bound := by
  rw [numeral?, readBelow?_eq_some_iff]
  constructor
  · rintro ⟨hne, hdigits, hn, hbound⟩
    obtain ⟨before, after, hvalue, hblanks⟩ := exists_eq_append_trim value.toList
    obtain ⟨sign, hsign, htrim⟩ := exists_eq_append_dropPlus (trim value.toList)
    rw [htrim] at hvalue
    exact ⟨⟨before, sign, _, after, hvalue, hblanks, hsign, hne, hdigits, hn⟩, hbound⟩
  · rintro ⟨⟨before, sign, digits, after, hvalue, hblanks, hsign, hne, hdigits, hn⟩, hbound⟩
    have hvisible : ∀ c ∈ sign ++ digits, isBlank c = false := by
      intro c hc
      rcases List.mem_append.1 hc with hc | hc
      · obtain rfl | rfl := hsign
        · cases hc
        · rw [List.mem_singleton.1 hc]
          rfl
      · exact isBlank_of_isDigit (hdigits c hc)
    rw [hvalue, trim_append hblanks hvisible, dropPlus_append hsign hdigits]
    exact ⟨hne, hdigits, hn, hbound⟩

/-- A text is a numeral of one number only: the one that is read where the bound leaves room. -/
theorem Spells.unique (hn : Spells value n) (hm : Spells value m) : n = m := by
  have hread {k : Nat} (hk : Spells value k) (hle : k ≤ max n m) :
      numeral? (max n m + 1) value.toList = some k :=
    numeral?_eq_some_iff.2 ⟨hk, Nat.lt_succ_of_le hle⟩
  have hfirst := hread hn (Nat.le_max_left n m)
  have hsecond := hread hm (Nat.le_max_right n m)
  exact Option.some_inj.1 (hfirst.symm.trans hsecond)

/-! ## One quantity -/

/-- A setting that is a number. -/
structure Quantity where
  name : String
  bound : Nat
  default : Nat
  /-- Where it stands among the settings. -/
  field : Config → Nat

/-- All settings that are numbers, in the order in which they are read. -/
def quantities : List Quantity :=
  [⟨"PORT", Nat.pow 2 16, 3000, listenPort⟩,
    ⟨"DATABASE_MAX_CONNECTIONS", Nat.pow 2 32, 5, maxConnections⟩,
    ⟨"REQUEST_TIMEOUT_SECS", Nat.pow 2 64, 30, requestTimeout⟩]

namespace Quantity

/-- The number that a quantity is given: its default, or the one that its text is a numeral of if
it is in range. -/
inductive Gives (lookup : String → Option String) (q : Quantity) : Nat → Prop
  | unset (missing : lookup q.name = none) : q.Gives lookup q.default
  | set {value : String} {n : Nat} (found : lookup q.name = some value) (spelled : Spells value n)
      (inRange : n < q.bound) : q.Gives lookup n

/-- The quantity as it is read. -/
def number (lookup : String → Option String) (q : Quantity) : Except Fault Nat :=
  Config.number lookup q.name q.bound q.default

variable {q : Quantity}

theorem Gives.of_some (h : q.Gives lookup n) (found : lookup q.name = some value) :
    Spells value n ∧ n < q.bound := by
  cases h with
  | unset missing => cases missing.symm.trans found
  | set found' spelled inRange =>
    cases found'.symm.trans found
    exact ⟨spelled, inRange⟩

/-- The number that is given is read, and if none is then the text is the fault. -/
theorem number_cases (lookup : String → Option String) (q : Quantity) :
    (∃ n, q.number lookup = .ok n ∧ q.Gives lookup n) ∨
      ∃ value, q.number lookup = .error (.invalidNumber q.name value) ∧
        lookup q.name = some value ∧ ¬ ∃ n, q.Gives lookup n := by
  unfold number Config.number
  cases found : lookup q.name with
  | none => exact .inl ⟨q.default, rfl, .unset found⟩
  | some value =>
    cases hread : numeral? q.bound value.toList with
    | some n =>
      obtain ⟨spelled, inRange⟩ := numeral?_eq_some_iff.1 hread
      exact .inl ⟨n, by simp [hread], .set found spelled inRange⟩
    | none =>
      refine .inr ⟨value, by simp [hread], rfl, fun ⟨n, hgives⟩ => ?_⟩
      have hsome := numeral?_eq_some_iff.2 (hgives.of_some found)
      cases hread.symm.trans hsome

end Quantity

/-! ## All of them -/

/-- The first of the quantities that is given no number, with the text that it is set to. -/
def FirstAtFault (lookup : String → Option String) (qs : List Quantity) (q : Quantity)
    (value : String) : Prop :=
  ∃ before behind, qs = before ++ q :: behind ∧ (∀ p ∈ before, ∃ n, p.Gives lookup n) ∧
    lookup q.name = some value ∧ ¬ ∃ n, q.Gives lookup n

theorem FirstAtFault.cons {p q : Quantity} {qs : List Quantity} (hgives : p.Gives lookup n)
    (h : FirstAtFault lookup qs q value) : FirstAtFault lookup (p :: qs) q value := by
  obtain ⟨before, behind, rfl, hbefore, hfault⟩ := h
  exact ⟨p :: before, behind, rfl, List.forall_mem_cons.2 ⟨⟨n, hgives⟩, hbefore⟩, hfault⟩

/-- Quantities are read up to the first that is given no number. -/
theorem mapM_number_cases (lookup : String → Option String) (qs : List Quantity) :
    (∃ ns, qs.mapM (Quantity.number lookup) = .ok ns ∧
        List.Forall₂ (Quantity.Gives lookup) qs ns) ∨
      ∃ q value, qs.mapM (Quantity.number lookup) = .error (.invalidNumber q.name value) ∧
        FirstAtFault lookup qs q value := by
  induction qs with
  | nil => exact .inl ⟨[], rfl, .nil⟩
  | cons q qs ih =>
    rw [List.mapM_cons]
    obtain ⟨n, hn, hgives⟩ | ⟨value, herror, hfault⟩ := q.number_cases lookup
    · obtain ⟨ns, hns, hall⟩ | ⟨p, value, herror, hfirst⟩ := ih
      · exact .inl ⟨n :: ns, by simp only [hn, hns]; rfl, .cons hgives hall⟩
      · exact .inr ⟨p, value, by simp only [hn, herror]; rfl, hfirst.cons hgives⟩
    · exact .inr ⟨q, value, by simp only [herror]; rfl, [], qs, rfl, by simp, hfault⟩

/-- The settings are a text and the quantities, which are read in their order. -/
theorem map_read (lookup : String → Option String) :
    (read lookup).map (fun c => (c.databaseUrl, quantities.map (·.field c))) =
      (quantities.mapM (Quantity.number lookup)).map
        ((lookup "DATABASE_URL").getD "postgres://localhost/booking", ·) := by
  simp only [read, quantities, List.mapM_cons, List.mapM_nil, Quantity.number]
  cases number lookup "PORT" (Nat.pow 2 16) 3000 with
  | error e => rfl
  | ok port =>
    cases number lookup "DATABASE_MAX_CONNECTIONS" (Nat.pow 2 32) 5 with
    | error e => rfl
    | ok connections => cases number lookup "REQUEST_TIMEOUT_SECS" (Nat.pow 2 64) 30 <;> rfl

variable {c : Config} {q : Quantity}

theorem gives_of_read (hread : read lookup = .ok c) :
    (∀ q ∈ quantities, q.Gives lookup (q.field c)) ∧
      c.databaseUrl = (lookup "DATABASE_URL").getD "postgres://localhost/booking" := by
  have hmap := map_read lookup
  obtain ⟨ns, hns, hall⟩ | ⟨q, value, herror, -⟩ := mapM_number_cases lookup quantities
  · rw [hread, hns] at hmap
    obtain ⟨hurl, hfields⟩ := Prod.mk.inj (Except.ok.inj hmap)
    rw [← hfields, List.forall₂_map_right_iff, List.forall₂_same] at hall
    exact ⟨hall, hurl⟩
  · rw [hread, herror] at hmap
    cases hmap

theorem firstAtFault_of_read {e : Fault} (hread : read lookup = .error e) :
    ∃ q value, FirstAtFault lookup quantities q value ∧ e = .invalidNumber q.name value := by
  have hmap := map_read lookup
  obtain ⟨ns, hns, -⟩ | ⟨q, value, herror, hfirst⟩ := mapM_number_cases lookup quantities
  · rw [hread, hns] at hmap
    cases hmap
  · rw [hread, herror] at hmap
    exact ⟨q, value, hfirst, Except.error.inj hmap⟩

theorem exists_read_iff :
    (∃ c, read lookup = .ok c) ↔ ∀ q ∈ quantities, ∃ n, q.Gives lookup n := by
  constructor
  · intro ⟨c, hread⟩ q hq
    exact ⟨q.field c, (gives_of_read hread).1 q hq⟩
  · intro hall
    cases hread : read lookup with
    | ok c => exact ⟨c, rfl⟩
    | error e =>
      obtain ⟨q, value, ⟨before, behind, heq, -, -, hnone⟩, -⟩ := firstAtFault_of_read hread
      have hq : q ∈ quantities := by simp [heq]
      exact absurd (hall q hq) hnone

/-- A text is read as nothing but the number that it is a numeral of. -/
theorem field_of_spells (hread : read lookup = .ok c) (hq : q ∈ quantities)
    (found : lookup q.name = some value) (spelled : Spells value n) :
    q.field c = n ∧ n < q.bound := by
  obtain ⟨hfield, hbound⟩ := ((gives_of_read hread).1 q hq).of_some found
  obtain rfl := spelled.unique hfield
  exact ⟨rfl, hbound⟩

/-- The settings are read if and only if every quantity is unset or has a numeral in range. Then
each has its number, and otherwise the first at fault is told with its text as it is. So a number
is read back from each of its numerals, and no other number is ever read from them. -/
theorem read_exactly (lookup : String → Option String) :
    ((∃ c, read lookup = .ok c) ↔ ∀ q ∈ quantities, ∃ n, q.Gives lookup n) ∧
      (∀ c, read lookup = .ok c → (∀ q ∈ quantities, q.Gives lookup (q.field c)) ∧
        c.databaseUrl = (lookup "DATABASE_URL").getD "postgres://localhost/booking") ∧
      (∀ e, read lookup = .error e → ∃ q value,
        FirstAtFault lookup quantities q value ∧ e = .invalidNumber q.name value) ∧
      (∀ q ∈ quantities, ∀ n < q.bound, ∀ (width : Nat) (before sign after : List Char),
        (∀ c ∈ before ++ after, isBlank c = true) → (sign = [] ∨ sign = ['+']) →
        lookup q.name = some (String.ofList (before ++ (sign ++ padded width n) ++ after)) →
        (∀ p ∈ quantities, p ≠ q → ∃ m, p.Gives lookup m) →
        ∃ c, read lookup = .ok c ∧ q.field c = n) ∧
      ∀ c, read lookup = .ok c → ∀ q ∈ quantities, ∀ value n, lookup q.name = some value →
        Spells value n → q.field c = n ∧ n < q.bound := by
  refine ⟨exists_read_iff, fun c => gives_of_read, fun e => firstAtFault_of_read, ?_,
    fun c hread q hq value n => field_of_spells hread hq⟩
  intro q hq n hbound width before sign after hblanks hsign found hothers
  have spelled := spells_padded n width hblanks hsign
  have hall : ∀ p ∈ quantities, ∃ m, p.Gives lookup m := by
    intro p hp
    by_cases hpq : p = q
    · exact ⟨n, hpq ▸ .set found spelled hbound⟩
    · exact hothers p hp hpq
  obtain ⟨c, hread⟩ := exists_read_iff.2 hall
  exact ⟨c, hread, (field_of_spells hread hq found spelled).1⟩

/-- The greatest port, with an ideographic space, a plus sign and two zeros in front and a line
break behind. -/
theorem read_exactly_greatest_port :
    let lookup := fun name => if name = "PORT" then some "\u3000+0065535\n" else none
    ∃ c, read lookup = .ok c ∧ c.listenPort = 65535 := by
  intro lookup
  have hblanks : ∀ c ∈ ['\u3000'] ++ ['\n'], isBlank c = true := by
    simp only [List.cons_append, List.nil_append, List.forall_mem_cons]
    exact ⟨rfl, rfl, nofun⟩
  refine (read_exactly lookup).2.2.2.1 _ List.mem_cons_self 65535 (by decide) 7 ['\u3000'] ['+']
    ['\n'] hblanks (.inr rfl) (by decide) ?_
  intro p hp hne
  simp only [quantities, List.mem_cons, List.not_mem_nil, or_false] at hp
  obtain rfl | rfl | rfl := hp
  · exact absurd rfl hne
  · exact ⟨5, .unset (by decide)⟩
  · exact ⟨30, .unset (by decide)⟩

example : read (fun name =>
      if name = "PORT" then some "8080"
      else if name = "DATABASE_MAX_CONNECTIONS" then some " 4294967296"
      else if name = "REQUEST_TIMEOUT_SECS" then some "soon"
      else none) =
    .error (.invalidNumber "DATABASE_MAX_CONNECTIONS" " 4294967296") := by
  decide

end BookingDesk.Config
