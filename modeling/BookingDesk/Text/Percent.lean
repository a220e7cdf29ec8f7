import BookingDesk.Text.Hex
import BookingDesk.Text.Split
import BookingDesk.Text.Utf8

/-!
# Percent encoding

In addresses and forms a byte may be written as a percent sign and two hexadecimal digits. A percent
sign that is not followed by two digits stands for itself. In forms a plus sign stands for a blank,
and names and values alternate.
-/
namespace BookingDesk.Percent

def byte? (a b : Char) : Option UInt8 := do
  return UInt8.ofNat ((← Hex.digit? a).val * 16 + (← Hex.digit? b).val)

/-- The bytes that a text stands for. -/
def bytes : List Char → List UInt8
  | [] => []
  | '%' :: a :: b :: rest =>
    match byte? a b with
    | some x => x :: bytes rest
    | none => '%'.toUInt8 :: bytes (a :: b :: rest)
  | c :: rest => (String.singleton c).toUTF8.toList ++ bytes rest

/-- The text that an encoded text stands for, if its bytes spell one. -/
def decode? (cs : List Char) : Option String := Utf8.decode? (bytes cs)

/-- A name or value in a form. -/
def decodeForm (cs : List Char) : String :=
  Utf8.decodeLossy (bytes (cs.map fun c => if c = '+' then ' ' else c))

/-- The names and values of a form, in order. A name without an equals sign has an empty value. -/
def form (cs : List Char) : List (String × String) :=
  ((Text.splitAtAll '&' cs).filter (· ≠ [])).map fun pair =>
    let (name, value) := Text.splitAtFirst '=' pair
    (decodeForm name, decodeForm (value.getD []))

/-! ## Texts that stand for themselves -/

theorem toUTF8_singleton {c : Char} (h : c.toNat < 128) :
    (String.singleton c).toUTF8.toList = [c.toUInt8] := by
  have hencode : String.utf8EncodeChar c = [c.toUInt8] := by
    rw [String.utf8EncodeChar]
    exact if_pos (show c.toNat ≤ 127 by omega)
  have hbytes : (String.singleton c).toUTF8 = ⟨#[c.toUInt8]⟩ := by
    simp [String.toUTF8, List.utf8Encode, hencode]
    rfl
  rw [hbytes, ByteArray.toList, ByteArray.toList.loop, ByteArray.toList.loop]
  rfl

theorem bytes_of_plain {cs : List Char} (ascii : ∀ c ∈ cs, c.toNat < 128) (plain : '%' ∉ cs) :
    bytes cs = cs.map Char.toUInt8 := by
  fun_induction bytes cs with
  | case1 => rfl
  | case2 | case3 => exact absurd List.mem_cons_self plain
  | case4 c rest _ ih =>
    obtain ⟨hc, hrest⟩ := List.forall_mem_cons.1 ascii
    rw [toUTF8_singleton hc, ih hrest fun h => plain (List.mem_cons_of_mem _ h)]
    rfl

theorem decode?_of_plain {cs : List Char} (ascii : ∀ c ∈ cs, c.toNat < 128) (plain : '%' ∉ cs) :
    decode? cs = some (String.ofList cs) := by
  rw [decode?, bytes_of_plain ascii plain, Utf8.decode?_map_toUInt8 ascii]

end BookingDesk.Percent
