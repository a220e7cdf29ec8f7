import BookingDesk.Text.Hex

/-!
# JSON tokens

The marks, texts, numerals and words of a JSON document, and how each is spelled. A text is a list
of pieces: besides characters it may hold a lone half of a surrogate pair, which an escape can
spell, and a stray byte, which belongs to no character. Only a text whose halves pair up and that
has no stray byte can be decoded.
-/
namespace BookingDesk.Json

inductive Piece where
  | char (c : Char)
  /-- One half of a surrogate pair: a number from 0xD800 to 0xDFFF. -/
  | half (unit : Nat)
  | stray
deriving DecidableEq, Repr

inductive Token where
  | openObject | closeObject | openArray | closeArray | comma | colon
  | text (pieces : List Piece)
  | number (spelling : List Char)
  | bool (value : Bool)
  | null
  /-- Here the document stops being a sequence of tokens. -/
  | bad
deriving DecidableEq, Repr

/-! ## Texts -/

def isLeading (unit : Nat) : Bool := 0xD800 ≤ unit && unit < 0xDC00

def isTrailing (unit : Nat) : Bool := 0xDC00 ≤ unit && unit < 0xE000

/-- The character that two halves stand for. -/
def joinHalves (leading trailing : Nat) : Char :=
  Char.ofNat (0x10000 + (leading - 0xD800) * 0x400 + (trailing - 0xDC00))

/-- The characters read so far, last first, followed by those of the pieces. -/
def decodeOnto (seen : List Char) : List Piece → Option (List Char)
  | [] => some seen.reverse
  | .char c :: rest => decodeOnto (c :: seen) rest
  | .half a :: .half b :: rest =>
    if isLeading a && isTrailing b then decodeOnto (joinHalves a b :: seen) rest else none
  | _ :: _ => none

def decode (pieces : List Piece) : Option (List Char) := decodeOnto [] pieces

theorem decodeOnto_chars (seen cs : List Char) :
    decodeOnto seen (cs.map .char) = some (seen.reverse ++ cs) := by
  induction cs generalizing seen with
  | nil => simp [decodeOnto]
  | cons c cs ih => simp [decodeOnto, ih]

@[simp] theorem decode_chars (cs : List Char) : decode (cs.map .char) = some cs := by
  simp [decode, decodeOnto_chars]

def Token.ofString (s : String) : Token := .text (s.toList.map .char)

/-! ## Spelling -/

/-- Four hexadecimal digits. -/
def fourDigits (n : Nat) : List Char :=
  let ds := Hex.write n
  List.replicate (4 - ds.length) '0' ++ ds

/-- A quotation mark, a backslash and the control characters are escaped, with a letter where there
is one. -/
def escape (c : Char) : List Char :=
  if c = '"' then ['\\', '"']
  else if c = '\\' then ['\\', '\\']
  else if c = '\x08' then ['\\', 'b']
  else if c = '\t' then ['\\', 't']
  else if c = '\n' then ['\\', 'n']
  else if c = '\x0c' then ['\\', 'f']
  else if c = '\r' then ['\\', 'r']
  else if c.toNat < 0x20 then '\\' :: 'u' :: fourDigits c.toNat
  else [c]

/-- A stray byte has no spelling of its own and is replaced. -/
def Piece.spell : Piece → List Char
  | .char c => escape c
  | .half unit => '\\' :: 'u' :: fourDigits unit
  | .stray => ['\uFFFD']

def Token.spell : Token → List Char
  | .openObject => ['\x7b']
  | .closeObject => ['\x7d']
  | .openArray => ['[']
  | .closeArray => [']']
  | .comma => [',']
  | .colon => [':']
  | .text pieces => '"' :: pieces.flatMap Piece.spell ++ ['"']
  | .number spelling => spelling
  | .bool true => "true".toList
  | .bool false => "false".toList
  | .null => "null".toList
  | .bad => []

/-- The document without blanks between its tokens. -/
def render (ts : List Token) : String := String.ofList (ts.flatMap Token.spell)

end BookingDesk.Json
