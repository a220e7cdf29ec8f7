import BookingDesk.Json.Token

/-!
# From symbols to JSON tokens

The lexer goes over the document once, from left to right; all that it remembers of what it has
passed is a `Scan`. Every document has tokens: where the rules of the format are broken the last
token is `bad`, so that a reader meets the fault only when it comes that far.
-/
namespace BookingDesk.Json

/-- A character of the document, or `none` for a byte that belongs to no character. -/
abbrev Symbol := Option Char

/-! ## Numerals -/

/-- How far a numeral has come. -/
inductive Part where
  | sign | zero | whole | point | fraction | mark | markSign | exponent
deriving DecidableEq, Repr

namespace Part

/-- Where a numeral stands after one more character, if it goes on with it. -/
def next? : Part → Char → Option Part
  | .sign, c => if c = '0' then some zero else if c.isDigit then some whole else none
  | .zero, c => if c = '.' then some point else if c = 'e' ∨ c = 'E' then some mark else none
  | .whole, c =>
    if c.isDigit then some whole else if c = '.' then some point
    else if c = 'e' ∨ c = 'E' then some mark else none
  | .point, c => if c.isDigit then some fraction else none
  | .fraction, c =>
    if c.isDigit then some fraction else if c = 'e' ∨ c = 'E' then some mark else none
  | .mark, c =>
    if c.isDigit then some exponent else if c = '+' ∨ c = '-' then some markSign else none
  | .markSign, c => if c.isDigit then some exponent else none
  | .exponent, c => if c.isDigit then some exponent else none

/-- Whether a numeral may end here. -/
def complete : Part → Bool
  | .zero | .whole | .fraction | .exponent => true
  | _ => false

end Part

/-! ## One symbol at a time -/

/-- What the lexer is inside of. What has been seen of a text or numeral is kept last first. -/
inductive Mode where
  | between
  | text (seen : List Piece)
  | escape (seen : List Piece)
  | hex (seen : List Piece) (missing unit : Nat)
  | word (token : Token) (missing : List Char)
  | number (part : Part) (seen : List Char)
  | failed
deriving DecidableEq, Repr

/-- The tokens found so far, last first, and what the lexer is inside of. -/
structure Scan where
  found : List Token
  mode : Mode
deriving DecidableEq, Repr

namespace Scan

def start : Scan := ⟨[], .between⟩

def emit (s : Scan) (t : Token) : Scan := ⟨t :: s.found, .between⟩

def fail (s : Scan) : Scan := ⟨.bad :: s.found, .failed⟩

def enter (s : Scan) (m : Mode) : Scan := ⟨s.found, m⟩

/-- The first symbol of a token, or a blank. -/
def begin (s : Scan) : Symbol → Scan
  | none => s.fail
  | some c =>
    if c = ' ' ∨ c = '\n' ∨ c = '\t' ∨ c = '\r' then s.enter .between
    else if c = '\x7b' then s.emit .openObject
    else if c = '\x7d' then s.emit .closeObject
    else if c = '[' then s.emit .openArray
    else if c = ']' then s.emit .closeArray
    else if c = ',' then s.emit .comma
    else if c = ':' then s.emit .colon
    else if c = '"' then s.enter (.text [])
    else if c = 't' then s.enter (.word (.bool true) ['r', 'u', 'e'])
    else if c = 'f' then s.enter (.word (.bool false) ['a', 'l', 's', 'e'])
    else if c = 'n' then s.enter (.word .null ['u', 'l', 'l'])
    else if c = '-' then s.enter (.number .sign [c])
    else match Part.sign.next? c with
      | some part => s.enter (.number part [c])
      | none => s.fail

/-- The character that a letter behind a backslash stands for. -/
def escaped? (c : Char) : Option Char :=
  if c = '"' ∨ c = '\\' ∨ c = '/' then some c
  else if c = 'b' then some '\x08'
  else if c = 'f' then some '\x0c'
  else if c = 'n' then some '\n'
  else if c = 'r' then some '\r'
  else if c = 't' then some '\t'
  else none

/-- The piece that four hexadecimal digits stand for. -/
def pieceOf (unit : Nat) : Piece :=
  if isLeading unit || isTrailing unit then .half unit else .char (Char.ofNat unit)

def step (s : Scan) (x : Symbol) : Scan :=
  match s.mode, x with
  | .failed, _ => s
  | .between, x => s.begin x
  | .text seen, none => s.enter (.text (.stray :: seen))
  | .text seen, some c =>
    if c = '"' then s.emit (.text seen.reverse)
    else if c = '\\' then s.enter (.escape seen)
    else if c.toNat < 0x20 then s.fail
    else s.enter (.text (.char c :: seen))
  | .escape seen, some c =>
    if c = 'u' then s.enter (.hex seen 4 0)
    else match escaped? c with
      | some d => s.enter (.text (.char d :: seen))
      | none => s.fail
  | .hex seen missing unit, some c =>
    match Hex.digit? c with
    | none => s.fail
    | some d =>
      let unit := unit * 16 + d.val
      if missing ≤ 1 then s.enter (.text (pieceOf unit :: seen))
      else s.enter (.hex seen (missing - 1) unit)
  | .word token missing, some c =>
    match missing with
    | [] => s.fail
    | [d] => if c = d then s.emit token else s.fail
    | d :: more => if c = d then s.enter (.word token more) else s.fail
  | .number part seen, some c =>
    match part.next? c with
    | some part => s.enter (.number part (c :: seen))
    | none =>
      if part.complete && !c.isDigit then (s.emit (.number seen.reverse)).begin (some c) else s.fail
  | .number part seen, none =>
    if part.complete then (s.emit (.number seen.reverse)).fail else s.fail
  | _, none => s.fail

/-- The tokens of a document that ends here. -/
def finish (s : Scan) : List Token :=
  match s.mode with
  | .between | .failed => s.found.reverse
  | .number part seen =>
    if part.complete then (s.emit (.number seen.reverse)).found.reverse else s.fail.found.reverse
  | _ => s.fail.found.reverse

end Scan

def tokens (document : List Symbol) : List Token :=
  (document.foldl Scan.step .start).finish

def tokensOf (s : String) : List Token := tokens (s.toList.map some)

end BookingDesk.Json
