import BookingDesk.Text.GraphemeExtend
import BookingDesk.Text.Hex

/-!
# Quoted text

Text between quotation marks, in a form that shows every character: quotation marks, backslashes,
the common control characters and NUL are escaped with a letter, and all that cannot be seen by
itself with its number.
-/
namespace BookingDesk.Text

def quoteChar (c : Char) : List Char :=
  if c = '\x00' then ['\\', '0']
  else if c = '\t' then ['\\', 't']
  else if c = '\r' then ['\\', 'r']
  else if c = '\n' then ['\\', 'n']
  else if c = '\\' ∨ c = '"' then ['\\', c]
  else if isGraphemeExtend c || isUnprintable c then
    '\\' :: 'u' :: '\x7b' :: Hex.write c.toNat ++ ['\x7d']
  else [c]

def quoted (s : String) : String :=
  String.ofList ('"' :: s.toList.flatMap quoteChar ++ ['"'])

end BookingDesk.Text
