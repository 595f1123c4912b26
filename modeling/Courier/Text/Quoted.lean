import Courier.Text.Digit
import Courier.Text.Printable

/-!
# Quoted text

How a text or a byte string is shown inside a message: between quotes, with
line ends, quotes and everything unprintable escaped, so that a reader sees
where it begins and ends. The single quote is used unless the content holds
single quotes and no double ones.
-/

namespace Courier.Text.Quoted

/-- The quote that needs the fewest escapes. -/
def delimiter (single double : Bool) : Char := if single && !double then '"' else '\''

/-- Escapes one character of a text quoted with `quote`. -/
def escapeChar (quote c : Char) : List Char :=
  if c = quote ∨ c = '\\' then ['\\', c]
  else if c = '\t' then ['\\', 't']
  else if c = '\n' then ['\\', 'n']
  else if c = '\r' then ['\\', 'r']
  else if isPrintable c then [c]
  else if c.toNat < 0x100 then '\\' :: 'x' :: hexDigits 2 c.toNat
  else if c.toNat < 0x10000 then '\\' :: 'u' :: hexDigits 4 c.toNat
  else '\\' :: 'U' :: hexDigits 8 c.toNat

def text (s : List Char) : List Char :=
  let quote := delimiter (s.contains '\'') (s.contains '"')
  quote :: s.flatMap (escapeChar quote) ++ [quote]

/-- Escapes one byte of a byte string in which `quote` must not stand alone:
printable ASCII stands for itself. -/
def escapeByte (quote : Char) (b : UInt8) : List Char :=
  let c := Char.ofNat b.toNat
  if c = quote ∨ c = '\\' then ['\\', c]
  else if c = '\t' then ['\\', 't']
  else if c = '\n' then ['\\', 'n']
  else if c = '\r' then ['\\', 'r']
  else if 0x20 ≤ b.toNat ∧ b.toNat < 0x7F then [c]
  else '\\' :: 'x' :: hexDigits 2 b.toNat

/-- A byte string between quotes, marked with a `b`. -/
def bytes (bs : List UInt8) : List Char :=
  let quote := delimiter (bs.contains 0x27) (bs.contains 0x22)
  'b' :: quote :: bs.flatMap (escapeByte quote) ++ [quote]

/-- A byte array: the quotes around it are those of a byte string, and inside
it a single quote is escaped whichever quotes these are. -/
def byteArray (bs : List UInt8) : List Char :=
  let quote := delimiter (bs.contains 0x27) (bs.contains 0x22)
  "bytearray(b".toList ++ quote :: bs.flatMap (escapeByte '\'') ++ [quote, ')']

/-- No escaped character is empty, so a quoted text is at least as long as its content. -/
theorem escapeChar_ne_nil (quote c : Char) : escapeChar quote c ≠ [] := by
  unfold escapeChar; split <;> (try split) <;> simp_all
  all_goals (repeat' split) <;> simp

end Courier.Text.Quoted
