import Courier.Value.Text

/-!
# Writing JSON

A value is written without any blanks. Only quotes, backslashes and control
characters are escaped, so all other text stands as it is. Keys that are
numbers, truth values or nothing are written as the texts of these; other
keys, byte strings, sets and plain objects have no JSON form.
-/

namespace Courier.Json

open Courier.Text Courier.Decimal

/-- One character inside a string. -/
def escapeChar (c : Char) : List Char :=
  if c = '"' ∨ c = '\\' then ['\\', c]
  else if c = '\n' then ['\\', 'n']
  else if c = '\r' then ['\\', 'r']
  else if c = '\t' then ['\\', 't']
  else if c = '\x08' then ['\\', 'b']
  else if c = '\x0c' then ['\\', 'f']
  else if c.toNat < 0x20 then '\\' :: 'u' :: hexDigits 4 c.toNat
  else [c]

def writeText (s : List Char) : List Char := '"' :: s.flatMap escapeChar ++ ['"']

/-- A floating-point number; the values that are not finite have names. -/
def writeFloat : Binary64 → List Char
  | .nan => "NaN".toList
  | .infinity negative => (if negative then "-Infinity" else "Infinity").toList
  | x => x.toText

def keyText : Value → Except Failure (List Char)
  | .text s => .ok s.toList
  | .float x => .ok (writeFloat x)
  | .bool b => .ok (if b then "true" else "false").toList
  | .null => .ok "null".toList
  | .int i => Value.showInteger i
  | v => .error (.misuse (.keyType v.typeName))

/-- The parts with commas between them, in brackets. -/
def bracket (opening closing : Char) (parts : List (List Char)) : List Char :=
  opening :: [','].intercalate parts ++ [closing]

/-- Writes a value nested no deeper than `depth`. -/
def writeWithin : Nat → Value → Except Failure (List Char)
  | _, .null => .ok "null".toList
  | _, .bool b => .ok (if b then "true" else "false").toList
  | _, .int i => Value.showInteger i
  | _, .float x => .ok (writeFloat x)
  | _, .text s => .ok (writeText s.toList)
  | 0, .list _ | 0, .tuple _ | 0, .map _ => .error (.tooDeep .encodingJson)
  | depth + 1, .list items => (items.mapM (writeWithin depth)).map (bracket '[' ']')
  | depth + 1, .tuple items => (items.mapM (writeWithin depth)).map (bracket '[' ']')
  | depth + 1, .map entries =>
      (entries.mapM fun entry =>
        (keyText entry.1).bind fun key =>
          (writeWithin depth entry.2).map fun value => writeText key ++ ':' :: value).map
        (bracket '\x7b' '\x7d')
  | _, .knot _ => .error (.unacceptable .circular)
  | _, v => .error (.misuse (.notJson v.typeName))

def write (v : Value) : Except Failure (List Char) := writeWithin Value.nestingLimit v

end Courier.Json
