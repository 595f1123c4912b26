import Courier.Decimal.Layout
import Courier.Failure.Basic
import Courier.Text.Quoted

/-!
# Values as text

A value has two texts: `shown`, in which texts are quoted so that the type
can be told, and `plain`, which is `shown` except that a text stands for
itself. Neither exists for integers of too many digits or for values nested
too deep.
-/

namespace Courier.Value

open Courier.Text Courier.Decimal

/-- The parts with a comma and a space between them. -/
def commaSeparated (parts : List (List Char)) : List Char := [',', ' '].intercalate parts

/-- The quoted text of an integer. -/
def showInteger (i : Int) : Except Failure (List Char) :=
  match Integer.decimal? i with
  | some digits => .ok digits
  | none => .error (.unacceptable (.tooManyDigits none))

/-- A tuple of already shown parts: a single part keeps its comma. -/
def tupleText : List (List Char) → List Char
  | [part] => '(' :: part ++ [',', ')']
  | parts => '(' :: commaSeparated parts ++ [')']

/-- The shown text of a value nested no deeper than `depth`. -/
def shownWithin : Nat → Value → Except Failure (List Char)
  | 0, _ => .error (.tooDeep .showing)
  | depth + 1, v =>
      match v with
      | .null => .ok "None".toList
      | .bool b => .ok (if b then "True" else "False").toList
      | .int i => showInteger i
      | .float x => .ok x.toText
      | .text s => .ok (Quoted.text s.toList)
      | .bytes bs => .ok (Quoted.bytes bs)
      | .byteArray bs => .ok (Quoted.byteArray bs)
      | .list items =>
          (items.mapM (shownWithin depth)).map fun parts => '[' :: commaSeparated parts ++ [']']
      | .tuple items => (items.mapM (shownWithin depth)).map tupleText
      | .set [] => .ok "set()".toList
      | .set items =>
          (items.mapM (shownWithin depth)).map fun parts =>
            '\x7b' :: commaSeparated parts ++ ['\x7d']
      | .map entries =>
          (entries.mapM fun entry =>
            (shownWithin depth entry.1).bind fun key =>
              (shownWithin depth entry.2).map fun value => key ++ [':', ' '] ++ value).map
            fun parts => '\x7b' :: commaSeparated parts ++ ['\x7d']
      | .object _ => .ok "<object object>".toList
      | .knot true => .ok "\x7b'k': [\x7b...\x7d]\x7d".toList
      | .knot false => .ok "[\x7b'k': [...]\x7d]".toList

/-- The text of a value in which texts are quoted. -/
def shown (v : Value) : Except Failure (List Char) := shownWithin nestingLimit v

def plain : Value → Except Failure (List Char)
  | .text s => .ok s.toList
  | v => v.shown

def plainString (v : Value) : Except Failure String := v.plain.map String.ofList

def shownString (v : Value) : Except Failure String := v.shown.map String.ofList

end Courier.Value
