import Courier.Text.Percent
import Courier.Value.Text

/-!
# Queries and forms

A map or a sequence of pairs is written as `name=value` fields with `&`
between them. A value that has elements gives one field for each of them,
all under its name; any other value gives one field.
-/

namespace Courier.Query

open Courier.Text

/-- The encoded form of a name or of a single value: byte strings as they
are, all else through its plain text. -/
def component : Value → Except Failure (List Char)
  | .bytes bs => .ok (Percent.encodeBytes bs)
  | v => v.plain.map Percent.encode

/-- The values that a value stands for: its elements, unless it is a text or
a byte string or has none by nature. -/
def spread (v : Value) : List Value :=
  match v with
  | .text _ | .bytes _ => [v]
  | v => v.elements?.getD [v]

def fieldsOf (name value : Value) : Except Failure (List (List Char)) := do
  let name ← component name
  (spread value).mapM fun v => (component v).map fun text => name ++ '=' :: text

/-- The two parts of an element of a sequence of pairs. -/
def pairOf (v : Value) : Except Failure (Value × Value) :=
  match v.elements? with
  | some [name, value] => .ok (name, value)
  | some [] => .error (.unacceptable (.tooFewParts 0))
  | some [_] => .error (.unacceptable (.tooFewParts 1))
  | some _ => .error (.unacceptable .tooManyParts)
  | none => .error (.misuse (.notUnpackable v.typeName))

/-- The elements of a sequence of pairs. Only the first element is asked for
its type: it must be a tuple. -/
def pairs (v : Value) : Except Failure (List Value) :=
  match v with
  | .list (.tuple first :: rest) => .ok (.tuple first :: rest)
  | .tuple (.tuple first :: rest) => .ok (.tuple first :: rest)
  | v =>
      match v.elements? with
      | some [] => .ok []
      | _ => .error (.misuse .notFields)

/-- All fields with `&` between them. -/
def join (fields : List (List (List Char))) : List Char := ['&'].intercalate fields.flatten

/-- Writes a map or a sequence of pairs as a query. -/
def encode (v : Value) : Except Failure (List Char) :=
  match v.members? with
  | some members => (members.mapM fun entry => fieldsOf entry.1 entry.2).map join
  | none => do
      let items ← pairs v
      let fields ← items.mapM fun item =>
        (pairOf item).bind fun pair => fieldsOf pair.1 pair.2
      .ok (join fields)

end Courier.Query
