import Courier.Entries
import Courier.Failure.Message
import Courier.Text.Utf8

/-!
# Requests

A request that is ready to be sent, and its bytes on the wire: the request
line, a line for each header, an empty line, and the body. Header lines are
the only part that is checked: a name must not be empty or hold a colon, and
neither a name nor a value may hold what could end the line.
-/

namespace Courier

open Courier.Text

/-- A request that is ready to be sent. -/
structure Request where
  method : Value
  url : String
  target : String
  headers : Entries Value Value
  body : Option (List UInt8) := none

namespace Request

/-- Characters that could end a header line. -/
def breaksLine (c : Char) : Bool := c == '\r' || c == '\n' || c == '\x00'

/-- The text of a header line, without its end. -/
def headerLine (name value : Value) : Except Failure (List Char) := do
  let name ← name.plain
  let value ← value.plain
  if name.isEmpty || name.contains ':' || (name ++ value).any breaksLine then
    .error (.invalidHeader (String.ofList name) (String.ofList value))
  else .ok (name ++ ':' :: ' ' :: value)

/-- The request line, without its end. -/
def requestLine (method target : Value) : Except Failure (List Char) := do
  let method ← method.plain
  let target ← target.plain
  .ok (method ++ ' ' :: target ++ " HTTP/1.1".toList)

/-- The text of a head: its lines, each with its end, and the empty line. -/
def headText (lines : List (List Char)) : List Char :=
  lines.flatMap (· ++ ['\r', '\n']) ++ ['\r', '\n']

/-- The bytes of a request of any method and target. -/
def encodeParts (method target : Value) (headers : Entries Value Value) (body : List UInt8) :
    Except Failure (List UInt8) := do
  let first ← requestLine method target
  let lines ← headers.mapM fun header => headerLine header.1 header.2
  .ok (Utf8.encode (headText (first :: lines)) ++ body)

def encode (r : Request) : Except Failure (List UInt8) :=
  encodeParts r.method (.text r.target) r.headers (r.body.getD [])

/-- The bytes of a request of any values. Headers must be a map, and a body
that counts as true must be a byte string. -/
def encodeValues (method target headers body : Value) : Except Failure (List UInt8) :=
  match headers.members? with
  | none => (requestLine method target).bind fun _ => .error (.noMember headers.typeName "items")
  | some members => do
      let head ← encodeParts method target members []
      match body with
      | .bytes bs | .byteArray bs => .ok (head ++ bs)
      | body =>
          if body.truthy then .error (.misuse (.notBytes body.typeName)) else .ok head

end Request

end Courier
