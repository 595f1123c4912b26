import Courier.Json.Read
import Courier.Json.Write
import Courier.Query
import Courier.Text.Utf8

/-!
# Payloads

What a caller hands over as a request body, and the bytes it becomes. Byte
strings are sent as they are. A text is sent as it is too, but must be valid
JSON where JSON is sent. Every other value is written in the format of the
client. A payload of no bytes is no body at all.
-/

namespace Courier

open Courier.Text

/-- Names the payload's type in the failures that writing it explains. -/
def Payload.explain (payload : Value) (format : BodyFormat) (explained : Kind → Bool)
    {α : Type} : Except Failure α → Except Failure α
  | .ok a => .ok a
  | .error failure =>
      if explained failure.kind then .error (.unencodable payload.typeName format failure)
      else .error failure

/-- Failures of writing a form that are explained: a value of the wrong type. -/
def Payload.explainedForm (kind : Kind) : Bool := kind == .type

/-- Failures of writing or checking JSON that are explained: a value of the
wrong type, a value that cannot be written, a broken text. -/
def Payload.explainedJson (kind : Kind) : Bool := kind == .type || kind == .value || kind == .json

/-- The text of a payload that is no byte string. -/
def Payload.text (payload : Value) (format : BodyFormat) : Except Failure (List Char) :=
  match format with
  | .form =>
      match payload with
      | .text s => .ok s.toList
      | payload => explain payload .form explainedForm (Query.encode payload)
  | .json =>
      match payload with
      | .text s => explain payload .json explainedJson ((Json.read s.toList).map fun _ => s.toList)
      | payload => explain payload .json explainedJson (Json.write payload)

def Payload.serialize (payload : Value) (format : BodyFormat) :
    Except Failure (Option (List UInt8)) :=
  let nonempty (bytes : List UInt8) : Option (List UInt8) :=
    if bytes.isEmpty then none else some bytes
  match payload with
  | .null => .ok none
  | .bytes bs => .ok (nonempty bs)
  | .byteArray bs => .ok (nonempty bs)
  | payload => (Payload.text payload format).map fun s => nonempty (Utf8.encode s)

end Courier
