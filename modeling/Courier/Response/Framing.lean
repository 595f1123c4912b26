import Courier.Response.Line
import Courier.Value.Text

/-!
# Where a body ends

A response says in its headers how its body is framed: in chunks, with a
length, or up to the end of the data. Whether there is a body at all depends
on the method and the status.
-/

namespace Courier.Response

open Courier.Text

/-- How a body is framed. -/
inductive Framing where
  | chunked
  | fixed (length : Int)
  | untilClosed
  deriving DecidableEq, Repr

/-- The transfer coding that a body in chunks has. -/
def chunkedCoding : List Char := "chunked".toList

/-- The value of the transfer-encoding header speaks of chunks. -/
def speaksOfChunks (value : List Char) : Bool := occursIn chunkedCoding (lower value)

/-- Reads the value of the content-length header: digit signs that spell a number. -/
def readLength (value : List Char) : Except Failure Int :=
  if allDigitSigns value then Integer.ofText value
  else .error (.invalidResponse (.contentLength (String.ofList (Quoted.text value))))

/-- The headers that frame a body. -/
def codingHeader : String := "transfer-encoding"

@[inherit_doc codingHeader]
def lengthHeader : String := "content-length"

def isChunked (headers : Entries String String) : Bool :=
  match headers.get? codingHeader with
  | some value => speaksOfChunks value.toList
  | none => false

/-- The length of the body, if the headers name one. -/
def contentLength (headers : Entries String String) : Except Failure (Option Int) :=
  match headers.get? lengthHeader with
  | some value => (readLength value.toList).map some
  | none => .ok none

/-- The framing of a body. Chunks win over a length. -/
def Framing.ofHeaders (headers : Entries String String) : Except Failure Framing :=
  if isChunked headers then .ok .chunked
  else
    (contentLength headers).map fun length =>
      match length with
      | some n => .fixed n
      | none => .untilClosed

/-- A response with this status has a body, unless the method was one that
asks for the head alone. -/
def statusHasBody (status : Int) : Bool := !(status < 200 || status == 204 || status == 304)

/-- The method asks for the head of a response alone. -/
def headOnly (method : Value) : Bool := method == .text "HEAD"

/-- A body follows the head of a response. -/
def hasBody (method : Value) (status : Int) : Bool := !headOnly method && statusHasBody status

/-! ## Any values as headers and status -/

/-- A header of a map of any values. -/
def headerOf (headers : Value) (name : String) : Except Failure (Option Value) :=
  match headers.members? with
  | some members => .ok (Entries.get? members (.text name))
  | none => .error (.noMember headers.typeName "get")

/-- Whether a map of any values speaks of chunks. -/
def isChunkedIn (headers : Value) : Except Failure Bool := do
  match ← headerOf headers codingHeader with
  | none => .ok false
  | some (.text s) => .ok (speaksOfChunks s.toList)
  | some (.bytes _) | some (.byteArray _) => .error (.misuse .bytesNeeded)
  | some v => .error (.noMember v.typeName "lower")

/-- The length that a map of any values names. -/
def contentLengthIn (headers : Value) : Except Failure (Option Int) := do
  match ← headerOf headers lengthHeader with
  | none | some .null => .ok none
  | some (.text s) => (readLength s.toList).map some
  | some (.bytes bs) => (lengthOfBytes (.bytes bs) bs).map some
  | some (.byteArray bs) => (lengthOfBytes (.byteArray bs) bs).map some
  | some v => .error (.noMember v.typeName "isdigit")
where
  /-- Reads a length that is given as bytes. -/
  lengthOfBytes (v : Value) (bs : List UInt8) : Except Failure Int :=
    if !bs.isEmpty && bs.all fun b => 0x30 ≤ b.toNat && b.toNat ≤ 0x39 then v.toInteger
    else (v.shownString).bind fun shown => .error (.invalidResponse (.contentLength shown))

/-- The framing that a map of any values speaks of. -/
def Framing.ofValue (headers : Value) : Except Failure Framing := do
  if ← isChunkedIn headers then .ok .chunked
  else
    match ← contentLengthIn headers with
    | some n => .ok (.fixed n)
    | none => .ok .untilClosed

/-- Whether a body follows, for any values of method and status. -/
def hasBodyFor (method status : Value) : Except Failure Bool :=
  if headOnly method then .ok false
  else
    match status.number? with
    | none => .error (.misuse (.unordered "<" status.typeName "int"))
    | some n =>
        .ok !(n.lessThan 200 || n.equal (.int 204) || n.equal (.int 304))

end Courier.Response
