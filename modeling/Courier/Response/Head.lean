import Courier.Response.Line
import Courier.Stream
import Courier.Text.Latin1

/-!
# Reading a head

A head is a status line, header lines, and an empty line. It is read as
Latin-1, so every byte string has a text. The status line is kept as it
stands; a header that comes again replaces the earlier value in its place.
-/

namespace Courier.Response

open Courier.Text

/-- The head of a response: its first line, with the line end, and the headers. -/
structure Head where
  statusLine : String
  headers : Entries String String
  deriving Repr

def lineText (line : List UInt8) : List Char := Latin1.decode (line ++ lineEnd)

/-- Reads header lines up to an empty line. -/
def readHeaders (headers : Entries String String) (s : Stream) :
    Outcome (Entries String String) :=
  match _h : s.readLine with
  | .failed failure rest => .failed failure rest
  | .waiting rest => .waiting rest
  | .done [] rest => .done headers rest
  | .done (b :: line) rest =>
      match readHeader (lineText (b :: line)) with
      | .ok (name, value) => readHeaders (headers.put name value) rest
      | .error failure => .failed failure rest
termination_by s.bytes.length
decreasing_by exact Stream.length_readLine _h

def readHead (s : Stream) : Outcome Head :=
  s.readLine.andThen fun line rest =>
    (readHeaders [] rest).map fun headers =>
      { statusLine := String.ofList (lineText line), headers }

end Courier.Response
