import Courier.Failure.Basic
import Courier.Text.Lower
import Courier.Text.Split
import Courier.Value.Integer

/-!
# The lines of a response head

A status line is a protocol name, a status of digit signs, and the reason,
which is all the rest. A header line is a name and a value with a colon
between them. Blanks around the parts do not count, and names are kept in
lower case.
-/

namespace Courier.Response

open Courier.Text

/-- The parts of a status line. -/
structure StatusLine where
  protocol : String
  status : Int
  reason : String
  deriving DecidableEq, Repr

/-- The text without the characters of line ends at either end. -/
def trimLineEnds (s : List Char) : List Char := trimBy (fun c => c == '\r' || c == '\n') s

/-- The text of a line that is given as any value: line ends are taken off a text alone. -/
def lineOf : Value → Except Failure (List Char)
  | .text s => .ok s.toList
  | .bytes _ | .byteArray _ => .error (.misuse .bytesNeeded)
  | v => .error (.noMember v.typeName "strip")

/-- The protocol names that are understood start with this. -/
def protocolStart : List Char := "HTTP/".toList

/-- Reads the status: digit signs that spell a number. -/
def readStatus (code : List Char) : Except Failure Int :=
  if allDigitSigns code then Integer.ofText code
  else .error (.invalidResponse (.statusCode (String.ofList code)))

def StatusLine.read (line : List Char) : Except Failure StatusLine :=
  let refused : Except Failure StatusLine :=
    .error (.invalidResponse (.statusLine (String.ofList line)))
  match words 2 (trimLineEnds line) with
  | protocol :: code :: reason =>
      if protocolStart.isPrefixOf protocol then
        (readStatus code).map fun status =>
          { protocol := String.ofList protocol
            status
            reason := String.ofList reason.flatten }
      else refused
  | _ => refused

/-- Reads a header line as a name in lower case and a value. -/
def readHeader (line : List Char) : Except Failure (String × String) :=
  match partitionAt ':' (trimLineEnds line) with
  | (name, some value) =>
      if (trim name).isEmpty then .error (.invalidResponse (.headerLine (String.ofList line)))
      else .ok (String.ofList (lower (trim name)), String.ofList (trim value))
  | (_, none) => .error (.invalidResponse (.headerLine (String.ofList line)))

end Courier.Response
