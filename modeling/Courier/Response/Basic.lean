import Courier.Response.Body
import Courier.Response.Head
import Courier.Text.Utf8

/-!
# Responses

What comes back for a request. A `Reply` is what was read off the stream; a
`Response` is what the caller gets, with the body as text.
-/

namespace Courier

open Courier.Text

/-- A response as it was read: status, reason, headers, and the bytes of the body. -/
structure Reply where
  status : Int
  reason : String
  headers : Entries String String
  content : List UInt8
  deriving Repr

namespace Response

/-- Reads the body that follows a head, as a whole. -/
def readContent (method : Value) (status : Int) (headers : Entries String String) (s : Stream) :
    Outcome (List UInt8) :=
  if hasBody method status then
    (Outcome.ofExcept s (Framing.ofHeaders headers)).andThen fun framing s =>
      let run := readBody framing blockSize s
      run.outcome.map fun _ => run.blocks.flatten
  else .done [] s

/-- Reads a whole response to a request with the given method. -/
def readReply (method : Value) (s : Stream) : Outcome Reply :=
  (readHead s).andThen fun head s =>
    (Outcome.ofExcept s (StatusLine.read head.statusLine.toList)).andThen fun line s =>
      (readContent method line.status head.headers s).map fun content =>
        { status := line.status, reason := line.reason, headers := head.headers, content }

end Response

/-- A response as its caller sees it. -/
structure Response where
  status : Int
  message : String
  body : String
  headers : Entries String String := []
  deriving Repr

namespace Response

def ofReply (reply : Reply) : Response where
  status := reply.status
  message := reply.reason
  body := String.ofList (Utf8.decodeLossy reply.content)
  headers := reply.headers

/-- The text that logs show for a response. -/
def shown (r : Response) : String :=
  "<ResponseResult " ++ String.ofList (Integer.decimal r.status) ++ " " ++ r.message ++ " body="
    ++ String.ofList (Quoted.text r.body.toList) ++ ">"

end Response

end Courier
