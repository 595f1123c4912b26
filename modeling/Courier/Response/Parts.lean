import Courier.Entries
import Courier.Value.Equality
import Courier.Value.Pairs
import Courier.Value.Text

/-!
# Responses of loose parts

A response may also be put together from any values, none of which is
checked. Such responses can be compared and shown, as far as their parts can.
-/

namespace Courier

/-- A response of unchecked parts. -/
structure ResponseParts where
  status : Value
  message : Value
  body : Value
  headers : Value := .null

namespace ResponseParts

/-- Responses are the same if status, message and body are; headers do not count. -/
def same (a b : ResponseParts) : Except Failure Bool :=
  Value.allSame [(a.status, b.status), (a.message, b.message), (a.body, b.body)]

/-- The text that logs show for a response. -/
def shown (parts : ResponseParts) : Except Failure String := do
  let status ← parts.status.plainString
  let message ← parts.message.plainString
  let body ← parts.body.shownString
  .ok ("<ResponseResult " ++ status ++ " " ++ message ++ " body=" ++ body ++ ">")

/-- The headers: none, if they count as false. -/
def entries (parts : ResponseParts) : Except Failure (Entries Value Value) :=
  if parts.headers.truthy then parts.headers.toMembers else .ok []

end ResponseParts

end Courier
