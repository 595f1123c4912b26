import Courier.Request.Basic
import Courier.Value.Equality
import Courier.Value.Pairs

/-!
# Requests of loose parts

A request may also be put together from any values, none of which is checked.
Such requests can be compared and shown, as far as their parts can.
-/

namespace Courier

/-- A request of unchecked parts. -/
structure RequestParts where
  method : Value
  url : Value
  target : Value
  headers : Value
  body : Value := .null

namespace RequestParts

/-- Requests are the same if all their parts are, whatever the order of headers. -/
def same (a b : RequestParts) : Except Failure Bool :=
  Value.allSame
    [(a.method, b.method), (a.url, b.url), (a.target, b.target), (a.headers, b.headers),
     (a.body, b.body)]

/-- The text that logs show for a request. -/
def shown (parts : RequestParts) : Except Failure String := do
  let method ← parts.method.plainString
  let url ← parts.url.plainString
  .ok ("<RequestSpec " ++ method ++ " " ++ url ++ ">")

end RequestParts

namespace Request

/-- The parts of a request that is ready to be sent. -/
def parts (r : Request) : RequestParts where
  method := r.method
  url := .text r.url
  target := .text r.target
  headers := .map r.headers
  body := match r.body with
    | some body => .bytes body
    | none => .null

/-- The text that logs show for a request. -/
def shown (r : Request) : Except Failure String := r.parts.shown

/-- Whether requests that share all their parts are the same: the method is
the only part that is compared as it stands. -/
def equalsItself (r : Request) : Bool := r.method.equalsItself

end Request

end Courier
