import Courier.Client.Build
import Courier.Exchange
import Courier.Failure.Guard

/-!
# Sending requests

Every request is sent on a connection of its own, which is closed when the
call ends, however it ends. How a call ended is logged, if the client is to
log: once for a response, once for a failure that a caller is meant to
handle, and never for any other failure.
-/

namespace Courier.Client

/-- The destination of a client's requests. -/
def destination (c : Client) : Destination where
  host := (c.options.get? (.text "host")).getD .null
  port := (c.options.get? (.text "port")).getD (.int c.url.effectivePort)
  secure := c.url.secure

/-- Connects to the destination and exchanges a request for a response. -/
def exchange (c : Client) (resolver : Resolver) (lookups : Lookups) (peer : Peer)
    (patient : Bool) (request : Request) : Journal Reply :=
  (({} : Transport).connect resolver lookups c.destination peer patient).exchange request.encode
    request.method

/-- What is logged when a request has ended. -/
def endLog (c : Client) (url : String) : Verdict Response → Log
  | .ok response =>
      if c.debug.truthy then
        [⟨.info, "Request to [" ++ url ++ "] resolved: " ++ response.shown⟩]
      else []
  | .failed failure =>
      if failure.isTransport && c.debug.truthy then
        [⟨.info, "Request to [" ++ url ++ "] failed: " ++ failure.message⟩]
      else []
  | .waiting => []

/-- Ends a request: failures pass the border, and the end is logged. -/
def conclude (c : Client) (url : String) (journal : Journal Reply) : Journal Response :=
  let (verdict, wrapped) : Verdict Response × Log := match journal.verdict with
    | .ok reply => (.ok (Response.ofReply reply), [])
    | .failed failure => (.failed failure.guarded, failure.guardLog)
    | .waiting => (.waiting, [])
  { verdict
    attempts := journal.attempts
    link := journal.link
    lookups := journal.lookups
    log := journal.log ++ wrapped ++ c.endLog url verdict }

def send (c : Client) (resolver : Resolver) (lookups : Lookups) (peer : Peer)
    (request : Request) : Journal Response :=
  match TimeLimit.ofValue c.timeout with
  | .error failure => c.conclude request.url { verdict := .failed failure, lookups }
  | .ok .expired => c.conclude request.url { verdict := .failed .waitExpired, lookups }
  | .ok limit =>
      c.conclude request.url
        ((c.exchange resolver lookups peer limit.patient request).bound limit).release

/-- Makes a call. If its request cannot be built nothing is sent and nothing is logged. -/
def request (c : Client) (resolver : Resolver) (lookups : Lookups) (peer : Peer) (call : Call) :
    Journal Response :=
  match c.build call with
  | .error failure => { verdict := .failed failure, lookups }
  | .ok request => c.send resolver lookups peer request

end Courier.Client
