import Courier.Dispatch.Progress
import Courier.Exchange
import Courier.Failure.Guard
import Courier.Request.Basic
import Courier.Url.Parts

/-!
# Dispatching requests

A run sends the same request many times at once to one target. All requests
ask for the address of the host before any lookup is answered, so they share
one lookup; then each goes its own way on a connection of its own. A request
whose failure is not one of the network's ends the whole run with it.
-/

namespace Courier

open Courier.Text
open Courier.Dispatch

/-- The target of a run, and the time that each request may take. -/
structure Dispatcher where
  host : Value
  port : Value
  path : Value
  timeout : Value := .null

/-- Everything that a run did: its progress to the end, what each request
did, the lookups, and the log. -/
structure RunReport where
  progress : Progress
  journals : List (Journal Reply)
  lookups : Lookups
  log : Log

namespace Dispatcher

/-- The headers of every request. -/
def headers (d : Dispatcher) : Except Failure (Entries Value Value) :=
  (authority d.host d.port).map fun host =>
    [(.text "Host", host), (.text "Connection", .text "close")]

/-- The bytes of every request. -/
def rawRequest (d : Dispatcher) : Except Failure (List UInt8) := do
  Request.encodeParts (.text "GET") d.path (← d.headers) []

/-- The destination of every request. -/
def destination (d : Dispatcher) : Destination where
  host := d.host
  port := d.port
  secure := false

/-- What is logged when a run starts. -/
def startLog (d : Dispatcher) (count : Nat) : Except Failure Log := do
  let count ← (Value.int count).plainString
  let host ← d.host.plainString
  let port ← d.port.plainString
  let path ← d.path.plainString
  .ok [⟨.debug, "dispatching " ++ count ++ " requests to " ++ host ++ ":" ++ port ++ path⟩]

/-- How a request ended, as its line tells it. A failure that is not one of
the network's has no line, and a wait without end has none either. -/
def conclusion (journal : Journal Reply) : Except (Option Failure) Conclusion :=
  match journal.verdict with
  | .ok reply => .ok (.answered (String.ofList (Utf8.decodeLossy reply.content)))
  | .failed failure =>
      if failure.guarded.isTransport then .ok (.failed failure.guarded)
      else .error (some failure.guarded)
  | .waiting => .error none

/-- One request, from the address of the host on. Its connection is closed when
its line is told, so one whose failure has no line keeps it open. -/
def issue (d : Dispatcher) (raw : List UInt8) (limit : TimeLimit) (lookups : Lookups)
    (address : Except Failure Value) (peer : Peer) : Journal Reply :=
  match address with
  | .error failure => ({ verdict := .failed failure, lookups } : Journal Reply).bound limit
  | .ok address =>
      let journal := ((({} : Transport).connectAt lookups d.destination address peer).exchange
        (.ok raw) (.text "GET")).bound limit
      match conclusion journal with
      | .ok _ => journal.release
      | .error _ => journal

/-- All requests, with the lookups and the log of resolving the host. Requests
that may not take any time do not even ask for the address. -/
def issueAll (d : Dispatcher) (resolver : Resolver) (peers : Nat → Peer) (raw : List UInt8)
    (count : Nat) : List (Journal Reply) × Lookups × Log :=
  let unstarted (failure : Failure) : List (Journal Reply) × Lookups × Log :=
    (List.replicate count { verdict := .failed failure, lookups := {} }, {}, [])
  match TimeLimit.ofValue d.timeout with
  | .error failure => unstarted failure
  | .ok .expired => unstarted .waitExpired
  | .ok limit =>
      let (addresses, lookups, log) := resolver.resolveAll {} (List.replicate count d.host)
        limit.patient
      (addresses.mapIdx fun i address => d.issue raw limit lookups address (peers i), lookups, log)

/-- The first failure that ends the whole run. -/
def escaping (journals : List (Journal Reply)) : Option Failure :=
  journals.findSome? fun journal => match conclusion journal with
    | .error (some failure) => some failure
    | _ => none

def requestLog (journal : Journal Reply) : Log :=
  journal.log ++ match journal.verdict with
    | .failed failure => failure.guardLog
    | _ => []

/-- What stands before the first request of a run: the number of requests, their bytes,
and the line that tells of both. -/
def setUp (d : Dispatcher) (count : Value) : Except Failure (Nat × List UInt8 × Log) := do
  let count ← readCount count
  let raw ← d.rawRequest
  .ok (count, raw, ← d.startLog count)

/-- What a run comes to once its requests are on their way, if these end in the order of
their indices. -/
def comesTo (n : Nat) (issued : List (Journal Reply) × Lookups × Log) (started : Log) :
    Verdict RunReport :=
  match escaping issued.1 with
  | some failure => .failed failure
  | none =>
      match issued.1.mapM conclusion with
      | .error _ => .waiting
      | .ok conclusions =>
          .ok
            { progress := (Progress.start n).finishAll (conclusions.mapIdx (·, ·))
              journals := issued.1
              lookups := issued.2.1
              log := started ++ issued.2.2 ++ issued.1.flatMap requestLog }

/-- A run: a count that cannot be used or a request that cannot be written ends it at once. -/
def run (d : Dispatcher) (resolver : Resolver) (peers : Nat → Peer) (count : Value) :
    Verdict RunReport :=
  match d.setUp count with
  | .error failure => .failed failure
  | .ok (n, raw, started) => comesTo n (d.issueAll resolver peers raw n) started

end Dispatcher

end Courier
