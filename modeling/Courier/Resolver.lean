import Courier.Entries
import Courier.Log
import Courier.Power
import Courier.Url.Literal
import Courier.Value.Text

/-!
# Resolving hosts

Finds the address of a host. Without a server, and for address literals and
the local host, the host is its own address. Otherwise one lookup is started
for all who ask for the host at the same time; an address that was found is
kept, and a failure is shared by those who waited for it and then forgotten.

The work is given as steps on a state, so that any interleaving of callers
can be written down: to `ask`, to have a lookup `answer`ed, to be called off
(`callOff`), and to `resume` with what the lookup gave. `resolveAll` is the
schedule in which all callers ask, all lookups are answered, or all callers
called off if none has the patience to wait, and all callers resume, each in
order.
-/

namespace Courier

open Courier.Text

/-- A server for host names: `answers` gives what it answers to the n-th
lookup of a host, the addresses of the host or a failure. -/
structure Resolver where
  server : Option String := none
  answers : Value → Nat → Except Failure (List String)

/-- What is known of a host. -/
inductive Cached where
  /-- Its address. -/
  | address (address : String)
  /-- The lookup that is to find it. -/
  | awaited (lookup : Nat)
  deriving DecidableEq, Repr

/-- A lookup that was started, with its outcome once it has one. -/
structure Lookup where
  host : Value
  outcome : Option (Except Failure String) := none

/-- All lookups so far, the earliest first, and what is known of hosts. -/
structure Lookups where
  cache : Entries Value Cached := []
  started : List Lookup := []

/-- A caller that waits for a lookup. The one that started it owns it. -/
structure Waiter where
  lookup : Nat
  host : Value
  owner : Bool

/-- What a caller gets when it asks: an outcome at once, or a lookup to wait for. -/
inductive Asked where
  | settled (outcome : Except Failure Value)
  | waits (waiter : Waiter)

/-- Addresses of 128 bits, written as a number. -/
def addressSpace : Int := twoTo 128

/-- A value that is an address already: a literal, a number, or the packed bytes of an address. -/
def isAddress : Value → Bool
  | .text s => Url.isLiteral s.toList
  | .int i => 0 ≤ i && i < addressSpace
  | .bool _ => true
  | .bytes bs => bs.length == 4 || bs.length == 16
  | _ => false

namespace Resolver

/-- The host is left to the system: there is no server, or nothing to look up. -/
def isDirect (r : Resolver) (host : Value) : Bool :=
  r.server.isNone || host == .text "localhost" || isAddress host

/-- Why a host cannot be looked up: a lookup is told of in the log and
remembered in the cache, which takes a host that has a text and may be a key.
A number of too many digits fails for its text only where it may be a key. -/
def refusal? (host : Value) : Option Failure :=
  match host.plain, host.unhashable? with
  | .ok _, none => none
  | .ok _, some type => some (.misuse (.unhashable type))
  | .error fault, none => some fault
  | .error fault, some type =>
      some (if fault.kind = .value then .misuse (.unhashable type) else fault)

/-- A caller asks for the address of a host. -/
def ask (r : Resolver) (state : Lookups) (host : Value) : Asked × Lookups :=
  if r.isDirect host then (.settled (.ok host), state)
  else
    match refusal? host with
    | some failure => (.settled (.error failure), state)
    | none =>
        match state.cache.get? host with
        | some (.address address) => (.settled (.ok (.text address)), state)
        | some (.awaited lookup) => (.waits ⟨lookup, host, false⟩, state)
        | none =>
            let lookup := state.started.length
            (.waits ⟨lookup, host, true⟩,
             { cache := state.cache.put host (.awaited lookup)
               started := state.started ++ [{ host }] })

/-- Gives a lookup an outcome, unless it has one. -/
def settle (state : Lookups) (lookup : Nat) (outcome : Except Failure String) : Lookups :=
  { state with
    started := state.started.modify lookup fun l =>
      if l.outcome.isNone then { l with outcome := some outcome } else l }

/-- The number of lookups of a host among the first `n` ones. -/
def earlier (state : Lookups) (host : Value) (n : Nat) : Nat :=
  ((state.started.take n).filter (·.host == host)).length

/-- The address that is taken from an answer: the first one. -/
def firstAddress : List String → Except Failure String
  | [] => .error .noAddress
  | address :: _ => .ok address

def answer (r : Resolver) (state : Lookups) (lookup : Nat) : Lookups :=
  match state.started[lookup]? with
  | some l =>
      settle state lookup ((r.answers l.host (earlier state l.host lookup)).bind firstAddress)
  | none => state

/-- A caller that waits is called off, and with it the lookup it waits for. -/
def callOff (state : Lookups) (waiter : Waiter) : Lookups :=
  settle state waiter.lookup (.error .cancelled)

/-- A caller goes on with the outcome of its lookup, if there is one. The
owner puts the address that was found into the cache, or takes the host out. -/
def finish (state : Lookups) (waiter : Waiter) (outcome : Except Failure String) : Lookups :=
  if waiter.owner then
    match outcome with
    | .ok address => { state with cache := state.cache.put waiter.host (.address address) }
    | .error _ => { state with cache := state.cache.erase waiter.host }
  else state

/-- A caller resumes: with the outcome of its lookup, or, if it was called
off, as cancelled. While the lookup has no outcome there is nothing to resume with. -/
def resume (state : Lookups) (waiter : Waiter) (calledOff : Bool) :
    Option (Except Failure String × Lookups) :=
  match state.started[waiter.lookup]? with
  | some l =>
      l.outcome.map fun outcome =>
        let outcome := if calledOff then .error .cancelled else outcome
        (outcome, finish state waiter outcome)
  | none => none

/-- What is logged when a caller starts a lookup. -/
def askLog (host : Value) (reply : Asked) : Log :=
  match reply, host.plainString with
  | .waits ⟨_, _, true⟩, .ok host => [⟨.trace, "trying resolve hostname=" ++ host⟩]
  | _, _ => []

/-! ## All callers at once -/

/-- All callers ask, in order. -/
def askAll (r : Resolver) (state : Lookups) (hosts : List Value) : List Asked × Lookups × Log :=
  let (asked, state, log) := hosts.foldl
    (fun (asked, state, log) host =>
      let (reply, state) := r.ask state host
      (reply :: asked, state, log ++ askLog host reply))
    ([], state, [])
  (asked.reverse, state, log)

def answerAll (r : Resolver) (state : Lookups) : Lookups :=
  (List.range state.started.length).foldl r.answer state

/-- All callers that wait are called off, in order. -/
def callOffAll (state : Lookups) (asked : List Asked) : Lookups :=
  asked.foldl
    (fun state reply =>
      match reply with
      | .settled _ => state
      | .waits waiter => callOff state waiter)
    state

/-- All callers resume, in order. -/
def resumeAll (state : Lookups) (asked : List Asked) (calledOff : Bool) :
    List (Except Failure Value) × Lookups :=
  let (outcomes, state) := asked.foldl
    (fun (outcomes, state) reply =>
      match reply with
      | .settled outcome => (outcome :: outcomes, state)
      | .waits waiter =>
          match resume state waiter calledOff with
          | some (outcome, state) => (outcome.map Value.text :: outcomes, state)
          | none => (.error .cancelled :: outcomes, state))
    ([], state)
  (outcomes.reverse, state)

/-- Resolves hosts for callers that all ask before any lookup is answered.
Callers without patience get what is known at once, and nothing else. -/
def resolveAll (r : Resolver) (state : Lookups) (hosts : List Value) (patient : Bool) :
    List (Except Failure Value) × Lookups × Log :=
  let (asked, state, log) := r.askAll state hosts
  let (outcomes, state) :=
    if patient then resumeAll (r.answerAll state) asked false
    else resumeAll (callOffAll state asked) asked true
  (outcomes, state, log)

def resolve (r : Resolver) (state : Lookups) (host : Value) (patient : Bool) :
    Except Failure Value × Lookups × Log :=
  match r.resolveAll state [host] patient with
  | (outcome :: _, state, log) => (outcome, state, log)
  | ([], state, log) => (.error .cancelled, state, log)

/-- A host that is left to the system is its own address, and nothing is looked up. -/
theorem ask_direct {r : Resolver} {state : Lookups} {host : Value} (h : r.isDirect host = true) :
    r.ask state host = (.settled (.ok host), state) := by
  simp [ask, h]

end Resolver

end Courier
