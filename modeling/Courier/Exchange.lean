import Courier.Resolver
import Courier.Transport

/-!
# Exchanges

An exchange goes to a destination: its host is resolved, a connection is
opened, a request is written and a response read. What it did is kept next
to how it ended: the attempts to connect, the connection if one was opened,
the lookups, and the log. A time limit bounds the whole: an exchange that may
not take any time does not start, one that may take hardly any goes as far as
it can without waiting, and one that waits for something that never comes
ends when its time is over, if it has a limit.
-/

namespace Courier

/-- How long some work may take. -/
inductive TimeLimit where
  /-- As long as it takes. -/
  | unlimited
  /-- Some time, after which it is called off. -/
  | limited
  /-- Hardly any time: it is called off where it would have to wait. -/
  | immediate
  /-- No time at all. -/
  | expired
  deriving DecidableEq, Repr

namespace TimeLimit

/-- The shortest time that a clock can tell from none, in seconds. -/
def clockTick : Decimal.Binary64 := .ofDecimal false 1 (-9)

/-- The time limit that a number of seconds stands for. -/
def ofSeconds (x : Decimal.Binary64) : TimeLimit :=
  if x.nonpositive then .expired
  else if x = .infinity false then .unlimited
  else if x = .nan ∨ x.lessThan clockTick then .immediate
  else .limited

def ofValue (v : Value) : Except Failure TimeLimit :=
  match v with
  | .null => .ok .unlimited
  | v =>
      match v.number? with
      | some (.int i) =>
          if i ≤ 0 then .ok .expired
          else if (Decimal.Binary64.ofInt i).isFinite then .ok .limited
          else .error .hugeInteger
      | some (.float x) => .ok (ofSeconds x)
      | none => .error (.misuse (.unordered "<=" v.typeName "int"))

/-- Work that is limited in this way may wait for what is sure to come. -/
def patient (limit : TimeLimit) : Bool := limit != .immediate

/-- Work under a time limit: a wait without end is cut off, and work that was
called off for want of patience has run out of time. -/
def bound {α : Type} (limit : TimeLimit) : Verdict α → Verdict α
  | .waiting => if limit = .unlimited then .waiting else .failed .waitExpired
  | .failed .cancelled => .failed (if limit.patient then .cancelled else .waitExpired)
  | verdict => verdict

end TimeLimit

/-- Where and how to connect. The peer of a secured connection may go by
another name than its host. -/
structure Destination where
  host : Value
  port : Value
  secure : Bool
  name : Value := .null

def Destination.attempt (d : Destination) (address : Value) : Attempt where
  address
  port := d.port
  secure := d.secure
  serverName :=
    if d.secure then (if d.name.truthy then d.name else d.host) else .null

/-- The way to a connection: the transport it leads to, and what was done. -/
structure Approach where
  verdict : Verdict Unit
  transport : Transport
  attempts : List Attempt := []
  lookups : Lookups
  log : Log := []

/-- Everything that an exchange did: how it ended, the attempts to connect,
the connection if one was opened, the lookups, and the log. -/
structure Journal (α : Type) where
  verdict : Verdict α
  attempts : List Attempt := []
  link : Option Link := none
  lookups : Lookups
  log : Log := []

namespace Journal

variable {α : Type}

/-- The exchange under a time limit. -/
def bound (limit : TimeLimit) (journal : Journal α) : Journal α :=
  { journal with verdict := limit.bound journal.verdict }

/-- Closes the connection, once the exchange has ended. -/
def release (journal : Journal α) : Journal α :=
  match journal.verdict with
  | .waiting => journal
  | _ => { journal with link := journal.link.map Link.close }

/-- The caller gives up on an exchange that would go on for ever: the exchange
ends as an expired wait, and its connection is closed. -/
def giveUp (journal : Journal α) : Journal α := (journal.bound .limited).release

/-- An exchange that has ended leaves no open connection. -/
theorem closed_release {journal : Journal α} {link : Link} (ended : journal.verdict ≠ .waiting)
    (h : journal.release.link = some link) : link.closed = true := by
  unfold release at h
  split at h
  · contradiction
  · simp only [Option.map_eq_some_iff] at h
    obtain ⟨before, -, rfl⟩ := h
    rfl

end Journal

namespace Transport

/-- Tries to connect to a destination whose address is already known. The
attempt is told of in the log first, so address and port must have a text. -/
def connectAt (t : Transport) (lookups : Lookups) (d : Destination) (address : Value)
    (peer : Peer) : Approach :=
  match dialLog address d.port with
  | .error failure => { verdict := .failed failure, transport := t, lookups }
  | .ok log =>
      let (verdict, t) := t.dial peer
      { verdict, transport := t, attempts := [d.attempt address], lookups, log }

/-- Resolves the host of a destination, and tries to connect. -/
def connect (t : Transport) (resolver : Resolver) (lookups : Lookups) (d : Destination)
    (peer : Peer) (patient : Bool) : Approach :=
  match resolver.resolve lookups d.host patient with
  | (.error failure, lookups, log) => { verdict := .failed failure, transport := t, lookups, log }
  | (.ok address, lookups, log) =>
      let approach := t.connectAt lookups d address peer
      { approach with log := log ++ approach.log }

end Transport

namespace Approach

/-- Exchanges a request for a response on the connection, once it stands. The
request is encoded no earlier than that, and the connection stays open. -/
def exchange (approach : Approach) (data : Except Failure (List UInt8)) (method : Value) :
    Journal Reply :=
  let ended (verdict : Verdict Reply) (link : Option Link) : Journal Reply :=
    { verdict, attempts := approach.attempts, link, lookups := approach.lookups,
      log := approach.log }
  match approach.verdict with
  | .failed failure => ended (.failed failure) none
  | .waiting => ended .waiting none
  | .ok () =>
      let (verdict, t) := match data with
        | .ok data => approach.transport.exchange data method
        | .error failure => (.failed failure, approach.transport)
      ended verdict t.links.head?

end Approach

end Courier
