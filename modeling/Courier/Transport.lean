import Courier.Log
import Courier.Response.Basic

/-!
# Connections

A transport opens connections, one after the other, and exchanges requests
for responses over the last one. A peer either refuses a connection, never
answers, or accepts it; what it then sends is a stream. Everything a
connection has seen stays with it: the bytes written, the bytes left to
read, and whether it was closed.
-/

namespace Courier

/-- How a peer meets an attempt to connect. -/
inductive Peer where
  | refuses (failure : Failure)
  | neverAnswers
  /-- The connection stands. What the peer sends does not depend on what it
  gets; writing may fail, once the bytes are written. -/
  | accepts (incoming : Stream) (sendFailure : Option Failure)

/-- An attempt to connect: to where, and under which name if it is secured. -/
structure Attempt where
  address : Value
  port : Value
  secure : Bool
  serverName : Value := .null

/-- The end of some work: a result, a failure, or a wait without end. -/
inductive Verdict (α : Type) where
  | ok (a : α)
  | failed (failure : Failure)
  | waiting

namespace Verdict

variable {α β : Type}

/-- Changes a result. -/
def map (f : α → β) : Verdict α → Verdict β
  | .ok a => .ok (f a)
  | .failed failure => .failed failure
  | .waiting => .waiting

/-- Work that needs no waiting. -/
def ofExcept : Except Failure α → Verdict α
  | .ok a => .ok a
  | .error failure => .failed failure

end Verdict

/-- A connection that was opened. -/
structure Link where
  incoming : Stream
  sendFailure : Option Failure := none
  written : List UInt8 := []
  closed : Bool := false

namespace Link

/-- Reads with a reader, and keeps what it leaves. -/
def read {α : Type} (link : Link) (reader : Stream → Outcome α) : Verdict α × Link :=
  match reader link.incoming with
  | .done a rest => (.ok a, { link with incoming := rest })
  | .failed failure rest => (.failed failure, { link with incoming := rest })
  | .waiting rest => (.waiting, { link with incoming := rest })

/-- Writes a request and reads the response to it. -/
def exchange (link : Link) (data : List UInt8) (method : Value) : Verdict Reply × Link :=
  let sent := { link with written := link.written ++ data }
  match link.sendFailure with
  | some failure => (.failed failure, sent)
  | none => sent.read (Response.readReply method)

/-- Closes the connection; what was read and written stays. -/
def close (link : Link) : Link := { link with closed := true }

end Link

/-- All connections that a transport has opened, the last one first. -/
structure Transport where
  links : List Link := []

namespace Transport

/-- What is logged before an attempt to connect. -/
def dialLog (address port : Value) : Except Failure Log := do
  let address ← address.plainString
  let port ← port.plainString
  .ok [⟨.trace, address ++ ", " ++ port⟩]

/-- Tries to open a connection. A failure leaves the transport as it was. -/
def dial (t : Transport) (peer : Peer) : Verdict Unit × Transport :=
  match peer with
  | .refuses failure => (.failed failure, t)
  | .neverAnswers => (.waiting, t)
  | .accepts incoming sendFailure =>
      (.ok (), { links := { incoming, sendFailure } :: t.links })

/-- Works on the last connection; without one the work fails. -/
def withLink {α : Type} (t : Transport) (work : Link → Verdict α × Link) :
    Verdict α × Transport :=
  match t.links with
  | [] => (.failed .unconnected, t)
  | link :: earlier =>
      let (verdict, link) := work link
      (verdict, { links := link :: earlier })

/-- Writes a request and reads the response to it. -/
def exchange (t : Transport) (data : List UInt8) (method : Value) : Verdict Reply × Transport :=
  t.withLink (·.exchange data method)

def readHead (t : Transport) : Verdict Response.Head × Transport :=
  t.withLink (·.read Response.readHead)

/-- Chooses the framing of a body by headers of any values. -/
def framing (t : Transport) (headers : Value) : Except Failure Response.Framing :=
  if t.links.isEmpty then .error .unconnected else Response.Framing.ofValue headers

/-- Closes the last connection, if there is one. -/
def close (t : Transport) : Transport :=
  match t.links with
  | [] => t
  | link :: earlier => { links := link.close :: earlier }

/-- Whether the last connection was closed. -/
def isClosing (t : Transport) : Except Failure Bool :=
  match t.links with
  | [] => .error (.misuse .closingUnconnected)
  | link :: _ => .ok link.closed

/-- The text that logs show for a transport. -/
def shown (t : Transport) : String :=
  match t.links with
  | [] => "<Transport Unconnected>"
  | link :: _ => if link.closed then "<Transport Closed>" else "<Transport Open>"

end Transport

end Courier
