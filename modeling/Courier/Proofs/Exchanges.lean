import Courier.Client.Request
import Courier.Proofs.Borders
import Courier.Proofs.Numbers
import Courier.Proofs.ReplyReads

/-!
# How a call ends

The verdict on a call, told without the journals that lead to it: a host that
is resolved (`resolve_settled`, `resolve_impatient`, `resolve_patient`), a
peer that is met (`Peer.meet`), and a time limit over both
(`verdict_request`). What is logged, counted or closed on the way does not
take part in it.
-/

namespace Courier

/-! ## Resolving one host -/

namespace Resolver

variable {r : Resolver} {state asked : Lookups} {host : Value}

theorem resolve_settled {outcome : Except Failure Value}
    (h : r.ask state host = (.settled outcome, asked)) (patient : Bool) :
    (r.resolve state host patient).1 = outcome := by
  cases patient <;>
    simp [resolve, resolveAll, askAll, resumeAll, h]

theorem resolve_impatient {waiter : Waiter} (h : r.ask state host = (.waits waiter, asked)) :
    (r.resolve state host false).1 = .error .cancelled := by
  simp only [resolve, resolveAll, askAll, resumeAll, h, List.foldl_cons, List.foldl_nil,
    List.reverse_cons, List.reverse_nil, List.nil_append]
  cases hresume : resume (callOffAll asked [.waits waiter]) waiter true with
  | none => simp
  | some resumed =>
      obtain ⟨outcome, state'⟩ := resumed
      have houtcome : outcome = .error .cancelled := by
        unfold resume at hresume
        split at hresume
        · simp only [if_true, Option.map_eq_some_iff] at hresume
          obtain ⟨-, -, hpair⟩ := hresume
          exact (Prod.mk.inj hpair).1.symm
        · cases hresume
      simp [houtcome, Except.map]

theorem resolve_patient {waiter : Waiter} (h : r.ask state host = (.waits waiter, asked)) :
    (r.resolve state host true).1 =
      match (r.answerAll asked).started[waiter.lookup]?.bind (·.outcome) with
      | some outcome => outcome.map Value.text
      | none => .error .cancelled := by
  simp only [resolve, resolveAll, askAll, resumeAll, h, List.foldl_cons, List.foldl_nil,
    List.reverse_cons, List.reverse_nil, List.nil_append, if_true]
  unfold resume
  cases (r.answerAll asked).started[waiter.lookup]? with
  | none => simp
  | some l => cases hl : l.outcome <;> simp [hl]

/-- A host that can be resolved is resolved, or given up on for want of patience. -/
theorem resolve_without_patience {address : Value}
    (h : (r.resolve state host true).1 = .ok address) (patient : Bool) :
    (r.resolve state host patient).1 = .ok address
      ∨ patient = false ∧ (r.resolve state host patient).1 = .error .cancelled := by
  cases patient with
  | true => exact .inl h
  | false =>
      cases hask : r.ask state host with
      | mk reply asked =>
          cases reply with
          | settled outcome =>
              left
              rw [← h, resolve_settled hask, resolve_settled hask]
          | waits waiter => exact .inr ⟨rfl, resolve_impatient hask⟩

end Resolver

/-! ## Meeting a peer -/

/-- How an exchange with a peer ends, once its address is known. -/
def Peer.meet (peer : Peer) (data : Except Failure (List UInt8)) (method : Value) :
    Verdict Reply :=
  match peer with
  | .refuses failure => .failed failure
  | .neverAnswers => .waiting
  | .accepts incoming sendFailure =>
      match data with
      | .error failure => .failed failure
      | .ok data => (Link.exchange { incoming, sendFailure } data method).1

namespace Outcome

variable {α : Type}

/-- How a read ended, without what it left. -/
def verdict : Outcome α → Verdict α
  | .done a _ => .ok a
  | .failed failure _ => .failed failure
  | .waiting _ => .waiting

def rest : Outcome α → Stream
  | .done _ rest => rest
  | .failed _ rest => rest
  | .waiting rest => rest

end Outcome

namespace Link

variable {link : Link} {data : List UInt8} {method : Value}

theorem exchange_of_sendFailure {failure : Failure} (h : link.sendFailure = some failure) :
    (link.exchange data method).1 = .failed failure := by
  simp [exchange, h]

/-- Where the request goes out, the exchange is what reading the reply is. -/
theorem exchange_eq (h : link.sendFailure = none) :
    link.exchange data method =
      ((Response.readReply method link.incoming).verdict,
        { link with
          written := link.written ++ data
          incoming := (Response.readReply method link.incoming).rest }) := by
  simp only [exchange, h, read]
  cases Response.readReply method link.incoming <;> rfl

theorem readReply_of_exchange {reply : Reply} {after : Link}
    (h : link.exchange data method = (.ok reply, after)) :
    link.sendFailure = none
      ∧ Response.readReply method link.incoming = .done reply after.incoming := by
  cases hsend : link.sendFailure with
  | some failure =>
      have hfailed : (link.exchange data method).1 = .failed failure :=
        exchange_of_sendFailure hsend
      rw [h] at hfailed
      cases hfailed
  | none =>
      rw [exchange_eq hsend] at h
      cases hread : Response.readReply method link.incoming <;> rw [hread] at h <;> cases h
      exact ⟨rfl, rfl⟩

end Link

/-! ## Calls -/

/-- The end of a call, given how its exchange ended within its time. -/
def Verdict.concluded : Verdict Reply → Verdict Response
  | .ok reply => .ok (Response.ofReply reply)
  | .failed failure => .failed failure.guarded
  | .waiting => .waiting

namespace Client

variable (c : Client) (resolver : Resolver) (lookups : Lookups) (peer : Peer)

theorem verdict_exchange (patient : Bool) (request : Request) :
    (c.exchange resolver lookups peer patient request).verdict =
      match (resolver.resolve lookups c.destination.host patient).1 with
      | .error failure => .failed failure
      | .ok address =>
          match Transport.dialLog address c.destination.port with
          | .error failure => .failed failure
          | .ok _ => peer.meet request.encode request.method := by
  unfold exchange Transport.connect
  obtain ⟨outcome, lookups', log⟩ := resolver.resolve lookups c.destination.host patient
  cases outcome with
  | error failure => rfl
  | ok address =>
      simp only [Transport.connectAt]
      cases Transport.dialLog address c.destination.port with
      | error failure => rfl
      | ok dialed =>
          cases peer with
          | refuses failure => rfl
          | neverAnswers => rfl
          | accepts incoming sendFailure =>
              cases hdata : request.encode with
              | error failure => simp [Approach.exchange, Transport.dial, Peer.meet]
              | ok data =>
                  simp [Approach.exchange, Transport.dial, Peer.meet, Transport.exchange,
                    Transport.withLink]

theorem verdict_conclude (url : String) (journal : Journal Reply) :
    (c.conclude url journal).verdict = journal.verdict.concluded := by
  unfold conclude
  cases journal.verdict <;> rfl

theorem verdict_release {α : Type} (journal : Journal α) :
    journal.release.verdict = journal.verdict := by
  unfold Journal.release
  split <;> rfl

/-- How a call ends: as its exchange, within the time limit of the client. -/
theorem verdict_request (call : Call) :
    (c.request resolver lookups peer call).verdict =
      match c.build call with
      | .error failure => .failed failure
      | .ok request =>
          match TimeLimit.ofValue c.timeout with
          | .error failure => .failed failure.guarded
          | .ok limit =>
              if limit = .expired then .failed Failure.waitExpired.guarded
              else
                (limit.bound
                  (c.exchange resolver lookups peer limit.patient request).verdict).concluded := by
  unfold Client.request
  cases c.build call with
  | error failure => rfl
  | ok request =>
      simp only [send]
      cases TimeLimit.ofValue c.timeout with
      | error failure => exact verdict_conclude ..
      | ok limit =>
          cases limit <;>
            simp only [verdict_conclude, verdict_release, Journal.bound] <;> rfl

/-- What a request that was built has of its client and its call. -/
structure Built (c : Client) (call : Call) (request : Request) : Prop where
  method : request.method = call.method
  target : ∃ path query, callPath call.path = .ok path ∧ callQuery call.params = .ok query
    ∧ request.target.toList = target c.url.path.toList path query
  body : Payload.serialize call.body c.format = .ok request.body
  headers : c.layerHeaders request.body call.headers = .ok request.headers

theorem built_of_build {c : Client} {call : Call} {request : Request}
    (h : c.build call = .ok request) : c.Built call request := by
  obtain ⟨path, hpath, h⟩ := bind_eq_ok h
  obtain ⟨query, hquery, h⟩ := bind_eq_ok h
  obtain ⟨body, hbody, h⟩ := bind_eq_ok h
  obtain ⟨headers, hheaders, h⟩ := bind_eq_ok h
  cases h
  exact ⟨rfl, ⟨path, query, hpath, hquery, String.toList_ofList⟩, hbody, hheaders⟩

/-- A call that has time, an address and a port ends as its peer is met. -/
theorem verdict_met {c : Client} {resolver : Resolver} {lookups : Lookups} {peer : Peer}
    {call : Call} {request : Request} {limit : TimeLimit} {address : Value} {log : Log}
    (hbuild : c.build call = .ok request)
    (hlimit : TimeLimit.ofValue c.timeout = .ok limit) (hexpired : limit ≠ .expired)
    (hresolve : (resolver.resolve lookups c.destination.host limit.patient).1 = .ok address)
    (hdial : Transport.dialLog address c.destination.port = .ok log) :
    (c.request resolver lookups peer call).verdict
      = (limit.bound (peer.meet request.encode request.method)).concluded := by
  rw [verdict_request, hbuild]
  simp only [hlimit, if_neg hexpired, verdict_exchange, hresolve, hdial]

/-- A call ends before its peer is met, or as its peer is met, within a time limit. -/
theorem verdict_before_or_meet (call : Call) :
    (∃ verdict, ∀ peer, (c.request resolver lookups peer call).verdict = verdict)
      ∨ ∃ (limit : TimeLimit) (data : Except Failure (List UInt8)),
        ∀ peer, (c.request resolver lookups peer call).verdict
          = (limit.bound (peer.meet data call.method)).concluded := by
  simp only [verdict_request, verdict_exchange]
  cases hbuild : c.build call with
  | error failure => exact .inl ⟨_, fun _ => rfl⟩
  | ok request =>
      cases TimeLimit.ofValue c.timeout with
      | error failure => exact .inl ⟨_, fun _ => rfl⟩
      | ok limit =>
          by_cases hexpired : limit = .expired
          · simp only [if_pos hexpired]
            exact .inl ⟨_, fun _ => rfl⟩
          · simp only [if_neg hexpired]
            cases (resolver.resolve lookups c.destination.host limit.patient).1 with
            | error failure => exact .inl ⟨(limit.bound (.failed failure)).concluded, fun _ => rfl⟩
            | ok address =>
                cases hdial : Transport.dialLog address c.destination.port with
                | error failure =>
                    simp only [hdial]
                    exact .inl ⟨_, fun _ => rfl⟩
                | ok log =>
                    simp only [hdial, (built_of_build hbuild).method]
                    exact .inr ⟨limit, request.encode, fun _ => rfl⟩

/-- A client of a server on this machine, with ten seconds for each call. -/
def loopback : Client where
  url := { scheme := .http, host := "localhost", port := some 8888, path := "" }
  format := .json
  options := [(.text "timeout", .int 10), (.text "host", .text "localhost"),
    (.text "port", .int 8888)]

/-- A call for the root of a server. -/
def getRoot : Call where
  method := .text "GET"
  path := .text "/"

end Client

/-- A resolver without a server: every host is its own address. -/
def Resolver.direct : Resolver where
  answers := fun _ _ => .ok ["127.0.0.1"]

namespace Value

open Text

theorem showInteger_of_lt {i : Int} (h : i.natAbs < tenTo digitLimit) :
    showInteger i = .ok (Integer.decimal i) := by
  have hdecimal : Integer.decimal? i = some (Integer.decimal i) := by
    rw [Integer.decimal?, if_neg (Nat.not_le.mpr h)]
  unfold showInteger
  generalize Integer.decimal? i = found at hdecimal ⊢
  subst hdecimal
  rfl

theorem plain_int {i : Int} (h : i.natAbs < tenTo digitLimit) :
    (Value.int i).plain = .ok (Integer.decimal i) := by
  have hshown : (Value.int i).plain = showInteger i := rfl
  rw [hshown]
  exact showInteger_of_lt h

/-- An integer of not too many digits has a text. -/
theorem plainString_int {i : Int} (h : i.natAbs < tenTo digitLimit) :
    (Value.int i).plainString = .ok (String.ofList (Integer.decimal i)) := by
  rw [plainString, plain_int h]
  rfl

end Value

/-- The server on this machine can be dialed. -/
theorem Client.dialLog_loopback :
    ∃ log, Transport.dialLog (.text "localhost") loopback.destination.port = .ok log := by
  have hport : loopback.destination.port = .int 8888 := rfl
  have htext := Value.plainString_int (i := 8888) (Text.Integer.lt_tenTo_digitLimit (by decide))
  rw [hport, Transport.dialLog, htext]
  exact ⟨_, rfl⟩

theorem Client.ofValue_loopback : TimeLimit.ofValue loopback.timeout = .ok .limited := by
  have hseconds : loopback.timeout = .int 10 := rfl
  have hfinite : (Decimal.Binary64.ofInt 10).isFinite = true := by decide
  rw [hseconds]
  simp only [TimeLimit.ofValue, Value.number?]
  rw [if_neg (by decide), if_pos hfinite]

/-- The call for its root ends as its peer is met. -/
theorem Client.verdict_getRoot (peer : Peer) :
    ∃ sent, (loopback.request .direct {} peer getRoot).verdict
      = (TimeLimit.limited.bound (peer.meet (.ok sent) (.text "GET"))).concluded := by
  obtain ⟨log, hdial⟩ := dialLog_loopback
  have hbuild : ∃ request sent, loopback.build getRoot = .ok request
      ∧ request.encode = .ok sent ∧ request.method = .text "GET" := ⟨_, _, rfl, rfl, rfl⟩
  obtain ⟨request, sent, hrequest, hsent, hmethod⟩ := hbuild
  refine ⟨sent, ?_⟩
  rw [verdict_met hrequest ofValue_loopback (by decide) rfl hdial, hsent, hmethod]

end Courier
