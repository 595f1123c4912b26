import Courier.Proofs.Borders
import Courier.Proofs.Clients
import Courier.Proofs.Lookups
import Courier.Proofs.Misreadings
import Courier.Proofs.Rendering

/-!
# How calls fail

A call is meant to end with a response or with a transport failure, whatever
the network does (`Verdict.Handled`). It does so unless a number is misread
(`Response.Misread`) or a value in the caller's hands is of no use: a time
limit that is none, a port or a method that cannot be written. These are all
the ways out (`Client.Escapes`), and each of them is taken where the call
gets that far, so the two sides exclude each other (`request_handled_iff`).

The argument goes from the inside out: what a peer that speaks can bring
about, then what the host resolves to, then the time limit over both.
-/

namespace Courier

/-! ## What the network does -/

/-- A peer that speaks: it refuses as the network does, or it accepts, and
what it sends comes to an end. -/
inductive Peer.Speaks : Peer → Prop where
  | refuses {failure : Failure} (network : failure.OfNetwork) : Speaks (.refuses failure)
  | accepts {incoming : Stream} {sendFailure : Option Failure}
      (ends : incoming.ending ≠ .silence)
      (fails : ∀ failure, incoming.ending = .failure failure → failure.OfNetwork)
      (sends : ∀ failure, sendFailure = some failure → failure.OfNetwork) :
      Speaks (.accepts incoming sendFailure)

/-- A response, or a failure that the caller is meant to handle. -/
inductive Verdict.Handled : Verdict Response → Prop where
  | response (response : Response) : Handled (.ok response)
  | failure {failure : Failure} (transport : failure.isTransport = true) : Handled (.failed failure)

theorem handled_guarded {failure : Failure} :
    (Verdict.failed failure.guarded).Handled ↔ failure.Manageable := by
  refine ⟨fun h => ?_, fun h => .failure h⟩
  cases h with
  | failure transport => exact transport

theorem handled_failed {failure : Failure} (h : failure ≠ .cancelled) (limit : TimeLimit) :
    (limit.bound (.failed failure)).concluded.Handled ↔ failure.Manageable := by
  rw [TimeLimit.bound_failed h]
  exact handled_guarded

theorem Response.Refused.handled {failure : Failure} (h : Response.Refused failure)
    (limit : TimeLimit) : (limit.bound (.failed failure)).concluded.Handled := by
  obtain ⟨fault, rfl⟩ := h
  exact (handled_failed (by simp) limit).mpr (Failure.manageable_invalidResponse fault)

theorem Failure.OfNetwork.handled {failure : Failure} (h : failure.OfNetwork) (limit : TimeLimit) :
    (limit.bound (.failed failure)).concluded.Handled :=
  (handled_failed h.ne_cancelled limit).mpr h.manageable

theorem Ending.Explains.handled {ending : Ending} {failure : Failure} (h : ending.Explains failure)
    (hending : ∀ cause, ending = .failure cause → cause.OfNetwork) (limit : TimeLimit) :
    (limit.bound (.failed failure)).concluded.Handled := by
  cases h with
  | ended got expected => exact Failure.OfNetwork.handled ⟨rfl, rfl⟩ limit
  | overlong endFound => exact Failure.OfNetwork.handled ⟨rfl, rfl⟩ limit
  | failure hcause => exact (hending failure hcause).handled limit

theorem Response.Escaping.not_handled {failure : Failure} (h : Response.Escaping failure)
    (limit : TimeLimit) : ¬ (limit.bound (.failed failure)).concluded.Handled := by
  cases h with
  | number fault =>
      rw [handled_failed (by simp)]
      exact Failure.not_manageable rfl rfl
  | negative =>
      rw [handled_failed (by simp)]
      exact Failure.not_manageable rfl rfl

theorem Unwritable.not_handled {failure : Failure} (h : Unwritable failure) (limit : TimeLimit) :
    ¬ (limit.bound (.failed failure)).concluded.Handled := by
  have hne : failure ≠ .cancelled := by
    rintro rfl
    cases h
  rw [handled_failed hne]
  exact h.not_manageable

/-! ## Meeting a peer -/

/-- What escapes once there is a connection: a method that cannot be written,
or a number that is misread. -/
inductive Peer.Escapes (peer : Peer) (request : Request) : Prop where
  | method {incoming : Stream} {sendFailure : Option Failure} {failure : Failure}
      (accepts : peer = .accepts incoming sendFailure)
      (unwritable : request.method.plain = .error failure)
  | misread {incoming : Stream} {sent : List UInt8} (accepts : peer = .accepts incoming none)
      (encodes : request.encode = .ok sent)
      (misread : Response.Misread request.method incoming.bytes)

/-- A reply is handled if no number in it is misread. -/
theorem handled_reply {incoming : Stream} (ends : incoming.ending ≠ .silence)
    (fails : ∀ failure, incoming.ending = .failure failure → failure.OfNetwork) (method : Value)
    (limit : TimeLimit) :
    (limit.bound (Response.readReply method incoming).verdict).concluded.Handled
      ↔ ¬ Response.Misread method incoming.bytes := by
  by_cases hmisread : Response.Misread method incoming.bytes
  · obtain ⟨failure, rest, hread, hescaping⟩ := Response.readReply_of_misread hmisread
    rw [hread]
    exact iff_of_false (hescaping.not_handled limit) (not_not_intro hmisread)
  · refine iff_of_true ?_ hmisread
    have hblames := Response.blames_readReply method incoming
    generalize Response.readReply method incoming = outcome at hblames ⊢
    cases hblames with
    | done reply hending => exact .response _
    | stream hexplains rest => exact hexplains.handled fails limit
    | own hown rest =>
        obtain hrefused | ⟨hyes, -⟩ := hown
        · exact hrefused.handled limit
        · exact absurd hyes hmisread
    | waiting hsilence rest => exact absurd hsilence ends

/-- Once there is a connection and a request to write, a number that is misread
is all that escapes. -/
theorem handled_meet_sent {peer : Peer} (hpeer : peer.Speaks) (sent : List UInt8) (method : Value)
    (limit : TimeLimit) :
    (limit.bound (peer.meet (.ok sent) method)).concluded.Handled
      ↔ ∀ incoming, peer = .accepts incoming none → ¬ Response.Misread method incoming.bytes := by
  cases hpeer with
  | refuses network =>
      refine iff_of_true (network.handled limit) fun incoming haccepts => ?_
      cases haccepts
  | @accepts incoming sendFailure ends fails sends =>
      cases sendFailure with
      | some failure =>
          refine iff_of_true ((sends failure rfl).handled limit) fun other haccepts => ?_
          cases haccepts
      | none =>
          simp only [Peer.meet]
          rw [Link.exchange_eq rfl, handled_reply ends fails]
          refine ⟨fun hread other haccepts => ?_, fun h => h incoming rfl⟩
          cases haccepts
          exact hread

/-- Meeting a peer that speaks is handled, unless something escapes. -/
theorem handled_meet {peer : Peer} (hpeer : peer.Speaks) {request : Request}
    (htexts : request.TextHeaders) (limit : TimeLimit) :
    (limit.bound (peer.meet request.encode request.method)).concluded.Handled
      ↔ ¬ peer.Escapes request := by
  cases hpeer with
  | refuses network =>
      refine iff_of_true (network.handled limit) ?_
      rintro (accepts | accepts) <;> cases accepts
  | @accepts incoming sendFailure ends fails sends =>
      cases hmethod : request.method.plain with
      | error failure =>
          refine iff_of_false ?_ (not_not_intro (.method rfl hmethod))
          rw [Request.encode_of_method hmethod]
          exact (Value.unwritable_plain hmethod).not_handled limit
      | ok method =>
          have hwritten : ∀ failure, request.method.plain ≠ .error failure := by simp [hmethod]
          cases hencode : request.encode with
          | error failure =>
              obtain ⟨name, value, rfl⟩ := Request.encode_error hmethod htexts hencode
              refine iff_of_true
                ((handled_failed (by simp) limit).mpr (Failure.manageable_invalidHeader ..)) ?_
              rintro (⟨-, unwritable⟩ | ⟨-, encodes, -⟩)
              · exact hwritten _ unwritable
              · cases hencode.symm.trans encodes
          | ok sent =>
              rw [handled_meet_sent (.accepts ends fails sends)]
              refine ⟨?_, fun h other haccepts hmisread => h (.misread haccepts hencode hmisread)⟩
              rintro h (⟨-, unwritable⟩ | ⟨haccepts, -, hmisread⟩)
              · exact hwritten _ unwritable
              · exact h _ haccepts hmisread

/-! ## Calls -/

namespace Client

variable {c : Client} {resolver : Resolver} {lookups : Lookups} {peer : Peer} {call : Call}
  {request : Request}

/-- A call gets to dial: it has time, and its host resolves within it. -/
def Dials (c : Client) (resolver : Resolver) (lookups : Lookups) : Prop :=
  ∃ limit address, TimeLimit.ofValue c.timeout = .ok limit ∧ limit ≠ .expired
    ∧ (resolver.resolve lookups c.destination.host limit.patient).1 = .ok address

/-- The ways out of a call that are not meant for its caller. -/
inductive Escapes (c : Client) (resolver : Resolver) (lookups : Lookups) (peer : Peer)
    (request : Request) : Prop where
  | limit {failure : Failure} (refused : TimeLimit.ofValue c.timeout = .error failure)
  | port {failure : Failure} (dials : c.Dials resolver lookups)
      (unwritable : c.destination.port.plainString = .error failure)
  | peer {port : String} (dials : c.Dials resolver lookups)
      (written : c.destination.port.plainString = .ok port) (escapes : peer.Escapes request)

/-- The text of the port is all that can be wrong with dialing an address. -/
theorem dialLog_text (address : String) (port : Value) :
    Transport.dialLog (.text address) port = port.plainString.map fun port =>
      [⟨.trace, String.ofList address.toList ++ ", " ++ port⟩] := by
  unfold Transport.dialLog
  cases port.plainString <;> rfl

theorem dials_iff {limit : TimeLimit} (hlimit : TimeLimit.ofValue c.timeout = .ok limit) :
    c.Dials resolver lookups ↔ limit ≠ .expired ∧ ∃ address,
      (resolver.resolve lookups c.destination.host limit.patient).1 = .ok address := by
  constructor
  · rintro ⟨limit', address, heq, hexpired, hresolve⟩
    cases hlimit.symm.trans heq
    exact ⟨hexpired, address, hresolve⟩
  · rintro ⟨hexpired, address, hresolve⟩
    exact ⟨limit, address, hlimit, hexpired, hresolve⟩

/-- A call that has a time limit and does not get to dial has no way out. -/
theorem not_escapes_of_not_dials {limit : TimeLimit}
    (hlimit : TimeLimit.ofValue c.timeout = .ok limit) (h : ¬ c.Dials resolver lookups) :
    ¬ c.Escapes resolver lookups peer request := by
  intro hescapes
  cases hescapes with
  | limit refused => cases hlimit.symm.trans refused
  | port dials unwritable => exact h dials
  | peer dials written escapes => exact h dials

/-- A call that dials has the ways out that its peer has. -/
theorem escapes_iff_of_dials {limit : TimeLimit} {port : String}
    (hlimit : TimeLimit.ofValue c.timeout = .ok limit) (h : c.Dials resolver lookups)
    (hport : c.destination.port.plainString = .ok port) :
    c.Escapes resolver lookups peer request ↔ peer.Escapes request := by
  refine ⟨fun hescapes => ?_, fun hescapes => .peer h hport hescapes⟩
  cases hescapes with
  | limit refused => cases hlimit.symm.trans refused
  | port dials unwritable => cases hport.symm.trans unwritable
  | peer dials written escapes => exact escapes

/-- What a host fails with within a time limit is handled. -/
theorem handled_of_unresolved (hresolver : resolver.Answers Failure.OfNetwork)
    (hlookups : lookups.Orderly Failure.OfNetwork) (host : String) (limit : TimeLimit)
    {failure : Failure}
    (h : (resolver.resolve lookups (.text host) limit.patient).1 = .error failure) :
    (limit.bound (.failed failure)).concluded.Handled := by
  obtain ⟨address, hresolve⟩ | ⟨cause, hresolve, hown⟩ | ⟨himpatient, hresolve⟩ :=
    Resolver.resolve_text hresolver hlookups host limit.patient
  · cases hresolve.symm.trans h
  · cases hresolve.symm.trans h
    exact hown.handled limit
  · cases hresolve.symm.trans h
    simp only [TimeLimit.bound, himpatient]
    exact .failure rfl

/-- A call ends with a response or a transport failure if and only if there is
no way out of it. -/
theorem request_handled_iff (hc : c.Constructed) (hbuild : c.build call = .ok request)
    (htexts : request.TextHeaders) (hresolver : resolver.Answers Failure.OfNetwork)
    (hlookups : lookups.Orderly Failure.OfNetwork) (hpeer : peer.Speaks) :
    (c.request resolver lookups peer call).verdict.Handled
      ↔ ¬ c.Escapes resolver lookups peer request := by
  cases hlimit : TimeLimit.ofValue c.timeout with
  | error failure =>
      refine iff_of_false ?_ (not_not_intro (.limit hlimit))
      rw [verdict_request, hbuild]
      simp only [hlimit, handled_guarded]
      exact TimeLimit.not_manageable hlimit
  | ok limit =>
      by_cases hexpired : limit = .expired
      · have hundialed : ¬ c.Dials resolver lookups := fun h => ((dials_iff hlimit).mp h).1 hexpired
        refine iff_of_true ?_ (not_escapes_of_not_dials hlimit hundialed)
        rw [verdict_request, hbuild]
        simp only [hlimit, if_pos hexpired]
        exact .failure rfl
      · cases hresolve : (resolver.resolve lookups c.destination.host limit.patient).1 with
        | error failure =>
            have hundialed : ¬ c.Dials resolver lookups := by
              rw [dials_iff hlimit, hresolve]
              rintro ⟨-, address, h⟩
              cases h
            refine iff_of_true ?_ (not_escapes_of_not_dials hlimit hundialed)
            rw [verdict_request, hbuild]
            simp only [hlimit, if_neg hexpired, verdict_exchange, hresolve]
            exact handled_of_unresolved hresolver hlookups c.url.host limit (hc.host ▸ hresolve)
        | ok address =>
            have hdials := (dials_iff hlimit).mpr ⟨hexpired, address, hresolve⟩
            -- An address of a text is a text, so that the port alone may be unwritable.
            obtain ⟨text, rfl⟩ := Resolver.text_of_resolve hresolver hlookups (hc.host ▸ hresolve)
            have hdial := dialLog_text text c.destination.port
            cases hport : c.destination.port.plainString with
            | error failure =>
                refine iff_of_false ?_ (not_not_intro (.port hdials hport))
                rw [hport] at hdial
                rw [verdict_request, hbuild]
                simp only [hlimit, if_neg hexpired, verdict_exchange, hresolve, hdial]
                exact (Value.unwritable_plainString hport).not_handled limit
            | ok port =>
                rw [hport] at hdial
                rw [verdict_met hbuild hlimit hexpired hresolve hdial,
                  escapes_iff_of_dials hlimit hdials hport]
                exact handled_meet hpeer htexts limit

theorem constructed_loopback : loopback.Constructed := by
  have h : make (.text "http://localhost:8888") (.text "json") (.map [(.text "timeout", .int 10)])
      = .ok loopback := rfl
  exact .made h

theorem build_getRoot : ∃ request, loopback.build getRoot = .ok request ∧ request.TextHeaders
    ∧ request.method = .text "GET" := by
  refine ⟨_, rfl, ?_, rfl⟩
  intro header hheader
  obtain rfl | hheader := List.mem_cons.mp hheader
  · exact ⟨_, _, rfl⟩
  · obtain rfl | hheader := List.mem_cons.mp hheader
    · exact ⟨_, _, rfl⟩
    · cases hheader

end Client

theorem Resolver.answers_direct : Resolver.direct.Answers Failure.OfNetwork where
  failures := fun host n failure h => by cases h
  found := fun host n h => by cases h

/-- A peer that sends some bytes in one piece and closes. -/
def Peer.sending (bytes : List UInt8) : Peer := .accepts { segments := [bytes] } none

theorem Peer.speaks_sending (bytes : List UInt8) : (Peer.sending bytes).Speaks :=
  .accepts (by simp) (fun failure h => by cases h) (fun failure h => by cases h)

/-- What is sent by the rules is not misread, whatever comes after it. -/
theorem Rendition.Legal.not_misread {r : Rendition} {method : Value} (h : r.Legal method)
    (after : List UInt8) : ¬ Response.Misread method (r.bytes ++ after) := by
  intro hmisread
  let s : Stream := { segments := [r.bytes ++ after] }
  have hbytes : s.bytes = r.bytes ++ after := by simp [s, Stream.bytes]
  obtain ⟨rest, hdone, -, -⟩ := h.consumes.whole hbytes
  obtain ⟨failure, rest', hfailed, -⟩ := Response.readReply_of_misread (hbytes ▸ hmisread)
  cases hdone.symm.trans hfailed

theorem Response.not_misread_inTwoChunks : ¬ Misread (.text "GET")
    (Stream.bytes { segments := [Rendition.inTwoChunks.bytes] }) := by
  simpa [Stream.bytes] using Rendition.legal_inTwoChunks.not_misread []

/-- A peer that sends a reply by the rules leaves no way out of the call. -/
theorem Client.not_escapes_inTwoChunks {request : Request} (h : request.method = .text "GET") :
    ¬ loopback.Escapes .direct {} (.sending Rendition.inTwoChunks.bytes) request := by
  intro hescapes
  cases hescapes with
  | limit refused => cases ofValue_loopback.symm.trans refused
  | port dials unwritable =>
      obtain ⟨log, hdial⟩ := dialLog_loopback
      have hfailed := dialLog_text "localhost" loopback.destination.port
      rw [unwritable, hdial] at hfailed
      cases hfailed
  | peer dials written escapes =>
      obtain ⟨accepts, unwritable⟩ | ⟨accepts, -, misread⟩ := escapes
      · rw [h] at unwritable
        cases unwritable
      · cases accepts
        rw [h] at misread
        exact Response.not_misread_inTwoChunks misread

/-- The call reads the reply, in two chunks and with a trailer, to its end. -/
theorem Client.request_handled_iff_inTwoChunks :
    ∃ request, loopback.build getRoot = .ok request
      ∧ ¬ loopback.Escapes .direct {} (.sending Rendition.inTwoChunks.bytes) request
      ∧ (loopback.request .direct {} (.sending Rendition.inTwoChunks.bytes)
        getRoot).verdict.Handled := by
  obtain ⟨request, hbuild, htexts, hmethod⟩ := build_getRoot
  have hstays := not_escapes_inTwoChunks hmethod
  have hiff := request_handled_iff constructed_loopback hbuild htexts Resolver.answers_direct
    Lookups.orderly_nil (Peer.speaks_sending Rendition.inTwoChunks.bytes)
  refine ⟨request, hbuild, hstays, ?_⟩
  rw [hiff]
  exact hstays

namespace Response

/-- The bytes of `HTTP/1.1 ² OK` and an empty line: a status that is a digit
sign but no number. -/
def superscript : List UInt8 := Text.Latin1.encode "HTTP/1.1 ² OK\r\n\r\n".toList

theorem misread_superscript (method : Value) : Misread method superscript := by
  let line : List UInt8 := Text.Latin1.encode "HTTP/1.1 ² OK".toList
  have hlegible : Legible line := ⟨unbroken_of_not_mem (by decide), by decide⟩
  have hconsumed := @consumes_readHead Empty Empty.elim Empty.elim line [] hlegible (by simp)
  have hdeceptive : Deceptive "²".toList :=
    ⟨by decide, fun h => absurd (h.digits '²' (by decide)) (by decide)⟩
  have hparts : Text.words 2 (trimLineEnds (String.ofList (lineText line)).toList)
      = ["HTTP/1.1".toList, "²".toList, "OK".toList] := by decide
  exact .status hconsumed (.intro hparts (by decide) hdeceptive) []

end Response

/-- A reply with such a status escapes from a call that meets all that is
asked of it. -/
theorem Client.not_handled_superscript :
    loopback.Constructed
      ∧ (∃ request, loopback.build getRoot = .ok request ∧ request.TextHeaders)
      ∧ Resolver.direct.Answers Failure.OfNetwork ∧ Lookups.Orderly Failure.OfNetwork {}
      ∧ (Peer.sending Response.superscript).Speaks
      ∧ ¬ (loopback.request .direct {} (.sending Response.superscript)
        getRoot).verdict.Handled := by
  obtain ⟨request, hbuild, htexts, -⟩ := build_getRoot
  refine ⟨constructed_loopback, ⟨request, hbuild, htexts⟩, Resolver.answers_direct,
    Lookups.orderly_nil, Peer.speaks_sending _, ?_⟩
  obtain ⟨sent, hverdict⟩ := verdict_getRoot (.sending Response.superscript)
  obtain ⟨failure, rest, hread, hescaping⟩ := Response.readReply_of_misread
    (s := { segments := [Response.superscript] }) (Response.misread_superscript (.text "GET"))
  rw [hverdict]
  simp only [Peer.sending, Peer.meet]
  rw [Link.exchange_eq rfl, hread]
  exact hescaping.not_handled .limited

end Courier
