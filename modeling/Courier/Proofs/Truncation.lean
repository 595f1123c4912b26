import Courier.Proofs.Rendering

/-!
# Truncation is never silent

A reply that says itself where it ends is delimited by its bytes: with
anything behind them it is read as before, and with any of them missing it is
not read at all. A stream that stops early makes the exchange fail as an
early end, fail as the stream failed, or wait, and under a finite time limit
the wait is what the caller hears of (`exchange_truncated`).

The replies that a reader accepts are found by running it, so the argument
replays that run: `delimitsAt_readReply` says that each of its reads consumed
what it took, and what is consumed cannot be had from less.
-/

namespace Courier

namespace Outcome

variable {α : Type} {outcome : Outcome α}

theorem Dry.verdict_closed (h : outcome.Dry .closed) :
    ∃ got expected, outcome.verdict = .failed (.streamEnded got expected) := by
  cases h with
  | closed got expected rest => exact ⟨got, expected, rfl⟩

theorem Dry.verdict_failure {failure : Failure} (h : outcome.Dry (.failure failure)) :
    outcome.verdict = .failed failure := by
  cases h with
  | failure failure rest => rfl

theorem Dry.verdict_silence (h : outcome.Dry .silence) : outcome.verdict = .waiting := by
  cases h with
  | silence rest => rfl

end Outcome

/-- A positive number of seconds that a clock can count to. -/
inductive FiniteSeconds : Value → Prop where
  | one : FiniteSeconds (.bool true)
  | int {i : Int} (pos : 0 < i) (finite : (Decimal.Binary64.ofInt i).isFinite = true) :
      FiniteSeconds (.int i)
  | float {x : Decimal.Binary64} (pos : x.nonpositive = false) (finite : x.isFinite = true) :
      FiniteSeconds (.float x)

/-- So many seconds are a time limit, though perhaps one without patience. -/
theorem FiniteSeconds.ofValue {v : Value} (h : FiniteSeconds v) :
    ∃ limit, TimeLimit.ofValue v = .ok limit ∧ (limit = .limited ∨ limit = .immediate) := by
  cases h with
  | one => exact ⟨.limited, rfl, .inl rfl⟩
  | int pos finite =>
      refine ⟨.limited, ?_, .inl rfl⟩
      simp only [TimeLimit.ofValue, Value.number?]
      rw [if_neg (by omega), if_pos finite]
  | @float x pos finite =>
      have hbounded : x ≠ .infinity false := by
        rintro rfl
        cases finite
      refine ⟨TimeLimit.ofSeconds x, rfl, ?_⟩
      rw [TimeLimit.ofSeconds, if_neg (by simp [pos]), if_neg hbounded]
      split
      · exact .inr rfl
      · exact .inl rfl

/-- A call that waits for its peer under a finite time limit times out. -/
theorem Client.request_timedOut {c : Client} {resolver : Resolver} {lookups : Lookups}
    {call : Call} {request : Request} {peer : Peer} {address : Value} {log : Log}
    (hbuild : c.build call = .ok request) (htimeout : FiniteSeconds c.timeout)
    (hresolve : (resolver.resolve lookups c.destination.host true).1 = .ok address)
    (hdial : Transport.dialLog address c.destination.port = .ok log)
    (hwaits : peer.meet request.encode call.method = .waiting) :
    (c.request resolver lookups peer call).verdict = .failed (.requestTimedOut .waitExpired) := by
  obtain ⟨limit, hvalue, hlimit⟩ := htimeout.ofValue
  have hexpired : limit ≠ .expired := by
    rintro rfl
    simp at hlimit
  obtain hok | ⟨hpatient, hcancelled⟩ := Resolver.resolve_without_patience hresolve limit.patient
  · rw [verdict_met hbuild hvalue hexpired hok hdial, (built_of_build hbuild).method, hwaits]
    obtain rfl | rfl := hlimit <;> rfl
  · rw [verdict_request, hbuild]
    simp only [hvalue]
    rw [if_neg hexpired, verdict_exchange]
    obtain rfl | rfl := hlimit
    · cases hpatient
    · simp only [hcancelled]
      rfl

/-- A reply that says where it ends needs all of its bytes and no others.
With others behind them, `p` leads to the same reply and these are left. With
a part of `p` alone, the exchange ends as the stream does, and a call that
waits for the rest times out. -/
theorem exchange_truncated {link after : Link} {data : List UInt8} {method : Value} {reply : Reply}
    {p : List UInt8} (h : link.exchange data method = (.ok reply, after))
    (hself : Response.SelfDelimiting method reply.status reply.headers)
    (hp : link.incoming.bytes = p ++ after.incoming.bytes) :
    (∀ (other : Link) (t : List UInt8), other.sendFailure = none → other.incoming.bytes = p ++ t →
        ∃ rest : Stream, rest.bytes = t ∧ rest.ending = other.incoming.ending
          ∧ other.exchange data method
            = (.ok reply, { other with incoming := rest, written := other.written ++ data }))
      ∧ ∀ other : Link, other.sendFailure = none → other.incoming.bytes <+: p →
        other.incoming.bytes ≠ p →
          (other.incoming.ending = .closed →
            ∃ got expected, (other.exchange data method).1 = .failed (.streamEnded got expected))
          ∧ (∀ failure, other.incoming.ending = .failure failure →
            (other.exchange data method).1 = .failed failure)
          ∧ (other.incoming.ending = .silence →
            (other.exchange data method).1 = .waiting
            ∧ ∀ {c : Client} {resolver : Resolver} {lookups : Lookups} {call : Client.Call}
              {request : Request} {sent : List UInt8} {address : Value} {log : Log},
              call.method = method → c.build call = .ok request → request.encode = .ok sent →
              FiniteSeconds c.timeout →
              (resolver.resolve lookups c.destination.host true).1 = .ok address →
              Transport.dialLog address c.destination.port = .ok log →
              (c.request resolver lookups (.accepts other.incoming none) call).verdict
                = .failed (.requestTimedOut .waitExpired)) := by
  obtain ⟨-, hread⟩ := Link.readReply_of_exchange h
  obtain ⟨taken, htaken, hconsumes⟩ :=
    Response.delimitsAt_readReply hread hself reply after.incoming hread
  obtain rfl : taken = p := List.append_cancel_right (htaken.symm.trans hp)
  refine ⟨fun other t hsend hother => ?_, fun other hsend hpart hne => ?_⟩
  · obtain ⟨rest, hrest, hbytes, hending⟩ := hconsumes.whole hother
    refine ⟨rest, hbytes, hending, ?_⟩
    rw [Link.exchange_eq hsend, hrest]
    rfl
  · have hdry := hconsumes.part hpart hne
    have hverdict : (other.exchange data method).1
        = (Response.readReply method other.incoming).verdict := by
      rw [Link.exchange_eq hsend]
    rw [hverdict]
    refine ⟨fun hclosed => (hclosed ▸ hdry).verdict_closed,
      fun failure hfailure => (hfailure ▸ hdry).verdict_failure,
      fun hsilence => ⟨(hsilence ▸ hdry).verdict_silence, ?_⟩⟩
    intro c resolver lookups call request sent address log hmethod hbuild hencode htimeout hresolve
      hdial
    refine Client.request_timedOut hbuild htimeout hresolve hdial ?_
    rw [hencode, hmethod]
    simp only [Peer.meet]
    rw [Link.exchange_eq rfl]
    exact (hsilence ▸ hdry).verdict_silence

/-- Cut in its trailers, a reply in chunks is no reply. -/
theorem exchange_truncated_in_trailers :
    (∃ got expected, (Link.exchange
        { incoming := { segments := [Rendition.inTwoChunks.bytes.take 70] } } []
        (.text "GET")).1 = .failed (.streamEnded got expected))
      ∧ (Client.loopback.request .direct {}
          (.accepts { segments := [Rendition.inTwoChunks.bytes.take 70], ending := .silence } none)
          Client.getRoot).verdict = .failed (.requestTimedOut .waitExpired) := by
  let whole : Link := { incoming := { segments := [Rendition.inTwoChunks.bytes] } }
  let cut (ending : Ending) : Link :=
    { incoming := { segments := [Rendition.inTwoChunks.bytes.take 70], ending } }
  have hlegal := Rendition.legal_inTwoChunks
  have hbytes : whole.incoming.bytes = Rendition.inTwoChunks.bytes ++ [] := by
    simp [whole, Stream.bytes]
  have hcut (ending : Ending) :
      (cut ending).incoming.bytes = Rendition.inTwoChunks.bytes.take 70 := by
    simp [cut, Stream.bytes]
  have hpart (ending : Ending) : (cut ending).incoming.bytes <+: Rendition.inTwoChunks.bytes :=
    hcut ending ▸ List.take_prefix ..
  have hne (ending : Ending) : (cut ending).incoming.bytes ≠ Rendition.inTwoChunks.bytes := by
    rw [hcut]
    decide
  obtain ⟨rest, hrest, -, hexchange⟩ := Link.exchange_rendition rfl hlegal hbytes []
  obtain ⟨-, hshort⟩ := exchange_truncated hexchange hlegal.selfDelimiting (hrest ▸ hbytes)
  obtain ⟨hclosed, -, -⟩ := hshort (cut .closed) rfl (hpart _) (hne _)
  obtain ⟨-, -, hsilent⟩ := hshort (cut .silence) rfl (hpart _) (hne _)
  obtain ⟨log, hdial⟩ := Client.dialLog_loopback
  exact ⟨hclosed rfl, (hsilent rfl).2 rfl rfl rfl (.int (by decide) (by decide)) rfl hdial⟩

end Courier
