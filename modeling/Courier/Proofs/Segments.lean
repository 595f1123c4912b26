import Courier.Proofs.Rendering

/-!
# Pieces do not matter

An exchange is determined by the bytes that arrive and by what comes after
the last of them. In how many pieces they come, and where these end, is seen
in nothing but the text of a failure for an overlong line, of which there are
two (`exchange_segmentation`). What a reader keeps between two pieces is
therefore never a state of its own: a line end, a size, or a character of the
body may be cut anywhere.
-/

namespace Courier

/-- Exchanges that went the same way: the same reply with the same left to be
read, failures that are the same but for the texts of an overlong line, or
waits without end. -/
inductive SameExchange : Verdict Reply × Transport → Verdict Reply × Transport → Prop where
  | ok (reply : Reply) {link link' : Link} (unread : link.incoming.Same link'.incoming)
      (earlier earlier' : List Link) :
      SameExchange (.ok reply, { links := link :: earlier })
        (.ok reply, { links := link' :: earlier' })
  | failed {failure failure' : Failure} (alike : failure.Alike failure') (t t' : Transport) :
      SameExchange (.failed failure, t) (.failed failure', t')
  | waiting (t t' : Transport) : SameExchange (.waiting, t) (.waiting, t')

/-- Calls that ended in the same way, but for the texts of an overlong line. -/
inductive SameEnd : Verdict Response → Verdict Response → Prop where
  | refl (verdict : Verdict Response) : SameEnd verdict verdict
  | overlong (endFound endFound' : Bool) :
      SameEnd (.failed (.transport (.lineTooLong endFound)))
        (.failed (.transport (.lineTooLong endFound')))

theorem Transport.exchange_same {link link' : Link} (h : link.incoming.Same link'.incoming)
    (hsend : link.sendFailure = link'.sendFailure) (data : List UInt8) (method : Value)
    (earlier earlier' : List Link) :
    SameExchange (Transport.exchange { links := link :: earlier } data method)
      (Transport.exchange { links := link' :: earlier' } data method) := by
  simp only [Transport.exchange, withLink]
  cases hfailure : link.sendFailure with
  | some failure =>
      simp only [Link.exchange, ← hsend, hfailure]
      exact .failed (.refl failure) _ _
  | none =>
      have halike := Response.alike_readReply method h
      rw [Link.exchange_eq hfailure, Link.exchange_eq (hsend ▸ hfailure)]
      generalize Response.readReply method link.incoming = outcome at halike ⊢
      generalize Response.readReply method link'.incoming = outcome' at halike ⊢
      cases halike with
      | done reply same => exact .ok reply same earlier earlier'
      | failed alike rest rest' => exact .failed alike _ _
      | waiting rest rest' => exact .waiting _ _

theorem Failure.Alike.sameEnd {failure failure' : Failure} (h : failure.Alike failure')
    (limit : TimeLimit) :
    SameEnd (limit.bound (.failed failure)).concluded
      (limit.bound (.failed failure')).concluded := by
  cases h with
  | refl failure => exact .refl _
  | overlong endFound endFound' => exact .overlong endFound endFound'

/-- A peer that sends the same bytes is met in the same way. -/
theorem Peer.meet_same {s t : Stream} (h : s.Same t) (sendFailure : Option Failure)
    (data : Except Failure (List UInt8)) (method : Value) (limit : TimeLimit) :
    SameEnd (limit.bound ((Peer.accepts s sendFailure).meet data method)).concluded
      (limit.bound ((Peer.accepts t sendFailure).meet data method)).concluded := by
  cases data with
  | error failure => exact .refl _
  | ok data =>
      cases sendFailure with
      | some failure => exact .refl _
      | none =>
          have halike := Response.alike_readReply method h
          simp only [Peer.meet]
          rw [Link.exchange_eq rfl, Link.exchange_eq rfl]
          generalize Response.readReply method s = outcome at halike ⊢
          generalize Response.readReply method t = outcome' at halike ⊢
          cases halike with
          | done reply same => exact .refl _
          | failed alike rest rest' => exact alike.sameEnd limit
          | waiting rest rest' => exact .refl _

/-- A peer that sends a rendition is met with its reply. -/
theorem Peer.meet_rendition {r : Rendition} {method : Value} (h : r.Legal method) {s : Stream}
    {after : List UInt8} (hs : s.bytes = r.bytes ++ after) (data : List UInt8) :
    (Peer.accepts s none).meet (.ok data) method = .ok r.reply := by
  let link : Link := { incoming := s }
  obtain ⟨rest, -, -, hexchange⟩ :=
    Link.exchange_rendition (show link.sendFailure = none from rfl) h hs data
  exact congrArg Prod.fst hexchange

/-- Neither the pieces in which bytes arrive nor the chunks into which a body
is cut are seen in how an exchange, or a call, ends. -/
theorem exchange_segmentation {link link' : Link} (h : link.incoming.Same link'.incoming)
    (hsend : link.sendFailure = link'.sendFailure) (data : List UInt8) (method : Value) :
    (∀ earlier earlier',
      SameExchange (Transport.exchange { links := link :: earlier } data method)
        (Transport.exchange { links := link' :: earlier' } data method))
      ∧ (∀ (c : Client) (resolver : Resolver) (lookups : Lookups) (call : Client.Call),
        SameEnd
          (c.request resolver lookups (.accepts link.incoming link.sendFailure) call).verdict
          (c.request resolver lookups (.accepts link'.incoming link'.sendFailure) call).verdict)
      ∧ ∀ (c : Client) (resolver : Resolver) (lookups : Lookups) (call : Client.Call)
        (r r' : Rendition) (s s' : Stream) (after after' : List UInt8),
        r.Legal call.method → r'.Legal call.method → r.reply = r'.reply →
        s.bytes = r.bytes ++ after → s'.bytes = r'.bytes ++ after' →
          (c.request resolver lookups (.accepts s none) call).verdict
            = (c.request resolver lookups (.accepts s' none) call).verdict := by
  refine ⟨fun earlier earlier' => Transport.exchange_same h hsend data method earlier earlier',
    fun c resolver lookups call => ?_, fun c resolver lookups call r r' s s' after after' hlegal
      hlegal' hreply hs hs' => ?_⟩
  · obtain ⟨verdict, hverdict⟩ | ⟨limit, request, hverdict⟩ :=
      c.verdict_before_or_meet resolver lookups call
    · rw [hverdict, hverdict]
      exact .refl verdict
    · rw [hverdict, hverdict, ← hsend]
      exact Peer.meet_same h link.sendFailure request call.method limit
  · obtain ⟨verdict, hverdict⟩ | ⟨limit, request, hverdict⟩ :=
      c.verdict_before_or_meet resolver lookups call
    · rw [hverdict, hverdict]
    · rw [hverdict, hverdict]
      cases request with
      | error failure => rfl
      | ok request => rw [Peer.meet_rendition hlegal hs, Peer.meet_rendition hlegal' hs', hreply]

/-- One piece or two, and then one chunk or two. -/
theorem exchange_segmentation_in_two :
    SameExchange
        (Transport.exchange
          { links := [{ incoming := { segments := [Rendition.inTwoChunks.bytes] } }] } []
          (.text "GET"))
        (Transport.exchange
          { links := [{ incoming := { segments := [Rendition.inTwoChunks.bytes.take 50,
              Rendition.inTwoChunks.bytes.drop 50] } }] } [] (.text "GET"))
      ∧ (Client.loopback.request .direct {}
            (.accepts { segments := [Rendition.inTwoChunks.bytes] } none) Client.getRoot).verdict
          = (Client.loopback.request .direct {}
            (.accepts { segments := [Rendition.inOneChunk.bytes] } none)
            Client.getRoot).verdict := by
  let whole : Link := { incoming := { segments := [Rendition.inTwoChunks.bytes] } }
  let cut : Link := { incoming := { segments := [Rendition.inTwoChunks.bytes.take 50,
    Rendition.inTwoChunks.bytes.drop 50] } }
  have hsame : whole.incoming.Same cut.incoming := ⟨by simp [whole, cut, Stream.bytes], rfl⟩
  obtain ⟨hexchange, -, hchunks⟩ := exchange_segmentation hsame rfl [] (.text "GET")
  refine ⟨hexchange [] [], hchunks .loopback .direct {} Client.getRoot .inTwoChunks .inOneChunk
    _ _ [] [] Rendition.legal_inTwoChunks Rendition.legal_inOneChunk rfl ?_ ?_⟩
  · simp [Stream.bytes]
  · simp [Stream.bytes]

end Courier
