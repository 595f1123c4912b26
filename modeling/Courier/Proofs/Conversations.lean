import Courier.Proofs.Rendering

/-!
# Conversations

Requests that follow each other on one connection. A server that sends legal
renditions, one for each request, is understood as it means: every exchange
yields the reply that was rendered for it, and what stands behind the last
one is left for the next reader. Neither the pieces in which the bytes
arrive nor the way in which bodies are cut into chunks have a part in that.
-/

namespace Courier

/-- Exchanges requests for replies on the last connection, one after the other. -/
def Transport.exchangeAll (t : Transport) :
    List (List UInt8 × Value) → List (Verdict Reply) × Transport
  | [] => ([], t)
  | (data, method) :: more =>
      let (verdict, t) := t.exchange data method
      let (verdicts, t) := t.exchangeAll more
      (verdict :: verdicts, t)

/-- A request that is sent, its method, and what the server sends back. -/
structure Turn where
  data : List UInt8
  method : Value
  rendition : Rendition

/-- Reading undoes rendering, over whole connections. -/
theorem Transport.exchangeAll_renditions {turns : List Turn}
    (h : ∀ turn ∈ turns, turn.rendition.Legal turn.method) {link : Link}
    (hsend : link.sendFailure = none) {after : List UInt8}
    (hbytes : link.incoming.bytes = turns.flatMap (·.rendition.bytes) ++ after)
    (earlier : List Link) :
    ∃ rest : Stream, rest.bytes = after ∧ rest.ending = link.incoming.ending
      ∧ Transport.exchangeAll { links := link :: earlier }
          (turns.map fun turn => (turn.data, turn.method))
        = (turns.map fun turn => .ok turn.rendition.reply,
            { links := { link with
                incoming := rest
                written := link.written ++ turns.flatMap (·.data) } :: earlier }) := by
  induction turns generalizing link with
  | nil => exact ⟨link.incoming, hbytes, rfl, by simp [exchangeAll]⟩
  | cons turn turns ih =>
      rw [List.flatMap_cons, List.append_assoc] at hbytes
      obtain ⟨mid, hmid, hending, hexchange⟩ :=
        Link.exchange_rendition hsend (h turn (List.mem_cons_self ..)) hbytes turn.data
      let next : Link := { link with incoming := mid, written := link.written ++ turn.data }
      have hnext : next.incoming.bytes = turns.flatMap (·.rendition.bytes) ++ after := hmid
      obtain ⟨rest, hrest, hending', hall⟩ :=
        ih (fun other hother => h other (List.mem_cons_of_mem _ hother))
          (show next.sendFailure = none from hsend) hnext
      refine ⟨rest, hrest, hending'.trans hending, ?_⟩
      simp only [List.map_cons, exchangeAll, Transport.exchange, withLink, hexchange]
      rw [hall]
      simp [next, List.append_assoc]

/-- A body in chunks and then a head alone; the pieces end within a size line. -/
theorem Transport.exchangeAll_chunks_then_head :
    ∃ rest : Stream, rest.bytes = [] ∧ rest.ending = .closed
      ∧ Transport.exchangeAll
          { links := [{ incoming := { segments := [Rendition.inTwoChunks.bytes.take 50,
              Rendition.inTwoChunks.bytes.drop 50 ++ Rendition.headAlone.bytes] } }] }
          [([1], .text "GET"), ([2], .text "HEAD")]
        = ([.ok ⟨200, "OK", [("transfer-encoding", "chunked")], [104, 101, 108, 108, 111]⟩,
            .ok ⟨404, "", [("content-length", "5")], []⟩],
          { links := [{ incoming := rest, written := [1, 2] }] }) := by
  let turns : List Turn :=
    [⟨[1], .text "GET", .inTwoChunks⟩, ⟨[2], .text "HEAD", .headAlone⟩]
  let link : Link := { incoming := { segments := [Rendition.inTwoChunks.bytes.take 50,
    Rendition.inTwoChunks.bytes.drop 50 ++ Rendition.headAlone.bytes] } }
  have hlegal : ∀ turn ∈ turns, turn.rendition.Legal turn.method := by
    simp [turns, Rendition.legal_inTwoChunks, Rendition.legal_headAlone]
  have hbytes : link.incoming.bytes = turns.flatMap (·.rendition.bytes) ++ [] := by
    simp [turns, link, Stream.bytes, ← List.append_assoc]
  obtain ⟨rest, hrest, hending, hall⟩ := exchangeAll_renditions hlegal rfl hbytes []
  exact ⟨rest, hrest, hending, hall⟩

end Courier
