import Courier.Proofs.BodyReads
import Courier.Transport

/-!
# Reading replies

The laws of readers for whole replies, put together from those of heads and
bodies, and then said of an exchange on a connection, which is a write and a
read. A reply that says itself where it ends (`SelfDelimiting`) is delimited;
one that goes on up to the end of the data is not, but its pieces do not
matter either.
-/

namespace Courier

namespace Response

/-- Either no body follows, or the headers say where it ends. -/
def SelfDelimiting (method : Value) (status : Int) (headers : Entries String String) : Prop :=
  hasBody method status = true → Framing.ofHeaders headers ≠ .ok .untilClosed

/-! ## Contents -/

theorem joined_reverse (run : BodyRun) :
    BodyRun.joined ⟨run.blocks.reverse, run.outcome⟩
      = (BodyRun.answer run).map (·.reverse.flatten) := by
  obtain ⟨blocks, outcome⟩ := run
  cases outcome <;> rfl

/-- The bytes of a body of any framing are those of its blocks. -/
theorem joined_readBody (framing : Framing) (max : Int) (s : Stream) :
    BodyRun.joined (readBody framing max s) =
      Outcome.map (fun blocks : List (List UInt8) => blocks.reverse.flatten) (match framing with
        | .chunked => BodyRun.answer (readChunks max [] s)
        | .fixed length => BodyRun.answer (readLengthBlocks max length [] s)
        | .untilClosed => BodyRun.answer (readToEnd max s)) := by
  cases framing <;> exact joined_reverse _

/-- A body up to the end of the data is everything that arrives. -/
theorem joined_readToEnd {max : Int} (hmax : 0 < max) (s : Stream) :
    BodyRun.joined (readBody .untilClosed max s) = (atEnding s).map fun _ => s.bytes := by
  have hblocks : (readToEnd max s).blocks.reverse.flatten = s.bytes := by
    rw [readToEnd, if_neg (by omega), if_neg (by omega)]
    simpa [Stream.bytes] using
      flatten_foldl_cutBlocks (show max.toNat ≠ 0 by omega) (s.buffer :: s.segments) []
  have houtcome : (readToEnd max s).outcome = atEnding s := by
    rw [readToEnd, if_neg (by omega), if_neg (by omega)]
  rw [BodyRun.joined, readBody, houtcome, hblocks]

theorem alike_atEnding {s t : Stream} (h : s.Same t) : (atEnding s).Alike (atEnding t) := by
  unfold atEnding
  rw [h.ending]
  cases t.ending with
  | closed => exact .done () ⟨rfl, rfl⟩
  | failure failure => exact .failed (.refl failure) _ _
  | silence => exact .waiting _ _

theorem blames_atEnding (s : Stream) (own : Failure → Prop) :
    (atEnding s).Blames s.ending own := by
  unfold atEnding
  cases s.ending with
  | closed => exact .done () rfl
  | failure failure => exact .stream (.failure rfl) _
  | silence => exact .waiting rfl _

theorem blockSize_pos : 0 < blockSize := by decide

theorem readContent_eq (method : Value) (status : Int) (headers : Entries String String)
    (s : Stream) :
    readContent method status headers s =
      if hasBody method status then
        (Outcome.ofExcept s (Framing.ofHeaders headers)).andThen fun framing s =>
          BodyRun.joined (readBody framing blockSize s)
      else .done [] s := rfl

theorem delimitsAt_readContent {method : Value} {status : Int} {headers : Entries String String}
    (h : SelfDelimiting method status headers) (s : Stream) :
    DelimitsAt (readContent method status headers) s := by
  rw [funext (readContent_eq method status headers)]
  by_cases hbody : hasBody method status = true
  · simp only [if_pos hbody]
    cases hframing : Framing.ofHeaders headers with
    | error failure => exact delimitsAt_failed failure s
    | ok framing =>
        simp only [Outcome.ofExcept, Outcome.andThen_done, joined_readBody]
        cases framing with
        | chunked => exact (delimitsAt_readChunks blockSize [] s).map _
        | fixed length => exact (delimitsAt_readLengthBlocks blockSize length [] s).map _
        | untilClosed => exact absurd hframing (h hbody)
  · simpa only [if_neg hbody] using delimitsAt_done [] s

theorem alike_readContent (method : Value) (status : Int) (headers : Entries String String)
    {s t : Stream} (h : s.Same t) :
    (readContent method status headers s).Alike (readContent method status headers t) := by
  rw [readContent_eq, readContent_eq]
  by_cases hbody : hasBody method status = true
  · simp only [if_pos hbody]
    refine (alike_ofExcept _ h).andThen fun framing rest rest' _ same => ?_
    cases framing with
    | chunked =>
        simpa only [joined_readBody] using (alike_readChunks blockSize [] same).map _
    | fixed length =>
        simpa only [joined_readBody] using (alike_readLengthBlocks blockSize length [] same).map _
    | untilClosed =>
        rw [joined_readToEnd blockSize_pos, joined_readToEnd blockSize_pos, same.bytes]
        exact (alike_atEnding same).map _
  · simpa only [if_neg hbody] using Outcome.Alike.done [] h

/-! ## Replies -/

theorem alike_readReply (method : Value) {s t : Stream} (h : s.Same t) :
    (readReply method s).Alike (readReply method t) :=
  (alike_readHead h).andThen fun _ _ _ _ same =>
    (alike_ofExcept _ same).andThen fun _ _ _ _ same => (alike_readContent _ _ _ same).map _

/-- A reply that says where it ends is delimited by what it is made of. -/
theorem delimitsAt_readReply {method : Value} {s rest : Stream} {reply : Reply}
    (h : readReply method s = .done reply rest)
    (hself : SelfDelimiting method reply.status reply.headers) :
    DelimitsAt (readReply method) s := by
  obtain ⟨head, afterHead, hhead, h⟩ := Outcome.andThen_eq_done h
  obtain ⟨line, afterLine, hline, h⟩ := Outcome.andThen_eq_done h
  obtain ⟨content, hcontent, rfl⟩ := Outcome.map_eq_done h
  -- the head and the status line are those of the reply, since they are read off one stream
  refine (delimitsAt_readHead s).andThen fun head' rest' hhead' => ?_
  obtain ⟨rfl, rfl⟩ := Outcome.done.inj (hhead.symm.trans hhead')
  refine (delimitsAt_ofExcept _ _).andThen fun line' rest'' hline' => ?_
  obtain ⟨rfl, rfl⟩ := Outcome.done.inj (hline.symm.trans hline')
  exact (delimitsAt_readContent hself _).map _

end Response

end Courier
