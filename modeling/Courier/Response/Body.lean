import Courier.Response.Framing
import Courier.Stream

/-!
# Reading a body

A body is read in blocks of a greatest size. Every reader yields its blocks
in order, so that what was read before a failure is known, and then says how
it ended. Reading a body in chunks ends since every chunk takes at least its
size line off the stream.
-/

namespace Courier.Response

open Courier.Text

/-- A run of a body reader: the blocks it yielded and its outcome. The readers
of the single framings hold the last block first; `readBody` puts the blocks
in order. -/
structure BodyRun where
  blocks : List (List UInt8)
  outcome : Outcome Unit

/-! ## A body of known length -/

/-- Reads `remaining` bytes in blocks of at most `max`; `done` holds the
blocks read so far, the last one first. Blocks of no bytes would go on for ever. -/
def readBlocks (max remaining : Nat) (done : List (List UInt8)) (s : Stream) : BodyRun :=
  if remaining = 0 then ⟨done, .done () s⟩
  else if max = 0 then ⟨done, .waiting s⟩
  else
    match s.readExactly (min max remaining) with
    | .done block rest => readBlocks max (remaining - min max remaining) (block :: done) rest
    | .failed failure rest => ⟨done, .failed failure rest⟩
    | .waiting rest => ⟨done, .waiting rest⟩
termination_by remaining

/-- Reads a length of any sign: a negative length, or a negative block size
for a body that is not empty, is refused. -/
def readLengthBlocks (max length : Int) (done : List (List UInt8)) (s : Stream) : BodyRun :=
  if length = 0 then ⟨done, .done () s⟩
  else if max < 0 ∨ length < 0 then ⟨done, .failed .negativeRead s⟩
  else readBlocks max.toNat length.toNat done s

theorem length_readBlocks {max : Nat} : ∀ {remaining : Nat} {done : List (List UInt8)}
    {s rest : Stream}, (readBlocks max remaining done s).outcome = .done () rest →
      rest.bytes.length ≤ s.bytes.length := by
  intro remaining
  induction remaining using Nat.strongRecOn with
  | _ remaining ih =>
      intro done s rest h
      unfold readBlocks at h
      split at h
      · simp only [Outcome.done.injEq, true_and] at h
        subst h
        exact Nat.le_refl _
      · split at h
        · simp at h
        · split at h
          · rename_i block mid hread
            have hmid := (Stream.bytes_readExactly hread).1
            have := ih _ (by omega) h
            rw [hmid, List.length_append]
            omega
          · simp at h
          · simp at h

theorem length_readLengthBlocks {max length : Int} {done : List (List UInt8)} {s rest : Stream}
    (h : (readLengthBlocks max length done s).outcome = .done () rest) :
    rest.bytes.length ≤ s.bytes.length := by
  unfold readLengthBlocks at h
  split at h
  · simp only [Outcome.done.injEq, true_and] at h
    subst h
    exact Nat.le_refl _
  · split at h
    · simp at h
    · exact length_readBlocks h

/-! ## A body in chunks -/

/-- The text of a chunk's size: what stands before a semicolon, without
blanks, or the whole line. -/
def sizeText (line : List UInt8) : List UInt8 :=
  match partitionAt 59 line with
  | (size, some _) => trimBy (fun b => isAsciiBlank (Char.ofNat b.toNat)) size
  | (_, none) => line

def chunkSize (line : List UInt8) : Except Failure Int :=
  (Integer.ofHexBytes (sizeText line)).mapError fun _ =>
    .invalidResponse (.chunkSize (sizeText line))

/-- Skips lines up to an empty one. -/
def skipTrailers (s : Stream) : Outcome Unit :=
  match _h : s.readLine with
  | .done [] rest => .done () rest
  | .done (_ :: _) rest => skipTrailers rest
  | .failed failure rest => .failed failure rest
  | .waiting rest => .waiting rest
termination_by s.bytes.length
decreasing_by exact Stream.length_readLine _h

/-- Reads the data of a chunk and the line end after it, which is not looked at. -/
def readChunk (max size : Int) (done : List (List UInt8)) (s : Stream) : BodyRun :=
  let run := readLengthBlocks max size done s
  ⟨run.blocks, run.outcome.andThen fun _ rest => (rest.readExactly 2).map fun _ => ()⟩

theorem length_readChunk {max size : Int} {done : List (List UInt8)} {s rest : Stream}
    (h : (readChunk max size done s).outcome = .done () rest) :
    rest.bytes.length ≤ s.bytes.length := by
  simp only [readChunk] at h
  cases hrun : (readLengthBlocks max size done s).outcome with
  | failed failure after => simp [hrun, Outcome.andThen] at h
  | waiting after => simp [hrun, Outcome.andThen] at h
  | done _ after =>
      have hle := length_readLengthBlocks hrun
      rw [hrun] at h
      simp only [Outcome.andThen] at h
      cases hskip : after.readExactly 2 with
      | failed failure last => simp [hskip, Outcome.map] at h
      | waiting last => simp [hskip, Outcome.map] at h
      | done front last =>
          simp only [hskip, Outcome.map, Outcome.done.injEq, true_and] at h
          subst h
          have := congrArg List.length (Stream.bytes_readExactly hskip).1
          simp only [List.length_append] at this
          omega

/-- Reads chunks up to one of size zero, and the trailers after it. -/
def readChunks (max : Int) (done : List (List UInt8)) (s : Stream) : BodyRun :=
  match _hline : s.readLine with
  | .failed failure rest => ⟨done, .failed failure rest⟩
  | .waiting rest => ⟨done, .waiting rest⟩
  | .done line rest =>
      match chunkSize line with
      | .error failure => ⟨done, .failed failure rest⟩
      | .ok size =>
          if size = 0 then ⟨done, skipTrailers rest⟩
          else
            match _hchunk : readChunk max size done rest with
            | ⟨blocks, .done () last⟩ => readChunks max blocks last
            | ⟨blocks, outcome⟩ => ⟨blocks, outcome⟩
termination_by s.bytes.length
decreasing_by
  have h₁ := Stream.length_readLine _hline
  have h₂ := length_readChunk (congrArg BodyRun.outcome _hchunk)
  omega

/-! ## A body up to the end of the data -/

/-- Cuts bytes into blocks of `max`, the last one perhaps shorter, and puts
them in front of `done` in reverse order. -/
def cutBlocks (max : Nat) (done : List (List UInt8)) (bytes : List UInt8) : List (List UInt8) :=
  if max = 0 ∨ bytes = [] then done
  else cutBlocks max (bytes.take max :: done) (bytes.drop max)
termination_by bytes.length
decreasing_by
  rename_i h
  have hlen : bytes.length ≠ 0 := by
    intro h0
    exact h (Or.inr (List.length_eq_zero_iff.1 h0))
  simp only [List.length_drop]
  omega

/-- The outcome once all pieces are used up. -/
def atEnding (s : Stream) : Outcome Unit :=
  let rest : Stream := ⟨[], [], s.ending⟩
  match s.ending with
  | .closed => .done () rest
  | .failure failure => .failed failure rest
  | .silence => .waiting rest

/-- Reads everything up to the end of the data: piece by piece, each in
blocks of at most `max`. A block size of zero reads nothing, and a negative
one stands for a single block of all bytes, which is lost if the data do not end. -/
def readToEnd (max : Int) (s : Stream) : BodyRun :=
  if max = 0 then ⟨[], .done () s⟩
  else if max < 0 then
    match s.ending, s.bytes with
    | .closed, b :: rest => ⟨[b :: rest], atEnding s⟩
    | _, _ => ⟨[], atEnding s⟩
  else ⟨(s.buffer :: s.segments).foldl (cutBlocks max.toNat) [], atEnding s⟩

/-! ## Any body -/

/-- Reads a body of any framing in blocks of at most `max`. -/
def readBody (framing : Framing) (max : Int) (s : Stream) : BodyRun :=
  let run := match framing with
    | .chunked => readChunks max [] s
    | .fixed length => readLengthBlocks max length [] s
    | .untilClosed => readToEnd max s
  ⟨run.blocks.reverse, run.outcome⟩

/-- The size of the blocks that bodies of responses are read in. -/
def blockSize : Int := 4096

end Courier.Response
