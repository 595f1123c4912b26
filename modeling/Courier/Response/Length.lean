import Courier.Response.Body

/-!
# Bodies of any length

The length of a body may be given as any value. One that counts as false is
the length of no body, and one that is no number cannot be compared with the
size of a block. A number need not be whole: full blocks are read as long as
the length covers one, and what is left of it is read only if the bytes at
hand are exactly that many.
-/

namespace Courier.Stream

/-- Takes in piece after piece until there are enough bytes at hand or no
pieces are left. -/
def gather (enough : Nat → Bool) (s : Stream) : Stream :=
  go s.buffer s.segments
where
  /-- Takes pieces over to the bytes at hand. -/
  go (buffer : List UInt8) (segments : List (List UInt8)) : Stream :=
    match segments with
    | [] => ⟨buffer, [], s.ending⟩
    | segment :: more =>
        if enough buffer.length then ⟨buffer, segment :: more, s.ending⟩
        else go (buffer ++ segment) more

theorem bytes_gather_go {enough : Nat → Bool} {s : Stream} : ∀ {segments : List (List UInt8)}
    {buffer : List UInt8}, (gather.go enough s buffer segments).bytes = buffer ++ segments.flatten
  | [], buffer => by simp [gather.go, bytes]
  | segment :: more, buffer => by
      unfold gather.go
      split
      · simp [bytes]
      · rw [bytes_gather_go]; simp

/-- Taking in pieces loses nothing. -/
theorem bytes_gather (enough : Nat → Bool) (s : Stream) : (s.gather enough).bytes = s.bytes :=
  bytes_gather_go

end Courier.Stream

namespace Courier.Response

open Courier.Decimal

/-- Reads as many bytes as a positive number says. More bytes at hand than
that, and those of a part of a byte, cannot be cut off. -/
def readPart (x : Binary64) (s : Stream) : Outcome (List UInt8) :=
  let s := s.gather fun n => x.lessThanInt n || x.equalsInt n
  if x.equalsInt s.buffer.length then .done s.buffer { s with buffer := [] }
  else if x.lessThanInt s.buffer.length then .failed (.misuse .notCut) s
  else
    match s.ending with
    | .closed => .failed (.raised .incompleteRead [.bytes s.buffer, .float x]) ⟨[], [], .closed⟩
    | .failure failure => .failed failure s
    | .silence => .waiting s

/-- The number of full blocks in a length, and what is left of it. A length
without end has more blocks than the stream. -/
def fullBlocks (max : Nat) (x : Binary64) (s : Stream) : Nat × Binary64 :=
  match x with
  | .finite negative mantissa exponent =>
      let (num, den) := Binary64.ratio mantissa exponent
      let count := num / (max * den)
      (count, .ofRatio negative (num - count * max * den) den)
  | x => (s.bytes.length / max + 1, x)

/-- Reads a body of a length that need not be whole, in blocks of at most
`max`. The last block comes first. -/
def readFractionBlocks (max : Int) (x : Binary64) (s : Stream) : BodyRun :=
  if max < 0 ∨ x.lessThanInt 0 then ⟨[], .failed .negativeRead s⟩
  else if max = 0 then ⟨[], .waiting s⟩
  else
    let (count, left) := fullBlocks max.toNat x s
    let run := readBlocks max.toNat (count * max.toNat) [] s
    match run.outcome with
    | .done () rest =>
        if left.isZero then run
        else
          match readPart left rest with
          | .done block rest => ⟨block :: run.blocks, .done () rest⟩
          | .failed failure rest => ⟨run.blocks, .failed failure rest⟩
          | .waiting rest => ⟨run.blocks, .waiting rest⟩
    | _ => run

/-- Reads a body whose length is the truth of something: a single byte. Where
a block could hold more, a failure names the truth and not the number. -/
def readTruthBlock (max : Int) (s : Stream) : BodyRun :=
  let run := readLengthBlocks max 1 [] s
  match run.outcome with
  | .failed (.streamEnded _ _) rest =>
      if 1 < max then
        ⟨run.blocks, .failed (.raised .incompleteRead [.bytes [], .bool true]) rest⟩
      else run
  | _ => run

/-- Reads a body of a length of any value, in blocks of at most `max`. -/
def readBodyOf (length : Value) (max : Int) (s : Stream) : BodyRun :=
  if length.truthy then
    let run : BodyRun := match length with
      | .int n => readLengthBlocks max n [] s
      | .bool _ => readTruthBlock max s
      | .float x => readFractionBlocks max x s
      | v => ⟨[], .failed (.misuse (.unordered "<" v.typeName "int")) s⟩
    ⟨run.blocks.reverse, run.outcome⟩
  else ⟨[], .done () s⟩

/-- A length that is a whole number is that of a fixed framing. -/
theorem readBodyOf_int (n max : Int) (s : Stream) :
    readBodyOf (.int n) max s = readBody (.fixed n) max s := by
  by_cases h : n = 0
  · subst h; simp [readBodyOf, readBody, readLengthBlocks, Value.truthy]
  · simp [readBodyOf, readBody, Value.truthy, h]

end Courier.Response
