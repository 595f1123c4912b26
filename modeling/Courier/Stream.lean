import Courier.Failure.Basic

/-!
# Incoming bytes

What a peer sends arrives in pieces, and the pieces are handed over one at a
time, whenever more bytes are needed than are at hand. After the last piece
the stream ends, fails, or falls silent for good.

A read looks at `bytes`, everything that will ever arrive: a successful read
returns the front of it and leaves the rest (`bytes_readLine`,
`bytes_readExactly`). A read that waits for ever has taken in all the pieces,
and another reader may still go on with the bytes at hand. How the bytes were
cut into pieces is visible in nothing but which of two texts a failure for an
overlong line has.
-/

namespace Courier

/-- The longest line that is read, in bytes before its end. -/
def lineLimit : Nat := 65536

/-- What comes after the last piece. -/
inductive Ending where
  /-- The end of the data. -/
  | closed
  /-- A failure in its place. -/
  | failure (failure : Failure)
  /-- Nothing, ever. -/
  | silence
  deriving Repr, Inhabited

/-- A stream of bytes: what is at hand, the pieces to come, and the ending. -/
structure Stream where
  buffer : List UInt8 := []
  segments : List (List UInt8) := []
  ending : Ending := .closed
  deriving Repr, Inhabited

/-- The outcome of a read: a result, a failure, or a wait without end, each
with the stream as it is from then on. -/
inductive Outcome (α : Type) where
  | done (a : α) (rest : Stream)
  | failed (failure : Failure) (rest : Stream)
  | waiting (rest : Stream)

namespace Outcome

variable {α β : Type}

/-- Goes on with a result. -/
def andThen : Outcome α → (α → Stream → Outcome β) → Outcome β
  | .done a rest, next => next a rest
  | .failed failure rest, _ => .failed failure rest
  | .waiting rest, _ => .waiting rest

/-- Changes a result. -/
def map (f : α → β) : Outcome α → Outcome β
  | .done a rest => .done (f a) rest
  | .failed failure rest => .failed failure rest
  | .waiting rest => .waiting rest

/-- A computation that needs no more bytes. -/
def ofExcept (rest : Stream) : Except Failure α → Outcome α
  | .ok a => .done a rest
  | .error failure => .failed failure rest

end Outcome

/-- The front of a list of at least `n` elements, and the rest. -/
def splitFront? {α : Type} (n : Nat) (items : List α) : Option (List α × List α) :=
  go n [] items
where
  /-- Moves `n` elements to `done`, where the last one comes first. -/
  go : Nat → List α → List α → Option (List α × List α)
    | 0, done, items => some (done.reverse, items)
    | _ + 1, _, [] => none
    | n + 1, done, a :: items => go n (a :: done) items

/-- What stands before the first line end, and what follows it. -/
def splitLine? (bytes : List UInt8) : Option (List UInt8 × List UInt8) :=
  go [] bytes
where
  /-- Moves bytes to `done`, the last one first, until a line end comes. -/
  go (done : List UInt8) : List UInt8 → Option (List UInt8 × List UInt8)
    | [] => none
    | b :: rest =>
        if b = 13 ∧ rest.head? = some 10 then some (done.reverse, rest.tail)
        else go (b :: done) rest

/-- A carriage return and a line feed. -/
def lineEnd : List UInt8 := [13, 10]

namespace Stream

/-- Everything that will ever arrive. -/
def bytes (s : Stream) : List UInt8 := s.buffer ++ s.segments.flatten

/-- The outcome where the bytes do not suffice: `bytes` of the `expected`
ones are at hand and all pieces are used up. At the end of the data the bytes
at hand are lost. -/
def starved {α : Type} (expected : Option Nat) (buffer : List UInt8) (ending : Ending) :
    Outcome α :=
  match ending with
  | .closed => .failed (.streamEnded buffer.length expected) ⟨[], [], ending⟩
  | .failure failure => .failed failure ⟨buffer, [], ending⟩
  | .silence => .waiting ⟨buffer, [], ending⟩

/-- Reads a line and its end, and returns it without the end. -/
def readLine (s : Stream) : Outcome (List UInt8) :=
  go s.ending s.buffer s.segments
where
  /-- Looks for a line end in the bytes at hand, and takes in piece after
  piece until one is found. -/
  go (ending : Ending) (buffer : List UInt8) (segments : List (List UInt8)) :
      Outcome (List UInt8) :=
    match splitLine? buffer with
    | some (line, rest) =>
        if lineLimit < line.length then .failed (.lineTooLong true) ⟨buffer, segments, ending⟩
        else .done line ⟨rest, segments, ending⟩
    | none =>
        if lineLimit < buffer.length - 1 then
          .failed (.lineTooLong false) ⟨buffer, segments, ending⟩
        else
          match segments with
          | [] => starved none buffer ending
          | segment :: more => go ending (buffer ++ segment) more

def readExactly (s : Stream) (n : Nat) : Outcome (List UInt8) :=
  go n s.ending s.buffer s.segments
where
  /-- Takes in piece after piece until `n` bytes are at hand. -/
  go (n : Nat) (ending : Ending) (buffer : List UInt8) (segments : List (List UInt8)) :
      Outcome (List UInt8) :=
    match splitFront? n buffer with
    | some (front, rest) => .done front ⟨rest, segments, ending⟩
    | none =>
        match segments with
        | [] => starved (some n) buffer ending
        | segment :: more => go n ending (buffer ++ segment) more

/-! ## What reads leave -/

end Stream

theorem splitFront?_go_eq {α : Type} : ∀ {n : Nat} {done items front rest : List α},
    splitFront?.go n done items = some (front, rest) →
      front ++ rest = done.reverse ++ items ∧ front.length = done.length + n
  | 0, done, items, front, rest, h => by
      simp only [splitFront?.go, Option.some.injEq, Prod.mk.injEq] at h
      obtain ⟨rfl, rfl⟩ := h
      simp
  | n + 1, done, [], front, rest, h => by simp [splitFront?.go] at h
  | n + 1, done, a :: items, front, rest, h => by
      simp only [splitFront?.go] at h
      obtain ⟨h₁, h₂⟩ := splitFront?_go_eq h
      exact ⟨by simp [h₁], by simp [h₂]; omega⟩

/-- The front and the rest make up the list, and the front has the length asked for. -/
theorem splitFront?_eq_some {α : Type} {n : Nat} {items front rest : List α}
    (h : splitFront? n items = some (front, rest)) :
    front ++ rest = items ∧ front.length = n := by
  have := splitFront?_go_eq h
  simpa using this

theorem splitLine?_go_eq : ∀ {bytes done line rest : List UInt8},
    splitLine?.go done bytes = some (line, rest) →
      line ++ lineEnd ++ rest = done.reverse ++ bytes
  | [], done, line, rest, h => by simp [splitLine?.go] at h
  | b :: after, done, line, rest, h => by
      simp only [splitLine?.go] at h
      split at h
      · rename_i hb
        simp only [Option.some.injEq, Prod.mk.injEq] at h
        obtain ⟨rfl, rfl⟩ := h
        obtain ⟨rfl, hc⟩ := hb
        cases after with
        | nil => simp at hc
        | cons c rest =>
            simp only [List.head?_cons, Option.some.injEq] at hc
            simp [lineEnd, hc]
      · have := splitLine?_go_eq h
        simpa using this

/-- The line, its end and the rest make up the bytes. -/
theorem splitLine?_eq_some {bytes line rest : List UInt8}
    (h : splitLine? bytes = some (line, rest)) : line ++ lineEnd ++ rest = bytes := by
  have := splitLine?_go_eq h
  simpa using this

namespace Stream

theorem bytes_readLine_go {ending : Ending} {line : List UInt8} {rest : Stream} :
    ∀ {segments : List (List UInt8)} {buffer : List UInt8},
      readLine.go ending buffer segments = .done line rest →
        buffer ++ segments.flatten = line ++ lineEnd ++ rest.bytes := by
  intro segments
  induction segments with
  | nil =>
      intro buffer h
      unfold readLine.go at h
      split at h
      · rename_i hsplit
        split at h
        · simp at h
        · simp only [Outcome.done.injEq] at h
          obtain ⟨rfl, rfl⟩ := h
          simp [bytes, ← splitLine?_eq_some hsplit]
      · split at h
        · simp at h
        · simp only [starved] at h
          split at h <;> simp at h
  | cons segment more ih =>
      intro buffer h
      unfold readLine.go at h
      split at h
      · rename_i hsplit
        split at h
        · simp at h
        · simp only [Outcome.done.injEq] at h
          obtain ⟨rfl, rfl⟩ := h
          simp [bytes, ← splitLine?_eq_some hsplit]
      · split at h
        · simp at h
        · have := ih h
          simpa using this

/-- A line that is read stood at the front of the bytes, with its end. -/
theorem bytes_readLine {s rest : Stream} {line : List UInt8} (h : s.readLine = .done line rest) :
    s.bytes = line ++ lineEnd ++ rest.bytes := bytes_readLine_go h

/-- Every line takes bytes off the stream. -/
theorem length_readLine {s rest : Stream} {line : List UInt8} (h : s.readLine = .done line rest) :
    rest.bytes.length < s.bytes.length := by
  rw [bytes_readLine h]
  simp only [lineEnd, List.length_append, List.length_cons, List.length_nil]
  omega

theorem bytes_readExactly_go {n : Nat} {ending : Ending} {front : List UInt8} {rest : Stream} :
    ∀ {segments : List (List UInt8)} {buffer : List UInt8},
      readExactly.go n ending buffer segments = .done front rest →
        buffer ++ segments.flatten = front ++ rest.bytes ∧ front.length = n := by
  intro segments
  induction segments with
  | nil =>
      intro buffer h
      unfold readExactly.go at h
      split at h
      · rename_i hsplit
        simp only [Outcome.done.injEq] at h
        obtain ⟨rfl, rfl⟩ := h
        have := splitFront?_eq_some hsplit
        simp [bytes, ← this.1, this.2]
      · simp only [starved] at h
        split at h <;> simp at h
  | cons segment more ih =>
      intro buffer h
      unfold readExactly.go at h
      split at h
      · rename_i hsplit
        simp only [Outcome.done.injEq] at h
        obtain ⟨rfl, rfl⟩ := h
        have := splitFront?_eq_some hsplit
        simp [bytes, ← this.1, this.2]
      · have := ih h
        simpa using this

/-- Bytes that are read stood at the front, and are as many as were asked for. -/
theorem bytes_readExactly {s rest : Stream} {n : Nat} {front : List UInt8}
    (h : s.readExactly n = .done front rest) :
    s.bytes = front ++ rest.bytes ∧ front.length = n := bytes_readExactly_go h

end Stream

end Courier
