/-!
# UTF-8

Texts become bytes with `encode`. Bytes become a text with `decodeLossy`,
which never fails: every maximal piece of a broken sequence turns into one
replacement character. The decoder is a small machine that reads one byte at
a time, so how the bytes were cut into pieces on their way cannot matter.
-/

namespace Courier.Text.Utf8

/-- The bytes of a text. -/
def encode (s : List Char) : List UInt8 := s.flatMap String.utf8EncodeChar

/-- What a decoder knows between two bytes of one character: the bits read so
far, how many bytes are still owed, and the bounds of the next one. -/
structure Pending where
  bits : Nat
  owed : Nat
  least : Nat := 0x80
  greatest : Nat := 0xBF

/-- What a byte means at the start of a character. -/
inductive Lead where
  | whole (c : Char)
  | opening (pending : Pending)
  | broken

/-- Reads the first byte of a character. The bounds on the second byte shut
out overlong forms, surrogates and code points beyond the last plane. -/
def lead (b : Nat) : Lead :=
  if b < 0x80 then .whole (Char.ofNat b)
  else if b < 0xC2 then .broken
  else if b < 0xE0 then .opening { bits := b - 0xC0, owed := 1 }
  else if b = 0xE0 then .opening { bits := 0, owed := 2, least := 0xA0 }
  else if b = 0xED then .opening { bits := 0xD, owed := 2, greatest := 0x9F }
  else if b < 0xF0 then .opening { bits := b - 0xE0, owed := 2 }
  else if b = 0xF0 then .opening { bits := 0, owed := 3, least := 0x90 }
  else if b < 0xF4 then .opening { bits := b - 0xF0, owed := 3 }
  else if b = 0xF4 then .opening { bits := 4, owed := 3, greatest := 0x8F }
  else .broken

/-- The character that stands for a broken piece. -/
def replacement : Char := '\uFFFD'

/-- A decoder between two bytes: the character it is inside of, if any, and
the characters read so far, the last one first. -/
structure Decoder where
  pending : Option Pending := none
  done : List Char := []

/-- Reads a byte that starts a character. -/
def Decoder.start (done : List Char) (b : Nat) : Decoder :=
  match lead b with
  | .whole c => ⟨none, c :: done⟩
  | .opening pending => ⟨some pending, done⟩
  | .broken => ⟨none, replacement :: done⟩

/-- Reads one byte. A byte that cannot continue the character at hand breaks
it off, and is then read as the start of the next one. -/
def Decoder.step (d : Decoder) (byte : UInt8) : Decoder :=
  let b := byte.toNat
  match d.pending with
  | none => Decoder.start d.done b
  | some p =>
      if p.least ≤ b ∧ b ≤ p.greatest then
        let bits := p.bits * 64 + (b - 0x80)
        if p.owed = 1 then ⟨none, Char.ofNat bits :: d.done⟩
        else ⟨some { bits, owed := p.owed - 1 }, d.done⟩
      else Decoder.start (replacement :: d.done) b

/-- The text once no more bytes come; an unfinished character is broken. -/
def Decoder.finish (d : Decoder) : List Char :=
  match d.pending with
  | none => d.done.reverse
  | some _ => (replacement :: d.done).reverse

/-- The text of the bytes, with a replacement character for each maximal
broken piece. -/
def decodeLossy (bytes : List UInt8) : List Char :=
  (bytes.foldl Decoder.step {}).finish

/-- A pure ASCII byte at the start of a character is that character. -/
theorem decodeLossy_ascii (b : UInt8) (h : b.toNat < 0x80) :
    decodeLossy [b] = [Char.ofNat b.toNat] := by
  simp [decodeLossy, Decoder.step, Decoder.start, lead, h, Decoder.finish]

end Courier.Text.Utf8
