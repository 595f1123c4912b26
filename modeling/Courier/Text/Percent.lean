import Courier.Text.Utf8

/-!
# Percent-encoding of form fields

Letters, digits and `_.-~` stand for themselves, a space is written `+`,
and every other byte is written `%XX` with capital hexadecimal digits. Text
is encoded through its UTF-8 bytes.
-/

namespace Courier.Text.Percent

/-- The byte stands for itself in an encoded field. -/
def isUnreserved (b : UInt8) : Bool :=
  let n := b.toNat
  (0x30 ≤ n && n ≤ 0x39) || (0x41 ≤ n && n ≤ 0x5A) || (0x61 ≤ n && n ≤ 0x7A)
    || n == 0x5F || n == 0x2E || n == 0x2D || n == 0x7E

def capitalHexDigit (n : Nat) : Char := (Nat.digitChar (n % 16)).toUpper

def encodeByte (b : UInt8) : List Char :=
  if isUnreserved b then [Char.ofNat b.toNat]
  else if b = 0x20 then ['+']
  else ['%', capitalHexDigit (b.toNat / 16), capitalHexDigit b.toNat]

/-- The encoded form of a byte string. -/
def encodeBytes (bytes : List UInt8) : List Char := bytes.flatMap encodeByte

/-- The encoded form of a text. -/
def encode (s : List Char) : List Char := encodeBytes (Utf8.encode s)

end Courier.Text.Percent
