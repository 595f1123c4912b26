import Courier.Value.Text

/-!
# Values as integers

Which values can be read as an integer: numbers, whose fraction is dropped,
and texts or byte strings that spell one.
-/

namespace Courier

open Courier.Text

/-- The failure of reading an integer in a base, where `shown` is what was read. -/
def Text.IntegerFault.failure (base : Nat) (shown : List Char) : IntegerFault → Failure
  | .malformed => .unacceptable (.integer base (String.ofList (shown.take 200)))
  | .tooManyDigits count => .unacceptable (.tooManyDigits (some count))

def Text.Integer.ofText (s : List Char) : Except Failure Int :=
  (Integer.read s).mapError (IntegerFault.failure 10 (Quoted.text s))

/-- The hexadecimal integer that a byte string spells. -/
def Text.Integer.ofHexBytes (bs : List UInt8) : Except Failure Int :=
  (Integer.readHex (bs.map fun b => Char.ofNat b.toNat)).mapError
    (IntegerFault.failure 16 (Quoted.bytes bs))

def Value.toInteger : Value → Except Failure Int
  | .bool b => .ok (if b then 1 else 0)
  | .int i => .ok i
  | .float x =>
      match x.truncate?, x with
      | some i, _ => .ok i
      | none, .nan => .error (.unacceptable .notFinite)
      | none, _ => .error .infiniteInteger
  | .text s => Integer.ofText s.toList
  | .bytes bs => asciiInteger (Quoted.bytes bs) bs
  | .byteArray bs => asciiInteger (Quoted.byteArray bs) bs
  | v => .error (.misuse (.notInteger v.typeName))
where
  /-- The integer that the bytes of a text spell. -/
  asciiInteger (shown : List Char) (bs : List UInt8) : Except Failure Int :=
    (Integer.readAscii (bs.map fun b => Char.ofNat b.toNat)).mapError
      (IntegerFault.failure 10 shown)

end Courier
