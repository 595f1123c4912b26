import Courier.Failure.Kind
import Courier.Text.Quoted

/-!
# Faults of formats

What can be wrong when a format is applied to a record: with the format
itself, with the fields it names, and with the values of the fields.
-/

namespace Courier.LogFormat

open Courier.Text

/-- Why a format cannot be applied. -/
inductive Fault where
  | missingField (key : List Char)
  | openKey
  | incomplete
  | widthTooBig
  | precisionTooBig
  /-- A star stands for a field that is not an integer. -/
  | starNeedsInteger
  /-- The field of a directive was used up, or there never was one. -/
  | noField
  | unknownConversion (conversion : Char) (position : Nat)
  | notReal (conversion : Char) (type : String)
  | notInteger (conversion : Char) (type : String)
  | notNumber (type : String)
  | notCharacter
  | characterRange
  deriving DecidableEq, Repr

namespace Fault

/-- The kind that messages show. -/
def kind : Fault → Kind
  | .starNeedsInteger | .noField | .notReal _ _ | .notInteger _ _ | .notNumber _
  | .notCharacter => .type
  | .characterRange => .overflow
  | _ => .value

/-- A character as messages show it: a question mark stands for what is not plain. -/
def plainCharacter (c : Char) : Char := if 31 ≤ c.toNat ∧ c.toNat < 126 then c else '?'

/-- A number in base sixteen. -/
def hexadecimal (n : Nat) : String := String.ofList (Nat.toDigits 16 n)

def message : Fault → String
  | .missingField key =>
      "Formatting field not found in record: " ++ String.ofList (Quoted.text key)
  | .openKey => "incomplete format key"
  | .incomplete => "incomplete format"
  | .widthTooBig => "width too big"
  | .precisionTooBig => "precision too big"
  | .starNeedsInteger => "* wants int"
  | .noField => "not enough arguments for format string"
  | .unknownConversion c position =>
      "unsupported format character '" ++ String.ofList [plainCharacter c] ++ "' (0x"
        ++ hexadecimal c.toNat ++ ") at index " ++ toString position
  | .notReal c type =>
      "%" ++ String.ofList [c] ++ " format: a real number is required, not " ++ type
  | .notInteger c type =>
      "%" ++ String.ofList [c] ++ " format: an integer is required, not " ++ type
  | .notNumber type => "must be real number, not " ++ type
  | .notCharacter => "%c requires int or char"
  | .characterRange => "%c arg not in range(0x110000)"

end Fault

end Courier.LogFormat
