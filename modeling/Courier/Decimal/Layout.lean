import Courier.Decimal.Shortest
import Courier.Text.Blank
import Courier.Text.Integer

/-!
# Decimal notation

How a binary number is written and read. It is written with its shortest
digits, positionally where the leading digit stands between `10 ^ -4` and
`10 ^ 15`, and with an exponent of at least two digits otherwise. It is read
from digits with an optional point and exponent, or from the names of the
values that are not finite.
-/

namespace Courier.Decimal

open Courier.Text

/-- A signed exponent of at least two digits. -/
def exponentPart (exponent : Int) : List Char :=
  let digits := Nat.toDigits 10 exponent.natAbs
  (if exponent < 0 then '-' else '+')
    :: (if digits.length < 2 then '0' :: digits else digits)

/-- The digits laid out with a point; `leading` is the exponent of the first digit. -/
def layout (digits : List Char) (leading : Int) : List Char :=
  if -4 ≤ leading ∧ leading < 16 then
    if leading < 0 then
      "0.".toList ++ List.replicate ((-leading).toNat - 1) '0' ++ digits
    else
      let whole := leading.toNat + 1
      if digits.length ≤ whole then
        digits ++ List.replicate (whole - digits.length) '0' ++ ".0".toList
      else digits.take whole ++ '.' :: digits.drop whole
  else
    let fraction := digits.drop 1
    digits.take 1 ++ (if fraction.isEmpty then [] else '.' :: fraction)
      ++ 'e' :: exponentPart leading

def Binary64.toText : Binary64 → List Char
  | .nan => "nan".toList
  | .infinity negative => (if negative then "-inf" else "inf").toList
  | .finite negative mantissa exponent =>
      let magnitude :=
        if mantissa = 0 then "0.0".toList
        else
          let d := shortest mantissa exponent
          let digits := Nat.toDigits 10 d.digits
          layout (dropTrailing (· == '0') digits) (d.exponent + digits.length - 1)
      if negative then '-' :: magnitude else magnitude

/-- The names of the values that are not finite, in small letters. -/
def Binary64.named? (negative : Bool) (s : List Char) : Option Binary64 :=
  let small := s.map Char.toLower
  if small = "inf".toList ∨ small = "infinity".toList then some (.infinity negative)
  else if small = "nan".toList then some .nan
  else none

/-- Reads the exponent that may follow the digits of a number. -/
def readExponent : List Char → Option Int
  | [] => some 0
  | e :: rest =>
      if e = 'e' ∨ e = 'E' then
        let (negative, digits) := Integer.splitSign rest
        if !digits.isEmpty && digits.all isAsciiDigit then
          let n := Integer.ofDigits 10 (digits.filterMap Integer.asciiDigit?)
          some (if negative then -(n : Int) else n)
        else none
      else none

/-- Reads digits with an optional point and exponent. -/
def Binary64.unsigned? (negative : Bool) (s : List Char) : Option Binary64 :=
  let whole := s.takeWhile isAsciiDigit
  let (fraction, rest) :=
    match s.dropWhile isAsciiDigit with
    | '.' :: tail => (tail.takeWhile isAsciiDigit, tail.dropWhile isAsciiDigit)
    | tail => ([], tail)
  let digits := (whole ++ fraction).filterMap Integer.asciiDigit?
  if digits.isEmpty then none
  else
    (readExponent rest).map fun exponent =>
      .ofDecimal negative (Integer.ofDigits 10 digits) (exponent - fraction.length)

/-- Every underscore stands between two digits. -/
def underscoresInside (s : List Char) : Bool :=
  s.head? != some '_' && s.getLast? != some '_'
    && (s.zip s.tail).all fun (a, b) =>
      (a != '_' || isAsciiDigit b) && (b != '_' || isAsciiDigit a)

def Binary64.read? (s : List Char) : Option Binary64 :=
  let body := trimBy isAsciiBlank (Integer.plain s)
  if underscoresInside body then
    let (negative, rest) := Integer.splitSign (body.filter (· != '_'))
    match Binary64.named? negative rest with
    | some x => some x
    | none => Binary64.unsigned? negative rest
  else none

end Courier.Decimal
