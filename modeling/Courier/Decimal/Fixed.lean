import Courier.Decimal.Layout

/-!
# Decimals of a given length

A quotient written with a given number of digits, rounded to the nearest
and on a tie to the even one: with a number of digits after the point, with
an exponent, or in the shorter of the two ways. The rounding is exact, since
it is done on the quotient itself.
-/

namespace Courier.Decimal

open Courier.Text

/-- Digits before and after the point. The point of an empty fraction is
written only if `point` holds. -/
def joinPoint (point : Bool) (whole fraction : List Char) : List Char :=
  if fraction.isEmpty && !point then whole else whole ++ '.' :: fraction

/-- The digits of a number, at least `count` of them. -/
def paddedDigits (count n : Nat) : List Char :=
  let digits := Nat.toDigits 10 n
  List.replicate (count - digits.length) '0' ++ digits

/-- The digits of `num / den` before and after the point, `places` of them after it. -/
def fixedDigits (num den places : Nat) : List Char × List Char :=
  let digits := paddedDigits (places + 1) (roundHalfEven (num * tenTo places) den)
  (digits.take (digits.length - places), digits.drop (digits.length - places))

/-- `num / den` with `places` digits after the point. -/
def fixed (point : Bool) (num den places : Nat) : List Char :=
  let (whole, fraction) := fixedDigits num den places
  joinPoint point whole fraction

/-- The first `places + 1` digits of `num / den`, and the exponent of the first one. -/
def leadingDigits (num den places : Nat) : List Char × Int :=
  if num = 0 then (List.replicate (places + 1) '0', 0)
  else
    let leading := leadingExponent num den
    let shift : Int := places - leading
    let n := roundHalfEven (num * tenTo shift.toNat) (den * tenTo (-shift).toNat)
    if n = tenTo (places + 1) then (Nat.toDigits 10 (n / 10), leading + 1)
    else (Nat.toDigits 10 n, leading)

/-- Digits with an exponent, the point after the first one. -/
def withExponent (point : Bool) (digits : List Char) (exponent : Int) : List Char :=
  joinPoint point (digits.take 1) (digits.drop 1) ++ 'e' :: exponentPart exponent

/-- `num / den` with an exponent and `places` digits after the point. -/
def scientific (point : Bool) (num den places : Nat) : List Char :=
  let (digits, exponent) := leadingDigits num den places
  withExponent point digits exponent

/-- `num / den` with `count` digits in all, without an exponent if it is
small, and without zeros at the end of the fraction unless `point` holds. -/
def general (point : Bool) (num den count : Nat) : List Char :=
  let count := max count 1
  let (digits, exponent) := leadingDigits num den (count - 1)
  let trim (fraction : List Char) : List Char :=
    if point then fraction else dropTrailing (· == '0') fraction
  if -4 ≤ exponent ∧ exponent < count then
    let (whole, fraction) := fixedDigits num den (count - 1 - exponent).toNat
    joinPoint point whole (trim fraction)
  else withExponent point (digits.take 1 ++ trim (digits.drop 1)) exponent

/-- Every fraction has the length that was asked for. -/
theorem length_fixedDigits (num den places : Nat) :
    (fixedDigits num den places).2.length = places := by
  have h : places + 1 ≤ (paddedDigits (places + 1)
      (roundHalfEven (num * tenTo places) den)).length := by
    simp only [paddedDigits, List.length_append, List.length_replicate]
    omega
  simp only [fixedDigits, List.length_drop]
  omega

end Courier.Decimal
