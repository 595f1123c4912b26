import Courier.Power

/-!
# Binary floating-point numbers

The numbers of the 64-bit binary format, as what they denote: not a number,
an infinity, or a sign with `mantissa * 2 ^ exponent`. Arithmetic on them is
exact arithmetic on naturals, rounded once (`ofRatio`), so every statement
about them is a statement about integers.
-/

namespace Courier.Decimal

/-- The quotient rounded to the nearest integer, halves to the even one. -/
def roundHalfEven (a b : Nat) : Nat :=
  let quotient := a / b
  let rest := a % b
  if 2 * rest < b ∨ (2 * rest = b ∧ quotient % 2 = 0) then quotient else quotient + 1

/-- A rounded quotient is at most half a unit away. -/
theorem roundHalfEven_near (a b : Nat) (hb : 0 < b) :
    2 * a ≤ 2 * (roundHalfEven a b * b) + b ∧ 2 * (roundHalfEven a b * b) ≤ 2 * a + b := by
  have hd := Nat.div_add_mod a b
  have hm := Nat.mod_lt a hb
  have hc : a / b * b = b * (a / b) := Nat.mul_comm ..
  unfold roundHalfEven
  simp only
  split
  · omega
  · rw [Nat.add_mul]; omega

/-- A number of the 64-bit binary format. A finite number is in normal form:
its mantissa has 53 bits, or fewer with the least exponent. -/
inductive Binary64 where
  | nan
  | infinity (negative : Bool)
  | finite (negative : Bool) (mantissa : Nat) (exponent : Int)
  deriving DecidableEq, Repr, Inhabited

namespace Binary64

/-- The number of bits of a mantissa. -/
def precision : Nat := 53

/-- The least exponent of a finite number. -/
def leastExponent : Int := -1074

/-- The greatest exponent of a finite number. -/
def greatestExponent : Int := 971

def zero (negative : Bool) : Binary64 := .finite negative 0 leastExponent

/-- The magnitude of `mantissa * 2 ^ exponent` as a quotient of naturals. -/
def ratio (mantissa : Nat) (exponent : Int) : Nat × Nat :=
  (mantissa * twoTo exponent.toNat, twoTo (-exponent).toNat)

/-- The number nearest to a quotient, halves to the even mantissa; too large
a quotient gives an infinity. -/
def ofRatio (negative : Bool) (num den : Nat) : Binary64 :=
  if num = 0 then zero negative
  else
    let estimate : Int := (num.log2 : Int) - den.log2 - precision
    let scaled (exponent : Int) : Nat × Nat :=
      (num * twoTo (-exponent).toNat, den * twoTo exponent.toNat)
    let tooLarge := (scaled estimate).2 * twoTo precision ≤ (scaled estimate).1
    let exponent := max leastExponent (if tooLarge then estimate + 1 else estimate)
    let mantissa := roundHalfEven (scaled exponent).1 (scaled exponent).2
    let (mantissa, exponent) :=
      if mantissa = twoTo precision then (twoTo (precision - 1), exponent + 1)
      else (mantissa, exponent)
    if greatestExponent < exponent then .infinity negative
    else .finite negative mantissa exponent

/-- The number nearest to `digits * 10 ^ exponent`. Decimal exponents far
outside the format are settled without computing the power. -/
def ofDecimal (negative : Bool) (digits : Nat) (exponent : Int) : Binary64 :=
  if digits = 0 then zero negative
  else
    let top := (Nat.toDigits 10 digits).length + exponent
    if 400 < top then .infinity negative
    else if top < -400 then zero negative
    else ofRatio negative (digits * tenTo exponent.toNat) (tenTo (-exponent).toNat)

/-- The number nearest to an integer. -/
def ofInt (i : Int) : Binary64 := ofRatio (i < 0) i.natAbs 1

def isFinite : Binary64 → Bool
  | .finite _ _ _ => true
  | _ => false

/-- The number is zero, of either sign. -/
def isZero : Binary64 → Bool
  | .finite _ 0 _ => true
  | _ => false

/-- The number is zero or below. -/
def nonpositive : Binary64 → Bool
  | .nan => false
  | .infinity negative => negative
  | .finite negative mantissa _ => negative || mantissa == 0

/-- The number without its fraction, if it is finite. -/
def truncate? : Binary64 → Option Int
  | .finite negative mantissa exponent =>
      let (num, den) := ratio mantissa exponent
      let whole : Int := num / den
      some (if negative then -whole else whole)
  | _ => none

/-- Numeric equality: the zeros are equal and no number equals a NaN. -/
def equal (x y : Binary64) : Bool :=
  match x, y with
  | .nan, _ => false
  | _, .nan => false
  | x, y => x == y || (x.isZero && y.isZero)

/-- Numeric equality with an integer. -/
def equalsInt (x : Binary64) (i : Int) : Bool :=
  match x with
  | .finite negative mantissa exponent =>
      let (num, den) := ratio mantissa exponent
      (if negative then -(num : Int) else num) == i * den
  | _ => false

/-- The number is less than another one. -/
def lessThan (x y : Binary64) : Bool :=
  match x, y with
  | .nan, _ | _, .nan => false
  | .infinity negative, y => negative && y != .infinity true
  | _, .infinity negative => !negative
  | .finite negative mantissa exponent, .finite negative' mantissa' exponent' =>
      let (num, den) := ratio mantissa exponent
      let (num', den') := ratio mantissa' exponent'
      (if negative then -(num : Int) else num) * den'
        < (if negative' then -(num' : Int) else num') * den

/-- The number is less than an integer. -/
def lessThanInt (x : Binary64) (i : Int) : Bool :=
  match x with
  | .nan => false
  | .infinity negative => negative
  | .finite negative mantissa exponent =>
      let (num, den) := ratio mantissa exponent
      (if negative then -(num : Int) else num) < i * den

end Binary64

end Courier.Decimal
