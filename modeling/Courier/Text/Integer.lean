import Courier.Power
import Courier.Text.Blank
import Courier.Text.Digit

/-!
# Reading integers

An integer is blanks, a sign, digits with single underscores between them,
and blanks again. Decimal digits of every script count. A decimal number of
more than `digitLimit` digits is refused before its value is computed, so
that reading never takes more than bounded work.
-/

namespace Courier.Text

/-- The most digits of a number whose text is read or written in base ten. -/
def digitLimit : Nat := 4300

/-- Why a text is not read as an integer. -/
inductive IntegerFault where
  | malformed
  | tooManyDigits (count : Nat)
  deriving DecidableEq, Repr

namespace Integer

/-- The number whose digits these are, the most significant first. -/
def ofDigits (base : Nat) (digits : List Nat) : Nat :=
  digits.foldl (fun n d => n * base + d) 0

/-- No underscore stands at an end or next to another one. -/
def underscoresSeparate (run : List Char) : Bool :=
  run.head? != some '_' && run.getLast? != some '_'
    && (run.zip run.tail).all fun pair => !(pair.1 == '_' && pair.2 == '_')

/-- Reads unsigned digits, up to the end of the text or blanks that end it. -/
def readDigits (base : Nat) (limit : Option Nat) (digit? : Char → Option Nat) (s : List Char) :
    Except IntegerFault Nat :=
  let inRun := fun c => c == '_' || (digit? c).isSome
  let run := s.takeWhile inRun
  let digits := run.filterMap digit?
  if digits.isEmpty || !underscoresSeparate run then .error .malformed
  else if limit.any (· < digits.length) then .error (.tooManyDigits digits.length)
  else if (s.dropWhile inRun).all isAsciiBlank then .ok (ofDigits base digits)
  else .error .malformed

/-- Splits off a sign; `true` stands for a minus. -/
def splitSign : List Char → Bool × List Char
  | '-' :: rest => (true, rest)
  | '+' :: rest => (false, rest)
  | s => (false, s)

def asciiDigit? (c : Char) : Option Nat :=
  if isAsciiDigit c then some (c.toNat - '0'.toNat) else none

/-- Reads a decimal integer written in ASCII. -/
def readAscii (s : List Char) : Except IntegerFault Int :=
  let (negative, rest) := splitSign (s.dropWhile isAsciiBlank)
  (readDigits 10 (some digitLimit) asciiDigit? rest).map fun n =>
    if negative then -(n : Int) else n

/-- One character of a number in ASCII form: digits of other scripts become
ASCII digits and other blanks become spaces. A character that has no place
in a number becomes one that has none either. -/
def plainChar (c : Char) : Char :=
  if c.toNat < 0x7F then c
  else if isBlank c then ' '
  else match digitValue? c with
    | some d => hexDigit d
    | none => '?'

/-- A number's text in ASCII form. -/
def plain (s : List Char) : List Char :=
  if s.all (·.toNat < 0x80) then s else s.map plainChar

def read (s : List Char) : Except IntegerFault Int := readAscii (plain s)

/-- Drops the mark `0x` of a hexadecimal number, with the underscore that may follow it. -/
def dropHexMark : List Char → List Char
  | '0' :: x :: rest =>
      if x = 'x' ∨ x = 'X' then
        match rest with
        | '_' :: digits => digits
        | digits => digits
      else '0' :: x :: rest
  | s => s

/-- Reads a hexadecimal integer written in ASCII, with or without `0x`. -/
def readHex (s : List Char) : Except IntegerFault Int :=
  let (negative, rest) := splitSign (s.dropWhile isAsciiBlank)
  (readDigits 16 none hexValue? (dropHexMark rest)).map fun n =>
    if negative then -(n : Int) else n

def decimal (n : Int) : List Char :=
  if n < 0 then '-' :: Nat.toDigits 10 n.natAbs else Nat.toDigits 10 n.natAbs

/-- The digits of a number, unless they are too many to be written. -/
def decimal? (n : Int) : Option (List Char) :=
  if tenTo digitLimit ≤ n.natAbs then none else some (decimal n)

end Integer

end Courier.Text
