import Courier.Decimal.Layout
import Courier.Failure.Basic
import Courier.Value.Integer

/-!
# Reading JSON

Reads one value with blanks around it. What a text breaks is reported with
the position where it does. The values that are not finite may be named, a
later member of a map replaces an earlier one of the same name, and integers
are subject to the limit on decimal digits.

The readers return what is left of the text. Loops over elements are given
the reader of one element, and a bound on their rounds that no text reaches:
every round reads at least one character.
-/

namespace Courier.Json

open Courier.Text Courier.Decimal

/-- Why reading stops: the text is broken where `rest` is what is left of it,
or the value cannot be had at all. -/
inductive Stop where
  | broken (problem : JsonProblem) (rest : List Char)
  | failed (failure : Failure)

/-- What is read, with what is left of the text. -/
abbrev Reading (α : Type) := Except Stop (α × List Char)

/-- Blanks between tokens. -/
def isBlank (c : Char) : Bool := c == ' ' || c == '\t' || c == '\n' || c == '\r'

/-- The text without leading blanks. -/
def skipBlanks (s : List Char) : List Char := s.dropWhile isBlank

/-- A unit of a string: a character, or an escaped code unit. -/
inductive CodeUnit where
  | char (c : Char)
  | code (n : Nat)

def letterEscape? (c : Char) : Option Char :=
  match c with
  | '"' => some '"'
  | '\\' => some '\\'
  | '/' => some '/'
  | 'b' => some '\x08'
  | 'f' => some '\x0c'
  | 'n' => some '\n'
  | 'r' => some '\r'
  | 't' => some '\t'
  | _ => none

/-- The number of four hexadecimal digits. -/
def fourHex? (a b c d : Char) : Option Nat :=
  match hexValue? a, hexValue? b, hexValue? c, hexValue? d with
  | some a, some b, some c, some d => some (((a * 16 + b) * 16 + c) * 16 + d)
  | _, _, _, _ => none

/-- Reads the rest of a string whose opening quote is the first character of
`opening`; `done` holds the units read so far, the last one first. -/
def readUnits (opening : List Char) (done : List CodeUnit) : List Char → Reading (List CodeUnit)
  | [] => .error (.broken .unterminatedString opening)
  | '"' :: rest => .ok (done.reverse, rest)
  | '\\' :: [] => .error (.broken .unterminatedString opening)
  | '\\' :: 'u' :: a :: b :: c :: d :: e :: rest =>
      match fourHex? a b c d with
      | some n => readUnits opening (.code n :: done) (e :: rest)
      | none => .error (.broken .unicodeEscape ('u' :: a :: b :: c :: d :: e :: rest))
  | '\\' :: 'u' :: rest => .error (.broken .unicodeEscape ('u' :: rest))
  | '\\' :: c :: rest =>
      match letterEscape? c with
      | some c => readUnits opening (.char c :: done) rest
      | none => .error (.broken .escape ('\\' :: c :: rest))
  | c :: rest =>
      if c.toNat < 0x20 then .error (.broken .controlCharacter (c :: rest))
      else readUnits opening (.char c :: done) rest

/-- The characters of units: two code units that form a pair give one
character, and one that is half of a pair gives the replacement character. -/
def joinUnits (done : List Char) : List CodeUnit → List Char
  | [] => done.reverse
  | .char c :: rest => joinUnits (c :: done) rest
  | .code high :: .code low :: rest =>
      if 0xD800 ≤ high ∧ high < 0xDC00 ∧ 0xDC00 ≤ low ∧ low < 0xE000 then
        joinUnits (Char.ofNat (0x10000 + (high - 0xD800) * 0x400 + (low - 0xDC00)) :: done) rest
      else joinUnits (unitChar high :: done) (.code low :: rest)
  | .code n :: rest => joinUnits (unitChar n :: done) rest
where
  /-- The character of a code unit that stands alone. -/
  unitChar (n : Nat) : Char := if 0xD800 ≤ n ∧ n < 0xE000 then '\uFFFD' else Char.ofNat n

/-- Reads a string; `s` starts with its opening quote. -/
def readString (s : List Char) : Reading String :=
  (readUnits s [] s.tail).map fun (units, rest) => (String.ofList (joinUnits [] units), rest)

/-- Splits off the digits at the start of a text. -/
def takeDigits (s : List Char) : List Char × List Char :=
  (s.takeWhile isAsciiDigit, s.dropWhile isAsciiDigit)

/-- Splits off the integer part of a number: a zero, or digits that do not start with one. -/
def takeWhole (s : List Char) : List Char × List Char :=
  match s with
  | '0' :: rest => (['0'], rest)
  | s => takeDigits s

/-- Splits off the fraction of a number, if there is one. -/
def takeFraction (s : List Char) : List Char × List Char :=
  match s with
  | '.' :: rest =>
      match takeDigits rest with
      | ([], _) => ([], s)
      | found => found
  | s => ([], s)

/-- Splits off the exponent of a number, if there is one. -/
def takeExponent (s : List Char) : Option Int × List Char :=
  match s with
  | mark :: rest =>
      if mark = 'e' ∨ mark = 'E' then
        let (negative, digits) := Integer.splitSign rest
        match takeDigits digits with
        | ([], _) => (none, s)
        | (digits, rest) =>
            let n := Integer.ofDigits 10 (digits.filterMap Integer.asciiDigit?)
            (some (if negative then -(n : Int) else n), rest)
      else (none, s)
  | [] => (none, s)

/-- The value of a number without fraction and exponent. -/
def integerValue (negative : Bool) (digits : List Char) : Except Stop Value :=
  if digitLimit < digits.length then
    .error (.failed (.unacceptable (.tooManyDigits (some digits.length))))
  else
    let n := Integer.ofDigits 10 (digits.filterMap Integer.asciiDigit?)
    .ok (.int (if negative then -(n : Int) else n))

def readNumber (s : List Char) : Reading Value :=
  let (negative, rest) :=
    match s with
    | '-' :: rest => (true, rest)
    | s => (false, s)
  match takeWhole rest with
  | ([], _) => .error (.broken .valueExpected s)
  | (whole, rest) =>
      let (fraction, rest) := takeFraction rest
      let (exponent, rest) := takeExponent rest
      if fraction.isEmpty && exponent.isNone then
        (integerValue negative whole).map fun v => (v, rest)
      else
        let digits := (whole ++ fraction).filterMap Integer.asciiDigit?
        .ok (.float (.ofDecimal negative (Integer.ofDigits 10 digits)
          (exponent.getD 0 - fraction.length)), rest)

/-- Values that are written as a name. -/
def names : List (List Char × Value) :=
  [("null".toList, .null), ("true".toList, .bool true), ("false".toList, .bool false),
   ("NaN".toList, .float .nan), ("Infinity".toList, .float (.infinity false)),
   ("-Infinity".toList, .float (.infinity true))]

def readScalar (s : List Char) : Reading Value :=
  match s with
  | '"' :: _ => (readString s).map fun (text, rest) => (.text text, rest)
  | s =>
      match names.find? fun entry => entry.1.isPrefixOf s with
      | some (name, v) => .ok (v, s.drop name.length)
      | none => readNumber s

/-- Reads the elements of a list after its opening bracket or a comma. -/
def readElements (element : List Char → Reading Value) :
    Nat → List Value → List Char → Reading (List Value)
  | 0, _, s => .error (.broken .valueExpected s)
  | rounds + 1, done, s =>
      match element (skipBlanks s) with
      | .error stop => .error stop
      | .ok (v, rest) =>
          match skipBlanks rest with
          | ']' :: rest => .ok ((v :: done).reverse, rest)
          | ',' :: rest => readElements element rounds (v :: done) rest
          | rest => .error (.broken .commaExpected rest)

/-- Reads the members of a map after its opening brace or a comma. -/
def readMembers (element : List Char → Reading Value) :
    Nat → Entries String Value → List Char → Reading (Entries String Value)
  | 0, _, s => .error (.broken .nameExpected s)
  | rounds + 1, done, s =>
      match skipBlanks s with
      | '"' :: rest =>
          match readString ('"' :: rest) with
          | .error stop => .error stop
          | .ok (name, rest) =>
              match skipBlanks rest with
              | ':' :: rest =>
                  match element (skipBlanks rest) with
                  | .error stop => .error stop
                  | .ok (v, rest) =>
                      let done := Entries.put done name v
                      match skipBlanks rest with
                      | '\x7d' :: rest => .ok (done, rest)
                      | ',' :: rest => readMembers element rounds done rest
                      | rest => .error (.broken .commaExpected rest)
              | rest => .error (.broken .colonExpected rest)
      | rest => .error (.broken .nameExpected rest)

/-- Reads a list after its opening bracket. -/
def readList (element : List Char → Reading Value) (rounds : Nat) (s : List Char) :
    Reading Value :=
  match skipBlanks s with
  | ']' :: rest => .ok (.list [], rest)
  | s => (readElements element rounds [] s).map fun (items, rest) => (.list items, rest)

/-- Reads a map after its opening brace. -/
def readMap (element : List Char → Reading Value) (rounds : Nat) (s : List Char) :
    Reading Value :=
  match skipBlanks s with
  | '\x7d' :: rest => .ok (.map [], rest)
  | s =>
      (readMembers element rounds [] s).map fun (members, rest) =>
        (.map (members.map fun entry => (.text entry.1, entry.2)), rest)

/-- Reads a value nested no deeper than `depth`, in loops of at most `rounds` rounds. -/
def readValue (rounds : Nat) : Nat → List Char → Reading Value
  | 0, s =>
      match s with
      | '[' :: _ => .error (.failed (.tooDeep .decodingJsonList))
      | '\x7b' :: _ => .error (.failed (.tooDeep .decodingJsonMap))
      | s => readScalar s
  | depth + 1, s =>
      match s with
      | '[' :: rest => readList (readValue rounds depth) rounds rest
      | '\x7b' :: rest => readMap (readValue rounds depth) rounds rest
      | s => readScalar s

/-- The place of what is left of a text, as a fault. -/
def faultAt (whole rest : List Char) (problem : JsonProblem) : JsonFault :=
  let position := whole.length - rest.length
  let before := whole.take position
  { problem
    line := before.count '\n' + 1
    column := (before.reverse.takeWhile (· != '\n')).length + 1
    position }

def read (s : List Char) : Except Failure Value :=
  let outcome : Except Stop Value :=
    match s with
    | '\uFEFF' :: _ => .error (.broken .byteOrderMark s)
    | s =>
        match readValue s.length Value.nestingLimit (skipBlanks s) with
        | .error stop => .error stop
        | .ok (v, rest) =>
            match skipBlanks rest with
            | [] => .ok v
            | rest => .error (.broken .extraData rest)
  match outcome with
  | .ok v => .ok v
  | .error (.broken problem rest) => .error (.invalidJson (faultAt s rest problem))
  | .error (.failed failure) => .error failure

end Courier.Json
