import Courier.Decimal.Fixed
import Courier.Entries
import Courier.LogFormat.Directive
import Courier.LogFormat.Fault
import Courier.Power
import Courier.Text.Split
import Courier.Value.Text

/-!
# Applying formats

A format is applied to the fields of a record part by part. A directive
takes the field that it names, or else the record as a whole, and uses it
up: a star in the width uses it too, and then nothing is left to write.
-/

namespace Courier.LogFormat

open Courier.Text Courier.Decimal

/-- What a directive wrote, before it is padded. A number may have a sign and a mark of its base. -/
structure Written where
  sign : List Char := []
  mark : List Char := []
  body : List Char
  isNumber : Bool := false

/-- Pads what was written to a width: numbers with zeros behind the sign and
the mark if the flags say so, everything else with spaces. -/
def Written.pad (w : Written) (flags : Flags) (width : Nat) : List Char :=
  let front := w.sign ++ w.mark
  let missing := width - (front.length + w.body.length)
  if flags.left then front ++ w.body ++ List.replicate missing ' '
  else if w.isNumber && flags.zero then front ++ List.replicate missing '0' ++ w.body
  else List.replicate missing ' ' ++ front ++ w.body

/-- The sign that is written before a number. -/
def signOf (flags : Flags) (negative : Bool) : List Char :=
  if negative then ['-']
  else if flags.sign then ['+']
  else if flags.blank then [' ']
  else []

/-- A text of which at most `precision` characters are written. -/
def writeText (precision : Option Nat) (s : List Char) : Written :=
  { body := match precision with
      | some n => s.take n
      | none => s }

/-- A text in ASCII: other characters are escaped. -/
def toAscii (s : List Char) : List Char :=
  s.flatMap fun c =>
    if c.toNat < 0x80 then [c]
    else if c.toNat < 0x100 then '\\' :: 'x' :: hexDigits 2 c.toNat
    else if c.toNat < 0x10000 then '\\' :: 'u' :: hexDigits 4 c.toNat
    else '\\' :: 'U' :: hexDigits 8 c.toNat

/-- The integer that a field stands for in a decimal: fractions are dropped. -/
def decimalOf (c : Char) (v : Value) : Except Fault Int :=
  match v.number? with
  | some (.int i) => .ok i
  | some (.float x) => (x.truncate?.map Except.ok).getD (.error (.notReal c v.typeName))
  | none => .error (.notReal c v.typeName)

/-- The integer that a field stands for in another base. -/
def integerOf (c : Char) (v : Value) : Except Fault Int :=
  match v.number? with
  | some (.int i) => .ok i
  | _ => .error (.notInteger c v.typeName)

/-- An integer with at least `precision` digits in a base, and the mark of the
base if the flags ask for it. -/
def writeInteger (flags : Flags) (precision : Option Nat) (base : Nat) (mark : List Char)
    (i : Int) : Written :=
  let digits := Nat.toDigits base i.natAbs
  { sign := signOf flags (i < 0)
    mark := if flags.alternate then mark else []
    body := List.replicate (precision.getD 0 - digits.length) '0' ++ digits
    isNumber := true }

/-- The binary number that a field stands for. -/
def floatOf (v : Value) : Except Fault Binary64 :=
  match v.number? with
  | some (.int i) => .ok (.ofInt i)
  | some (.float x) => .ok x
  | none => .error (.notNumber v.typeName)

/-- A binary number in one of the notations `e`, `f` and `g`. -/
def writeFloat (flags : Flags) (precision : Option Nat) (letter : Char) (x : Binary64) :
    Written :=
  let places := precision.getD 6
  match x with
  | .nan => { sign := signOf flags false, body := "nan".toList, isNumber := true }
  | .infinity negative =>
      { sign := signOf flags negative, body := "inf".toList, isNumber := true }
  | .finite negative mantissa exponent =>
      let (num, den) := Binary64.ratio mantissa exponent
      let body := match letter with
        | 'e' => scientific flags.alternate num den places
        | 'f' => fixed flags.alternate num den places
        | _ => general flags.alternate num den places
      { sign := signOf flags negative, body, isNumber := true }

/-- The character that a field stands for. -/
def characterOf (v : Value) : Except Fault Char :=
  match v with
  | .text s =>
      match s.toList with
      | [c] => .ok c
      | _ => .error .notCharacter
  | v =>
      match v.number? with
      | some (.int i) =>
          if 0 ≤ i ∧ i < 0x110000 then .ok (Char.ofNat i.toNat) else .error .characterRange
      | _ => .error .notCharacter

def Written.capital (w : Written) : Written :=
  { w with mark := w.mark.map Char.toUpper, body := w.body.map Char.toUpper }

/-- Writes a field as a conversion letter says. -/
def write (flags : Flags) (precision : Option Nat) (conversion : Char) (position : Nat)
    (v : Value) : Except Fault Written :=
  match conversion with
  | 's' => .ok (writeText precision (v.plain.toOption.getD []))
  | 'r' => .ok (writeText precision (v.shown.toOption.getD []))
  | 'a' => .ok (writeText precision (toAscii (v.shown.toOption.getD [])))
  | 'd' | 'i' | 'u' => (decimalOf conversion v).map (writeInteger flags precision 10 [])
  | 'o' => (integerOf 'o' v).map (writeInteger flags precision 8 ['0', 'o'])
  | 'x' => (integerOf 'x' v).map (writeInteger flags precision 16 ['0', 'x'])
  | 'X' =>
      (integerOf 'X' v).map fun i => (writeInteger flags precision 16 ['0', 'x'] i).capital
  | 'e' | 'f' | 'g' => (floatOf v).map (writeFloat flags precision conversion)
  | 'E' | 'F' | 'G' =>
      (floatOf v).map fun x => (writeFloat flags precision conversion.toLower x).capital
  | 'c' => (characterOf v).map fun c => { body := [c] }
  | c => .error (.unknownConversion c position)

def greatestWidth : Nat := twoTo 63 - 1

def greatestPrecision : Nat := twoTo 31 - 1

/-- A width or a precision as an integer, and the field if it is left. -/
def resolveSize (greatest : Nat) (tooBig : Fault) (size : Option Size) (field : Option Value) :
    Except Fault (Option Int × Option Value) :=
  match size with
  | none => .ok (none, field)
  | some (.given n) => if greatest < n then .error tooBig else .ok (some n, field)
  | some .fromField =>
      match field with
      | none => .error .noField
      | some v =>
          match v.number? with
          | some (.int i) => .ok (some i, none)
          | _ => .error .starNeedsInteger

/-- What a directive writes. Without a name of its own it writes what is left from before. -/
def Directive.apply (d : Directive) (fields : Entries String Value) (left : Option Value) :
    Except Fault (List Char) := do
  let field ← match d.key with
    | none => .ok left
    | some key =>
        match fields.get? (String.ofList key) with
        | some v => .ok (some v)
        | none => .error (.missingField key)
  let (width, field) ← resolveSize greatestWidth .widthTooBig d.width field
  let (precision, field) ← resolveSize greatestPrecision .precisionTooBig d.precision field
  match d.conversion, field with
  | none, _ => .error .incomplete
  | some _, none => .error .noField
  | some (conversion, position), some v =>
      let w ← write d.flags (precision.map Int.toNat) conversion position v
      let flags := if width.any (· < 0) then { d.flags with left := true } else d.flags
      .ok (w.pad flags (width.getD 0).natAbs)

/-- Applies the parts of a format. The first directive that names no field
takes the record as a whole, unless a field was named before. -/
def applyParts (fields : Entries String Value) : Option Value → List Part →
    Except Fault (List Char)
  | _, [] => .ok []
  | left, .char c :: rest => (applyParts fields left rest).map (c :: ·)
  | _, .openKey :: _ => .error .openKey
  | left, .directive d :: rest =>
      (d.apply fields left).bind fun text =>
        (applyParts fields none rest).map (text ++ ·)

/-- The format that stands in for an empty one. -/
def defaultFormat : String := "%(message)s"

def effective (format : String) : String := if format.isEmpty then defaultFormat else format

def usesTime (format : String) : Bool :=
  occursIn "%(asctime)".toList (effective format).toList

/-- Applies a format to the fields of a record. The time is a field only of
records whose format shows it. -/
def apply (format : String) (fields : Entries String Value) (time : String) :
    Except Fault String :=
  let fields := if usesTime format then fields.put "asctime" (.text time) else fields
  let whole := Value.map (fields.map fun entry => (.text entry.1, entry.2))
  (applyParts fields (some whole) (parts (effective format).toList)).map String.ofList

end Courier.LogFormat
