import Courier.LogFormat.Render
import Courier.Text.Word

/-!
# Checking formats

A format is accepted if it holds at least one directive that looks right: a
name in parentheses, flags, a width, a precision, and a letter. Letters count
in both cases here, and digits in every script, so an accepted format can
still fail when it is applied.
-/

namespace Courier.LogFormat

open Courier.Text

/-- Letters that may end a directive, with the letters that differ from them in case only. -/
def conversionLetters : List Char :=
  "diouxefgcrsa%DIOUXEFGCRSA".toList ++ [Char.ofNat 0x130, Char.ofNat 0x131, Char.ofNat 0x17F]

/-- Drops a number or a star. -/
def dropSize : List Char → List Char
  | '*' :: rest => rest
  | s => s.dropWhile fun c => (digitValue? c).isSome

/-- Drops a point with a number or a star. -/
def dropPrecision : List Char → List Char
  | '.' :: rest => if (dropSize rest).length < rest.length then dropSize rest else '.' :: rest
  | s => s

/-- A directive that looks right starts here. -/
def directiveHere : List Char → Bool
  | '%' :: '(' :: rest =>
      match rest.takeWhile isWordChar, rest.dropWhile isWordChar with
      | _ :: _, ')' :: rest =>
          let rest := rest.dropWhile fun c => "#0+ -".toList.contains c
          (dropPrecision (dropSize rest)).head?.any conversionLetters.contains
      | _, _ => false
  | _ => false

/-- A directive that looks right starts somewhere. -/
def hasDirective : List Char → Bool
  | [] => false
  | c :: rest => directiveHere (c :: rest) || hasDirective rest

def isValid (format : String) : Bool := hasDirective (effective format).toList

end Courier.LogFormat
