import Courier.Text.Digit
import Courier.Text.Split

/-!
# Address literals

Hosts that are addresses already and need no lookup. A four-part address has
decimal parts up to 255 without leading zeros. An eight-part address has
hexadecimal parts of at most four digits; one run of zero parts may be left
out as `::`, the last two parts may be written as a four-part address, and a
scope may follow after `%`.
-/

namespace Courier.Url

open Courier.Text

/-- A part of a four-part address. -/
def isOctet (s : List Char) : Bool :=
  !s.isEmpty && s.all isAsciiDigit && s.length ≤ 3
    && (s == ['0'] || s.head? != some '0')
    && s.foldl (fun n c => n * 10 + (c.toNat - '0'.toNat)) 0 ≤ 255

/-- Four decimal parts with dots between them. -/
def isFourPart (s : List Char) : Bool :=
  let parts := fields '.' s
  parts.length == 4 && parts.all isOctet

/-- A part of an eight-part address. -/
def isHextet (s : List Char) : Bool :=
  !s.isEmpty && s.length ≤ 4 && s.all fun c => (hexValue? c).isSome

/-- The parts on one side of an elision: at an end of the address the side
may be empty, which the text shows as one empty part. -/
def sideParts (parts : List (List Char)) : Option (List (List Char)) :=
  if parts == [[]] then some []
  else if parts.all isHextet then some parts
  else none

/-- The parts are those of an eight-part address without an elision. -/
def isFull (parts : List (List Char)) : Bool := parts.length == 8 && parts.all isHextet

/-- Some inner part is empty, and around it stand at most seven others. -/
def isElided (parts : List (List Char)) : Bool :=
  (List.range parts.length).any fun i =>
    1 ≤ i && i + 1 < parts.length && parts[i]? == some []
      && match sideParts (parts.take i), sideParts (parts.drop (i + 1)) with
        | some before, some after => before.length + after.length ≤ 7
        | _, _ => false

/-- The parts of an eight-part address; a four-part address at the end counts for two. -/
def addressParts (s : List Char) : Option (List (List Char)) :=
  let parts := fields ':' s
  match parts.getLast? with
  | some last =>
      if last.contains '.' then
        if isFourPart last then some (parts.dropLast ++ [['0'], ['0']]) else none
      else some parts
  | none => none

/-- Eight hexadecimal parts, or fewer with an elision. -/
def isEightPart (s : List Char) : Bool :=
  (fields ':' s).length ≥ 3
    && match addressParts s with
      | some parts => parts.length ≤ 9 && (isFull parts || isElided parts)
      | none => false

/-- The address without its scope; a scope is not empty and holds no second mark. -/
def withoutScope (s : List Char) : Option (List Char) :=
  match partitionAt '%' s with
  | (address, none) => some address
  | (address, some scope) =>
      if scope.isEmpty || scope.contains '%' then none else some address

def isLiteral (s : List Char) : Bool :=
  !s.contains '/'
    && (isFourPart s || match withoutScope s with
      | some address => isEightPart address
      | none => false)

end Courier.Url
