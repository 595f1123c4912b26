import Courier.Decimal.Binary64
import Courier.Entries

/-!
# Values

What a caller may hand over as a payload, a parameter, a header or an
option: a value of any type. Most of the library accepts any value and says
which of them it can use, so the rules of values as such stand here: the name
of a value's type, when it counts as false, when two values are equal, and
which values may be keys.

Texts are sequences of Unicode scalar values. A text with half of a surrogate
pair in it is no value here, and so the failure to write such a text in UTF-8
is none either.
-/

namespace Courier

open Courier.Decimal

/-- A value of any type. A `knot` is a value that holds itself: a list whose
only element is a map, whose only member, `k`, is that list. It is told apart
by the half that is looked at. -/
inductive Value where
  | null
  | bool (b : Bool)
  | int (i : Int)
  | float (x : Binary64)
  | text (s : String)
  | bytes (bs : List UInt8)
  | byteArray (bs : List UInt8)
  | list (items : List Value)
  | tuple (items : List Value)
  | set (items : List Value)
  | map (entries : List (Value × Value))
  | object (id : Nat)
  | knot (mapHalf : Bool)
  deriving Inhabited, Repr

namespace Value

/-- How deep values may be nested where they are followed. -/
def nestingLimit : Nat := 960

/-- The map half of a knot holds the list half, and the other way round. -/
def untie (mapHalf : Bool) : Value :=
  if mapHalf then .map [(.text "k", .knot false)] else .list [.knot true]

/-- The name of a value's type, as messages show it. -/
def typeName : Value → String
  | .null => "NoneType"
  | .bool _ => "bool"
  | .int _ => "int"
  | .float _ => "float"
  | .text _ => "str"
  | .bytes _ => "bytes"
  | .byteArray _ => "bytearray"
  | .list _ => "list"
  | .tuple _ => "tuple"
  | .set _ => "set"
  | .map _ => "dict"
  | .object _ => "object"
  | .knot mapHalf => if mapHalf then "dict" else "list"

/-- Nothing, false, zero and everything empty count as false. -/
def truthy : Value → Bool
  | .null => false
  | .bool b => b
  | .int i => i != 0
  | .float x => !x.isZero
  | .text s => !s.isEmpty
  | .bytes bs => !bs.isEmpty
  | .byteArray bs => !bs.isEmpty
  | .list items => !items.isEmpty
  | .tuple items => !items.isEmpty
  | .set items => !items.isEmpty
  | .map entries => !entries.isEmpty
  | .object _ => true
  | .knot _ => true

/-- The elements of a value that has elements: the items of a sequence or set,
the keys of a map, the numbers of a byte string, the characters of a text. -/
def elements? : Value → Option (List Value)
  | .text s => some (s.toList.map fun c => .text (String.singleton c))
  | .bytes bs => some (bs.map fun b => .int b.toNat)
  | .byteArray bs => some (bs.map fun b => .int b.toNat)
  | .list items => some items
  | .tuple items => some items
  | .set items => some items
  | .map entries => some (entries.map (·.1))
  | .knot true => some [.text "k"]
  | .knot false => some [.knot true]
  | _ => none

def members? : Value → Option (List (Value × Value))
  | .map entries => some entries
  | .knot true => some [(.text "k", .knot false)]
  | _ => none

/-- A number: truth values count as 0 and 1. -/
inductive Number where
  | int (i : Int)
  | float (x : Binary64)

def number? : Value → Option Number
  | .bool b => some (.int (if b then 1 else 0))
  | .int i => some (.int i)
  | .float x => some (.float x)
  | _ => none

/-- Numeric equality across integers and floating-point numbers. -/
def Number.equal : Number → Number → Bool
  | .int i, .int j => i == j
  | .int i, .float x => x.equalsInt i
  | .float x, .int i => x.equalsInt i
  | .float x, .float y => x.equal y

def Number.lessThan : Number → Int → Bool
  | .int i, j => i < j
  | .float x, j => x.lessThanInt j

/-- Equality of two sequences, element by element. -/
def sequencesEqual (equal : Value → Value → Option Bool) (xs ys : List Value) : Option Bool :=
  if xs.length != ys.length then some false
  else (xs.zip ys).allM fun pair => equal pair.1 pair.2

/-- Equality of two sets of one size: each element of the one is in the other. -/
def setsEqual (equal : Value → Value → Option Bool) (xs ys : List Value) : Option Bool :=
  if xs.length != ys.length then some false
  else xs.allM fun x => ys.anyM fun y => equal x y

/-- Equality of two maps: each member of the one is a member of the other. -/
def mapsEqual (equal : Value → Value → Option Bool) (xs ys : List (Value × Value)) :
    Option Bool :=
  if xs.length != ys.length then some false
  else xs.allM fun x => ys.anyM fun y =>
    (equal x.1 y.1).bind fun sameKey => if sameKey then equal x.2 y.2 else some false

/-- Equality of two values nested no deeper than `depth`; `none` where the
values go deeper before they are told apart. Numbers are compared across
their types, byte strings with byte arrays, maps and sets regardless of
order; values of any two other types differ. -/
def equalWithin : Nat → Value → Value → Option Bool
  | 0, _, _ => none
  | depth + 1, a, b =>
      match a.number?, b.number? with
      | some x, some y => some (x.equal y)
      | _, _ =>
        match a, b with
        | .null, .null => some true
        | .text s, .text t => some (s == t)
        | .bytes x, .bytes y => some (x == y)
        | .bytes x, .byteArray y => some (x == y)
        | .byteArray x, .bytes y => some (x == y)
        | .byteArray x, .byteArray y => some (x == y)
        | .object i, .object j => some (i == j)
        | .list xs, .list ys => sequencesEqual (equalWithin depth) xs ys
        | .list xs, .knot false => sequencesEqual (equalWithin depth) xs [.knot true]
        | .knot false, .list ys => sequencesEqual (equalWithin depth) [.knot true] ys
        | .tuple xs, .tuple ys => sequencesEqual (equalWithin depth) xs ys
        | .set xs, .set ys => setsEqual (equalWithin depth) xs ys
        | .map xs, .map ys => mapsEqual (equalWithin depth) xs ys
        | .map xs, .knot true => mapsEqual (equalWithin depth) xs [(.text "k", .knot false)]
        | .knot true, .map ys => mapsEqual (equalWithin depth) [(.text "k", .knot false)] ys
        | .knot x, .knot y => if x == y then none else some false
        | _, _ => some false

/-- Equality of two values, if it can be settled within the nesting limit. -/
def equal? (a b : Value) : Option Bool := equalWithin nestingLimit a b

/-- Two keys are the same key when the values are equal. -/
instance : BEq Value where
  beq a b := (equal? a b).getD false

/-- The type of the first part that keeps a value from being a key: what can
change is no key, nor is a tuple that holds such a part. -/
def unhashableWithin : Nat → Value → Option String
  | _, .byteArray _ => some "bytearray"
  | _, .list _ => some "list"
  | _, .set _ => some "set"
  | _, .map _ => some "dict"
  | _, .knot mapHalf => some (if mapHalf then "dict" else "list")
  | 0, .tuple _ => none
  | depth + 1, .tuple items => items.findSome? (unhashableWithin depth)
  | _, _ => none

/-- The type of the first part that keeps a value from being a key. -/
def unhashable? (v : Value) : Option String := unhashableWithin nestingLimit v

end Value

end Courier
