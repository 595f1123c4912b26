import Courier.Value.Basic
import Courier.Failure.Basic

/-!
# Values as maps

Where a map is asked for, a sequence of pairs will do as well. Every element
must have two elements of its own, the first of which may be a key.
-/

namespace Courier.Value

/-- The two elements of the element at an index of a sequence of pairs. -/
def pairAt (index : Nat) (v : Value) : Except Failure (Value × Value) :=
  match v.elements? with
  | none => .error (.misuse (.notPair index))
  | some [key, value] =>
      match key.unhashable? with
      | some type => .error (.misuse (.unhashable type))
      | none => .ok (key, value)
  | some items => .error (.unacceptable (.pairLength index items.length))

/-- The members of a map, where nothing else will do. -/
def toMembers (v : Value) : Except Failure (List (Value × Value)) :=
  match v.members? with
  | some members => .ok members
  | none => .error (.noMember v.typeName "items")

/-- The members of a map or a sequence of pairs, in order. -/
def toPairs (v : Value) : Except Failure (List (Value × Value)) :=
  match v.members? with
  | some members => .ok members
  | none =>
      match v.elements? with
      | none => .error (.misuse (.notIterable v.typeName))
      | some items => items.zipIdx.mapM fun (item, index) => pairAt index item

/-- Puts the members of a map or a sequence of pairs into entries, if the
value counts as true; a value that does not is passed over. -/
def putInto (v : Value) (entries : Entries Value Value) : Except Failure (Entries Value Value) :=
  if v.truthy then v.toPairs.map fun pairs => entries.putAll pairs else .ok entries

end Courier.Value
