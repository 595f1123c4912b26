/-!
# Entries in order

A map that remembers its order: keys stand where they were first put, and a
key that is written again keeps its place. Headers, options and the members
of a map value are all kept this way.
-/

namespace Courier

/-- Keys with their values, in the order of first insertion. -/
abbrev Entries (κ ν : Type) := List (κ × ν)

namespace Entries

variable {κ ν : Type} [BEq κ]

def has (entries : Entries κ ν) (key : κ) : Bool := entries.any (·.1 == key)

def get? (entries : Entries κ ν) (key : κ) : Option ν :=
  (entries.find? (·.1 == key)).map (·.2)

/-- Gives the key a value: in its place if it is there, else at the end. -/
def put (entries : Entries κ ν) (key : κ) (value : ν) : Entries κ ν :=
  if has entries key then
    entries.map fun entry => if entry.1 == key then (entry.1, value) else entry
  else entries ++ [(key, value)]

/-- Drops a key with its value. -/
def erase (entries : Entries κ ν) (key : κ) : Entries κ ν :=
  entries.filter fun entry => !(entry.1 == key)

/-- Puts all of `more`, one after the other. -/
def putAll (entries more : Entries κ ν) : Entries κ ν :=
  more.foldl (fun acc entry => put acc entry.1 entry.2) entries

/-- A new key goes to the end. -/
theorem put_of_not_has {entries : Entries κ ν} {key : κ} {value : ν}
    (h : has entries key = false) : put entries key value = entries ++ [(key, value)] := by
  simp [put, h]

end Entries

end Courier
