import Courier.Failure.Basic

/-!
# Comparing values

Equality that is settled by following the values fails where they are nested
too deep. A value compared with itself is not followed at all: what it holds
is the same thing on both sides, so that only the undefined number differs.
-/

namespace Courier.Value

def same (a b : Value) : Except Failure Bool :=
  match a.equal? b with
  | some answer => .ok answer
  | none => .error (.tooDeep .comparing)

/-- Whether the values of every pair are equal. The pairs are looked at in
order, up to the first one that differs. -/
def allSame : List (Value × Value) → Except Failure Bool
  | [] => .ok true
  | (a, b) :: rest => (a.same b).bind fun equal => if equal then allSame rest else .ok false

def equalsItself : Value → Bool
  | .float x => x.equal x
  | _ => true

/-- A pair of equal values does not change whether all pairs are equal. -/
theorem allSame_cons_of_same {a b : Value} (h : a.same b = .ok true)
    (rest : List (Value × Value)) : allSame ((a, b) :: rest) = allSame rest := by
  simp [allSame, h, Except.bind]

end Courier.Value
