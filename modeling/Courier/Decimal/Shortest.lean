import Courier.Decimal.Binary64

/-!
# The shortest decimal

A binary number is written with the fewest decimal digits that read back as
the same number. Grids of one, two, … seventeen digits are tried in turn; on
each, only the two neighbours of the number can read back, and of two that
do the nearer one is taken, the even one on a tie.
-/

namespace Courier.Decimal

/-- `digits * 10 ^ exponent`. -/
structure Scaled where
  digits : Nat
  exponent : Int
  deriving DecidableEq, Repr

/-- The exponent of the leading decimal digit of `num / den`, for positive numbers. -/
def leadingExponent (num den : Nat) : Int :=
  let estimate : Int := (Nat.toDigits 10 num).length - (Nat.toDigits 10 den).length
  if den * tenTo estimate.toNat ≤ num * tenTo (-estimate).toNat then estimate else estimate - 1

/-- The neighbour of `num / den` on the grid of `unit = 10 ^ exponent` that
reads back by `readsBack`, the nearer if both do. -/
def onGrid (readsBack : Scaled → Bool) (num den : Nat) (exponent : Int) : Option Scaled :=
  let top := num * tenTo (-exponent).toNat
  let unit := den * tenTo exponent.toNat
  let low : Scaled := ⟨top / unit, exponent⟩
  let high : Scaled := ⟨top / unit + 1, exponent⟩
  match readsBack low, readsBack high with
  | true, true => some ⟨roundHalfEven top unit, exponent⟩
  | true, false => some low
  | false, true => some high
  | false, false => none

/-- The fewest digits of `mantissa * 2 ^ exponent` that read back. -/
def shortest (mantissa : Nat) (exponent : Int) : Scaled :=
  let (num, den) := Binary64.ratio mantissa exponent
  let leading := leadingExponent num den
  let readsBack (d : Scaled) : Bool :=
    Binary64.ofDecimal false d.digits d.exponent == .finite false mantissa exponent
  ((List.range 17).findSome? fun (n : Nat) => onGrid readsBack num den (leading - n)).getD
    ⟨num, 0⟩

/-- What is found reads back, as long as the search ends on a grid. -/
theorem onGrid_reads {readsBack : Scaled → Bool} {num den : Nat} {exponent : Int} {d : Scaled}
    (h : onGrid readsBack num den exponent = some d) : readsBack d = true := by
  unfold onGrid at h
  simp only at h
  split at h
  · rename_i hlow hhigh
    simp only [Option.some.injEq] at h
    subst h
    unfold roundHalfEven
    simp only
    split <;> assumption
  · simp only [Option.some.injEq] at h; subst h; assumption
  · simp only [Option.some.injEq] at h; subst h; assumption
  · simp at h

end Courier.Decimal
