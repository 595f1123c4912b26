import Courier.Value.Integer

/-!
# Counting requests

How many requests a run is to send, and the tally of those that have
finished. The tally tells the one request that completes the run: the one
that brings the total to the number asked for.
-/

namespace Courier.Dispatch

/-- The number of requests that a value asks for. What is not a positive
number asks for one. -/
def readCount (v : Value) : Except Failure Nat :=
  match v.toInteger with
  | .ok n => .ok (if 0 < n then n.toNat else 1)
  | .error failure =>
      if failure.kind = .type ∨ failure.kind = .value then .ok 1 else .error failure

/-- The tally of a run. -/
structure Counters where
  requested : Value
  total : Nat := 0
  succeeded : Nat := 0
  failed : Nat := 0
  completed : Bool := false

namespace Counters

/-- The total is the number asked for. -/
def reached (c : Counters) : Bool := Value.int c.total == c.requested

/-- Counts one finished request, and tells whether it completes the run. -/
def record (c : Counters) (success : Bool) : Counters × Bool :=
  let counted : Counters :=
    { c with
      total := c.total + 1
      succeeded := if success then c.succeeded + 1 else c.succeeded
      failed := if success then c.failed else c.failed + 1 }
  let completes := counted.reached && !c.completed
  ({ counted with completed := c.completed || completes }, completes)

/-- The tally in one line. -/
def summary (c : Counters) : String :=
  "total=" ++ toString c.total ++ ", succeeded=" ++ toString c.succeeded ++ ", failed="
    ++ toString c.failed

/-- The text that logs show for a tally. -/
def shown (c : Counters) : String := "<DispatchCounters " ++ c.summary ++ ">"

theorem total_record (c : Counters) (success : Bool) :
    (c.record success).1.total = c.total + 1 := rfl

/-- Every request counts once, as a success or as a failure. -/
theorem balanced_record {c : Counters} (h : c.succeeded + c.failed = c.total) (success : Bool) :
    (c.record success).1.succeeded + (c.record success).1.failed
      = (c.record success).1.total := by
  cases success <;> simp [record] <;> omega

end Counters

end Courier.Dispatch
