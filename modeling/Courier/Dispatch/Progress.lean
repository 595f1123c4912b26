import Courier.Dispatch.Counters
import Courier.Failure.Message

/-!
# The progress of a run

Every request of a run ends once, with a response or with a failure, and is
then told in one line and counted in one step. The request that completes the
run is followed by the summary. Requests may end in any order; a run is the
list of their ends.
-/

namespace Courier.Dispatch

/-- How a request has ended: with the text of a response, or with a failure. -/
inductive Conclusion where
  | answered (body : String)
  | failed (failure : Failure)

namespace Conclusion

/-- The request got a response. -/
def succeeded : Conclusion → Bool
  | .answered _ => true
  | .failed _ => false

/-- What is told of a request: the body, or what caused the failure. -/
def text : Conclusion → String
  | .answered body => body
  | .failed failure => (failure.cause?.getD failure).describe

end Conclusion

/-- A line that a run tells. -/
inductive Line where
  | request (index : Nat) (text : String)
  | summary (text : String)
  deriving DecidableEq, Repr

def Line.text : Line → String
  | .request index text => "[" ++ toString index ++ "] " ++ text
  | .summary text => text

/-- The state of a run: the tally, and the lines so far. -/
structure Progress where
  counters : Counters
  lines : List Line := []

namespace Progress

/-- A run of a number of requests, none of which has ended. -/
def start (count : Nat) : Progress := { counters := { requested := .int count } }

/-- A request has ended: its line is told and it is counted. The summary
follows if this completes the run. -/
def finish (p : Progress) (index : Nat) (conclusion : Conclusion) : Progress :=
  let (counters, completes) := p.counters.record conclusion.succeeded
  { counters
    lines := p.lines ++ .request index conclusion.text
      :: (if completes then [.summary counters.summary] else []) }

/-- Requests have ended, in the order of the list. -/
def finishAll (p : Progress) (ended : List (Nat × Conclusion)) : Progress :=
  ended.foldl (fun p e => p.finish e.1 e.2) p

@[simp] theorem finishAll_nil (p : Progress) : p.finishAll [] = p := rfl

@[simp] theorem finishAll_cons (p : Progress) (e : Nat × Conclusion)
    (rest : List (Nat × Conclusion)) :
    p.finishAll (e :: rest) = (p.finish e.1 e.2).finishAll rest := rfl

theorem finishAll_append (p : Progress) (xs ys : List (Nat × Conclusion)) :
    p.finishAll (xs ++ ys) = (p.finishAll xs).finishAll ys := List.foldl_append

/-- Every request that has ended is counted. -/
theorem total_finishAll (p : Progress) (ended : List (Nat × Conclusion)) :
    (p.finishAll ended).counters.total = p.counters.total + ended.length := by
  induction ended generalizing p with
  | nil => rfl
  | cons e rest ih =>
      rw [finishAll_cons, ih, List.length_cons]
      show p.counters.total + 1 + rest.length = _
      omega

end Progress

end Courier.Dispatch
