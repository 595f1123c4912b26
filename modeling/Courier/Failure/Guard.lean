import Courier.Failure.Message
import Courier.Log

/-!
# Failures at the border

What the network raises under a request reaches the caller as a transport
failure that keeps the cause. An expired wait becomes a timed-out request,
every other failure of the network is logged and wrapped, and failures of
any other kind pass unchanged. A failure that is to be logged needs a text:
where it has none, what went wrong with the text takes its place.
-/

namespace Courier.Failure

/-- The failure that a caller sees. -/
def guarded (failure : Failure) : Failure :=
  if failure.kind.isTimeout then .requestTimedOut failure
  else if failure.kind.isNetwork then failure.textFault?.getD (.transport failure)
  else failure

/-- The failure passes the border unchanged. -/
def passes (failure : Failure) : Bool := !failure.kind.isTimeout && !failure.kind.isNetwork

/-- What is logged when a failure is wrapped. -/
def guardLog (failure : Failure) : Log :=
  if !failure.kind.isTimeout && failure.kind.isNetwork && failure.textFault?.isNone then
    [⟨.trace, "transport failure " ++ failure.shown⟩]
  else []

/-- Nothing that the network raises, and that has a text, reaches the caller as it is. -/
theorem isTransport_guarded {failure : Failure}
    (h : failure.kind.isTimeout || failure.kind.isNetwork) (text : failure.textFault? = none) :
    failure.guarded.isTransport = true := by
  unfold guarded
  split
  · rfl
  · split
    · rw [text]; rfl
    · simp_all

end Courier.Failure
