import Courier.Proofs.Exchanges

/-!
# What a host resolves to

A caller that asks for the address of a host gets one, gets a failure of the
server, or is called off for want of patience (`resolve_text`). What the
server fails with is described by a property of failures, which the lookups
that are waited for have to have from the start (`Lookups.Orderly`). One step,
the answer to a lookup, keeps to it (`failure_answer`) and settles that lookup
(`settled_answer`); all answers together do so for every lookup.
-/

namespace Courier

variable {own : Failure → Prop}

/-- The outcome of a lookup, once it has one. -/
def Lookups.outcomeOf (state : Lookups) (lookup : Nat) : Option (Except Failure String) :=
  state.started[lookup]?.bind (·.outcome)

/-- A host that is waited for has a lookup, which was not called off: if it
failed, then with such a failure. -/
structure Lookups.Orderly (own : Failure → Prop) (state : Lookups) : Prop where
  started : ∀ host lookup, state.cache.get? host = some (.awaited lookup) →
    lookup < state.started.length
  failures : ∀ host lookup, state.cache.get? host = some (.awaited lookup) →
    ∀ failure, state.outcomeOf lookup = some (.error failure) → own failure

/-- Before the first lookup all is in order. -/
theorem Lookups.orderly_nil : Lookups.Orderly own {} where
  started := fun host lookup h => by cases h
  failures := fun host lookup h => by cases h

/-- A server that fails in such ways alone, and otherwise knows an address. -/
structure Resolver.Answers (own : Failure → Prop) (r : Resolver) : Prop where
  failures : ∀ host n failure, r.answers host n = .error failure → own failure
  found : ∀ host n, r.answers host n ≠ .ok []

namespace Resolver

variable {r : Resolver} {state : Lookups}

/-! ## One answer -/

theorem outcomeOf_settle (state : Lookups) (lookup j : Nat) (outcome : Except Failure String) :
    (settle state lookup outcome).outcomeOf j =
      if lookup = j then state.started[j]?.map fun l => l.outcome.getD outcome
      else state.outcomeOf j := by
  simp only [settle, Lookups.outcomeOf, List.getElem?_modify]
  by_cases hj : lookup = j
  · rw [if_pos hj]
    cases state.started[j]? with
    | none => rfl
    | some l => cases hl : l.outcome <;> simp [hj, hl]
  · simp [hj]

theorem length_answer (lookup : Nat) :
    (r.answer state lookup).started.length = state.started.length := by
  unfold answer
  split
  · simp [settle]
  · rfl

/-- What a server answers is an address or such a failure. -/
theorem Answers.firstAddress (hr : r.Answers own) (host : Value) (n : Nat) {failure : Failure}
    (h : (r.answers host n).bind firstAddress = .error failure) : own failure := by
  cases hanswer : r.answers host n with
  | error cause =>
      rw [hanswer] at h
      cases h
      exact hr.failures host n failure hanswer
  | ok addresses =>
      rw [hanswer] at h
      cases addresses with
      | nil => exact absurd hanswer (hr.found host n)
      | cons address more => cases h

/-- An answer brings no other failures. -/
theorem failure_answer (hr : r.Answers own) (lookup : Nat) {j : Nat}
    (h : ∀ failure, state.outcomeOf j = some (.error failure) → own failure) {failure : Failure}
    (hj : (r.answer state lookup).outcomeOf j = some (.error failure)) : own failure := by
  unfold answer at hj
  split at hj
  · rename_i asked _
    rw [outcomeOf_settle] at hj
    split at hj
    · obtain ⟨l, hl, hgiven⟩ := Option.map_eq_some_iff.mp hj
      cases houtcome : l.outcome with
      | none =>
          rw [houtcome] at hgiven
          exact hr.firstAddress _ _ hgiven
      | some outcome =>
          rw [houtcome] at hgiven
          refine h failure ?_
          rw [Lookups.outcomeOf, hl, ← hgiven]
          exact houtcome
    · exact h failure hj
  · exact h failure hj

/-- A lookup that is answered, or was before, is settled. -/
theorem settled_answer {lookup j : Nat} (hj : j < state.started.length)
    (h : lookup = j ∨ (state.outcomeOf j).isSome) :
    ((r.answer state lookup).outcomeOf j).isSome := by
  unfold answer
  split
  · rw [outcomeOf_settle]
    split
    · rw [List.getElem?_eq_getElem hj]
      rfl
    · rename_i hne
      exact h.resolve_left hne
  · rename_i hnone
    refine h.resolve_left ?_
    rintro rfl
    rw [List.getElem?_eq_getElem hj] at hnone
    cases hnone

/-! ## All answers -/

theorem settled_answers {j : Nat} : ∀ (pending : List Nat) {state : Lookups},
    j < state.started.length → j ∈ pending ∨ (state.outcomeOf j).isSome →
    ((pending.foldl r.answer state).outcomeOf j).isSome
  | [], state, _, hsettled => hsettled.resolve_left (by simp)
  | lookup :: pending, state, hj, hsettled => by
      have hlength : j < (r.answer state lookup).started.length := by rwa [length_answer]
      refine settled_answers pending hlength ?_
      obtain hmem | hsome := hsettled
      · obtain rfl | hmem := List.mem_cons.mp hmem
        · exact .inr (settled_answer hj (.inl rfl))
        · exact .inl hmem
      · exact .inr (settled_answer hj (.inr hsome))

theorem failures_answers (hr : r.Answers own) {j : Nat} : ∀ (pending : List Nat) {state : Lookups},
    (∀ failure, state.outcomeOf j = some (.error failure) → own failure) →
    ∀ failure, (pending.foldl r.answer state).outcomeOf j = some (.error failure) → own failure
  | [], _, h => h
  | lookup :: pending, _, h => failures_answers hr pending fun _ => failure_answer hr lookup h

/-- Once all lookups are answered, each of them has an address or such a failure. -/
theorem outcomeOf_answerAll (hr : r.Answers own) {lookup : Nat}
    (hlookup : lookup < state.started.length)
    (h : ∀ failure, state.outcomeOf lookup = some (.error failure) → own failure) :
    ∃ outcome, (r.answerAll state).outcomeOf lookup = some outcome
      ∧ ∀ failure, outcome = .error failure → own failure := by
  have hsettled := settled_answers (r := r) _ hlookup (.inl (List.mem_range.mpr hlookup))
  have hfailures := failures_answers hr (List.range state.started.length) h
  obtain ⟨outcome, houtcome⟩ := Option.isSome_iff_exists.mp hsettled
  exact ⟨outcome, houtcome, fun failure heq => hfailures failure (heq ▸ houtcome)⟩

/-! ## Asking -/

/-- A text is settled at once as a text, or waits for a lookup of an orderly state. -/
theorem ask_text (hs : state.Orderly own) (s : String) :
    (∃ address, r.ask state (.text s) = (.settled (.ok (.text address)), state))
      ∨ ∃ waiter asked, r.ask state (.text s) = (.waits waiter, asked)
        ∧ waiter.lookup < asked.started.length
        ∧ ∀ failure, asked.outcomeOf waiter.lookup = some (.error failure) → own failure := by
  have hrefusal : refusal? (.text s) = none := rfl
  unfold ask
  rw [hrefusal]
  split
  · exact .inl ⟨s, rfl⟩
  · simp only
    split
    · exact .inl ⟨_, rfl⟩
    · rename_i lookup hcached
      exact .inr ⟨_, _, rfl, hs.started _ _ hcached, hs.failures _ _ hcached⟩
    · refine .inr ⟨_, _, rfl, by simp, fun failure hfailed => ?_⟩
      simp [Lookups.outcomeOf] at hfailed

/-- A host that is a text resolves to a text, fails as the server does, or is
given up on for want of patience. -/
theorem resolve_text (hr : r.Answers own) (hs : state.Orderly own) (s : String) (patient : Bool) :
    (∃ address, (r.resolve state (.text s) patient).1 = .ok (.text address))
      ∨ (∃ failure, (r.resolve state (.text s) patient).1 = .error failure ∧ own failure)
      ∨ patient = false ∧ (r.resolve state (.text s) patient).1 = .error .cancelled := by
  obtain ⟨address, hask⟩ | ⟨waiter, asked, hask, hlookup, hfailures⟩ := ask_text (r := r) hs s
  · exact .inl ⟨address, resolve_settled hask patient⟩
  · cases patient with
    | false => exact .inr (.inr ⟨rfl, resolve_impatient hask⟩)
    | true =>
        obtain ⟨outcome, houtcome, hown⟩ := outcomeOf_answerAll hr hlookup hfailures
        rw [Lookups.outcomeOf] at houtcome
        rw [resolve_patient hask, houtcome]
        cases outcome with
        | ok address => exact .inl ⟨address, rfl⟩
        | error failure => exact .inr (.inl ⟨failure, rfl, hown failure rfl⟩)

/-- What a text resolves to is a text. -/
theorem text_of_resolve (hr : r.Answers own) (hs : state.Orderly own) {s : String} {patient : Bool}
    {address : Value} (h : (r.resolve state (.text s) patient).1 = .ok address) :
    ∃ text, address = .text text := by
  obtain ⟨text, hresolve⟩ | ⟨failure, hresolve, -⟩ | ⟨-, hresolve⟩ := resolve_text hr hs s patient
  · exact ⟨text, Except.ok.inj (h.symm.trans hresolve)⟩
  · cases h.symm.trans hresolve
  · cases h.symm.trans hresolve

end Resolver

end Courier
