import Courier.Proofs.Accounts
import Mathlib.Data.Bool.Count

/-!
# Tallies of any length

A tally goes on for as long as requests are counted, also beyond the number asked for,
which may be any integer (`Counters.recordAll`). What it holds is told by the calls made
so far alone (`Counters.ofCalls`): how many they were, how many of them counted a success,
and whether the one with the number asked for is among them.

One more call keeps to that, and answers whether it is this one (`record_ofCalls`). So
each call of a run leaves a tally that is right, one call at most completes it, and the
order of the calls does not matter (`recordAll_tallies`).
-/

namespace Courier.Dispatch.Counters

/-- A tally before any call. -/
def fresh (requested : Int) : Counters := { requested := .int requested }

/-- What each call leaves behind, and what it answers. -/
def recordAll (c : Counters) : List Bool → List (Counters × Bool)
  | [] => []
  | success :: calls => c.record success :: (c.record success).1.recordAll calls

/-- The tally behind the last call. -/
def after (c : Counters) (calls : List Bool) : Counters :=
  ((c.recordAll calls).getLast?.map (·.1)).getD c

/-- The tally holds the numbers of these calls, and knows whether the one that was asked
for is among them. -/
structure Tallied (asked : Int) (calls : List Bool) (c : Counters) : Prop where
  requested : c.requested = .int asked
  total : c.total = calls.length
  succeeded : c.succeeded = calls.count true
  failed : c.failed = calls.count false
  sum : c.succeeded + c.failed = c.total
  completed : c.completed = true ↔ 1 ≤ asked ∧ asked ≤ calls.length

/-! ## The invariant -/

/-- The tally of these calls. -/
def ofCalls (requested : Int) (calls : List Bool) : Counters where
  requested := .int requested
  total := calls.length
  succeeded := calls.count true
  failed := calls.count false
  completed := decide (1 ≤ requested ∧ requested ≤ calls.length)

theorem fresh_eq (requested : Int) : fresh requested = ofCalls requested [] := by
  have hopen : ¬ (1 ≤ requested ∧ requested ≤ 0) := by omega
  simp [fresh, ofCalls, hopen]

theorem tallied_ofCalls (requested : Int) (calls : List Bool) :
    Tallied requested calls (ofCalls requested calls) where
  requested := rfl
  total := rfl
  succeeded := rfl
  failed := rfl
  sum := List.count_true_add_count_false calls
  completed := decide_eq_true_iff

theorem ofCalls_perm (requested : Int) {calls other : List Bool} (h : other.Perm calls) :
    ofCalls requested other = ofCalls requested calls := by
  simp only [ofCalls, h.length_eq, h.count_eq]

/-- One more call completes the tally if it is the one with the number asked for. -/
theorem record_ofCalls (requested : Int) (calls : List Bool) (success : Bool) :
    (ofCalls requested calls).record success
      = (ofCalls requested (calls ++ [success]), decide (requested = calls.length + 1)) := by
  have hreached : (Value.int (calls.length + 1 : Nat) == Value.int requested)
      = decide (requested = calls.length + 1) := by
    rw [int_beq_int, Bool.eq_iff_iff, beq_iff_eq, decide_eq_true_iff]
    omega
  have hcompletes : (decide (requested = calls.length + 1)
        && !decide (1 ≤ requested ∧ requested ≤ calls.length))
      = decide (requested = calls.length + 1) := by
    rw [Bool.and_eq_left_iff_imp, decide_eq_true_iff, Bool.not_eq_true', decide_eq_false_iff_not]
    omega
  have hcompleted : (decide (1 ≤ requested ∧ requested ≤ calls.length)
        || decide (requested = calls.length + 1))
      = decide (1 ≤ requested ∧ requested ≤ (calls ++ [success]).length) := by
    rw [← Bool.decide_or, decide_eq_decide, List.length_append, List.length_singleton]
    omega
  simp only [record, reached, ofCalls, hreached, hcompletes, hcompleted]
  cases success <;> simp

/-! ## A run of calls -/

/-- What a call of a run leaves and answers is told by the calls up to it. -/
theorem recordAll_ofCalls (requested : Int) : ∀ before calls : List Bool,
    (ofCalls requested before).recordAll calls
      = calls.mapIdx fun i _ => (ofCalls requested (before ++ calls.take (i + 1)),
        decide (requested = before.length + i + 1))
  | before, [] => rfl
  | before, success :: calls => by
      have hnext (i : Nat) : ((before ++ [success]).length + i + 1 : Int)
          = before.length + (i + 1 : Nat) + 1 := by
        rw [List.length_append, List.length_singleton]
        omega
      rw [recordAll, record_ofCalls, recordAll_ofCalls requested (before ++ [success]) calls,
        List.mapIdx_cons]
      simp only [hnext, List.append_assoc, List.singleton_append, List.take_succ_cons,
        List.take_zero, Int.natCast_zero, Int.add_zero]

/-- Behind the last call the tally is that of all of them. -/
theorem after_ofCalls (requested : Int) (before calls : List Bool) :
    (ofCalls requested before).after calls = ofCalls requested (before ++ calls) := by
  rw [after, recordAll_ofCalls]
  cases calls using List.reverseRecOn with
  | nil => simp
  | append_singleton calls success =>
      have hlast : (calls ++ [success]).take (calls.length + 1) = calls ++ [success] :=
        List.take_of_length_le (by simp)
      simp [List.getLast?_eq_getElem?, hlast]

/-- The one call that completes a run is the one with the number asked for. -/
theorem countP_recordAll (requested : Int) : ∀ before calls : List Bool,
    ((ofCalls requested before).recordAll calls).countP (·.2)
      = if before.length < requested ∧ requested ≤ before.length + calls.length then 1 else 0
  | before, [] => by simp [recordAll]
  | before, success :: calls => by
      rw [recordAll, record_ofCalls, List.countP_cons, countP_recordAll]
      simp only [List.length_append, List.length_cons, List.length_nil, decide_eq_true_eq]
      split_ifs <;> omega

/-- After each call of a run the tally holds the numbers of the calls so far. The call with
the number asked for, and no other one, completes the run, and the tally tells so from it
on. The last tally does not depend on the order of the calls. -/
theorem recordAll_tallies (requested : Int) (calls : List Bool) :
    ((fresh requested).recordAll calls).length = calls.length
      ∧ (∀ i c answer, ((fresh requested).recordAll calls)[i]? = some (c, answer) →
        Tallied requested (calls.take (i + 1)) c ∧ (answer = true ↔ requested = i + 1))
      ∧ ((fresh requested).recordAll calls).countP (·.2)
        = (if 1 ≤ requested ∧ requested ≤ calls.length then 1 else 0)
      ∧ Tallied requested calls ((fresh requested).after calls)
      ∧ ∀ other : List Bool, other.Perm calls →
        (fresh requested).after other = (fresh requested).after calls := by
  rw [fresh_eq]
  refine ⟨?_, fun i c answer h => ?_, ?_, ?_, fun other hperm => ?_⟩
  · rw [recordAll_ofCalls, List.length_mapIdx]
  · rw [recordAll_ofCalls, List.getElem?_mapIdx] at h
    obtain ⟨success, -, heq⟩ := Option.map_eq_some_iff.mp h
    obtain ⟨rfl, rfl⟩ := Prod.mk.inj heq
    exact ⟨tallied_ofCalls requested _, by simp⟩
  · have hfirst : 0 < requested ↔ 1 ≤ requested := by omega
    rw [countP_recordAll]
    simp only [List.length_nil, Int.natCast_zero, Int.zero_add, hfirst]
  · rw [after_ofCalls]
    exact tallied_ofCalls requested calls
  · rw [after_ofCalls, after_ofCalls]
    exact ofCalls_perm requested hperm

/-- Two are asked for and three come: the second one completes the run. -/
example : ((fresh 2).recordAll [true, false, true]).map (·.2) = [false, true, false] := by decide

end Courier.Dispatch.Counters
