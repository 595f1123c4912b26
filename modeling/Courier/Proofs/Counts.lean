import Courier.Proofs.Completion
import Courier.Proofs.ShownValues

/-!
# Counts

A count may be given as any value. It is meant to be the integer that the value is read
as, if there is one and it is positive, and one otherwise (`CountDue`), so that every run
sends a request at least.

What cannot be read as an integer is of the wrong type or spells none, but for one kind
of value: an infinite number is of the right type and fails in a way of its own
(`kind_of_toInteger`). It takes the run with it before anything is sent. So does a count
of too many digits, which is read, but cannot be told of (`issues_iff`).
-/

namespace Courier

open Text

/-! ## Reading integers -/

namespace Value

variable {v : Value} {failure : Failure}

/-- The value is an infinite number. -/
def Infinite (v : Value) : Prop := ∃ negative, v = .float (.infinity negative)

theorem toInteger_infinite (h : v.Infinite) : v.toInteger = .error .infiniteInteger := by
  obtain ⟨negative, rfl⟩ := h
  rfl

/-- A text that spells no integer is a value that cannot be used. -/
theorem kind_of_spelling {result : Except IntegerFault Int} {base : Nat} {shown : List Char}
    (h : result.mapError (IntegerFault.failure base shown) = .error failure) :
    failure.kind = .value := by
  cases result with
  | ok i => cases h
  | error fault =>
      cases h
      cases fault <;> rfl

/-- What is not read as an integer is of the wrong type, or cannot be used, or infinite. -/
theorem kind_of_toInteger (h : v.toInteger = .error failure) (hfinite : ¬ v.Infinite) :
    failure.kind = .type ∨ failure.kind = .value := by
  cases v with
  | bool b => cases h
  | int i => cases h
  | float x =>
      cases x with
      | nan =>
          cases h
          exact .inr rfl
      | infinity negative => exact absurd ⟨negative, rfl⟩ hfinite
      | finite negative mantissa exponent => cases h
  | text s => exact .inr (kind_of_spelling h)
  | bytes bs => exact .inr (kind_of_spelling h)
  | byteArray bs => exact .inr (kind_of_spelling h)
  | _ =>
      cases h
      exact .inl rfl

end Value

/-! ## Reading counts -/

namespace Dispatch

variable {v : Value} {n : Nat}

/-- The number of requests that a value is meant to ask for. -/
inductive CountDue (v : Value) : Except Failure Nat → Prop where
  | given {n : Nat} (reads : v.toInteger = .ok n) (positive : 0 < n) : CountDue v (.ok n)
  | single (otherwise : ∀ i, v.toInteger = .ok i → i ≤ 0) : CountDue v (.ok 1)

theorem readCount_of_toInteger {i : Int} (h : v.toInteger = .ok i) :
    readCount v = .ok (if 0 < i then i.toNat else 1) := by
  rw [readCount, h]

theorem readCount_infinite (h : v.Infinite) : readCount v = .error .infiniteInteger := by
  rw [readCount, Value.toInteger_infinite h]
  rfl

/-- A count is read as it is meant to be, unless it is infinite. -/
theorem countDue_iff : CountDue v (readCount v) ↔ ¬ v.Infinite := by
  constructor
  · intro hdue hinfinite
    rw [readCount_infinite hinfinite] at hdue
    cases hdue
  · intro hfinite
    cases hreads : v.toInteger with
    | error failure =>
        have hsingle : readCount v = .ok 1 := by
          rw [readCount, hreads]
          exact if_pos (Value.kind_of_toInteger hreads hfinite)
        rw [hsingle]
        exact .single fun i hi => by cases hreads.symm.trans hi
    | ok i =>
        rw [readCount_of_toInteger hreads]
        by_cases hpositive : 0 < i
        · rw [if_pos hpositive]
          exact .given (by rw [hreads, Int.toNat_of_nonneg (by omega)]) (by omega)
        · rw [if_neg hpositive]
          refine .single fun j hj => ?_
          cases hreads.symm.trans hj
          exact Int.not_lt.mp hpositive

end Dispatch

/-! ## Runs that send requests -/

namespace Dispatcher

variable {d : Dispatcher} {v : Value} {n : Nat} {raw : List UInt8}

/-- A run gets to its requests, of which there are so many, and comes to what these make of it. -/
def Issues (d : Dispatcher) (count : Value) (n : Nat) : Prop :=
  ∃ raw started, d.setUp count = .ok (n, raw, started) ∧ ∀ resolver peers,
    (d.issueAll resolver peers raw n).1.length = n
      ∧ d.run resolver peers count = comesTo n (d.issueAll resolver peers raw n) started

theorem issues_iff_setUp : d.Issues v n ↔ ∃ raw started, d.setUp v = .ok (n, raw, started) := by
  refine exists_congr fun raw => exists_congr fun started => and_iff_left_of_imp fun hsetUp => ?_
  exact fun resolver peers => ⟨length_issueAll, run_of_setUp resolver peers hsetUp⟩

/-- The value can be counted with: it is not infinite, and the integer that it is read as,
if it counts, has not too many digits to be told of. -/
structure UsableCount (v : Value) : Prop where
  finite : ¬ v.Infinite
  told : ∀ i, v.toInteger = .ok i → 0 < i → ¬ (Value.int i).Long

/-- A number can be told of exactly if it has not too many digits. -/
theorem plainString_ok_iff :
    (∃ text, (Value.int n).plainString = .ok text) ↔ ¬ (Value.int n).Long := by
  rw [← Value.showInteger_fails_iff]
  have hplain : (Value.int n).plainString = (Value.showInteger n).map String.ofList := rfl
  rw [hplain]
  cases Value.showInteger n with
  | error failure => exact iff_of_false (fun ⟨_, h⟩ => by cases h) (not_not_intro ⟨failure, rfl⟩)
  | ok text => exact iff_of_true ⟨_, rfl⟩ fun ⟨_, h⟩ => by cases h

/-- A run gets to its requests if these can be written and their number can be told of. -/
theorem issues_iff : d.Issues v n ↔ Dispatch.readCount v = .ok n
    ∧ (∃ raw, d.rawRequest = .ok raw) ∧ ¬ (Value.int n).Long := by
  rw [issues_iff_setUp, ← plainString_ok_iff]
  constructor
  · rintro ⟨raw, started, hsetUp⟩
    obtain ⟨hcount, hraw, hstart⟩ := setUp_eq_ok_iff.mp hsetUp
    obtain ⟨text, htext, -⟩ := bind_eq_ok hstart
    exact ⟨hcount, ⟨raw, hraw⟩, text, htext⟩
  · rintro ⟨hcount, ⟨raw, hraw⟩, text, htext⟩
    obtain ⟨started, hstart⟩ := (written_of_rawRequest hraw).startLog htext
    exact ⟨raw, started, setUp_eq_ok_iff.mpr ⟨hcount, hraw, hstart⟩⟩

/-- A run gets to one request at least, if requests can be written and the count is of use. -/
theorem exists_issues_iff : (∃ n, 1 ≤ n ∧ d.Issues v n)
    ↔ (∃ raw, d.rawRequest = .ok raw) ∧ UsableCount v := by
  constructor
  · rintro ⟨n, -, hissues⟩
    obtain ⟨hcount, hraw, hshort⟩ := issues_iff.mp hissues
    refine ⟨hraw, ⟨fun hinfinite => ?_, fun i hreads hpositive => ?_⟩⟩
    · cases hcount.symm.trans (Dispatch.readCount_infinite hinfinite)
    · rw [Dispatch.readCount_of_toInteger hreads, if_pos hpositive] at hcount
      cases hcount
      rwa [Int.toNat_of_nonneg (by omega)] at hshort
  · rintro ⟨hraw, husable⟩
    have hdue := Dispatch.countDue_iff.mpr husable.finite
    generalize hcount : Dispatch.readCount v = result at hdue
    cases hdue with
    | @given n reads positive =>
        exact ⟨n, positive, issues_iff.mpr ⟨hcount, hraw, husable.told n reads (by omega)⟩⟩
    | single otherwise =>
        have hshort : ¬ (Value.int (1 : Nat)).Long :=
          Nat.not_le.mpr (Integer.lt_tenTo_digitLimit (by decide))
        exact ⟨1, Nat.le_refl 1, issues_iff.mpr ⟨hcount, hraw, hshort⟩⟩

/-- A count is read as it is meant to be, which is one at least, exactly if it is not
infinite. A run whose request can be written gets to one of its requests exactly if the
count is of use, and else fails without any. -/
theorem count_due_iff (v : Value) :
    (Dispatch.CountDue v (Dispatch.readCount v) ↔ ¬ v.Infinite)
      ∧ (∀ n, Dispatch.readCount v = .ok n → 1 ≤ n)
      ∧ ∀ d : Dispatcher,
        ((∃ n, 1 ≤ n ∧ d.Issues v n) ↔ (∃ raw, d.rawRequest = .ok raw) ∧ UsableCount v)
        ∧ (¬ (∃ n, d.Issues v n) →
          ∃ failure, ∀ resolver peers, d.run resolver peers v = .failed failure) := by
  refine ⟨Dispatch.countDue_iff, fun n => pos_of_readCount, fun d => ⟨exists_issues_iff, ?_⟩⟩
  intro hnone
  cases hsetUp : d.setUp v with
  | error failure =>
      exact ⟨failure, fun resolver peers => run_of_setUp_error resolver peers hsetUp⟩
  | ok set => exact absurd ⟨set.1, issues_iff_setUp.mpr ⟨set.2.1, set.2.2, hsetUp⟩⟩ hnone

/-- An infinite count below zero is no positive one, but it is not read as one request: it
is not read at all, and no run gets to a request with it. -/
theorem infinite_count_fails :
    ¬ Dispatch.CountDue (.float (.infinity true)) (Dispatch.readCount (.float (.infinity true)))
      ∧ Dispatch.CountDue (.float (.infinity true)) (.ok 1)
      ∧ ∀ (d : Dispatcher) (resolver : Resolver) (peers : Nat → Peer),
        d.run resolver peers (.float (.infinity true)) = .failed .infiniteInteger := by
  have hinfinite : (Value.float (.infinity true)).Infinite := ⟨true, rfl⟩
  refine ⟨fun hdue => Dispatch.countDue_iff.mp hdue hinfinite, .single nofun, ?_⟩
  intro d resolver peers
  refine run_of_setUp_error resolver peers ?_
  simp only [setUp, bind, Except.bind, Dispatch.readCount_infinite hinfinite]

end Dispatcher

end Courier
