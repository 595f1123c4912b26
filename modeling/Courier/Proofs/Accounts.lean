import Courier.Proofs.RequestLines
import Courier.Proofs.Segments
import Mathlib.Data.List.Induction
import Mathlib.Data.List.Perm.Basic
import Mathlib.Logic.Relation

/-!
# The accounts of a run

The requests of a run are under way at the same time. Between two points at
which a request waits, it either gets its connection or ends, and then its
connection is closed, its line told and its count taken in one go. Which
request is next is left open (`Step`), so a run is any sequence of such steps
from its `launch` on (`Reaches`).

The invariant (`Accounted`) is that the progress is what finishing the ended
requests leads to, in the order in which they ended. From it the counts and
the lines are read off at every point (`Balanced`) and at the end (`Settled`),
whatever that order was. The lines are told of as they are printed (`printed`),
and each of them depends on how its own request has ended alone (`Tells`). The
run that `Dispatcher.run` carries out, in the order of the indices, is one of
them (`reaches_run`).
-/

namespace Courier

/-! ## Finishing requests, in any order -/

namespace Dispatch

theorem int_beq_int (i j : Int) : (Value.int i == Value.int j) = (i == j) := by
  have hlimit : Value.nestingLimit = 959 + 1 := rfl
  show (Value.equalWithin Value.nestingLimit (.int i) (.int j)).getD false = _
  rw [hlimit]
  rfl

theorem count_beq_count (i j : Nat) : (Value.int i == Value.int j) = (i == j) := by
  rw [int_beq_int, Bool.eq_iff_iff, beq_iff_eq, beq_iff_eq, Int.natCast_inj]

/-- The tally of a run of `n` requests once these have ended. -/
def Counters.ofEnded (n : Nat) (ended : List (Nat × Conclusion)) : Counters where
  requested := .int n
  total := ended.length
  succeeded := ended.countP (·.2.succeeded)
  failed := ended.countP (! ·.2.succeeded)
  completed := ended.length == n

theorem sum_ofEnded (n : Nat) (ended : List (Nat × Conclusion)) :
    (Counters.ofEnded n ended).succeeded + (Counters.ofEnded n ended).failed = ended.length := by
  rw [List.length_eq_countP_add_countP (fun e => e.2.succeeded)]
  simp [Counters.ofEnded]

def requestLines (ended : List (Nat × Conclusion)) : List Line :=
  ended.map fun e => .request e.1 e.2.text

/-- The line that follows once as many requests have ended as were asked for. -/
def summaryLines (n : Nat) (ended : List (Nat × Conclusion)) : List Line :=
  if ended.length = n then [.summary (Counters.ofEnded n ended).summary] else []

theorem record_ofEnded {n : Nat} {ended : List (Nat × Conclusion)} (h : ended.length < n)
    (e : Nat × Conclusion) :
    (Counters.ofEnded n ended).record e.2.succeeded
      = (Counters.ofEnded n (ended ++ [e]), ended.length + 1 == n) := by
  have hopen : (ended.length == n) = false := beq_false_of_ne (by omega)
  simp only [Counters.record, Counters.reached, Counters.ofEnded, hopen, count_beq_count,
    Bool.not_false, Bool.and_true, Bool.false_or]
  cases hsucceeded : e.2.succeeded <;> simp [hsucceeded]

/-- One more request ends: its line follows those told before, and the summary
follows it if it is the last one. -/
theorem finish_ofEnded {n : Nat} {ended : List (Nat × Conclusion)} {p : Progress}
    (h : ended.length < n) (hcounters : p.counters = Counters.ofEnded n ended)
    (hlines : p.lines = requestLines ended) (e : Nat × Conclusion) :
    (p.finish e.1 e.2).counters = Counters.ofEnded n (ended ++ [e])
      ∧ (p.finish e.1 e.2).lines
        = requestLines (ended ++ [e]) ++ summaryLines n (ended ++ [e]) := by
  have hrecord := record_ofEnded h e
  rw [← hcounters] at hrecord
  unfold Progress.finish
  rw [hrecord, hlines]
  refine ⟨rfl, ?_⟩
  by_cases hlast : ended.length + 1 = n <;>
    simp [requestLines, summaryLines, hlast]

theorem finishAll_start {n : Nat} (hn : 1 ≤ n) (ended : List (Nat × Conclusion))
    (h : ended.length ≤ n) :
    ((Progress.start n).finishAll ended).counters = Counters.ofEnded n ended
      ∧ ((Progress.start n).finishAll ended).lines
        = requestLines ended ++ summaryLines n ended := by
  induction ended using List.reverseRecOn with
  | nil =>
      have hopen : (0 == n) = false := beq_false_of_ne (by omega)
      have hpending : ¬ 0 = n := by omega
      simp [Progress.start, Counters.ofEnded, requestLines, summaryLines, hopen, hpending]
  | append_singleton ended e ih =>
      have hlength : ended.length < n := by
        rw [List.length_append, List.length_singleton] at h
        omega
      obtain ⟨hcounters, hlines⟩ := ih (Nat.le_of_lt hlength)
      have hpending : ¬ ended.length = n := by omega
      rw [summaryLines, if_neg hpending, List.append_nil] at hlines
      rw [Progress.finishAll_append, Progress.finishAll_cons, Progress.finishAll_nil]
      exact finish_ofEnded hlength hcounters hlines e

/-! ## Requests under way -/

/-- A run between two of its steps: what was told and counted, the requests
that have not ended, and the connections. -/
structure Flight where
  progress : Progress
  pending : List Nat
  links : Nat → Option Link := fun _ => none

def launch (n : Nat) : Flight where
  progress := .start n
  pending := List.range n

namespace Flight

/-- Gives a request a connection, or none. -/
def setLink (s : Flight) (i : Nat) (link : Option Link) : Flight :=
  { s with links := fun j => if j = i then link else s.links j }

/-- A request has ended: its line is told and it is counted. -/
def finish (s : Flight) (i : Nat) (conclusion : Conclusion) : Flight :=
  { s with
    progress := s.progress.finish i conclusion
    pending := s.pending.erase i }

variable (s : Flight) (i : Nat) (link : Option Link)

@[simp] theorem pending_setLink : (s.setLink i link).pending = s.pending := rfl

@[simp] theorem links_setLink_self : (s.setLink i link).links i = link := if_pos rfl

theorem links_setLink_of_ne {i j : Nat} (h : j ≠ i) : (s.setLink i link).links j = s.links j :=
  if_neg h

end Flight

/-- What a run may do next. A request that has not ended gets its connection,
or it ends as its journal says: its connection is closed, its line told and
its count taken in one go. -/
inductive Step (journals : Nat → Journal Reply) (s : Flight) : Flight → Prop where
  | connects {i : Nat} {link : Link} (pending : i ∈ s.pending) (unconnected : s.links i = none)
      (accepted : (journals i).link.isSome = true) (opened : link.closed = false) :
      Step journals s (s.setLink i (some link))
  | ends {i : Nat} {conclusion : Conclusion} (pending : i ∈ s.pending)
      (connected : (s.links i).isSome = (journals i).link.isSome)
      (concluded : Dispatcher.conclusion (journals i) = .ok conclusion) :
      Step journals s ((s.setLink i (journals i).link).finish i conclusion)

/-- The run of `n` requests can get here. -/
abbrev Reaches (journals : Nat → Journal Reply) (n : Nat) (s : Flight) : Prop :=
  Relation.ReflTransGen (Step journals) (launch n) s

/-! ## The invariant -/

/-- The progress of a run is that of its ended requests, in the order in which
they ended. These have left their connections as their journals say. -/
structure Accounted (journals : Nat → Journal Reply) (n : Nat) (s : Flight) : Prop where
  ended : ∃ ended : List (Nat × Conclusion), s.progress = (Progress.start n).finishAll ended
    ∧ (ended.map (·.1) ++ s.pending).Perm (List.range n)
    ∧ ∀ e ∈ ended, Dispatcher.conclusion (journals e.1) = .ok e.2
  links : ∀ i, i ∉ s.pending → s.links i = if i < n then (journals i).link else none
  accepted : ∀ i, (s.links i).isSome = true → (journals i).link.isSome = true

variable {journals : Nat → Journal Reply} {ends : Nat → Conclusion} {n : Nat} {s t : Flight}

theorem accounted_launch : Accounted journals n (launch n) where
  ended := ⟨[], rfl, List.Perm.refl _, by simp⟩
  links := by
    intro i hi
    have hlarge : ¬ i < n := fun hlt => hi (List.mem_range.mpr hlt)
    rw [if_neg hlarge]
    rfl
  accepted := fun i h => by cases h

theorem Accounted.lt (h : Accounted journals n s) {i : Nat} (hi : i ∈ s.pending) : i < n := by
  obtain ⟨ended, -, hperm, -⟩ := h.ended
  exact List.mem_range.mp (hperm.subset (List.mem_append_right _ hi))

theorem accounted_step (h : Accounted journals n s) (hstep : Step journals s t) :
    Accounted journals n t := by
  cases hstep with
  | @connects i link pending unconnected accepted opened =>
      refine ⟨h.ended, fun j hj => ?_, fun j hj => ?_⟩
      · have hne : j ≠ i := fun heq => hj (heq ▸ pending)
        rw [Flight.links_setLink_of_ne _ _ hne]
        exact h.links j hj
      · by_cases heq : j = i
        · exact heq ▸ accepted
        · rw [Flight.links_setLink_of_ne _ _ heq] at hj
          exact h.accepted j hj
  | @ends i conclusion pending connected concluded =>
      obtain ⟨ended, hprogress, hperm, hconcluded⟩ := h.ended
      have hself : ((s.setLink i (journals i).link).finish i conclusion).links i
          = (journals i).link := s.links_setLink_self i _
      have hother : ∀ j ≠ i, ((s.setLink i (journals i).link).finish i conclusion).links j
          = s.links j := fun j hj => s.links_setLink_of_ne _ hj
      refine ⟨⟨ended ++ [(i, conclusion)], ?_, ?_, ?_⟩, fun j hj => ?_, fun j hj => ?_⟩
      · rw [Progress.finishAll_append, ← hprogress]
        rfl
      · -- the request moves from those under way to those that have ended
        have hmoved : (i :: s.pending.erase i).Perm s.pending := (List.perm_cons_erase pending).symm
        rw [List.map_append, List.append_assoc]
        exact (hmoved.append_left _).trans hperm
      · intro e he
        obtain he | he := List.mem_append.mp he
        · exact hconcluded e he
        · rw [List.mem_singleton.mp he]
          exact concluded
      · by_cases heq : j = i
        · rw [heq, hself, if_pos (h.lt pending)]
        · rw [hother j heq]
          exact h.links j fun hmem => hj ((List.mem_erase_of_ne heq).mpr hmem)
      · by_cases heq : j = i
        · rw [heq, hself] at hj
          exact heq ▸ hj
        · rw [hother j heq] at hj
          exact h.accepted j hj

theorem accounted_of_reaches (h : Reaches journals n s) : Accounted journals n s := by
  induction h with
  | refl => exact accounted_launch
  | tail _ hstep ih => exact accounted_step ih hstep

/-! ## At every point -/

def Line.isRequest : Line → Bool
  | .request _ _ => true
  | .summary _ => false

/-- The counts add up and agree with the lines told; the summary has not been
told before all requests have ended. -/
structure Balanced (n : Nat) (p : Progress) : Prop where
  sum : p.counters.succeeded + p.counters.failed = p.counters.total
  told : p.lines.countP Line.isRequest = p.counters.total
  bound : p.counters.total ≤ n
  summary : ∀ text, .summary text ∈ p.lines → p.counters.total = n

theorem countP_requestLines (ended : List (Nat × Conclusion)) :
    (requestLines ended).countP Line.isRequest = ended.length := by
  rw [requestLines, List.countP_map]
  exact List.countP_eq_length.mpr fun e _ => rfl

theorem countP_summaryLines (n : Nat) (ended : List (Nat × Conclusion)) :
    (summaryLines n ended).countP Line.isRequest = 0 := by
  unfold summaryLines
  split <;> rfl

theorem Accounted.balanced (h : Accounted journals n s) (hn : 1 ≤ n) : Balanced n s.progress := by
  obtain ⟨ended, hprogress, hperm, -⟩ := h.ended
  have hlength : ended.length ≤ n := by
    have hsum := hperm.length_eq
    rw [List.length_append, List.length_map, List.length_range] at hsum
    omega
  obtain ⟨hcounters, hlines⟩ := finishAll_start hn ended hlength
  rw [hprogress]
  refine ⟨?_, ?_, ?_, ?_⟩
  · rw [hcounters]
    exact sum_ofEnded n ended
  · rw [hlines, hcounters, List.countP_append, countP_requestLines, countP_summaryLines]
    rfl
  · rw [hcounters]
    exact hlength
  · intro text htext
    rw [hlines] at htext
    rw [hcounters]
    obtain htext | htext := List.mem_append.mp htext
    · obtain ⟨e, -, he⟩ := List.mem_map.mp htext
      cases he
    · unfold summaryLines at htext
      split at htext
      · assumption
      · cases htext

/-! ## At the end -/

/-- The request got a response. -/
def answered (journal : Journal Reply) : Bool :=
  match journal.verdict with
  | .ok _ => true
  | _ => false

/-- What a run has printed whose requests have ended in this order: a line for each of them,
with its text, and then the numbers. -/
def printed (texts : Nat → String) (order : List Nat) (succeeded failed : Nat) : List String :=
  (order.map fun i => "[" ++ toString i ++ "] " ++ texts i)
    ++ ["total=" ++ toString order.length ++ ", succeeded=" ++ toString succeeded
      ++ ", failed=" ++ toString failed]

/-- All requests have ended, in some order, and are counted. Each of them has its line, which
tells how it has ended, the summary with the final numbers comes last, and no connection is
open. -/
structure Settled (journals : Nat → Journal Reply) (n : Nat) (s : Flight) : Prop where
  requested : s.progress.counters.requested = .int n
  total : s.progress.counters.total = n
  succeeded : s.progress.counters.succeeded = (List.range n).countP fun i => answered (journals i)
  failed : s.progress.counters.failed = (List.range n).countP fun i => ! answered (journals i)
  completed : s.progress.counters.completed = true
  told : ∀ i < n, ∃! text, Tells (journals i).verdict text
  count : s.progress.lines.length = n + 1
  lines : ∀ texts : Nat → String, (∀ i < n, Tells (journals i).verdict (texts i)) →
    ∃ order : List Nat, order.Perm (List.range n) ∧ s.progress.lines.map Line.text
      = printed texts order s.progress.counters.succeeded s.progress.counters.failed
  links : ∀ i < n, s.links i = (journals i).link
  closed : ∀ i link, s.links i = some link → link.closed = true

theorem succeeded_of_conclusion {journal : Journal Reply} {conclusion : Conclusion}
    (h : Dispatcher.conclusion journal = .ok conclusion) :
    conclusion.succeeded = answered journal := by
  unfold Dispatcher.conclusion at h
  unfold answered
  cases hverdict : journal.verdict with
  | ok reply =>
      rw [hverdict] at h
      cases h
      rfl
  | waiting =>
      rw [hverdict] at h
      cases h
  | failed failure =>
      simp only [hverdict] at h
      split at h
      · cases h
        rfl
      · cases h

/-- The requests with these indices have ended, as they do. -/
def endedIn (ends : Nat → Conclusion) (order : List Nat) : List (Nat × Conclusion) :=
  order.map fun i => (i, ends i)

theorem length_endedIn (ends : Nat → Conclusion) {order : List Nat}
    (horder : order.Perm (List.range n)) : (endedIn ends order).length = n := by
  rw [endedIn, List.length_map, horder.length_eq, List.length_range]

/-- The tally and the lines once all requests have ended in an order. -/
theorem finishAll_endedIn (ends : Nat → Conclusion) (hn : 1 ≤ n) {order : List Nat}
    (horder : order.Perm (List.range n)) :
    ((Progress.start n).finishAll (endedIn ends order)).counters
        = Counters.ofEnded n (endedIn ends order)
      ∧ ((Progress.start n).finishAll (endedIn ends order)).lines
        = requestLines (endedIn ends order)
          ++ [.summary (Counters.ofEnded n (endedIn ends order)).summary] := by
  have hlength := length_endedIn ends horder
  obtain ⟨hcounters, hlines⟩ := finishAll_start hn _ (Nat.le_of_eq hlength)
  rw [summaryLines, if_pos hlength] at hlines
  exact ⟨hcounters, hlines⟩

/-- What is counted of requests that have ended in an order does not depend on it. -/
theorem countP_endedIn (hends : ∀ i < n, Dispatcher.conclusion (journals i) = .ok (ends i))
    {order : List Nat} (horder : order.Perm (List.range n)) (counts : Bool → Bool) :
    (endedIn ends order).countP (fun e => counts e.2.succeeded)
      = (List.range n).countP fun i => counts (answered (journals i)) := by
  rw [endedIn, List.countP_map, ← horder.countP_eq]
  refine List.countP_congr fun i hi => ?_
  have hlt := List.mem_range.mp (horder.subset hi)
  rw [← succeeded_of_conclusion (hends i hlt)]
  rfl

theorem lines_endedIn (hn : 1 ≤ n)
    (hends : ∀ i < n, Dispatcher.conclusion (journals i) = .ok (ends i)) {order : List Nat}
    (horder : order.Perm (List.range n)) {texts : Nat → String}
    (htexts : ∀ i < n, Tells (journals i).verdict (texts i)) {p : Progress}
    (hp : p = (Progress.start n).finishAll (endedIn ends order)) :
    p.lines.map Line.text = printed texts order p.counters.succeeded p.counters.failed := by
  obtain ⟨hcounters, hlines⟩ := finishAll_endedIn ends hn horder
  rw [← hp] at hcounters hlines
  have hrequests : (requestLines (endedIn ends order)).map Line.text
      = order.map fun i => "[" ++ toString i ++ "] " ++ texts i := by
    rw [requestLines, endedIn, List.map_map, List.map_map]
    refine List.map_congr_left fun i hi => ?_
    have hlt := List.mem_range.mp (horder.subset hi)
    rw [← (tells_iff (hends i hlt)).mp (htexts i hlt)]
    rfl
  have htotal : (Counters.ofEnded n (endedIn ends order)).total = order.length :=
    List.length_map ..
  rw [hlines, List.map_append, hrequests, printed, ← htotal, hcounters]
  rfl

/-- Once all requests have ended, they have done so in some order. -/
theorem Accounted.order (h : Accounted journals n s)
    (hends : ∀ i < n, Dispatcher.conclusion (journals i) = .ok (ends i)) (hs : s.pending = []) :
    ∃ order : List Nat, order.Perm (List.range n)
      ∧ s.progress = (Progress.start n).finishAll (endedIn ends order) := by
  obtain ⟨ended, hprogress, hperm, hconcluded⟩ := h.ended
  rw [hs, List.append_nil] at hperm
  refine ⟨ended.map (·.1), hperm, ?_⟩
  rw [hprogress, endedIn, List.map_map]
  refine congrArg _ ((List.map_id' ended).symm.trans (List.map_congr_left fun e he => ?_))
  have hlt := List.mem_range.mp (hperm.subset (List.mem_map_of_mem he))
  have hsame := Except.ok.inj ((hconcluded e he).symm.trans (hends e.1 hlt))
  exact Prod.ext rfl hsame

theorem Accounted.settled (h : Accounted journals n s) (hn : 1 ≤ n)
    (hissued : ∀ i < n, Issued (journals i))
    (hends : ∀ i < n, Dispatcher.conclusion (journals i) = .ok (ends i)) (hs : s.pending = []) :
    Settled journals n s := by
  obtain ⟨order, horder, hprogress⟩ := h.order hends hs
  obtain ⟨hcounters, hlines⟩ := finishAll_endedIn ends hn horder
  rw [← hprogress] at hcounters hlines
  have hlength := length_endedIn ends horder
  have hlinks : ∀ i, s.links i = if i < n then (journals i).link else none := fun i =>
    h.links i (hs ▸ List.not_mem_nil)
  exact {
    requested := by rw [hcounters]; rfl
    total := by rw [hcounters]; exact hlength
    succeeded := by rw [hcounters]; exact countP_endedIn hends horder id
    failed := by rw [hcounters]; exact countP_endedIn hends horder not
    completed := by rw [hcounters]; exact beq_iff_eq.mpr hlength
    told := fun i hi => (ends_iff.mpr ⟨_, hends i hi⟩).tells
    count := by
      rw [hlines, List.length_append, requestLines, List.length_map, hlength, List.length_singleton]
    lines := fun texts htexts => ⟨order, horder, lines_endedIn hn hends horder htexts hprogress⟩
    links := fun i hi => by rw [hlinks, if_pos hi]
    closed := fun i link hlink => by
      rw [hlinks] at hlink
      split at hlink
      · rename_i hi
        exact (hissued i hi).closed (hends i hi) hlink
      · cases hlink }

/-! ## Getting to the end -/

/-- A request that has not ended can go on. -/
theorem Accounted.can_step (h : Accounted journals n s)
    (hends : ∀ i < n, Dispatcher.conclusion (journals i) = .ok (ends i)) (hs : s.pending ≠ []) :
    ∃ t, Step journals s t := by
  obtain ⟨i, hi⟩ := List.exists_mem_of_ne_nil _ hs
  have hconcluded := hends i (h.lt hi)
  cases hlink : s.links i with
  | some link =>
      have hconnected : (s.links i).isSome = (journals i).link.isSome := by
        rw [h.accepted i (by rw [hlink]; rfl), hlink]
        rfl
      exact ⟨_, .ends hi hconnected hconcluded⟩
  | none =>
      cases haccepted : (journals i).link with
      | none => exact ⟨_, .ends hi (by rw [hlink, haccepted]) hconcluded⟩
      | some link =>
          have hopened : ({ link with closed := false } : Link).closed = false := rfl
          exact ⟨_, .connects hi hlink (by rw [haccepted]; rfl) hopened⟩

/-- The steps that are left: to connect, and to end. -/
def Flight.left (s : Flight) : Nat :=
  s.pending.length + s.pending.countP fun i => (s.links i).isNone

theorem left_step (h : Step journals s t) : t.left < s.left := by
  cases h with
  | @connects i link pending unconnected accepted opened =>
      -- counted from `i` on: it was without a connection, and is no more
      have hfront := List.perm_cons_erase pending
      have hrest : (s.pending.erase i).countP (fun j => ((s.setLink i (some link)).links j).isNone)
          ≤ (s.pending.erase i).countP fun j => (s.links j).isNone := by
        refine List.countP_mono_left fun j _ hj => ?_
        by_cases heq : j = i
        · rw [heq, Flight.links_setLink_self] at hj
          cases hj
        · rwa [Flight.links_setLink_of_ne _ _ heq] at hj
      simp only [Flight.left, Flight.pending_setLink]
      rw [hfront.countP_eq, hfront.countP_eq, List.countP_cons, List.countP_cons, unconnected,
        Flight.links_setLink_self]
      simp only [Option.isNone_some, Option.isNone_none, Bool.false_eq_true, if_false, if_true]
      omega
  | @ends i conclusion pending connected concluded =>
      have hsame : ∀ j, ((s.setLink i (journals i).link).links j).isNone = (s.links j).isNone := by
        intro j
        by_cases heq : j = i
        · rw [heq, Flight.links_setLink_self, ← Option.not_isSome, ← connected, Option.not_isSome]
        · rw [Flight.links_setLink_of_ne _ _ heq]
      have hfewer : (s.pending.erase i).countP
            (fun j => ((s.setLink i (journals i).link).links j).isNone)
          ≤ s.pending.countP fun j => (s.links j).isNone := by
        simp only [hsame]
        exact List.Sublist.countP_le List.erase_sublist
      have hlength := List.length_erase_of_mem pending
      have hpos := List.length_pos_of_mem pending
      show (s.pending.erase i).length + (s.pending.erase i).countP
          (fun j => ((s.setLink i (journals i).link).links j).isNone) < s.pending.length + _
      omega

/-- No run goes on for ever. -/
theorem step_wellFounded (journals : Nat → Journal Reply) :
    WellFounded fun t s => Step journals s t :=
  Subrelation.wf (fun h => left_step h) (measure Flight.left).wf

/-- A request that has no connection yet can be next to end. -/
theorem ends_next {i : Nat} {conclusion : Conclusion} (pending : i ∈ s.pending)
    (unconnected : s.links i = none)
    (concluded : Dispatcher.conclusion (journals i) = .ok conclusion) :
    ∃ t, Relation.ReflTransGen (Step journals) s t ∧ t.pending = s.pending.erase i
      ∧ t.progress = s.progress.finish i conclusion ∧ ∀ j ≠ i, t.links j = s.links j := by
  cases hlink : (journals i).link with
  | none =>
      have hstep := Step.ends pending (by rw [unconnected, hlink]) concluded
      exact ⟨_, .single hstep, rfl, rfl, fun j hj => s.links_setLink_of_ne _ hj⟩
  | some link =>
      let opened : Link := { link with closed := false }
      have hconnects : Step journals s (s.setLink i (some opened)) :=
        .connects pending unconnected (by rw [hlink]; rfl) rfl
      have hends : Step journals (s.setLink i (some opened)) _ := .ends pending
        (by rw [Flight.links_setLink_self, hlink]; rfl) concluded
      refine ⟨_, (Relation.ReflTransGen.single hconnects).tail hends, rfl, rfl, fun j hj => ?_⟩
      exact (Flight.links_setLink_of_ne _ _ hj).trans (s.links_setLink_of_ne _ hj)

theorem ends_in_order : ∀ {order : List Nat} {s : Flight}, s.pending.Perm order → order.Nodup →
    (∀ i ∈ order, s.links i = none) →
    (∀ i ∈ order, Dispatcher.conclusion (journals i) = .ok (ends i)) →
    ∃ t, Relation.ReflTransGen (Step journals) s t ∧ t.pending = []
      ∧ t.progress = s.progress.finishAll (endedIn ends order)
  | [], s, hperm, _, _, _ => ⟨s, .refl, hperm.eq_nil, rfl⟩
  | i :: order, s, hperm, hnodup, hlinks, hends => by
      obtain ⟨hi, hnodup⟩ := List.nodup_cons.mp hnodup
      have hpending : i ∈ s.pending := hperm.mem_iff.mpr (List.mem_cons_self ..)
      obtain ⟨mid, hmid, hleft, hprogress, hothers⟩ :=
        ends_next hpending (hlinks i (List.mem_cons_self ..)) (hends i (List.mem_cons_self ..))
      have hperm' : mid.pending.Perm order := by
        rw [hleft]
        simpa using hperm.erase i
      obtain ⟨t, ht, hdone, htold⟩ := ends_in_order hperm' hnodup
        (fun j hj => (hothers j fun heq => hi (heq ▸ hj)).trans
          (hlinks j (List.mem_cons_of_mem _ hj)))
        fun j hj => hends j (List.mem_cons_of_mem _ hj)
      refine ⟨t, hmid.trans ht, hdone, ?_⟩
      rw [htold, hprogress]
      rfl

/-- The requests can end in every order. -/
theorem reaches_in_order {order : List Nat} (horder : order.Perm (List.range n))
    (hends : ∀ i < n, Dispatcher.conclusion (journals i) = .ok (ends i)) :
    ∃ t, Reaches journals n t ∧ t.pending = []
      ∧ t.progress = (Progress.start n).finishAll (endedIn ends order) :=
  ends_in_order horder.symm (horder.nodup_iff.mpr List.nodup_range) (fun _ _ => rfl)
    fun i hi => hends i (List.mem_range.mp (horder.mem_iff.mp hi))

/-- The run that is carried out lets its requests end in the order of their indices. -/
theorem reaches_run {d : Dispatcher} {resolver : Resolver} {peers : Nat → Peer} {count : Value}
    {report : RunReport} (hrun : d.run resolver peers count = .ok report)
    (hcount : readCount count = .ok n)
    (hjournals : ∀ i < n, report.journals[i]? = some (journals i))
    (hlength : report.journals.length = n)
    (hends : ∀ i < n, Dispatcher.conclusion (journals i) = .ok (ends i)) :
    ∃ t, Reaches journals n t ∧ t.pending = [] ∧ t.progress = report.progress := by
  obtain ⟨n', raw, started, conclusions, hcount', -, -, -, hconclusions, hprogress⟩ :=
    Dispatcher.run_eq_ok hrun
  cases hcount.symm.trans hcount'
  have hsame : conclusions.mapIdx (·, ·) = endedIn ends (List.range n) := by
    have hlen : conclusions.length = n := hconclusions.length_eq ▸ hlength
    refine List.ext_getElem (by simp [endedIn, hlen]) fun i hi hi' => ?_
    have hin : i < n := by simpa [endedIn] using hi'
    have hconcluded := (List.forall₂_iff_get.mp hconclusions).2 i (hlength ▸ hin) (hlen ▸ hin)
    have hjournal : report.journals.get ⟨i, hlength ▸ hin⟩ = journals i :=
      Option.some.inj ((List.getElem?_eq_getElem _).symm.trans (hjournals i hin))
    rw [hjournal, hends i hin] at hconcluded
    simpa [endedIn] using (Except.ok.inj hconcluded).symm
  obtain ⟨t, ht, hdone, htold⟩ := reaches_in_order (List.Perm.refl (List.range n)) hends
  refine ⟨t, ht, hdone, ?_⟩
  rw [htold, hprogress, hsame]

/-- The accounts of a run of requests each of which ends with a response or a
transport failure. At every point they balance, and there is a next step
unless all requests have ended; then they are settled. A run ends, its
requests may end in any order, which is that of their lines, and the run that
is carried out is one of these. A body that is a text is told as that text. -/
theorem accounts_in_any_order (hn : 1 ≤ n) (hissued : ∀ i < n, Issued (journals i))
    (hends : ∀ i < n, Ends (journals i).verdict) :
    (∀ s, Reaches journals n s →
        Balanced n s.progress
        ∧ (s.pending = [] → Settled journals n s)
        ∧ (s.pending ≠ [] → ∃ t, Step journals s t))
      ∧ (WellFounded fun t s => Step journals s t)
      ∧ (∀ texts : Nat → String, (∀ i < n, Tells (journals i).verdict (texts i)) →
        ∀ order : List Nat, order.Perm (List.range n) →
        ∃ t, Reaches journals n t ∧ t.pending = [] ∧ t.progress.lines.map Line.text
          = printed texts order t.progress.counters.succeeded t.progress.counters.failed)
      ∧ (∀ {d : Dispatcher} {resolver : Resolver} {peers : Nat → Peer} {count : Value}
        {report : RunReport}, d.run resolver peers count = .ok report →
        readCount count = .ok n → report.journals.length = n →
        (∀ i < n, report.journals[i]? = some (journals i)) →
        ∃ t, Reaches journals n t ∧ t.pending = [] ∧ t.progress = report.progress)
      ∧ ∀ (reply : Reply) (text : String), reply.content = Text.Utf8.encode text.toList →
        Tells (.ok reply) text := by
  have hall : ∀ i, ∃ conclusion, i < n → Dispatcher.conclusion (journals i) = .ok conclusion := by
    intro i
    by_cases hi : i < n
    · obtain ⟨conclusion, hconclusion⟩ := ends_iff.mp (hends i hi)
      exact ⟨conclusion, fun _ => hconclusion⟩
    · exact ⟨.answered "", fun hlt => absurd hlt hi⟩
  obtain ⟨ends, hconcluded⟩ := Classical.axiomOfChoice hall
  refine ⟨fun s hs => ?_, step_wellFounded journals, fun texts htexts order horder => ?_, ?_,
    fun reply text => tells_of_encode⟩
  · have haccounted := accounted_of_reaches hs
    exact ⟨haccounted.balanced hn, haccounted.settled hn hissued hconcluded,
      haccounted.can_step hconcluded⟩
  · obtain ⟨t, ht, hdone, hprogress⟩ := reaches_in_order horder hconcluded
    exact ⟨t, ht, hdone, lines_endedIn hn hconcluded horder htexts hprogress⟩
  · intro d resolver peers count report hrun hcount hlength hjournals
    exact reaches_run hrun hcount hjournals hlength hconcluded

/-- A run against a server on this machine. -/
def loopback : Dispatcher where
  host := .text "localhost"
  port := .int 8888
  path := .text "/"

/-- The first request gets a reply, the others are refused. -/
def mixed (i : Nat) : Journal Reply :=
  loopback.issue [] .unlimited {} (.ok (.text "localhost"))
    (if i = 0 then .accepts { segments := [Rendition.inTwoChunks.bytes] } none
      else .refuses (.raised .connectionRefused []))

def mixedTexts (i : Nat) : String := if i = 0 then "hello" else "ConnectionRefusedError"

theorem verdict_mixed (i : Nat) : (mixed i).verdict
    = if i = 0 then .ok Rendition.inTwoChunks.reply
      else .failed (.raised .connectionRefused []) := by
  obtain ⟨log, hdial⟩ := Client.dialLog_loopback
  have hport : Client.loopback.destination.port = loopback.port := rfl
  rw [hport] at hdial
  by_cases hi : i = 0
  · have hbytes : Stream.bytes { segments := [Rendition.inTwoChunks.bytes] }
        = Rendition.inTwoChunks.bytes ++ [] := by simp [Stream.bytes]
    simp only [mixed, Dispatcher.verdict_issue, hdial, hi, if_true,
      Peer.meet_rendition Rendition.legal_inTwoChunks hbytes]
    rfl
  · simp only [mixed, Dispatcher.verdict_issue, hdial, hi, if_false, Peer.meet]
    rfl

theorem tells_mixed (i : Nat) : Tells (mixed i).verdict (mixedTexts i) := by
  rw [verdict_mixed, mixedTexts]
  by_cases hi : i = 0
  · rw [if_pos hi, if_pos hi]
    exact tells_of_encode (by decide)
  · rw [if_neg hi, if_neg hi]
    exact .failure (.network rfl rfl) (.cause (.transport _) (.silent rfl))

/-- A reply and a refusal, in the order in which the refusal comes first. -/
theorem accounts_refused_first :
    ∃ t, Reaches mixed 2 t ∧ t.pending = [] ∧ Settled mixed 2 t
      ∧ t.progress.lines.map Line.text
        = ["[1] ConnectionRefusedError", "[0] hello", "total=2, succeeded=1, failed=1"] := by
  have hissued : ∀ i < 2, Issued (mixed i) := fun i _ => .issued ..
  obtain ⟨hpoints, -, horders, -⟩ :=
    accounts_in_any_order (by decide) hissued fun i _ => (tells_mixed i).ends
  obtain ⟨t, ht, hdone, hprinted⟩ := horders _ (fun i _ => tells_mixed i) [1, 0] (by decide)
  have hsettled := (hpoints t ht).2.1 hdone
  have hfirst : answered (mixed 0) = true := by rw [answered, verdict_mixed]; rfl
  have hsecond : answered (mixed 1) = false := by rw [answered, verdict_mixed]; rfl
  have hrange : List.range 2 = [0, 1] := rfl
  have hsucceeded : t.progress.counters.succeeded = 1 := by
    simp [hsettled.succeeded, hrange, hfirst, hsecond]
  have hfailed : t.progress.counters.failed = 1 := by
    simp [hsettled.failed, hrange, hfirst, hsecond]
  rw [hsucceeded, hfailed] at hprinted
  exact ⟨t, ht, hdone, hsettled, hprinted.trans (by decide)⟩

end Dispatch

end Courier
