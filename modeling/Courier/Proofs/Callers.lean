import Courier.Proofs.Issues
import Mathlib.Data.List.Induction

/-!
# Callers that share lookups

Callers ask for hosts, lookups are answered, callers are called off and go on,
in whatever order (`Event`, `Crowd.run`). Each of these is a step of the
resolver; the callers that all ask first, wait together and go on together
are one such run (`run_resolveAll`).

A caller that is called off takes the lookup with it, and so everybody who
waits for it (`Disturbed`). A caller that was not called off itself ends with
what the server said if and only if its lookup was not disturbed
(`ends_as_answered_iff`).
-/

namespace Courier.Resolver

/-- A caller waits for a lookup, perhaps called off already, or has ended. -/
inductive Stage where
  | waits (waiter : Waiter) (calledOff : Bool)
  | ended (outcome : Except Failure Value)

/-- The lookups, and all callers so far, the first one first. -/
structure Crowd where
  lookups : Lookups := {}
  callers : List Stage := []

/-- What may happen next. -/
inductive Event where
  | ask (host : Value)
  | answer (lookup : Nat)
  | callOff (caller : Nat)
  | resume (caller : Nat)

def Stage.ofAsked : Asked → Stage
  | .settled outcome => .ended outcome
  | .waits waiter => .waits waiter false

namespace Crowd

/-- One event. Nothing happens to callers that do not wait, and nobody goes on
whose lookup has no outcome. -/
def step (r : Resolver) (s : Crowd) : Event → Crowd
  | .ask host =>
      { lookups := (r.ask s.lookups host).2
        callers := s.callers ++ [.ofAsked (r.ask s.lookups host).1] }
  | .answer lookup => { s with lookups := r.answer s.lookups lookup }
  | .callOff caller =>
      match s.callers[caller]? with
      | some (.waits waiter _) =>
          { lookups := Resolver.callOff s.lookups waiter
            callers := s.callers.set caller (.waits waiter true) }
      | _ => s
  | .resume caller =>
      match s.callers[caller]? with
      | some (.waits waiter calledOff) =>
          match Resolver.resume s.lookups waiter calledOff with
          | some (outcome, lookups) =>
              { lookups, callers := s.callers.set caller (.ended (outcome.map Value.text)) }
          | none => s
      | _ => s

def run (r : Resolver) (events : List Event) : Crowd := events.foldl (step r) {}

theorem run_append (r : Resolver) (events more : List Event) :
    run r (events ++ more) = more.foldl (step r) (run r events) := List.foldl_append

theorem run_snoc (r : Resolver) (events : List Event) (event : Event) :
    run r (events ++ [event]) = (run r events).step r event := run_append r events [event]

end Crowd

variable {r : Resolver} {s : Crowd} {state : Lookups}

/-! ## Lookups keep their outcomes -/

theorem settle_cases (state : Lookups) (lookup j : Nat) (outcome : Except Failure String) :
    (settle state lookup outcome).outcomeOf j = state.outcomeOf j
      ∨ lookup = j ∧ state.outcomeOf j = none
        ∧ (settle state lookup outcome).outcomeOf j = some outcome := by
  rw [outcomeOf_settle]
  by_cases hj : lookup = j
  · rw [if_pos hj]
    unfold Lookups.outcomeOf
    cases state.started[j]? with
    | none => exact .inl rfl
    | some l =>
        cases hl : l.outcome with
        | none => exact .inr ⟨hj, hl, by simp [hl]⟩
        | some given => exact .inl (by simp [hl])
  · rw [if_neg hj]
    exact .inl rfl

theorem outcomeOf_settle_self {lookup : Nat} (hlookup : lookup < state.started.length)
    (h : state.outcomeOf lookup = none) (outcome : Except Failure String) :
    (settle state lookup outcome).outcomeOf lookup = some outcome := by
  rw [outcomeOf_settle, if_pos rfl]
  unfold Lookups.outcomeOf at h
  rw [List.getElem?_eq_getElem hlookup] at h ⊢
  have hnone : (state.started.get ⟨lookup, hlookup⟩).outcome = none := h
  simp only [Option.map_some, Option.some.injEq]
  rw [show state.started[lookup].outcome = none from hnone]
  rfl

/-- The hosts that were looked up, the first one first. -/
def hosts (state : Lookups) : List Value := state.started.map (·.host)

/-- What the server says to a lookup, whatever becomes of it. -/
def said (r : Resolver) (hosts : List Value) (lookup : Nat) : Option (Except Failure String) :=
  hosts[lookup]?.map fun host =>
    (r.answers host ((hosts.take lookup).filter (· == host)).length).bind firstAddress

theorem said_append {hosts : List Value} {lookup : Nat} (h : lookup < hosts.length)
    (more : List Value) : r.said (hosts ++ more) lookup = r.said hosts lookup := by
  unfold said
  rw [List.getElem?_append_left h, List.take_append_of_le_length (Nat.le_of_lt h)]

theorem hosts_settle (state : Lookups) (lookup : Nat) (outcome : Except Failure String) :
    hosts (settle state lookup outcome) = hosts state := by
  unfold hosts settle
  refine List.ext_getElem? fun i => ?_
  simp only [List.getElem?_map, List.getElem?_modify]
  cases state.started[i]? with
  | none => simp
  | some l => by_cases hi : lookup = i <;> cases houtcome : l.outcome <;> simp [hi, houtcome]

/-- A lookup is answered with what the server says to it. -/
theorem answer_eq {lookup : Nat} (h : lookup < state.started.length) :
    ∃ outcome, r.said (hosts state) lookup = some outcome
      ∧ r.answer state lookup = settle state lookup outcome := by
  have hhost : (hosts state)[lookup]? = some (state.started.get ⟨lookup, h⟩).host := by
    rw [hosts, List.getElem?_map, List.getElem?_eq_getElem h]
    rfl
  have hearlier (host : Value) : earlier state host lookup
      = (((hosts state).take lookup).filter (· == host)).length := by
    rw [earlier, hosts, ← List.map_take, List.filter_map, List.length_map]
    rfl
  refine ⟨_, by rw [said, hhost]; rfl, ?_⟩
  rw [answer, List.getElem?_eq_getElem h]
  simp only [hearlier]
  rfl

theorem answer_eq_self {lookup : Nat} (h : ¬ lookup < state.started.length) :
    r.answer state lookup = state := by
  rw [answer, List.getElem?_eq_none (Nat.le_of_not_lt h)]

/-! ## What an event does -/

/-- All that an event can do. -/
inductive Happens (r : Resolver) (s : Crowd) : Event → Crowd → Prop where
  | asks {host : Value} {reply : Asked} {lookups : Lookups}
      (asked : Asks r s.lookups host reply lookups) :
      Happens r s (.ask host) ⟨lookups, s.callers ++ [.ofAsked reply]⟩
  | answers {lookup : Nat} {outcome : Except Failure String}
      (started : lookup < s.lookups.started.length)
      (said : r.said (hosts s.lookups) lookup = some outcome) :
      Happens r s (.answer lookup) ⟨settle s.lookups lookup outcome, s.callers⟩
  | answersNone {lookup : Nat} (unstarted : ¬ lookup < s.lookups.started.length) :
      Happens r s (.answer lookup) s
  | callsOff {caller : Nat} {waiter : Waiter} {calledOff : Bool}
      (waits : s.callers[caller]? = some (.waits waiter calledOff)) :
      Happens r s (.callOff caller)
        ⟨settle s.lookups waiter.lookup (.error .cancelled),
          s.callers.set caller (.waits waiter true)⟩
  | callsOffNone {caller : Nat}
      (stands : ∀ waiter calledOff, s.callers[caller]? ≠ some (.waits waiter calledOff)) :
      Happens r s (.callOff caller) s
  | resumes {caller : Nat} {waiter : Waiter} {calledOff : Bool}
      {given outcome : Except Failure String}
      (waits : s.callers[caller]? = some (.waits waiter calledOff))
      (settled : s.lookups.outcomeOf waiter.lookup = some given)
      (goesOn : outcome = if calledOff then .error .cancelled else given) :
      Happens r s (.resume caller)
        ⟨finish s.lookups waiter outcome, s.callers.set caller (.ended (outcome.map Value.text))⟩
  | resumesNone {caller : Nat} (stands : ∀ waiter calledOff,
      s.callers[caller]? = some (.waits waiter calledOff) →
        s.lookups.outcomeOf waiter.lookup = none) :
      Happens r s (.resume caller) s

theorem happens (r : Resolver) (s : Crowd) (event : Event) : Happens r s event (s.step r event) := by
  cases event with
  | ask host => exact .asks (asks r s.lookups host)
  | answer lookup =>
      by_cases h : lookup < s.lookups.started.length
      · obtain ⟨outcome, hsaid, hanswer⟩ := answer_eq (r := r) h
        simp only [Crowd.step, hanswer]
        exact .answers h hsaid
      · simp only [Crowd.step, answer_eq_self h]
        exact .answersNone h
  | callOff caller =>
      simp only [Crowd.step]
      split
      · rename_i waiter calledOff hwaits
        exact .callsOff hwaits
      · rename_i hstands
        exact .callsOffNone hstands
  | resume caller =>
      simp only [Crowd.step]
      split
      · rename_i waiter calledOff hwaits
        split
        · rename_i outcome lookups hresume
          obtain ⟨given, hgiven, houtcome, rfl⟩ := resume_eq_some hresume
          exact .resumes hwaits hgiven houtcome
        · rename_i hresume
          rw [resume_eq_map, Option.map_eq_none_iff] at hresume
          refine .resumesNone fun other calledOff' hother => ?_
          cases hwaits.symm.trans hother
          exact hresume
      · rename_i hstands
        exact .resumesNone fun waiter calledOff hwaits => absurd hwaits (hstands waiter calledOff)

/-- More is looked up, and nothing is forgotten. -/
theorem Happens.hosts {event : Event} {t : Crowd} (h : Happens r s event t) :
    ∃ more, hosts t.lookups = Resolver.hosts s.lookups ++ more := by
  have hsame : ∃ more, Resolver.hosts s.lookups = Resolver.hosts s.lookups ++ more :=
    ⟨[], (List.append_nil _).symm⟩
  cases h with
  | @asks host reply lookups asked =>
      cases asked with
      | starts looked free uncached => exact ⟨[host], by simp [Resolver.hosts]⟩
      | _ => exact hsame
  | answers started said =>
      rw [hosts_settle]
      exact hsame
  | callsOff waits =>
      rw [hosts_settle]
      exact hsame
  | resumes waits settled goesOn =>
      rw [Resolver.hosts, started_finish]
      exact hsame
  | _ => exact hsame

theorem Happens.started {event : Event} {t : Crowd} (h : Happens r s event t) {lookup : Nat}
    (hlookup : lookup < s.lookups.started.length) : lookup < t.lookups.started.length := by
  obtain ⟨more, hmore⟩ := h.hosts
  have hlength := congrArg List.length hmore
  simp only [Resolver.hosts, List.length_map, List.length_append] at hlength
  omega

/-- Going on makes nobody wait. -/
theorem cached_finish {waiter : Waiter} {outcome : Except Failure String} {entry : Value × Cached}
    (h : entry ∈ (finish state waiter outcome).cache) :
    entry ∈ state.cache ∨ ∃ address, entry.2 = .address address := by
  unfold finish at h
  split at h
  · cases outcome with
    | ok address =>
        obtain hnew | hold := Entries.mem_put h
        · exact .inr ⟨address, hnew⟩
        · exact .inl hold
    | error failure => exact .inl (List.mem_of_mem_filter h)
  · exact .inl h

/-! ## Callers wait for lookups that there are -/

namespace Crowd

/-- The lookups that are remembered or waited for were started. -/
structure Sound (s : Crowd) : Prop where
  cached : ∀ entry ∈ s.lookups.cache, ∀ lookup, entry.2 = .awaited lookup →
    lookup < s.lookups.started.length
  waiting : ∀ waiter calledOff, .waits waiter calledOff ∈ s.callers →
    waiter.lookup < s.lookups.started.length

theorem sound_nil : Sound {} where
  cached := fun entry h => by cases h
  waiting := fun waiter calledOff h => by cases h

theorem sound_step {event : Event} {t : Crowd} (h : s.Sound) (hstep : Happens r s event t) :
    t.Sound := by
  have hcached : ∀ entry ∈ s.lookups.cache, ∀ lookup, entry.2 = .awaited lookup →
      lookup < t.lookups.started.length := fun entry hentry lookup heq =>
    hstep.started (h.cached entry hentry lookup heq)
  have hwaiting : ∀ waiter calledOff, .waits waiter calledOff ∈ s.callers →
      waiter.lookup < t.lookups.started.length := fun waiter calledOff hmem =>
    hstep.started (h.waiting waiter calledOff hmem)
  cases hstep with
  | @asks host reply lookups asked =>
      refine ⟨?_, fun waiter calledOff hmem => ?_⟩
      · cases asked with
        | starts looked free uncached =>
            intro entry hentry lookup heq
            obtain hnew | hold := Entries.mem_put hentry
            · cases hnew.symm.trans heq
              simp
            · exact hcached entry hold lookup heq
        | _ => exact hcached
      · obtain hmem | hmem := List.mem_append.mp hmem
        · exact hwaiting waiter calledOff hmem
        · have hnew := List.mem_singleton.mp hmem
          cases asked with
          | joins looked free cached =>
              cases hnew
              obtain ⟨entry, hentry, -, heq⟩ := Entries.mem_of_get? cached
              exact h.cached entry hentry _ heq
          | starts looked free uncached =>
              cases hnew
              simp
          | _ => cases hnew
  | answers started said => exact ⟨hcached, hwaiting⟩
  | @callsOff caller waiter calledOff waits =>
      refine ⟨hcached, fun other off hmem => ?_⟩
      obtain hmem | heq := List.mem_or_eq_of_mem_set hmem
      · exact hwaiting other off hmem
      · cases heq
        exact hwaiting _ _ (List.mem_of_getElem? waits)
  | @resumes caller waiter calledOff given outcome waits settled goesOn =>
      refine ⟨fun entry hentry lookup heq => ?_, fun other off hmem => ?_⟩
      · obtain hold | ⟨address, hfound⟩ := cached_finish hentry
        · exact hcached entry hold lookup heq
        · cases hfound.symm.trans heq
      · obtain hmem | heq := List.mem_or_eq_of_mem_set hmem
        · exact hwaiting other off hmem
        · cases heq
  | _ => exact h

theorem sound_run (r : Resolver) (events : List Event) : (run r events).Sound := by
  induction events using List.reverseRecOn with
  | nil => exact sound_nil
  | append_singleton events event ih =>
      rw [run_snoc]
      exact sound_step ih (happens r _ event)

end Crowd

open Crowd

/-! ## All at once -/

theorem foldl_asks (r : Resolver) : ∀ (hosts : List Value) (asked : List Asked) (log : Log)
    {s : Crowd}, s.callers = asked.reverse.map Stage.ofAsked →
    (hosts.map Event.ask).foldl (step r) s
      = ⟨(hosts.foldl r.askOne (asked, s.lookups, log)).2.1,
        (hosts.foldl r.askOne (asked, s.lookups, log)).1.reverse.map Stage.ofAsked⟩
  | [], asked, log, s, h => congrArg (Crowd.mk s.lookups) h
  | host :: hosts, asked, log, s, h => by
      have hcallers : (s.step r (.ask host)).callers
          = ((r.ask s.lookups host).1 :: asked).reverse.map Stage.ofAsked := by
        simp [step, h]
      exact foldl_asks r hosts ((r.ask s.lookups host).1 :: asked)
        (log ++ askLog host (r.ask s.lookups host).1) hcallers

theorem run_asks (r : Resolver) (hosts : List Value) :
    run r (hosts.map .ask)
      = ⟨(r.askAll {} hosts).2.1, (r.askAll {} hosts).1.map Stage.ofAsked⟩ :=
  foldl_asks r hosts [] [] rfl

theorem foldl_answers (r : Resolver) : ∀ (lookups : List Nat) (s : Crowd),
    (lookups.map Event.answer).foldl (step r) s = ⟨lookups.foldl r.answer s.lookups, s.callers⟩
  | [], _ => rfl
  | lookup :: lookups, s => foldl_answers r lookups (s.step r (.answer lookup))

/-- The callers before have ended, and this one goes on. -/
theorem step_resumeOne {outcomes : List (Except Failure Value)} {reply : Asked}
    (h : ∀ waiter, reply = .waits waiter → state.outcomeOf waiter.lookup ≠ none)
    (asked : List Asked) :
    step r ⟨state, outcomes.reverse.map Stage.ended ++ (reply :: asked).map Stage.ofAsked⟩
        (.resume outcomes.length)
      = ⟨(resumeOne false (outcomes, state) reply).2,
        (resumeOne false (outcomes, state) reply).1.reverse.map Stage.ended
          ++ asked.map Stage.ofAsked⟩ := by
  have hat : (outcomes.reverse.map Stage.ended ++ (reply :: asked).map Stage.ofAsked)[
      outcomes.length]? = some (.ofAsked reply) := by
    rw [List.getElem?_append_right (by simp)]
    simp
  simp only [step]
  rw [hat]
  cases reply with
  | settled outcome => simp [Stage.ofAsked, resumeOne]
  | waits waiter =>
      obtain ⟨given, hgiven⟩ := Option.ne_none_iff_exists'.mp (h waiter rfl)
      have hresume : resume state waiter false = some (given, finish state waiter given) := by
        rw [resume_eq_map, hgiven]
        rfl
      simp only [Stage.ofAsked, resumeOne, hresume]
      rw [List.set_append_right _ _ (by simp)]
      simp

/-- The callers go on in order, those before them having ended. -/
theorem foldl_resumes (r : Resolver) : ∀ (asked : List Asked)
    (outcomes : List (Except Failure Value)) {state : Lookups},
    (∀ waiter, .waits waiter ∈ asked → state.outcomeOf waiter.lookup ≠ none) →
    ((List.range' outcomes.length asked.length).map Event.resume).foldl (step r)
        ⟨state, outcomes.reverse.map Stage.ended ++ asked.map Stage.ofAsked⟩
      = ⟨(asked.foldl (resumeOne false) (outcomes, state)).2,
        (asked.foldl (resumeOne false) (outcomes, state)).1.reverse.map Stage.ended⟩
  | [], outcomes, state, _ => by simp
  | reply :: asked, outcomes, state, h => by
      have hlength : outcomes.length + 1 = (resumeOne false (outcomes, state) reply).1.length := by
        rw [fst_resumeOne, List.length_cons]
      rw [List.length_cons, List.range'_succ, List.map_cons (f := Event.resume), List.foldl_cons,
        List.foldl_cons, step_resumeOne, hlength]
      · refine foldl_resumes r asked _ fun waiter hmem => ?_
        rw [outcomeOf_resumeOne]
        exact h waiter (List.mem_cons_of_mem _ hmem)
      · rintro waiter rfl
        exact h waiter (List.mem_cons_self ..)

/-- Callers that all ask, wait for all answers and go on are one of many runs. -/
theorem run_resolveAll (r : Resolver) (hosts : List Value) :
    ∃ lookups, run r (hosts.map .ask ++ (List.range lookups).map .answer
        ++ (List.range hosts.length).map .resume)
      = ⟨(r.resolveAll {} hosts true).2.1, (r.resolveAll {} hosts true).1.map .ended⟩ := by
  obtain ⟨replies, final, log, hask, htold, -⟩ := told_askAll r hosts
  have hsettled : ∀ waiter, .waits waiter ∈ replies →
      (r.answerAll final).outcomeOf waiter.lookup ≠ none := by
    intro waiter hwaiter
    obtain ⟨i, hi, hat⟩ := List.mem_iff_getElem.mp hwaiter
    have hwaits := (List.forall₂_iff_get.mp htold).2 i (htold.length_eq ▸ hi) hi
    rw [List.get_eq_getElem, List.get_eq_getElem, hat] at hwaits
    cases hwaits with
    | waits looked free lt =>
        have hsome := settled_answers (r := r) _ lt (.inl (List.mem_range.mpr lt))
        exact Option.isSome_iff_ne_none.mp hsome
  have hresolve : r.resolveAll {} hosts true
      = ((resumeAll (r.answerAll final) replies false).1,
        (resumeAll (r.answerAll final) replies false).2, log) := by
    simp only [resolveAll, hask, if_true]
  refine ⟨final.started.length, ?_⟩
  rw [run_append, run_append, run_asks, hask, foldl_answers, hresolve, htold.length_eq,
    List.range_eq_range' (n := replies.length)]
  exact foldl_resumes r replies [] hsettled

/-! ## Neighbours that are called off -/

/-- The event calls off a caller of the lookup, which has no outcome yet. -/
def Disturbs (s : Crowd) (event : Event) (lookup : Nat) : Prop :=
  ∃ caller waiter calledOff, event = .callOff caller
    ∧ s.callers[caller]? = some (.waits waiter calledOff)
    ∧ waiter.lookup = lookup ∧ s.lookups.outcomeOf lookup = none

/-- At some point a caller of the lookup was called off, before it had an outcome. -/
def Disturbed (r : Resolver) (events : List Event) (lookup : Nat) : Prop :=
  ∃ before event after, events = before ++ event :: after
    ∧ Disturbs (run r before) event lookup

theorem not_disturbed_nil (lookup : Nat) : ¬ Disturbed r [] lookup := by
  rintro ⟨before, event, after, heq, -⟩
  cases before <;> cases heq

theorem disturbed_snoc {events : List Event} {event : Event} {lookup : Nat} :
    Disturbed r (events ++ [event]) lookup
      ↔ Disturbed r events lookup ∨ Disturbs (run r events) event lookup := by
  constructor
  · rintro ⟨before, found, after, heq, hdisturbs⟩
    obtain rfl | ⟨after, last, rfl⟩ := List.eq_nil_or_concat after
    · obtain ⟨rfl, hlast⟩ := List.append_inj' heq rfl
      cases hlast
      exact .inr hdisturbs
    · rw [List.concat_eq_append, ← List.cons_append, ← List.append_assoc] at heq
      obtain ⟨rfl, -⟩ := List.append_inj' heq rfl
      exact .inl ⟨before, found, after, rfl, hdisturbs⟩
  · rintro (⟨before, found, after, rfl, hdisturbs⟩ | hdisturbs)
    · exact ⟨before, found, after ++ [event], by simp, hdisturbs⟩
    · exact ⟨events, event, [], rfl, hdisturbs⟩

/-- What a lookup may have come to. -/
inductive Fate (r : Resolver) (hosts : List Value) (lookup : Nat) (disturbed : Prop) :
    Option (Except Failure String) → Prop where
  | pending (calm : ¬ disturbed) : Fate r hosts lookup disturbed none
  | answered {outcome : Except Failure String} (calm : ¬ disturbed)
      (said : r.said hosts lookup = some outcome) : Fate r hosts lookup disturbed (some outcome)
  | calledOff (noisy : disturbed) : Fate r hosts lookup disturbed (some (.error .cancelled))

/-- An event leaves a lookup alone, answers it, or disturbs it. -/
theorem outcomeOf_step {event : Event} {t : Crowd} (h : s.Sound) (hstep : Happens r s event t)
    (lookup : Nat) :
    (t.lookups.outcomeOf lookup = s.lookups.outcomeOf lookup ∧ ¬ Disturbs s event lookup)
      ∨ (∃ outcome, s.lookups.outcomeOf lookup = none ∧ ¬ Disturbs s event lookup
        ∧ r.said (hosts s.lookups) lookup = some outcome
        ∧ t.lookups.outcomeOf lookup = some outcome)
      ∨ (Disturbs s event lookup ∧ t.lookups.outcomeOf lookup = some (.error .cancelled)) := by
  have hcalm (hevent : ∀ caller, event ≠ .callOff caller) : ¬ Disturbs s event lookup := by
    rintro ⟨caller, waiter, calledOff, heq, -⟩
    exact hevent caller heq
  cases hstep with
  | asks asked => exact .inl ⟨asked.outcomeOf lookup, hcalm (by simp)⟩
  | @answers j outcome started said =>
      obtain hkept | ⟨rfl, hnone, hsettled⟩ := settle_cases s.lookups j lookup outcome
      · exact .inl ⟨hkept, hcalm (by simp)⟩
      · exact .inr (.inl ⟨outcome, hnone, hcalm (by simp), said, hsettled⟩)
  | @callsOff caller waiter calledOff waits =>
      by_cases hdisturbs : Disturbs s (.callOff caller) lookup
      · obtain ⟨_, other, _, heq, hother, rfl, hnone⟩ := id hdisturbs
        cases heq
        cases waits.symm.trans hother
        have hlookup := h.waiting _ _ (List.mem_of_getElem? waits)
        exact .inr (.inr ⟨hdisturbs, outcomeOf_settle_self hlookup hnone _⟩)
      · obtain hkept | ⟨heq, hnone, -⟩ :=
          settle_cases s.lookups waiter.lookup lookup (.error .cancelled)
        · exact .inl ⟨hkept, hdisturbs⟩
        · exact absurd ⟨caller, waiter, calledOff, rfl, waits, heq, hnone⟩ hdisturbs
  | callsOffNone stands =>
      refine .inl ⟨rfl, ?_⟩
      rintro ⟨_, waiter, calledOff, heq, hwaits, -⟩
      cases heq
      exact stands waiter calledOff hwaits
  | resumes waits settled goesOn =>
      refine .inl ⟨?_, hcalm (by simp)⟩
      rw [Lookups.outcomeOf, started_finish]
      rfl
  | _ => exact .inl ⟨rfl, hcalm (by simp)⟩

theorem lt_of_said {hosts : List Value} {lookup : Nat} {outcome : Except Failure String}
    (h : r.said hosts lookup = some outcome) : lookup < hosts.length := by
  obtain ⟨host, hhost, -⟩ := Option.map_eq_some_iff.mp h
  exact (List.getElem?_eq_some_iff.mp hhost).1

/-- A lookup that was not disturbed comes to what the server says, and any other
to nothing but its being called off. -/
theorem fate_run (r : Resolver) (events : List Event) (lookup : Nat) :
    Fate r (hosts (run r events).lookups) lookup (Disturbed r events lookup)
      ((run r events).lookups.outcomeOf lookup) := by
  induction events using List.reverseRecOn with
  | nil => exact .pending (not_disturbed_nil lookup)
  | append_singleton events event ih =>
      have hstep := happens r (run r events) event
      obtain ⟨more, hmore⟩ := hstep.hosts
      rw [run_snoc, disturbed_snoc, hmore]
      have hstays {outcome : Except Failure String}
          (h : r.said (hosts (run r events).lookups) lookup = some outcome) :
          r.said (hosts (run r events).lookups ++ more) lookup = some outcome :=
        (said_append (lt_of_said h) more).trans h
      obtain ⟨hkept, hcalm⟩ | ⟨outcome, hnone, hcalm, hsaid, hsettled⟩ | ⟨hdisturbs, hsettled⟩ :=
        outcomeOf_step (sound_run r events) hstep lookup
      · rw [hkept, or_iff_left hcalm]
        generalize (run r events).lookups.outcomeOf lookup = outcome at ih ⊢
        cases ih with
        | pending calm => exact .pending calm
        | answered calm said => exact .answered calm (hstays said)
        | calledOff noisy => exact .calledOff noisy
      · rw [hsettled, or_iff_left hcalm]
        rw [hnone] at ih
        cases ih with
        | pending calm => exact .answered calm (hstays hsaid)
      · rw [hsettled]
        exact .calledOff (.inr hdisturbs)

/-- A caller that was not called off goes on once its lookup has an outcome:
with what the server said, or, if the lookup was disturbed, as if it had been
called off itself. -/
theorem resume_of_waits {events : List Event} {caller : Nat} {waiter : Waiter}
    (hwaits : (run r events).callers[caller]? = some (.waits waiter false))
    (hsettled : (run r events).lookups.outcomeOf waiter.lookup ≠ none) :
    ∃ outcome, (run r (events ++ [.resume caller])).callers[caller]?
        = some (.ended (outcome.map Value.text))
      ∧ (Disturbed r events waiter.lookup ∧ outcome = .error .cancelled
        ∨ ¬ Disturbed r events waiter.lookup
          ∧ r.said (hosts (run r events).lookups) waiter.lookup = some outcome) := by
  have hfate := fate_run r events waiter.lookup
  have hstep := happens r (run r events) (.resume caller)
  rw [run_snoc]
  generalize (run r events).step r (.resume caller) = t at hstep ⊢
  cases hstep with
  | resumesNone stands => exact absurd (stands _ _ hwaits) hsettled
  | @resumes _ other calledOff given outcome waits settled goesOn =>
      cases hwaits.symm.trans waits
      have hin := (List.getElem?_eq_some_iff.mp hwaits).1
      obtain rfl : outcome = given := goesOn
      refine ⟨outcome, List.getElem?_set_self hin, ?_⟩
      rw [settled] at hfate
      cases hfate with
      | answered calm said => exact .inr ⟨calm, said⟩
      | calledOff noisy => exact .inl ⟨noisy, rfl⟩

theorem said_ne_cancelled (hanswers : ∀ host n, r.answers host n ≠ .error .cancelled)
    (hosts : List Value) (lookup : Nat) : r.said hosts lookup ≠ some (.error .cancelled) := by
  intro h
  obtain ⟨host, -, hsaid⟩ := Option.map_eq_some_iff.mp h
  generalize ((hosts.take lookup).filter (· == host)).length = n at hsaid
  cases hanswer : r.answers host n with
  | error failure =>
      rw [hanswer] at hsaid
      cases hsaid
      exact hanswers host n hanswer
  | ok addresses =>
      rw [hanswer] at hsaid
      cases addresses <;> cases hsaid

/-- A caller that was not called off ends with what the server said if and only
if its lookup was not disturbed. -/
theorem ends_as_answered_iff (hanswers : ∀ host n, r.answers host n ≠ .error .cancelled)
    {events : List Event} {caller : Nat} {waiter : Waiter}
    (hwaits : (run r events).callers[caller]? = some (.waits waiter false))
    (hsettled : (run r events).lookups.outcomeOf waiter.lookup ≠ none) :
    (∃ outcome, r.said (hosts (run r events).lookups) waiter.lookup = some outcome
        ∧ (run r (events ++ [.resume caller])).callers[caller]?
          = some (.ended (outcome.map Value.text)))
      ↔ ¬ Disturbed r events waiter.lookup := by
  obtain ⟨outcome, hended, ⟨hdisturbed, rfl⟩ | ⟨hcalm, hsaid⟩⟩ := resume_of_waits hwaits hsettled
  · refine iff_of_false ?_ (not_not_intro hdisturbed)
    rintro ⟨outcome, hsaid, hsame⟩
    have hcancelled := Stage.ended.inj (Option.some.inj (hsame.symm.trans hended))
    cases outcome with
    | ok address => cases hcancelled
    | error failure =>
        cases hcancelled
        exact said_ne_cancelled hanswers _ _ hsaid
  · exact iff_of_true ⟨outcome, hsaid, hended⟩ hcalm

/-- A server that knows one address. -/
def knowing : Resolver where
  server := some "192.0.2.1"
  answers := fun _ _ => .ok ["192.0.2.7"]

/-- Two ask for a host, and the first is called off while the lookup is in
flight. The second goes on as called off, whatever the server has to say. -/
theorem cancelled_by_neighbour :
    (∀ host n, knowing.answers host n ≠ .error .cancelled)
      ∧ (run knowing [.ask (.text "example.org"), .ask (.text "example.org"),
          .callOff 0]).callers[1]? = some (.waits ⟨0, .text "example.org", false⟩ false)
      ∧ (run knowing [.ask (.text "example.org"), .ask (.text "example.org"), .callOff 0,
          .answer 0, .resume 1]).callers[1]? = some (.ended (.error .cancelled)) := by
  exact ⟨by simp [knowing], rfl, rfl⟩

end Courier.Resolver
