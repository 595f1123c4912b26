import Courier.Proofs.Callers

/-!
# Where a host stands

Callers ask for hosts, lookups are answered, and callers go on, in whatever
order, and nobody is called off (`Turn`, `after`). What is known of a host
tells where it stands (`Standing`): only its newest lookup may have something
other than a failure to show, and the cache tells which one that is.

The callers enter into it through the owner of an awaited lookup, which is one
caller and still waits (`Kept`). One turn keeps to this, with one lemma for
each of the few things that a turn can do (`kept_turn`), and so do all turns
(`kept_after`).
-/

namespace Courier

/-! ## Lookups of a host -/

namespace Lookups

variable {state before next : Lookups} {host : String} {lookup : Nat}

/-- The lookup is one of the host. -/
def OfHost (state : Lookups) (host : String) (lookup : Nat) : Prop :=
  (Resolver.hosts state)[lookup]? = some (.text host)

/-- The lookup of the host has no outcome yet. -/
def InFlight (state : Lookups) (host : String) (lookup : Nat) : Prop :=
  state.OfHost host lookup ∧ state.outcomeOf lookup = none

/-- The lookup of the host has found an address. -/
def Found (state : Lookups) (host : String) (lookup : Nat) (address : String) : Prop :=
  state.OfHost host lookup ∧ state.outcomeOf lookup = some (.ok address)

/-- The lookup of the host has failed. -/
def Failed (state : Lookups) (host : String) (lookup : Nat) : Prop :=
  state.OfHost host lookup ∧ ∃ failure, state.outcomeOf lookup = some (.error failure)

/-- The lookup is the last one of the host, and all before it have failed. -/
def Newest (state : Lookups) (host : String) (lookup : Nat) : Prop :=
  state.OfHost host lookup ∧ ∀ other, state.OfHost host other →
    other = lookup ∨ other < lookup ∧ state.Failed host other

/-- Lookups get outcomes, and keep them. -/
def Settles (before next : Lookups) : Prop :=
  ∀ lookup outcome, before.outcomeOf lookup = some outcome → next.outcomeOf lookup = some outcome

theorem OfHost.lt (h : state.OfHost host lookup) : lookup < state.started.length := by
  have hlt := (List.getElem?_eq_some_iff.mp h).1
  rwa [Resolver.hosts, List.length_map] at hlt

theorem InFlight.not_failed (h : state.InFlight host lookup) : ¬ state.Failed host lookup := by
  rintro ⟨-, failure, hfailed⟩
  cases h.2.symm.trans hfailed

theorem Found.not_failed {address : String} (h : state.Found host lookup address) :
    ¬ state.Failed host lookup := by
  rintro ⟨-, failure, hfailed⟩
  cases h.2.symm.trans hfailed

/-- A lookup that has not failed is the newest one. -/
theorem Newest.eq_of_not_failed {other : Nat} (h : state.Newest host lookup)
    (hother : state.OfHost host other) (hlive : ¬ state.Failed host other) : other = lookup :=
  (h.2 other hother).resolve_right fun hfailed => hlive hfailed.2

theorem Newest.mono (hof : ∀ lookup, next.OfHost host lookup ↔ before.OfHost host lookup)
    (hsettles : before.Settles next) (h : before.Newest host lookup) :
    next.Newest host lookup := by
  refine ⟨(hof lookup).mpr h.1, fun other hother => ?_⟩
  rcases h.2 other ((hof other).mp hother) with rfl | ⟨hlt, -, failure, hfailed⟩
  · exact .inl rfl
  · exact .inr ⟨hlt, hother, failure, hsettles _ _ hfailed⟩

theorem settles_of_eq (h : ∀ lookup, next.outcomeOf lookup = before.outcomeOf lookup) :
    before.Settles next := fun lookup _ houtcome => (h lookup).trans houtcome

end Lookups

namespace Resolver

open Crowd

variable {r : Resolver} {s t : Crowd} {state before next : Lookups} {host : String}
  {lookup caller : Nat}

/-! ## Where a host stands -/

/-- Where a host stands, given what is known of it. -/
inductive Standing (state : Lookups) (host : String) : Option Cached → Prop where
  | unknown (failed : ∀ lookup, state.OfHost host lookup → state.Failed host lookup) :
      Standing state host none
  | awaited {lookup : Nat} (newest : state.Newest host lookup) :
      Standing state host (some (.awaited lookup))
  | known {lookup : Nat} {address : String} (newest : state.Newest host lookup)
      (found : state.outcomeOf lookup = some (.ok address)) :
      Standing state host (some (.address address))

/-- A host stands where it stood, as long as no lookup of it is started. -/
theorem Standing.mono (hof : ∀ lookup, next.OfHost host lookup ↔ before.OfHost host lookup)
    (hsettles : before.Settles next) {known : Option Cached} (h : Standing before host known) :
    Standing next host known := by
  cases h with
  | unknown failed =>
      refine .unknown fun lookup hlookup => ?_
      obtain ⟨-, failure, hfailed⟩ := failed lookup ((hof lookup).mp hlookup)
      exact ⟨hlookup, failure, hsettles _ _ hfailed⟩
  | awaited newest => exact .awaited (newest.mono hof hsettles)
  | known newest found => exact .known (newest.mono hof hsettles) (hsettles _ _ found)

theorem settles_settle (state : Lookups) (lookup : Nat) (outcome : Except Failure String) :
    state.Settles (settle state lookup outcome) := by
  intro other given hgiven
  rcases settle_cases state lookup other outcome with hkept | ⟨rfl, hnone, -⟩
  · exact hkept.trans hgiven
  · cases hnone.symm.trans hgiven

theorem Standing.settle {known : Option Cached} (h : Standing state host known) (lookup : Nat)
    (outcome : Except Failure String) : Standing (settle state lookup outcome) host known := by
  refine h.mono (fun other => ?_) (settles_settle state lookup outcome)
  rw [Lookups.OfHost, hosts_settle]
  rfl

/-- The lookups with one more, of a host that nothing was known of. -/
def start (state : Lookups) (name : String) : Lookups where
  cache := state.cache.put (.text name) (.awaited state.started.length)
  started := state.started ++ [{ host := .text name }]

theorem hosts_start (state : Lookups) (name : String) :
    hosts (start state name) = hosts state ++ [.text name] := by
  simp [hosts, start]

theorem ofHost_start {name : String} :
    (start state name).OfHost host lookup
      ↔ state.OfHost host lookup ∨ lookup = state.started.length ∧ host = name := by
  have hlength : (hosts state).length = state.started.length := List.length_map ..
  rw [Lookups.OfHost, hosts_start]
  rcases Nat.lt_trichotomy lookup state.started.length with hlt | rfl | hgt
  · rw [List.getElem?_append_left (hlength ▸ hlt)]
    exact ⟨.inl, fun h => h.resolve_right fun hnew => Nat.ne_of_lt hlt hnew.1⟩
  · rw [← hlength, List.getElem?_concat_length, hlength]
    refine ⟨fun h => ?_, fun h => ?_⟩
    · cases h
      exact .inr ⟨rfl, rfl⟩
    · rcases h with hold | ⟨-, rfl⟩
      · exact absurd hold.lt (Nat.lt_irrefl _)
      · rfl
  · refine iff_of_false (fun h => ?_) ?_
    · have hlt := (List.getElem?_eq_some_iff.mp h).1
      rw [List.length_append, hlength, List.length_singleton] at hlt
      omega
    · rintro (hold | ⟨rfl, -⟩)
      · exact absurd hold.lt (Nat.not_lt.mpr (Nat.le_of_lt hgt))
      · exact absurd hgt (Nat.lt_irrefl _)

/-- The host whose lookup is started waits for that one, and all others stand where they stood. -/
theorem Standing.start {name : String}
    (houtcomes : ∀ lookup, (start state name).outcomeOf lookup = state.outcomeOf lookup)
    (h : Standing state host (state.cache.get? (.text host)))
    (huncached : state.cache.get? (.text name) = none) :
    Standing (start state name) host ((start state name).cache.get? (.text host)) := by
  have hsettles := Lookups.settles_of_eq houtcomes
  rw [show (Resolver.start state name).cache.get? (.text host) = _ from
    Entries.get?_put_text state.cache name host _]
  split
  · rename_i heq
    subst heq
    rw [huncached] at h
    cases h with
    | unknown failed =>
        refine .awaited ⟨ofHost_start.mpr (.inr ⟨rfl, rfl⟩), fun other hother => ?_⟩
        rcases ofHost_start.mp hother with hold | ⟨rfl, -⟩
        · obtain ⟨-, failure, hfailed⟩ := failed other hold
          exact .inr ⟨hold.lt, hother, failure, hsettles _ _ hfailed⟩
        · exact .inl rfl
  · rename_i hne
    refine h.mono (fun lookup => ?_) hsettles
    rw [ofHost_start, or_iff_left fun hnew => hne hnew.2.symm]

/-- What is known of a host once the owner of its lookup has gone on. -/
def knownAfter : Except Failure String → Option Cached
  | .ok address => some (.address address)
  | .error _ => none

theorem get?_finish (state : Lookups) (lookup : Nat) (name : String)
    (outcome : Except Failure String) (host : String) :
    (finish state ⟨lookup, .text name, true⟩ outcome).cache.get? (.text host)
      = if name = host then knownAfter outcome else state.cache.get? (.text host) := by
  cases outcome with
  | ok address => exact Entries.get?_put_text state.cache name host (.address address)
  | error failure => exact Entries.get?_erase_text state.cache name host

theorem Standing.finish {outcome : Except Failure String}
    (h : Standing state host (some (.awaited lookup)))
    (houtcome : state.outcomeOf lookup = some outcome) : Standing state host (knownAfter outcome) := by
  cases h with
  | awaited newest =>
      cases outcome with
      | ok address => exact .known newest houtcome
      | error failure =>
          refine .unknown fun other hother => ?_
          rcases newest.2 other hother with rfl | ⟨-, hfailed⟩
          · exact ⟨hother, failure, houtcome⟩
          · exact hfailed

theorem Standing.started (hstarted : next.started = before.started) {known : Option Cached}
    (h : Standing before host known) : Standing next host known := by
  refine h.mono (fun lookup => ?_) (Lookups.settles_of_eq fun lookup => ?_)
  · simp only [Lookups.OfHost, hosts, hstarted]
  · simp only [Lookups.outcomeOf, hstarted]

/-! ## What turns keep to -/

/-- The hosts stand as the cache has it, and every lookup that is awaited has
one owner, who waits for it. -/
structure Kept (r : Resolver) (s : Crowd) : Prop where
  standing : ∀ host, Standing s.lookups host (s.lookups.cache.get? (.text host))
  keys : ∀ entry ∈ s.lookups.cache, ∃ host, entry.1 = .text host ∧ r.isDirect (.text host) = false
  looked : ∀ host lookup, s.lookups.OfHost host lookup → r.isDirect (.text host) = false
  calm : ∀ (caller : Nat) (waiter : Waiter) (calledOff : Bool),
    s.callers[caller]? = some (.waits waiter calledOff) → calledOff = false
  owned : ∀ (host : String) (lookup : Nat),
    s.lookups.cache.get? (.text host) = some (.awaited lookup) →
    ∃ caller : Nat, s.callers[caller]? = some (.waits ⟨lookup, .text host, true⟩ false)
  owner : ∀ (caller lookup : Nat) (host : Value) (calledOff : Bool),
    s.callers[caller]? = some (.waits ⟨lookup, host, true⟩ calledOff) →
    ∃ name, host = .text name ∧ s.lookups.cache.get? (.text name) = some (.awaited lookup)
  single : ∀ (caller other lookup : Nat) (host host' : Value) (calledOff calledOff' : Bool),
    s.callers[caller]? = some (.waits ⟨lookup, host, true⟩ calledOff) →
    s.callers[other]? = some (.waits ⟨lookup, host', true⟩ calledOff') → caller = other

theorem kept_nil : Kept r {} where
  standing := fun host => .unknown fun lookup h => by cases h
  keys := fun entry h => by cases h
  looked := fun host lookup h => by cases h
  calm := fun caller waiter calledOff h => by cases h
  owned := fun host lookup h => by cases h
  owner := fun caller lookup host calledOff h => by cases h
  single := fun caller other lookup host host' calledOff calledOff' h => by cases h

theorem getElem?_concat_cases {α : Type} {items : List α} {item found : α} {i : Nat}
    (h : (items ++ [item])[i]? = some found) :
    items[i]? = some found ∨ i = items.length ∧ found = item := by
  rcases Nat.lt_trichotomy i items.length with hlt | rfl | hgt
  · rw [List.getElem?_append_left hlt] at h
    exact .inl h
  · rw [List.getElem?_concat_length] at h
    exact .inr ⟨rfl, (Option.some.inj h).symm⟩
  · have hlt := (List.getElem?_eq_some_iff.mp h).1
    rw [List.length_append, List.length_singleton] at hlt
    omega

theorem getElem?_concat_of_some {α : Type} {items : List α} {found : α} {i : Nat}
    (h : items[i]? = some found) (item : α) : (items ++ [item])[i]? = some found := by
  rw [List.getElem?_append_left (List.getElem?_eq_some_iff.mp h).1]
  exact h

/-- One more caller that owns no lookup. -/
theorem Kept.enter (h : Kept r s) {stage : Stage}
    (hstage : ∀ waiter calledOff, stage = .waits waiter calledOff →
      calledOff = false ∧ waiter.owner = false) : Kept r ⟨s.lookups, s.callers ++ [stage]⟩ := by
  have hbefore : ∀ {caller lookup : Nat} {host : Value} {calledOff : Bool},
      (s.callers ++ [stage])[caller]? = some (.waits ⟨lookup, host, true⟩ calledOff) →
      s.callers[caller]? = some (.waits ⟨lookup, host, true⟩ calledOff) := by
    intro caller lookup host calledOff hwaits
    refine (getElem?_concat_cases hwaits).resolve_right fun hnew => ?_
    cases (hstage _ _ hnew.2.symm).2
  refine ⟨h.standing, h.keys, h.looked, fun caller waiter calledOff hwaits => ?_,
    fun host lookup hawaited => ?_, fun caller lookup host calledOff hwaits => ?_, ?_⟩
  · rcases getElem?_concat_cases hwaits with hold | ⟨-, hnew⟩
    · exact h.calm _ _ _ hold
    · exact (hstage _ _ hnew.symm).1
  · obtain ⟨caller, howner⟩ := h.owned host lookup hawaited
    exact ⟨caller, getElem?_concat_of_some howner stage⟩
  · exact h.owner _ _ _ _ (hbefore hwaits)
  · intro caller other lookup host host' calledOff calledOff' hwaits hother
    exact h.single _ _ _ _ _ _ _ (hbefore hwaits) (hbefore hother)

/-- One more caller, who starts a lookup of a host that nothing is known of. -/
theorem Kept.start (h : Kept r s) {name : String} (hlooked : r.isDirect (.text name) = false)
    (houtcomes : ∀ lookup, (start s.lookups name).outcomeOf lookup = s.lookups.outcomeOf lookup)
    (huncached : s.lookups.cache.get? (.text name) = none) :
    Kept r ⟨Resolver.start s.lookups name,
      s.callers ++ [.waits ⟨s.lookups.started.length, .text name, true⟩ false]⟩ := by
  have hget (host : String) := Entries.get?_put_text s.lookups.cache name host
    (.awaited s.lookups.started.length)
  -- Nobody owns the new lookup yet: who owns one owns one that there is.
  have hfresh : ∀ {caller : Nat} {host : Value} {calledOff : Bool},
      s.callers[caller]? ≠ some (.waits ⟨s.lookups.started.length, host, true⟩ calledOff) := by
    intro caller host calledOff hwaits
    obtain ⟨other, -, hawaited⟩ := h.owner _ _ _ _ hwaits
    have hstanding := h.standing other
    rw [hawaited] at hstanding
    cases hstanding with
    | awaited newest => exact Nat.lt_irrefl _ newest.1.lt
  refine ⟨fun host => (h.standing host).start houtcomes huncached, fun entry hentry => ?_,
    fun host lookup hof => ?_, fun caller waiter calledOff hwaits => ?_,
    fun host lookup hawaited => ?_, fun caller lookup host calledOff hwaits => ?_, ?_⟩
  · rcases Entries.key_of_mem_put hentry with hnew | ⟨before, hbefore, heq⟩
    · exact ⟨name, hnew, hlooked⟩
    · exact heq ▸ h.keys before hbefore
  · rcases ofHost_start.mp hof with hold | ⟨-, rfl⟩
    · exact h.looked host lookup hold
    · exact hlooked
  · rcases getElem?_concat_cases hwaits with hold | ⟨-, hnew⟩
    · exact h.calm _ _ _ hold
    · cases hnew
      rfl
  · have hcases := (hget host).symm.trans hawaited
    split at hcases
    · rename_i heq
      cases hcases
      subst heq
      exact ⟨s.callers.length, List.getElem?_concat_length ..⟩
    · obtain ⟨caller, howner⟩ := h.owned host lookup hcases
      exact ⟨caller, getElem?_concat_of_some howner _⟩
  · rcases getElem?_concat_cases hwaits with hold | ⟨-, hnew⟩
    · obtain ⟨other, hother, hawaited⟩ := h.owner _ _ _ _ hold
      refine ⟨other, hother, (hget other).trans ?_⟩
      rw [if_neg, hawaited]
      rintro rfl
      cases huncached.symm.trans hawaited
    · cases hnew
      exact ⟨name, rfl, (hget name).trans (if_pos rfl)⟩
  · intro caller other lookup host host' calledOff calledOff' hwaits hother
    rcases getElem?_concat_cases hwaits with hold | ⟨rfl, hnew⟩ <;>
      rcases getElem?_concat_cases hother with hold' | ⟨rfl, hnew'⟩
    · exact h.single _ _ _ _ _ _ _ hold hold'
    · cases hnew'
      exact absurd hold hfresh
    · cases hnew
      exact absurd hold' hfresh
    · rfl

/-- A lookup that gets an outcome changes nothing for those who wait. -/
theorem Kept.settle (h : Kept r s) (lookup : Nat) (outcome : Except Failure String) :
    Kept r ⟨settle s.lookups lookup outcome, s.callers⟩ := by
  refine ⟨fun host => (h.standing host).settle lookup outcome, h.keys,
    fun host other hof => h.looked host other ?_, h.calm, h.owned, h.owner, h.single⟩
  rwa [Lookups.OfHost, hosts_settle] at hof

/-- A caller that has ended is no longer found among those who wait. -/
theorem getElem?_set_ended {callers : List Stage} {caller other : Nat} {outcome : Except Failure Value}
    {waiter : Waiter} {calledOff : Bool}
    (h : (callers.set caller (.ended outcome))[other]? = some (.waits waiter calledOff)) :
    caller ≠ other ∧ callers[other]? = some (.waits waiter calledOff) := by
  by_cases heq : caller = other
  · subst heq
    have hlt := (List.getElem?_eq_some_iff.mp h).1
    rw [List.length_set] at hlt
    rw [List.getElem?_set_self hlt] at h
    cases h
  · rw [List.getElem?_set_ne heq] at h
    exact ⟨heq, h⟩

/-- A caller that joined a lookup goes on: the cache is not its own to change. -/
theorem Kept.leave (h : Kept r s) {waiter : Waiter} {calledOff : Bool}
    (hwaits : s.callers[caller]? = some (.waits waiter calledOff)) (hjoined : waiter.owner = false)
    (outcome : Except Failure Value) :
    Kept r ⟨s.lookups, s.callers.set caller (.ended outcome)⟩ := by
  refine ⟨h.standing, h.keys, h.looked,
    fun other _ _ hother => h.calm other _ _ (getElem?_set_ended hother).2,
    fun host lookup hawaited => ?_,
    fun other _ _ _ hother => h.owner other _ _ _ (getElem?_set_ended hother).2, ?_⟩
  · obtain ⟨other, howner⟩ := h.owned host lookup hawaited
    refine ⟨other, ?_⟩
    rw [List.getElem?_set_ne, howner]
    rintro rfl
    cases hwaits.symm.trans howner
    cases hjoined
  · intro one other lookup host host' calledOff calledOff' hone hother
    exact h.single _ _ _ _ _ _ _ (getElem?_set_ended hone).2 (getElem?_set_ended hother).2

/-- The owner of a lookup goes on, and settles what is known of the host. -/
theorem Kept.finish (h : Kept r s) {host : Value} {calledOff : Bool}
    {outcome : Except Failure String} (ended : Except Failure Value)
    (hwaits : s.callers[caller]? = some (.waits ⟨lookup, host, true⟩ calledOff))
    (houtcome : s.lookups.outcomeOf lookup = some outcome) :
    Kept r ⟨finish s.lookups ⟨lookup, host, true⟩ outcome, s.callers.set caller (.ended ended)⟩ := by
  obtain ⟨name, rfl, hawaited⟩ := h.owner _ _ _ _ hwaits
  have hget := get?_finish s.lookups lookup name outcome
  have hstarted := started_finish s.lookups ⟨lookup, .text name, true⟩ outcome
  -- What is still awaited belongs to other hosts, and so to other owners.
  have hothers : ∀ {other : String} {found : Nat},
      (Resolver.finish s.lookups ⟨lookup, .text name, true⟩ outcome).cache.get? (.text other)
        = some (.awaited found) →
      name ≠ other ∧ s.lookups.cache.get? (.text other) = some (.awaited found) := by
    intro other found hfound
    rw [hget] at hfound
    split at hfound
    · cases outcome <;> cases hfound
    · exact ⟨‹_›, hfound⟩
  refine ⟨fun other => ?_, fun entry hentry => ?_, fun other found hof => ?_,
    fun other _ _ hother => h.calm other _ _ (getElem?_set_ended hother).2,
    fun other found hfound => ?_, fun other found host' calledOff' hother => ?_, ?_⟩
  · rw [hget]
    refine Standing.started hstarted ?_
    split
    · rename_i heq
      subst heq
      exact Standing.finish (hawaited ▸ h.standing name) houtcome
    · exact h.standing other
  · cases outcome with
    | ok address =>
        rcases Entries.key_of_mem_put hentry with hnew | ⟨before, hbefore, heq⟩
        · have hstanding := h.standing name
          rw [hawaited] at hstanding
          cases hstanding with
          | awaited newest => exact ⟨name, hnew, h.looked name lookup newest.1⟩
        · exact heq ▸ h.keys before hbefore
    | error failure => exact h.keys entry (List.mem_of_mem_filter hentry)
  · refine h.looked other found ?_
    rwa [Lookups.OfHost, hosts, hstarted] at hof
  · obtain ⟨hne, hbefore⟩ := hothers hfound
    obtain ⟨owner, howner⟩ := h.owned other found hbefore
    refine ⟨owner, ?_⟩
    rw [List.getElem?_set_ne, howner]
    rintro rfl
    cases hwaits.symm.trans howner
    exact hne rfl
  · obtain ⟨hne, hbefore⟩ := getElem?_set_ended hother
    obtain ⟨name', rfl, hawaited'⟩ := h.owner _ _ _ _ hbefore
    refine ⟨name', rfl, ?_⟩
    rw [hget, if_neg, hawaited']
    rintro rfl
    cases hawaited.symm.trans hawaited'
    exact hne (h.single _ _ _ _ _ _ _ hwaits hbefore)
  · intro one other found host' host'' calledOff' calledOff'' hone hother
    exact h.single _ _ _ _ _ _ _ (getElem?_set_ended hone).2 (getElem?_set_ended hother).2

/-! ## Turns -/

/-- What may happen next where nobody is called off. -/
inductive Turn where
  | ask (host : String)
  | answer (lookup : Nat)
  | resume (caller : Nat)

def Turn.event : Turn → Event
  | .ask host => .ask (.text host)
  | .answer lookup => .answer lookup
  | .resume caller => .resume caller

/-- The callers and lookups after some turns. -/
def after (r : Resolver) (turns : List Turn) : Crowd := run r (turns.map Turn.event)

theorem after_snoc (r : Resolver) (turns : List Turn) (turn : Turn) :
    after r (turns ++ [turn]) = (after r turns).step r turn.event := by
  rw [after, List.map_append, List.map_singleton, run_snoc]
  rfl

theorem kept_turn {turn : Turn} (h : Kept r s) (hstep : Happens r s turn.event t) : Kept r t := by
  cases turn with
  | ask name =>
      cases hstep with
      | @asks _ reply lookups asked =>
          have houtcomes := asked.outcomeOf
          cases asked with
          | direct direct => exact h.enter fun waiter calledOff heq => by cases heq
          | refused looked refused => cases refused
          | known looked free cached => exact h.enter fun waiter calledOff heq => by cases heq
          | joins looked free cached =>
              refine h.enter fun waiter calledOff heq => ?_
              cases heq
              exact ⟨rfl, rfl⟩
          | starts looked free uncached => exact h.start looked houtcomes uncached
  | answer lookup =>
      cases hstep with
      | answers started said => exact h.settle _ _
      | answersNone unstarted => exact h
  | resume caller =>
      cases hstep with
      | resumesNone stands => exact h
      | @resumes _ waiter calledOff given outcome waits settled goesOn =>
          obtain rfl := h.calm _ _ _ waits
          obtain rfl : outcome = given := goesOn
          obtain ⟨lookup, host, owner⟩ := waiter
          cases owner with
          | false => exact h.leave waits rfl _
          | true => exact h.finish _ waits settled

theorem kept_after (r : Resolver) (turns : List Turn) : Kept r (after r turns) := by
  induction turns using List.reverseRecOn with
  | nil => exact kept_nil
  | append_singleton turns turn ih =>
      rw [after_snoc]
      exact kept_turn ih (happens r _ turn.event)

end Resolver

end Courier
