import Courier.Proofs.Standing

/-!
# Sharing lookups

Who asks for a host that is not known starts a lookup of it, and who finds one
in flight joins it; both end as it does. An address that was found is kept, and
a failure is forgotten once the caller that started the lookup has gone on
(`Shares`, `shares_lookups`).

How a caller ends is told for all turns that may follow (`EndsAs`): it follows
its lookup (`Follows`), and no turn makes it follow another one. What it
follows is settled when it asks, by where its host stands then.
-/

namespace Courier.Resolver

open Crowd

variable {r : Resolver} {s t : Crowd} {state : Lookups} {host : String} {lookup caller : Nat}

/-! ## What is never undone -/

theorem Happens.settles {event : Event} (h : Happens r s event t) :
    s.lookups.Settles t.lookups := by
  cases h with
  | asks asked => exact Lookups.settles_of_eq asked.outcomeOf
  | answers started said => exact settles_settle _ _ _
  | callsOff waits => exact settles_settle _ _ _
  | @resumes _ waiter _ _ outcome waits settled goesOn =>
      refine Lookups.settles_of_eq fun lookup => ?_
      rw [Lookups.outcomeOf, started_finish]
      rfl
  | _ => exact Lookups.settles_of_eq fun lookup => rfl

theorem Happens.ofHost {event : Event} (h : Happens r s event t)
    (hof : s.lookups.OfHost host lookup) : t.lookups.OfHost host lookup := by
  obtain ⟨more, hmore⟩ := h.hosts
  rw [Lookups.OfHost, hmore, List.getElem?_append_left (List.getElem?_eq_some_iff.mp hof).1]
  exact hof

/-- What every turn preserves is so after any further turns. -/
theorem after_preserves (holds : Crowd → Prop)
    (hturn : ∀ (s t : Crowd) (turn : Turn), Happens r s turn.event t → holds s → holds t)
    {turns : List Turn} (h : holds (after r turns)) (later : List Turn) :
    holds (after r (turns ++ later)) := by
  induction later using List.reverseRecOn with
  | nil => rwa [List.append_nil]
  | append_singleton later turn ih =>
      rw [← List.append_assoc, after_snoc]
      exact hturn _ _ turn (happens r _ turn.event) ih

theorem found_after {turns : List Turn} {address : String}
    (h : (after r turns).lookups.Found host lookup address) (later : List Turn) :
    (after r (turns ++ later)).lookups.Found host lookup address :=
  after_preserves (fun s => s.lookups.Found host lookup address)
    (fun _ _ _ hstep hfound => ⟨hstep.ofHost hfound.1, hstep.settles _ _ hfound.2⟩) h later

/-! ## What callers end with -/

/-- A caller waits for the lookup, or has ended as the lookup did. -/
inductive Follows (s : Crowd) (caller lookup : Nat) : Prop where
  | waits {waiter : Waiter} (waits : s.callers[caller]? = some (.waits waiter false))
      (follows : waiter.lookup = lookup)
  | ended {outcome : Except Failure String} (settled : s.lookups.outcomeOf lookup = some outcome)
      (ended : s.callers[caller]? = some (.ended (outcome.map Value.text)))

theorem Follows.turn {turn : Turn} (h : Follows s caller lookup)
    (hstep : Happens r s turn.event t) : Follows t caller lookup := by
  have hsettles := hstep.settles
  -- A caller that stands where it stood follows as it did.
  have hstands
      (hsame : ∀ stage, s.callers[caller]? = some stage → t.callers[caller]? = some stage) :
      Follows t caller lookup := by
    cases h with
    | waits waits follows => exact .waits (hsame _ waits) follows
    | ended settled ended => exact .ended (hsettles _ _ settled) (hsame _ ended)
  cases turn with
  | ask name =>
      cases hstep with
      | asks asked => exact hstands fun stage hstage => getElem?_concat_of_some hstage _
  | answer answered =>
      cases hstep with
      | answers started said => exact hstands fun stage hstage => hstage
      | answersNone unstarted => exact h
  | resume other =>
      cases hstep with
      | resumesNone stands => exact h
      | @resumes _ waiter calledOff given outcome waits settled goesOn =>
          by_cases heq : other = caller
          · subst heq
            cases h with
            | ended _ ended => cases waits.symm.trans ended
            | waits waits' follows =>
                cases waits.symm.trans waits'
                obtain rfl : outcome = given := goesOn
                exact .ended (follows ▸ hsettles _ _ settled)
                  (List.getElem?_set_self (List.getElem?_eq_some_iff.mp waits).1)
          · exact hstands fun stage hstage => (List.getElem?_set_ne heq).trans hstage

/-- Who goes on once the lookup has an outcome ends with it. -/
theorem Follows.resume {outcome : Except Failure String} (h : Follows s caller lookup)
    (houtcome : s.lookups.outcomeOf lookup = some outcome)
    (hstep : Happens r s (.resume caller) t) :
    t.callers[caller]? = some (.ended (outcome.map Value.text)) := by
  cases h with
  | waits waits follows =>
      subst follows
      cases hstep with
      | resumesNone stands => cases houtcome.symm.trans (stands _ _ waits)
      | resumes waits' settled goesOn =>
          cases waits.symm.trans waits'
          cases houtcome.symm.trans settled
          obtain rfl := goesOn
          exact List.getElem?_set_self (List.getElem?_eq_some_iff.mp waits).1
  | ended settled ended =>
      cases houtcome.symm.trans settled
      cases hstep with
      | resumesNone stands => exact ended
      | resumes waits' settled' goesOn => cases ended.symm.trans waits'

/-- Whatever turns follow, the caller waits for the lookup or has ended as the
lookup did, and once the lookup has an outcome the caller's next turn ends it. -/
structure EndsAs (r : Resolver) (turns : List Turn) (caller lookup : Nat) : Prop where
  follows : ∀ later, Follows (after r (turns ++ later)) caller lookup
  ends : ∀ later outcome,
    (after r (turns ++ later)).lookups.outcomeOf lookup = some outcome →
    (after r (turns ++ later ++ [.resume caller])).callers[caller]?
      = some (.ended (outcome.map Value.text))

theorem endsAs {turns : List Turn} (h : Follows (after r turns) caller lookup) :
    EndsAs r turns caller lookup := by
  have hfollows := after_preserves (Follows · caller lookup)
    (fun _ _ _ hstep hfollows => hfollows.turn hstep) h
  refine ⟨hfollows, fun later outcome houtcome => ?_⟩
  rw [after_snoc]
  exact (hfollows later).resume houtcome (happens r _ (.resume caller))

/-! ## Who asks next -/

theorem ask_awaited (hlooked : r.isDirect (.text host) = false)
    (hcached : state.cache.get? (.text host) = some (.awaited lookup)) :
    r.ask state (.text host) = (.waits ⟨lookup, .text host, false⟩, state) := by
  have hfree : refusal? (.text host) = none := rfl
  simp [ask, hlooked, hfree, hcached]

theorem ask_known {address : String} (hlooked : r.isDirect (.text host) = false)
    (hcached : state.cache.get? (.text host) = some (.address address)) :
    r.ask state (.text host) = (.settled (.ok (.text address)), state) := by
  have hfree : refusal? (.text host) = none := rfl
  simp [ask, hlooked, hfree, hcached]

theorem ask_unknown (hlooked : r.isDirect (.text host) = false)
    (hcached : state.cache.get? (.text host) = none) :
    r.ask state (.text host)
      = (.waits ⟨state.started.length, .text host, true⟩, start state host) := by
  have hfree : refusal? (.text host) = none := rfl
  simp [ask, hlooked, hfree, hcached, start]

/-- Who asks for the host next starts no lookup, and ends as this one does. -/
structure Joins (r : Resolver) (turns : List Turn) (host : String) (lookup : Nat) : Prop where
  quiet : hosts (after r (turns ++ [.ask host])).lookups = hosts (after r turns).lookups
  ends : EndsAs r (turns ++ [.ask host]) (after r turns).callers.length lookup

variable {turns : List Turn}

theorem after_ask {reply : Asked} {lookups : Lookups}
    (h : r.ask (after r turns).lookups (.text host) = (reply, lookups)) :
    after r (turns ++ [.ask host]) = ⟨lookups, (after r turns).callers ++ [.ofAsked reply]⟩ := by
  rw [after_snoc]
  simp only [Turn.event, Crowd.step, h]

theorem joins_awaited (hlooked : r.isDirect (.text host) = false)
    (hcached : (after r turns).lookups.cache.get? (.text host) = some (.awaited lookup)) :
    Joins r turns host lookup := by
  have hask := after_ask (ask_awaited hlooked hcached)
  refine ⟨congrArg (fun s => hosts s.lookups) hask, endsAs ?_⟩
  rw [hask]
  exact .waits (List.getElem?_concat_length ..) rfl

theorem joins_known {address : String} (hlooked : r.isDirect (.text host) = false)
    (hcached : (after r turns).lookups.cache.get? (.text host) = some (.address address))
    (hfound : (after r turns).lookups.outcomeOf lookup = some (.ok address)) :
    Joins r turns host lookup := by
  have hask := after_ask (ask_known hlooked hcached)
  refine ⟨congrArg (fun s => hosts s.lookups) hask, endsAs ?_⟩
  rw [hask]
  exact .ended hfound (List.getElem?_concat_length ..)

theorem endsAs_unknown (hlooked : r.isDirect (.text host) = false)
    (hcached : (after r turns).lookups.cache.get? (.text host) = none) :
    EndsAs r (turns ++ [.ask host]) (after r turns).callers.length
      (after r turns).lookups.started.length := by
  refine endsAs ?_
  rw [after_ask (ask_unknown hlooked hcached)]
  exact .waits (List.getElem?_concat_length ..) rfl

/-- Who asks for the host next starts a lookup of it, and ends as that one does. -/
structure Starts (r : Resolver) (turns : List Turn) (host : String) : Prop where
  lookup : hosts (after r (turns ++ [.ask host])).lookups
    = hosts (after r turns).lookups ++ [.text host]
  ends : EndsAs r (turns ++ [.ask host]) (after r turns).callers.length
    (hosts (after r turns).lookups).length

theorem starts_unknown (hlooked : r.isDirect (.text host) = false)
    (hcached : (after r turns).lookups.cache.get? (.text host) = none) : Starts r turns host where
  lookup := by rw [after_ask (ask_unknown hlooked hcached), hosts_start]
  ends := by
    rw [hosts, List.length_map]
    exact endsAs_unknown hlooked hcached

/-! ## Sharing -/

/-- The caller that started the lookup of the host has not gone on yet. -/
def OwnerWaits (s : Crowd) (host : String) (lookup : Nat) : Prop :=
  ∃ caller : Nat, s.callers[caller]? = some (.waits ⟨lookup, .text host, true⟩ false)

/-- The turn is one of a caller for this host. -/
inductive Concerns (s : Crowd) (host : String) : Turn → Prop where
  | ask : Concerns s host (.ask host)
  | resume {caller : Nat} {waiter : Waiter} {calledOff : Bool}
      (waits : s.callers[caller]? = some (.waits waiter calledOff))
      (same : waiter.host = .text host) : Concerns s host (.resume caller)

/-- How callers share lookups, after some turns. -/
structure Shares (r : Resolver) (turns : List Turn) : Prop where
  /-- A lookup is started for a host that a server is there for, if all lookups of it so far
  have failed and are forgotten. -/
  starts : ∀ host, r.server.isSome = true → host ≠ "localhost" →
    Url.isLiteral host.toList = false →
    (∀ lookup, (after r turns).lookups.OfHost host lookup →
      (after r turns).lookups.Failed host lookup ∧ ¬ OwnerWaits (after r turns) host lookup) →
    Starts r turns host
  /-- One lookup of a host is in flight at most. -/
  single : ∀ host lookup other, (after r turns).lookups.InFlight host lookup →
    (after r turns).lookups.InFlight host other → lookup = other
  /-- A lookup is joined while it is in flight, and until its owner has gone on. -/
  joins : ∀ host lookup, (after r turns).lookups.InFlight host lookup
    ∨ OwnerWaits (after r turns) host lookup → Joins r turns host lookup
  /-- An address that was found is found by all who ask from then on. -/
  keeps : ∀ host lookup address, (after r turns).lookups.Found host lookup address →
    ∀ later, (after r (turns ++ later)).lookups.Found host lookup address
      ∧ Joins r (turns ++ later) host lookup
  /-- One lookup of a host finds an address at most. -/
  once : ∀ host lookup other address address', (after r turns).lookups.Found host lookup address →
    (after r turns).lookups.Found host other address' → lookup = other
  /-- A lookup that failed is forgotten once its owner has gone on: who asks
  next ends as a later one. -/
  forgets : ∀ host lookup, (after r turns).lookups.Failed host lookup →
    ¬ OwnerWaits (after r turns) host lookup →
    (after r turns).lookups.cache.get? (.text host) ≠ some (.awaited lookup)
      ∧ ∃ other, lookup < other ∧ (after r (turns ++ [.ask host])).lookups.OfHost host other
        ∧ EndsAs r (turns ++ [.ask host]) (after r turns).callers.length other
  /-- While nobody waits, what is known are the addresses that were found. -/
  settled : (∀ (caller : Nat) (waiter : Waiter) (calledOff : Bool),
      (after r turns).callers[caller]? ≠ some (.waits waiter calledOff)) →
    ∀ key known, (after r turns).lookups.cache.get? key = some known ↔
      ∃ host lookup address, key = .text host ∧ known = .address address
        ∧ (after r turns).lookups.Found host lookup address
  /-- What is known of a host changes by the turns of its own callers alone. -/
  apart : ∀ host turn, ¬ Concerns (after r turns) host turn →
    (after r (turns ++ [turn])).lookups.cache.get? (.text host)
      = (after r turns).lookups.cache.get? (.text host)
  /-- The local host and address literals are their own address, and are
  neither looked up nor remembered. -/
  direct : ∀ host, host = "localhost" ∨ Url.isLiteral host.toList = true →
    after r (turns ++ [.ask host])
        = ⟨(after r turns).lookups, (after r turns).callers ++ [.ended (.ok (.text host))]⟩
      ∧ (after r turns).lookups.cache.get? (.text host) = none
      ∧ ∀ lookup, ¬ (after r turns).lookups.OfHost host lookup

/-- A lookup that has not failed is the newest one of its host, and the cache
waits for it or has the address that it found. -/
theorem Kept.live (h : Kept r s) (hof : s.lookups.OfHost host lookup)
    (hlive : ¬ s.lookups.Failed host lookup) :
    s.lookups.Newest host lookup
      ∧ (s.lookups.cache.get? (.text host) = some (.awaited lookup)
        ∨ ∃ address, s.lookups.cache.get? (.text host) = some (.address address)
          ∧ s.lookups.outcomeOf lookup = some (.ok address)) := by
  have hstanding := h.standing host
  generalize s.lookups.cache.get? (.text host) = known at hstanding ⊢
  cases hstanding with
  | unknown failed => exact absurd (failed lookup hof) hlive
  | awaited newest =>
      obtain rfl := newest.eq_of_not_failed hof hlive
      exact ⟨newest, .inl rfl⟩
  | known newest found =>
      obtain rfl := newest.eq_of_not_failed hof hlive
      exact ⟨newest, .inr ⟨_, rfl, found⟩⟩

theorem Kept.awaited_of_inFlight (h : Kept r s) (hflight : s.lookups.InFlight host lookup) :
    s.lookups.cache.get? (.text host) = some (.awaited lookup) := by
  rcases (h.live hflight.1 hflight.not_failed).2 with hawaited | ⟨address, -, hfound⟩
  · exact hawaited
  · cases hflight.2.symm.trans hfound

theorem Kept.joins_of_open (h : Kept r (after r turns))
    (hopen : (after r turns).lookups.InFlight host lookup
      ∨ OwnerWaits (after r turns) host lookup) : Joins r turns host lookup := by
  have hawaited : (after r turns).lookups.cache.get? (.text host) = some (.awaited lookup) := by
    rcases hopen with hflight | ⟨caller, howner⟩
    · exact h.awaited_of_inFlight hflight
    · obtain ⟨name, hname, hawaited⟩ := h.owner _ _ _ _ howner
      cases hname
      exact hawaited
  have hstanding := h.standing host
  rw [hawaited] at hstanding
  cases hstanding with
  | awaited newest => exact joins_awaited (h.looked host lookup newest.1) hawaited

theorem Kept.cached_of_found (h : Kept r s) {address : String}
    (hfound : s.lookups.Found host lookup address) :
    s.lookups.cache.get? (.text host) = some (.awaited lookup)
      ∨ s.lookups.cache.get? (.text host) = some (.address address) := by
  rcases (h.live hfound.1 hfound.not_failed).2 with hawaited | ⟨found, hknown, houtcome⟩
  · exact .inl hawaited
  · cases hfound.2.symm.trans houtcome
    exact .inr hknown

theorem Kept.joins_of_found (h : Kept r (after r turns)) {address : String}
    (hfound : (after r turns).lookups.Found host lookup address) : Joins r turns host lookup := by
  have hlooked := h.looked host lookup hfound.1
  rcases h.cached_of_found hfound with hawaited | hknown
  · exact joins_awaited hlooked hawaited
  · exact joins_known hlooked hknown hfound.2

/-- Two lookups of a host that have not failed are one. -/
theorem Kept.unique (h : Kept r s) {other : Nat} (hof : s.lookups.OfHost host lookup)
    (hlive : ¬ s.lookups.Failed host lookup) (hof' : s.lookups.OfHost host other)
    (hlive' : ¬ s.lookups.Failed host other) : lookup = other :=
  (h.live hof' hlive').1.eq_of_not_failed hof hlive

/-- A lookup that failed is not awaited once its owner has gone on, and so who
asks next ends as a later one. -/
theorem Kept.forgets (h : Kept r (after r turns))
    (hfailed : (after r turns).lookups.Failed host lookup)
    (hgone : ¬ OwnerWaits (after r turns) host lookup) :
    (after r turns).lookups.cache.get? (.text host) ≠ some (.awaited lookup)
      ∧ ∃ other, lookup < other ∧ (after r (turns ++ [.ask host])).lookups.OfHost host other
        ∧ EndsAs r (turns ++ [.ask host]) (after r turns).callers.length other := by
  have hlooked := h.looked host lookup hfailed.1
  have hforgotten : (after r turns).lookups.cache.get? (.text host) ≠ some (.awaited lookup) :=
    fun hawaited => hgone (h.owned host lookup hawaited)
  have hask := happens r (after r turns) (Turn.ask host).event
  rw [← after_snoc] at hask
  refine ⟨hforgotten, ?_⟩
  cases hcached : (after r turns).lookups.cache.get? (.text host) with
  | none =>
      refine ⟨_, hfailed.1.lt, ?_, endsAs_unknown hlooked hcached⟩
      rw [after_ask (ask_unknown hlooked hcached)]
      exact ofHost_start.mpr (.inr ⟨rfl, rfl⟩)
  | some known =>
      have hstanding := h.standing host
      rw [hcached] at hstanding hforgotten
      -- What is known comes from the newest lookup, which is not the one that was forgotten.
      have hlater {other : Nat} (newest : (after r turns).lookups.Newest host other)
          (hne : lookup ≠ other) : lookup < other :=
        ((newest.2 lookup hfailed.1).resolve_left hne).1
      cases hstanding with
      | @awaited other newest =>
          refine ⟨other, hlater newest ?_, hask.ofHost newest.1,
            (joins_awaited hlooked hcached).ends⟩
          rintro rfl
          exact hforgotten rfl
      | @known other address newest found =>
          refine ⟨other, hlater newest ?_, hask.ofHost newest.1,
            (joins_known hlooked hcached found).ends⟩
          rintro rfl
          exact Lookups.Found.not_failed ⟨newest.1, found⟩ hfailed

theorem not_isDirect (hserver : r.server.isSome = true) (hlocal : host ≠ "localhost")
    (hliteral : Url.isLiteral host.toList = false) : r.isDirect (.text host) = false := by
  have hnone : r.server.isNone = false := by rw [← Option.not_isSome, hserver]; rfl
  have hother : (Value.text host == .text "localhost") = false := by
    rw [← Bool.not_eq_true, Value.text_beq]
    exact fun hsame => hlocal (Value.text.inj hsame).symm
  simp only [isDirect, isAddress, hnone, hliteral, hother, Bool.or_false]

/-- Nothing is known of a host all of whose lookups have failed and are forgotten. -/
theorem Kept.unknown (h : Kept r s) (hgone : ∀ lookup, s.lookups.OfHost host lookup →
      s.lookups.Failed host lookup ∧ ¬ OwnerWaits s host lookup) :
    s.lookups.cache.get? (.text host) = none := by
  cases hcached : s.lookups.cache.get? (.text host) with
  | none => rfl
  | some known =>
      have hstanding := h.standing host
      rw [hcached] at hstanding
      cases hstanding with
      | awaited newest => exact absurd (h.owned host _ hcached) (hgone _ newest.1).2
      | known newest found =>
          exact absurd (hgone _ newest.1).1 (Lookups.Found.not_failed ⟨newest.1, found⟩)

/-- While nobody waits, the cache has the addresses that were found. -/
theorem Kept.settled (h : Kept r s) (hidle : ∀ (caller : Nat) (waiter : Waiter) (calledOff : Bool),
      s.callers[caller]? ≠ some (.waits waiter calledOff)) (key : Value) (known : Cached) :
    s.lookups.cache.get? key = some known ↔
      ∃ host lookup address, key = .text host ∧ known = .address address
        ∧ s.lookups.Found host lookup address := by
  have hnone (host : String) (lookup : Nat) :
      s.lookups.cache.get? (.text host) ≠ some (.awaited lookup) := by
    intro hawaited
    obtain ⟨caller, howner⟩ := h.owned host lookup hawaited
    exact hidle caller _ _ howner
  constructor
  · intro hcached
    obtain ⟨entry, hentry, hkey, -⟩ := Entries.mem_of_get? hcached
    obtain ⟨host, hhost, -⟩ := h.keys entry hentry
    rw [hhost] at hkey
    obtain rfl := Value.text_beq.mp hkey
    have hstanding := h.standing host
    rw [hcached] at hstanding
    cases hstanding with
    | awaited newest => exact absurd hcached (hnone host _)
    | known newest found => exact ⟨host, _, _, rfl, rfl, newest.1, found⟩
  · rintro ⟨host, lookup, address, rfl, rfl, hfound⟩
    exact (h.cached_of_found hfound).resolve_left (hnone host lookup)

/-- A turn of no caller for the host leaves what is known of it. -/
theorem get?_of_not_concerns {turn : Turn} (h : Kept r s) (hstep : Happens r s turn.event t)
    (hother : ¬ Concerns s host turn) :
    t.lookups.cache.get? (.text host) = s.lookups.cache.get? (.text host) := by
  cases turn with
  | ask name =>
      have hne : name ≠ host := by
        rintro rfl
        exact hother .ask
      cases hstep with
      | asks asked =>
          cases asked with
          | starts looked free uncached =>
              exact (Entries.get?_put_text ..).trans (if_neg hne)
          | _ => rfl
  | answer answered =>
      cases hstep with
      | answers started said => rfl
      | answersNone unstarted => rfl
  | resume caller =>
      cases hstep with
      | resumesNone stands => rfl
      | @resumes _ waiter _ _ outcome waits settled goesOn =>
          obtain ⟨lookup, value, owner⟩ := waiter
          cases owner with
          | false => rfl
          | true =>
              obtain ⟨name, rfl, -⟩ := h.owner _ _ _ _ waits
              rw [get?_finish, if_neg]
              rintro rfl
              exact hother (.resume waits rfl)

theorem isDirect_of_literal (r : Resolver)
    (h : host = "localhost" ∨ Url.isLiteral host.toList = true) : r.isDirect (.text host) = true := by
  rcases h with rfl | hliteral
  · simp [isDirect, Value.beq_text]
  · simp [isDirect, isAddress, hliteral]

/-- What is left to the system is neither looked up nor remembered. -/
theorem Kept.direct (h : Kept r s) (hdirect : r.isDirect (.text host) = true) :
    s.lookups.cache.get? (.text host) = none ∧ ∀ lookup, ¬ s.lookups.OfHost host lookup := by
  have hnever (lookup : Nat) : ¬ s.lookups.OfHost host lookup := fun hof =>
    Bool.false_ne_true ((h.looked host lookup hof).symm.trans hdirect)
  have hstanding := h.standing host
  refine ⟨?_, hnever⟩
  generalize s.lookups.cache.get? (.text host) = known at hstanding
  cases hstanding with
  | unknown failed => rfl
  | awaited newest | known newest => exact absurd newest.1 (hnever _)

/-- Whatever the turns, callers share lookups. -/
theorem shares_lookups (r : Resolver) (turns : List Turn) : Shares r turns := by
  have h := kept_after r turns
  refine {
    starts := fun host hserver hlocal hliteral hgone =>
      starts_unknown (not_isDirect hserver hlocal hliteral) (h.unknown hgone)
    single := fun host lookup other hflight hother =>
      h.unique hflight.1 hflight.not_failed hother.1 hother.not_failed
    joins := fun host lookup hopen => h.joins_of_open hopen
    keeps := fun host lookup address hfound later =>
      ⟨found_after hfound later, (kept_after r _).joins_of_found (found_after hfound later)⟩
    once := fun host lookup other address address' hfound hother =>
      h.unique hfound.1 hfound.not_failed hother.1 hother.not_failed
    forgets := fun host lookup hfailed hgone => h.forgets hfailed hgone
    settled := h.settled
    apart := fun host turn hother => ?_
    direct := fun host hliteral => ?_ }
  · rw [after_snoc]
    exact get?_of_not_concerns h (happens r _ turn.event) hother
  · have hdirect := isDirect_of_literal r hliteral
    exact ⟨after_ask (ask_direct hdirect), h.direct hdirect⟩

/-- A server that has an answer the second time. -/
def recovering : Resolver where
  server := some "192.0.2.1"
  answers := fun _ n => if n = 0 then .error .noAddress else .ok ["192.0.2.7"]

/-- The second caller comes when the lookup has failed already and its owner has not gone on,
and fails with it; the third one finds the address. -/
theorem after_recovering :
    after recovering [.ask "example.org", .answer 0, .ask "example.org", .resume 0,
      .ask "example.org", .resume 1, .answer 1, .resume 2]
    = { lookups :=
          { cache := [(.text "example.org", .address "192.0.2.7")]
            started := [⟨.text "example.org", some (.error .noAddress)⟩,
              ⟨.text "example.org", some (.ok "192.0.2.7")⟩] }
        callers := [.ended (.error .noAddress), .ended (.error .noAddress),
          .ended (.ok (.text "192.0.2.7"))] } := rfl

/-- A lookup is started, is joined as long as its owner has not gone on, and another one is
started once it has, which is joined too. -/
theorem shares_recovering :
    Starts recovering [] "example.org"
      ∧ Joins recovering [.ask "example.org", .answer 0] "example.org" 0
      ∧ Starts recovering [.ask "example.org", .answer 0, .resume 0] "example.org"
      ∧ Joins recovering [.ask "example.org", .answer 0, .resume 0, .ask "example.org", .answer 1]
        "example.org" 1 := by
  have hlocal : "example.org" ≠ "localhost" := by decide
  have hliteral : Url.isLiteral "example.org".toList = false := by decide +kernel
  refine ⟨?_, ?_, ?_, ?_⟩
  · refine (shares_lookups recovering []).starts _ rfl hlocal hliteral fun lookup hof => ?_
    exact absurd hof.lt (Nat.not_lt_zero lookup)
  · exact (shares_lookups recovering _).joins _ 0 (.inr ⟨0, rfl⟩)
  · refine (shares_lookups recovering _).starts _ rfl hlocal hliteral fun lookup hof => ?_
    obtain rfl : lookup = 0 := Nat.lt_one_iff.mp hof.lt
    refine ⟨⟨hof, .noAddress, rfl⟩, ?_⟩
    rintro ⟨_ | caller, howner⟩ <;> cases howner
  · have hfound : (after recovering [.ask "example.org", .answer 0, .resume 0, .ask "example.org",
        .answer 1]).lookups.Found "example.org" 1 "192.0.2.7" := ⟨rfl, rfl⟩
    exact ((shares_lookups recovering _).keeps _ _ _ hfound []).2

end Courier.Resolver
