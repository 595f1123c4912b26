import Courier.Dispatch.Run
import Courier.Proofs.Taxonomy

/-!
# The requests of a run

What each request of a run does, whatever the others do. It ends as its peer
is met, once it has an address, within the time limit (`verdict_issue`), and
if it has a line then its connection is closed (`Issued.closed`). All
requests ask for the address before any lookup is answered; what each of them
gets is told host by host (`forall₂_resolveAll`), although they share lookups:
the lookups that are waited for are all answered before anyone goes on.
-/

namespace Courier

/-! ## One request -/

namespace Dispatcher

theorem verdict_released_if_told (journal : Journal Reply) :
    (match conclusion journal with
      | .ok _ => journal.release
      | .error _ => journal).verdict = journal.verdict := by
  split
  · exact Client.verdict_release journal
  · rfl

theorem verdict_issue (d : Dispatcher) (raw : List UInt8) (limit : TimeLimit) (lookups : Lookups)
    (address : Except Failure Value) (peer : Peer) :
    (d.issue raw limit lookups address peer).verdict =
      limit.bound (match address with
        | .error failure => .failed failure
        | .ok address =>
            match Transport.dialLog address d.port with
            | .error failure => .failed failure
            | .ok _ => peer.meet (.ok raw) (.text "GET")) := by
  unfold issue
  cases address with
  | error failure => rfl
  | ok address =>
      refine (verdict_released_if_told _).trans ?_
      have hport : d.port = d.destination.port := rfl
      rw [hport]
      simp only [Journal.bound, Transport.connectAt]
      cases Transport.dialLog address d.destination.port with
      | error failure => rfl
      | ok log =>
          cases peer with
          | refuses failure => rfl
          | neverAnswers => rfl
          | accepts incoming sendFailure =>
              simp [Approach.exchange, Transport.dial, Peer.meet, Transport.exchange,
                Transport.withLink]

/-- The requests that have a line are those whose end the caller of a request
is meant to handle. -/
theorem conclusion_iff {journal : Journal Reply} :
    (∃ concluded, conclusion journal = .ok concluded) ↔ journal.verdict.concluded.Handled := by
  unfold conclusion
  cases journal.verdict with
  | ok reply => exact iff_of_true ⟨_, rfl⟩ (.response _)
  | waiting =>
      refine iff_of_false ?_ ?_
      · rintro ⟨concluded, h⟩
        cases h
      · intro h
        cases h
  | failed failure =>
      simp only [Verdict.concluded, handled_guarded, Failure.Manageable]
      by_cases htransport : failure.guarded.isTransport = true
      · rw [if_pos htransport]
        exact iff_of_true ⟨_, rfl⟩ htransport
      · rw [if_neg htransport]
        refine iff_of_false ?_ htransport
        rintro ⟨concluded, h⟩
        cases h

end Dispatcher

namespace Dispatch

/-- What a request of a run leaves behind. -/
inductive Issued : Journal Reply → Prop where
  | unstarted (failure : Failure) : Issued { verdict := .failed failure, lookups := {} }
  | issued (d : Dispatcher) (raw : List UInt8) (limit : TimeLimit) (lookups : Lookups)
      (address : Except Failure Value) (peer : Peer) :
      Issued (d.issue raw limit lookups address peer)

/-- A request that is told of has closed its connection. -/
theorem Issued.closed {journal : Journal Reply} (h : Issued journal) {concluded : Conclusion}
    (hconcluded : Dispatcher.conclusion journal = .ok concluded) {link : Link}
    (hlink : journal.link = some link) : link.closed = true := by
  cases h with
  | unstarted failure => cases hlink
  | issued d raw limit lookups address peer =>
      unfold Dispatcher.issue at hconcluded hlink
      cases address with
      | error failure => cases hlink
      | ok address =>
          simp only at hconcluded hlink
          split at hlink
          · rename_i told
            refine Journal.closed_release ?_ hlink
            intro hwaiting
            rw [Dispatcher.conclusion, hwaiting] at told
            cases told
          · rename_i untold
            rw [untold] at hconcluded
            cases untold.symm.trans hconcluded

end Dispatch

/-! ## The address, for all who ask -/

namespace Resolver

variable {own : Failure → Prop} {r : Resolver} {state : Lookups}

/-- What a caller gets when it asks for a host, and what becomes of the lookups. -/
inductive Asks (r : Resolver) (state : Lookups) (host : Value) : Asked → Lookups → Prop where
  | direct (direct : r.isDirect host = true) : Asks r state host (.settled (.ok host)) state
  | refused {failure : Failure} (looked : r.isDirect host = false)
      (refused : refusal? host = some failure) :
      Asks r state host (.settled (.error failure)) state
  | known {address : String} (looked : r.isDirect host = false) (free : refusal? host = none)
      (cached : state.cache.get? host = some (.address address)) :
      Asks r state host (.settled (.ok (.text address))) state
  | joins {lookup : Nat} (looked : r.isDirect host = false) (free : refusal? host = none)
      (cached : state.cache.get? host = some (.awaited lookup)) :
      Asks r state host (.waits ⟨lookup, host, false⟩) state
  | starts (looked : r.isDirect host = false) (free : refusal? host = none)
      (uncached : state.cache.get? host = none) :
      Asks r state host (.waits ⟨state.started.length, host, true⟩)
        { cache := state.cache.put host (.awaited state.started.length)
          started := state.started ++ [{ host }] }

theorem asks (r : Resolver) (state : Lookups) (host : Value) :
    Asks r state host (r.ask state host).1 (r.ask state host).2 := by
  unfold ask
  by_cases hdirect : r.isDirect host = true
  · rw [if_pos hdirect]
    exact .direct hdirect
  · have hlooked : r.isDirect host = false := by simpa using hdirect
    rw [if_neg hdirect]
    cases hrefusal : refusal? host with
    | some failure => exact .refused hlooked hrefusal
    | none =>
        simp only
        cases hcached : state.cache.get? host with
        | none => exact .starts hlooked hrefusal hcached
        | some known =>
            cases known with
            | address address => exact .known hlooked hrefusal hcached
            | awaited lookup => exact .joins hlooked hrefusal hcached

/-- Asking gives no lookup an outcome, not even the one that it starts. -/
theorem Asks.outcomeOf {host : Value} {reply : Asked} {after : Lookups}
    (h : Asks r state host reply after) (lookup : Nat) :
    after.outcomeOf lookup = state.outcomeOf lookup := by
  cases h with
  | starts looked free uncached =>
      simp only [Lookups.outcomeOf, List.getElem?_append]
      split
      · rfl
      · rename_i hlarge
        rw [List.getElem?_eq_none (Nat.le_of_not_lt hlarge)]
        cases hnew : [({ host } : Lookup)][lookup - state.started.length]? with
        | none => rfl
        | some l =>
            rw [List.mem_singleton.mp (List.mem_of_getElem? hnew)]
            rfl
  | _ => rfl

/-- Lookups none of which has an outcome, and nothing else is known of hosts. -/
structure Open (state : Lookups) : Prop where
  awaited : ∀ host known, state.cache.get? host = some known →
    ∃ lookup, known = .awaited lookup ∧ lookup < state.started.length
  unsettled : ∀ lookup, state.outcomeOf lookup = none

/-- What a host is told while nothing has an outcome yet. -/
inductive Told (r : Resolver) (started : Nat) (host : Value) : Asked → Prop where
  | direct (direct : r.isDirect host = true) : Told r started host (.settled (.ok host))
  | refused {failure : Failure} (looked : r.isDirect host = false)
      (refused : refusal? host = some failure) : Told r started host (.settled (.error failure))
  | waits {waiter : Waiter} (looked : r.isDirect host = false) (free : refusal? host = none)
      (lt : waiter.lookup < started) : Told r started host (.waits waiter)

theorem Told.mono {m n : Nat} {host : Value} {reply : Asked} (h : Told r m host reply)
    (hle : m ≤ n) : Told r n host reply := by
  cases h with
  | direct direct => exact .direct direct
  | refused looked refused => exact .refused looked refused
  | waits looked free lt => exact .waits looked free (Nat.lt_of_lt_of_le lt hle)

theorem open_nil : Open {} where
  awaited := fun host known h => by cases h
  unsettled := fun lookup => rfl

/-- One more asks: nothing is answered by that, and at most one lookup more is started. -/
theorem told_ask (h : Open state) (host : Value) :
    Told r (r.ask state host).2.started.length host (r.ask state host).1
      ∧ Open (r.ask state host).2
      ∧ state.started.length ≤ (r.ask state host).2.started.length := by
  have hasks := asks r state host
  have hunsettled := fun lookup => (hasks.outcomeOf lookup).trans (h.unsettled lookup)
  generalize r.ask state host = asked at hasks hunsettled ⊢
  obtain ⟨reply, after⟩ := asked
  cases hasks with
  | direct direct => exact ⟨.direct direct, h, Nat.le_refl _⟩
  | refused looked refused => exact ⟨.refused looked refused, h, Nat.le_refl _⟩
  | known looked free cached =>
      obtain ⟨lookup, hawaited, -⟩ := h.awaited host _ cached
      cases hawaited
  | joins looked free cached =>
      obtain ⟨lookup, hawaited, hlt⟩ := h.awaited host _ cached
      cases hawaited
      exact ⟨.waits looked free hlt, h, Nat.le_refl _⟩
  | starts looked free uncached =>
      have hlength : (state.started ++ [({ host } : Lookup)]).length
          = state.started.length + 1 := by simp
      refine ⟨.waits looked free (by simp), ⟨fun other known hknown => ?_, hunsettled⟩, by simp⟩
      rw [hlength]
      obtain rfl | hbefore := Entries.get?_put_cases hknown
      · exact ⟨_, rfl, Nat.lt_succ_self _⟩
      · obtain ⟨lookup, rfl, hlt⟩ := h.awaited other known hbefore
        exact ⟨lookup, rfl, Nat.lt_succ_of_lt hlt⟩

/-- One more asks; the replies so far are given last one first. -/
def askOne (r : Resolver) (sofar : List Asked × Lookups × Log) (host : Value) :
    List Asked × Lookups × Log :=
  let reply := r.ask sofar.2.1 host
  (reply.1 :: sofar.1, reply.2, sofar.2.2 ++ askLog host reply.1)

theorem askAll_eq_foldl (r : Resolver) (state : Lookups) (hosts : List Value) :
    r.askAll state hosts = ((hosts.foldl r.askOne ([], state, [])).1.reverse,
      (hosts.foldl r.askOne ([], state, [])).2) := rfl

theorem told_foldl_askOne (r : Resolver) : ∀ (hosts : List Value) (asked : List Asked)
    {state : Lookups} (log : Log), Open state →
    ∃ replies final log', hosts.foldl r.askOne (asked, state, log)
        = (replies.reverse ++ asked, final, log')
      ∧ List.Forall₂ (Told r final.started.length) hosts replies ∧ Open final
      ∧ state.started.length ≤ final.started.length
  | [], asked, state, log, h => ⟨[], state, log, rfl, .nil, h, Nat.le_refl _⟩
  | host :: hosts, asked, state, log, h => by
      obtain ⟨htold, hopen, hle⟩ := told_ask (r := r) h host
      obtain ⟨replies, final, log', hfold, hreplies, hfinal, hle'⟩ :=
        told_foldl_askOne r hosts ((r.ask state host).1 :: asked)
          (log ++ askLog host (r.ask state host).1) hopen
      refine ⟨(r.ask state host).1 :: replies, final, log', ?_, ?_, hfinal, Nat.le_trans hle hle'⟩
      · rw [List.foldl_cons, List.reverse_cons, List.append_assoc]
        exact hfold
      · exact .cons (htold.mono hle') hreplies

/-- All who ask before anything is answered. -/
theorem told_askAll (r : Resolver) (hosts : List Value) :
    ∃ replies final log, r.askAll {} hosts = (replies, final, log)
      ∧ List.Forall₂ (Told r final.started.length) hosts replies ∧ Open final := by
  obtain ⟨replies, final, log, hfold, htold, hopen, -⟩ := told_foldl_askOne r hosts [] [] open_nil
  rw [List.append_nil] at hfold
  refine ⟨replies, final, log, ?_, htold, hopen⟩
  rw [askAll_eq_foldl, hfold, List.reverse_reverse]

/-- What a caller that was told this goes on with. -/
def outcomeFor (state : Lookups) (calledOff : Bool) : Asked → Except Failure Value
  | .settled outcome => outcome
  | .waits waiter =>
      match state.outcomeOf waiter.lookup with
      | some outcome => (if calledOff then .error .cancelled else outcome).map Value.text
      | none => .error .cancelled

theorem started_finish (state : Lookups) (waiter : Waiter) (outcome : Except Failure String) :
    (finish state waiter outcome).started = state.started := by
  unfold finish
  split
  · cases outcome <;> rfl
  · rfl

/-- A caller goes on once its lookup has an outcome. -/
theorem resume_eq_map (state : Lookups) (waiter : Waiter) (calledOff : Bool) :
    resume state waiter calledOff = (state.outcomeOf waiter.lookup).map fun given =>
      let outcome := if calledOff then .error .cancelled else given
      (outcome, finish state waiter outcome) := by
  unfold resume Lookups.outcomeOf
  cases state.started[waiter.lookup]? <;> rfl

theorem resume_eq_some {waiter : Waiter} {calledOff : Bool} {outcome : Except Failure String}
    {after : Lookups} (h : resume state waiter calledOff = some (outcome, after)) :
    ∃ given, state.outcomeOf waiter.lookup = some given
      ∧ outcome = (if calledOff then .error .cancelled else given)
      ∧ after = finish state waiter outcome := by
  rw [resume_eq_map] at h
  obtain ⟨given, hgiven, hpair⟩ := Option.map_eq_some_iff.mp h
  cases hpair
  exact ⟨given, hgiven, rfl, rfl⟩

theorem outcomeOf_resume {waiter : Waiter} {calledOff : Bool} {outcome : Except Failure String}
    {after : Lookups} (h : resume state waiter calledOff = some (outcome, after)) (lookup : Nat) :
    after.outcomeOf lookup = state.outcomeOf lookup := by
  obtain ⟨given, -, -, rfl⟩ := resume_eq_some h
  rw [Lookups.outcomeOf, started_finish]
  rfl

/-- One more goes on; the outcomes so far are given last one first. -/
def resumeOne (calledOff : Bool) (sofar : List (Except Failure Value) × Lookups) (reply : Asked) :
    List (Except Failure Value) × Lookups :=
  match reply with
  | .settled outcome => (outcome :: sofar.1, sofar.2)
  | .waits waiter =>
      match resume sofar.2 waiter calledOff with
      | some (outcome, state) => (outcome.map Value.text :: sofar.1, state)
      | none => (.error .cancelled :: sofar.1, sofar.2)

theorem resumeAll_eq_foldl (state : Lookups) (asked : List Asked) (calledOff : Bool) :
    resumeAll state asked calledOff
      = ((asked.foldl (resumeOne calledOff) ([], state)).1.reverse,
        (asked.foldl (resumeOne calledOff) ([], state)).2) := rfl

theorem fst_resumeOne (calledOff : Bool) (outcomes : List (Except Failure Value))
    (state : Lookups) (reply : Asked) :
    (resumeOne calledOff (outcomes, state) reply).1
      = outcomeFor state calledOff reply :: outcomes := by
  cases reply with
  | settled outcome => rfl
  | waits waiter =>
      simp only [resumeOne, resume_eq_map, outcomeFor]
      cases state.outcomeOf waiter.lookup <;> rfl

/-- Going on gives no lookup an outcome. -/
theorem outcomeOf_resumeOne (calledOff : Bool) (outcomes : List (Except Failure Value))
    (state : Lookups) (reply : Asked) (lookup : Nat) :
    (resumeOne calledOff (outcomes, state) reply).2.outcomeOf lookup = state.outcomeOf lookup := by
  cases reply with
  | settled outcome => rfl
  | waits waiter =>
      unfold resumeOne
      simp only
      split
      · rename_i hresume
        exact outcomeOf_resume hresume lookup
      · rfl

theorem fst_foldl_resumeOne (calledOff : Bool) {known : Lookups} : ∀ (asked : List Asked)
    (outcomes : List (Except Failure Value)) {state : Lookups},
    (∀ lookup, state.outcomeOf lookup = known.outcomeOf lookup) →
    (asked.foldl (resumeOne calledOff) (outcomes, state)).1
      = (asked.map (outcomeFor known calledOff)).reverse ++ outcomes
  | [], outcomes, state, _ => rfl
  | reply :: asked, outcomes, state, h => by
      have hsame : outcomeFor state calledOff reply = outcomeFor known calledOff reply := by
        cases reply with
        | settled outcome => rfl
        | waits waiter => simp only [outcomeFor, h]
      have hone : resumeOne calledOff (outcomes, state) reply
          = (outcomeFor known calledOff reply :: outcomes,
            (resumeOne calledOff (outcomes, state) reply).2) :=
        Prod.ext ((fst_resumeOne calledOff outcomes state reply).trans (by rw [hsame])) rfl
      rw [List.foldl_cons, hone, List.map_cons, List.reverse_cons, List.append_assoc]
      exact fst_foldl_resumeOne calledOff asked _ fun lookup =>
        (outcomeOf_resumeOne calledOff outcomes state reply lookup).trans (h lookup)

/-- Each goes on with what its own lookup came to. -/
theorem fst_resumeAll (state : Lookups) (asked : List Asked) (calledOff : Bool) :
    (resumeAll state asked calledOff).1 = asked.map (outcomeFor state calledOff) := by
  rw [resumeAll_eq_foldl, fst_foldl_resumeOne calledOff asked [] fun _ => rfl, List.append_nil,
    List.reverse_reverse]

/-- What a caller ends with whose host is looked up among those of others. -/
inductive Resolves (r : Resolver) (own : Failure → Prop) (patient : Bool) (host : Value) :
    Except Failure Value → Prop where
  | direct (direct : r.isDirect host = true) : Resolves r own patient host (.ok host)
  | refused {failure : Failure} (looked : r.isDirect host = false)
      (refused : refusal? host = some failure) : Resolves r own patient host (.error failure)
  | found (looked : r.isDirect host = false) (free : refusal? host = none) (address : String) :
      Resolves r own patient host (.ok (.text address))
  | failed {failure : Failure} (looked : r.isDirect host = false) (free : refusal? host = none)
      (failed : own failure) : Resolves r own patient host (.error failure)
  | calledOff (looked : r.isDirect host = false) (free : refusal? host = none)
      (impatient : patient = false) : Resolves r own patient host (.error .cancelled)

theorem Told.resolves_patient (hr : r.Answers own) (hopen : Open state) {host : Value}
    {reply : Asked} (h : Told r state.started.length host reply) :
    Resolves r own true host (outcomeFor (r.answerAll state) false reply) := by
  cases h with
  | direct direct => exact .direct direct
  | refused looked refused => exact .refused looked refused
  | waits looked free lt =>
      obtain ⟨outcome, houtcome, hown⟩ := outcomeOf_answerAll hr lt fun failure hfailed => by
        cases (hopen.unsettled _).symm.trans hfailed
      simp only [outcomeFor, houtcome]
      cases outcome with
      | ok address => exact .found looked free address
      | error failure => exact .failed looked free (hown failure rfl)

theorem Told.resolves_impatient (known : Lookups) {n : Nat} {host : Value} {reply : Asked}
    (h : Told r n host reply) : Resolves r own false host (outcomeFor known true reply) := by
  cases h with
  | direct direct => exact .direct direct
  | refused looked refused => exact .refused looked refused
  | @waits waiter looked free lt =>
      have hcancelled : outcomeFor known true (.waits waiter) = .error .cancelled := by
        simp only [outcomeFor]
        cases known.outcomeOf waiter.lookup <;> rfl
      rw [hcancelled]
      exact .calledOff looked free rfl

/-- All who ask are told, whatever they are told. -/
theorem length_resolveAll (r : Resolver) (hosts : List Value) (patient : Bool) :
    (r.resolveAll {} hosts patient).1.length = hosts.length := by
  obtain ⟨replies, final, log, hask, htold, -⟩ := told_askAll r hosts
  simp only [resolveAll, hask]
  split <;> rw [fst_resumeAll, List.length_map, htold.length_eq]

/-- All who ask at the same time, with nothing known before. -/
theorem forall₂_resolveAll (hr : r.Answers own) (hosts : List Value) (patient : Bool) :
    List.Forall₂ (Resolves r own patient) hosts (r.resolveAll {} hosts patient).1 := by
  obtain ⟨replies, final, log, hask, htold, hopen⟩ := told_askAll r hosts
  simp only [resolveAll, hask]
  cases patient with
  | true =>
      rw [if_pos rfl, fst_resumeAll]
      exact List.forall₂_map_right_iff.mpr (htold.imp fun _ _ h => h.resolves_patient hr hopen)
  | false =>
      rw [if_neg (by decide), fst_resumeAll]
      exact List.forall₂_map_right_iff.mpr (htold.imp fun _ _ h => h.resolves_impatient _)

end Resolver

/-! ## All requests -/

namespace Dispatcher

variable {d : Dispatcher} {resolver : Resolver} {peers : Nat → Peer} {raw : List UInt8} {n : Nat}

/-- The addresses that the requests of a run get. -/
def addresses (d : Dispatcher) (resolver : Resolver) (n : Nat) (limit : TimeLimit) :
    List (Except Failure Value) :=
  (resolver.resolveAll {} (List.replicate n d.host) limit.patient).1

theorem addresses_resolve {own : Failure → Prop} (hr : resolver.Answers own) (limit : TimeLimit) :
    ∀ outcome ∈ d.addresses resolver n limit,
      Resolver.Resolves resolver own limit.patient d.host outcome := by
  have hall := Resolver.forall₂_resolveAll hr (List.replicate n d.host) limit.patient
  intro outcome houtcome
  obtain ⟨i, hi, rfl⟩ := List.mem_iff_getElem.mp houtcome
  have hlength := hall.length_eq
  have hresolves := (List.forall₂_iff_get.mp hall).2 i (hlength ▸ hi) hi
  rw [List.get_eq_getElem, List.getElem_replicate] at hresolves
  exact hresolves

theorem issueAll_unlimited {failure : Failure} (h : TimeLimit.ofValue d.timeout = .error failure) :
    (d.issueAll resolver peers raw n).1
      = List.replicate n { verdict := .failed failure, lookups := {} } := by
  simp only [issueAll, h]

theorem issueAll_expired (h : TimeLimit.ofValue d.timeout = .ok .expired) :
    (d.issueAll resolver peers raw n).1
      = List.replicate n { verdict := .failed .waitExpired, lookups := {} } := by
  simp only [issueAll, h]

theorem issueAll_timed (resolver : Resolver) (peers : Nat → Peer) (raw : List UInt8) (n : Nat)
    {limit : TimeLimit} (h : TimeLimit.ofValue d.timeout = .ok limit)
    (hexpired : limit ≠ .expired) :
    ∃ lookups, (d.issueAll resolver peers raw n).1 =
      (d.addresses resolver n limit).mapIdx fun i address =>
        d.issue raw limit lookups address (peers i) := by
  cases limit with
  | expired => exact absurd rfl hexpired
  | _ =>
      simp only [issueAll, h, addresses]
      exact ⟨_, rfl⟩

/-- As many requests are issued as were asked for. -/
theorem length_issueAll : (d.issueAll resolver peers raw n).1.length = n := by
  cases htimed : TimeLimit.ofValue d.timeout with
  | error failure => rw [issueAll_unlimited htimed, List.length_replicate]
  | ok limit =>
      by_cases hexpired : limit = .expired
      · rw [issueAll_expired (hexpired ▸ htimed), List.length_replicate]
      · obtain ⟨lookups, hjournals⟩ := issueAll_timed resolver peers raw n htimed hexpired
        rw [hjournals, List.length_mapIdx, addresses, Resolver.length_resolveAll,
          List.length_replicate]

/-- Each request of a run is issued with what the host resolved to for it, or
not even started. -/
theorem issueAll_getElem? {i : Nat} {journal : Journal Reply}
    (h : (d.issueAll resolver peers raw n).1[i]? = some journal) :
    (∃ failure, journal = { verdict := .failed failure, lookups := {} })
      ∨ ∃ limit lookups outcome, TimeLimit.ofValue d.timeout = .ok limit ∧ limit ≠ .expired
        ∧ (d.addresses resolver n limit)[i]? = some outcome
        ∧ journal = d.issue raw limit lookups outcome (peers i) := by
  cases htimed : TimeLimit.ofValue d.timeout with
  | error failure =>
      rw [issueAll_unlimited htimed] at h
      exact .inl ⟨failure, List.eq_of_mem_replicate (List.mem_of_getElem? h)⟩
  | ok limit =>
      by_cases hexpired : limit = .expired
      · rw [issueAll_expired (hexpired ▸ htimed)] at h
        exact .inl ⟨.waitExpired, List.eq_of_mem_replicate (List.mem_of_getElem? h)⟩
      · obtain ⟨lookups, hjournals⟩ := issueAll_timed resolver peers raw n htimed hexpired
        rw [hjournals, List.getElem?_mapIdx] at h
        obtain ⟨outcome, houtcome, rfl⟩ := Option.map_eq_some_iff.mp h
        exact .inr ⟨limit, lookups, outcome, rfl, hexpired, houtcome, rfl⟩

theorem issued_of_mem {journal : Journal Reply}
    (h : journal ∈ (d.issueAll resolver peers raw n).1) : Dispatch.Issued journal := by
  obtain ⟨i, hi⟩ := List.mem_iff_getElem?.mp h
  obtain ⟨failure, rfl⟩ | ⟨limit, lookups, outcome, -, -, -, rfl⟩ := issueAll_getElem? hi
  · exact .unstarted failure
  · exact .issued ..

/-! ## A run -/

theorem setUp_eq_ok_iff {count : Value} {started : Log} :
    d.setUp count = .ok (n, raw, started)
      ↔ Dispatch.readCount count = .ok n ∧ d.rawRequest = .ok raw ∧ d.startLog n = .ok started := by
  constructor
  · intro h
    obtain ⟨m, hcount, h⟩ := bind_eq_ok h
    obtain ⟨bytes, hraw, h⟩ := bind_eq_ok h
    obtain ⟨log, hstart, h⟩ := bind_eq_ok h
    cases h
    exact ⟨hcount, hraw, hstart⟩
  · rintro ⟨hcount, hraw, hstart⟩
    simp only [setUp, bind, Except.bind, hcount, hraw, hstart]

/-- Once it is set up, a run is what its requests make of it. -/
theorem run_of_setUp (resolver : Resolver) (peers : Nat → Peer) {count : Value} {started : Log}
    (h : d.setUp count = .ok (n, raw, started)) :
    d.run resolver peers count = comesTo n (d.issueAll resolver peers raw n) started := by
  rw [run, h]

theorem run_of_setUp_error (resolver : Resolver) (peers : Nat → Peer) {count : Value}
    {failure : Failure} (h : d.setUp count = .error failure) :
    d.run resolver peers count = .failed failure := by
  rw [run, h]

/-- What requests have done that a run returns with. -/
theorem comesTo_eq_ok {issued : List (Journal Reply) × Lookups × Log} {started : Log}
    {report : RunReport} (h : comesTo n issued started = .ok report) :
    ∃ conclusions, report.journals = issued.1
      ∧ List.Forall₂ (fun journal concluded => conclusion journal = .ok concluded) report.journals
        conclusions
      ∧ report.progress = (Dispatch.Progress.start n).finishAll (conclusions.mapIdx (·, ·)) := by
  unfold comesTo at h
  split at h
  · cases h
  · split at h
    · cases h
    · rename_i conclusions hconclusions
      cases h
      exact ⟨conclusions, rfl, mapM_eq_ok.mp hconclusions, rfl⟩

/-- What a run that returns has done. -/
theorem run_eq_ok {count : Value} {report : RunReport}
    (h : d.run resolver peers count = .ok report) :
    ∃ n raw started conclusions, Dispatch.readCount count = .ok n ∧ d.rawRequest = .ok raw
      ∧ d.startLog n = .ok started ∧ report.journals = (d.issueAll resolver peers raw n).1
      ∧ List.Forall₂ (fun journal concluded => conclusion journal = .ok concluded) report.journals
        conclusions
      ∧ report.progress = (Dispatch.Progress.start n).finishAll (conclusions.mapIdx (·, ·)) := by
  cases hsetUp : d.setUp count with
  | error failure =>
      rw [run_of_setUp_error resolver peers hsetUp] at h
      cases h
  | ok set =>
      obtain ⟨n, raw, started⟩ := set
      rw [run_of_setUp resolver peers hsetUp] at h
      obtain ⟨hcount, hraw, hstart⟩ := setUp_eq_ok_iff.mp hsetUp
      obtain ⟨conclusions, hjournals, hconclusions, hprogress⟩ := comesTo_eq_ok h
      exact ⟨n, raw, started, conclusions, hcount, hraw, hstart, hjournals, hconclusions, hprogress⟩

end Dispatcher

end Courier
