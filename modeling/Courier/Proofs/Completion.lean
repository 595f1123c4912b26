import Courier.Proofs.Accounts

/-!
# Runs that complete

A run is meant to return, with a line for each request and the summary behind
them, whatever the network does to any of its requests
(`RunReport.Complete`). It does so unless a request has a way out that is not
meant for it (`Dispatcher.Leaves`): a time limit that is none, a host that
cannot be looked up, or a number in its reply that is misread; or unless the
count is of no use (`Dispatcher.Escapes`).

Each request is judged on its own (`handled_of_issued`), so that the run fails
as soon as one of them leaves, whatever the others do. Carried to its end, a
request closes its connection unless it leaves (`Issued.closed_iff`).
-/

namespace Courier

/-- A peer that speaks keeps nobody waiting. -/
theorem meet_ne_waiting {peer : Peer} (hpeer : peer.Speaks) {data : List UInt8} {method : Value} :
    peer.meet (.ok data) method ≠ .waiting := by
  cases hpeer with
  | refuses network => simp [Peer.meet]
  | @accepts incoming sendFailure ends fails sends =>
      cases sendFailure with
      | some failure => simp [Peer.meet, Link.exchange]
      | none =>
          simp only [Peer.meet]
          rw [Link.exchange_eq rfl]
          have hblames := Response.blames_readReply method incoming
          generalize Response.readReply method incoming = outcome at hblames ⊢
          cases hblames with
          | done reply hending => simp [Outcome.verdict]
          | stream hexplains rest => simp [Outcome.verdict]
          | own hown rest => simp [Outcome.verdict]
          | waiting hsilence rest => exact absurd hsilence ends

/-! ## What a request that can be written tells of its target -/

/-- A value that counts as false has a text. -/
theorem Value.plainString_of_not_truthy {v : Value} (h : v.truthy = false) :
    ∃ text, v.plainString = .ok text := by
  cases v with
  | int i =>
      obtain rfl : i = 0 := by simpa [truthy] using h
      exact ⟨_, plainString_int (Text.Integer.lt_tenTo_digitLimit (by decide))⟩
  | list items =>
      obtain rfl : items = [] := by simpa [truthy] using h
      exact ⟨_, rfl⟩
  | tuple items =>
      obtain rfl : items = [] := by simpa [truthy] using h
      exact ⟨_, rfl⟩
  | set items =>
      obtain rfl : items = [] := by simpa [truthy] using h
      exact ⟨_, rfl⟩
  | map entries =>
      obtain rfl : entries = [] := by simpa [truthy] using h
      exact ⟨_, rfl⟩
  | object id => cases h
  | knot mapHalf => cases h
  | _ => exact ⟨_, rfl⟩

theorem Value.plainString_of_plain {v : Value} {text : List Char} (h : v.plain = .ok text) :
    ∃ text, v.plainString = .ok text := by
  rw [plainString, h]
  exact ⟨_, rfl⟩

/-- An authority that has a text is made of a host and a port that have one. -/
theorem plainString_of_authority {host port named : Value} {text : List Char}
    (h : authority host port = .ok named) (htext : named.plain = .ok text) :
    (∃ text, host.plainString = .ok text) ∧ ∃ text, port.plainString = .ok text := by
  obtain ⟨name, hname, h⟩ := bind_eq_ok h
  have hhost {text : List Char} (htext : name.plain = .ok text) :
      ∃ text, host.plainString = .ok text := by
    obtain ⟨colon, -, hname⟩ := bind_eq_ok hname
    cases colon with
    | true =>
        obtain ⟨inner, hinner, -⟩ := bind_eq_ok hname
        exact Value.plainString_of_plain hinner
    | false =>
        cases hname
        exact Value.plainString_of_plain htext
  cases hport : port.truthy with
  | true =>
      rw [if_pos hport] at h
      obtain ⟨outer, houter, h⟩ := bind_eq_ok h
      obtain ⟨digits, hdigits, -⟩ := bind_eq_ok h
      exact ⟨hhost houter, Value.plainString_of_plain hdigits⟩
  | false =>
      rw [hport, if_neg (by decide)] at h
      cases h
      exact ⟨hhost htext, Value.plainString_of_not_truthy hport⟩

namespace Dispatcher

variable {d : Dispatcher} {resolver : Resolver} {peers : Nat → Peer} {raw : List UInt8}
  {count : Value} {n i : Nat} {limit : TimeLimit} {peer : Peer} {journal : Journal Reply}

/-- The target of a run can be told of. -/
structure Written (d : Dispatcher) : Prop where
  host : ∃ text, d.host.plainString = .ok text
  port : ∃ text, d.port.plainString = .ok text
  path : ∃ text, d.path.plainString = .ok text

theorem written_of_rawRequest (h : d.rawRequest = .ok raw) : d.Written := by
  obtain ⟨headers, hheaders, h⟩ := bind_eq_ok h
  obtain ⟨named, hauthority, rfl⟩ := map_eq_ok hheaders
  obtain ⟨first, hfirst, h⟩ := bind_eq_ok h
  obtain ⟨lines, hlines, -⟩ := bind_eq_ok h
  obtain ⟨method, -, hfirst⟩ := bind_eq_ok hfirst
  obtain ⟨path, hpath, -⟩ := bind_eq_ok hfirst
  obtain ⟨host, hhost⟩ : ∃ host, named.plain = .ok host := by
    rw [List.mapM_cons] at hlines
    obtain ⟨line, hline, -⟩ := bind_eq_ok hlines
    obtain ⟨name, -, hline⟩ := bind_eq_ok hline
    obtain ⟨value, hvalue, -⟩ := bind_eq_ok hline
    exact ⟨value, hvalue⟩
  obtain ⟨hhost, hport⟩ := plainString_of_authority hauthority hhost
  exact ⟨hhost, hport, Value.plainString_of_plain hpath⟩

theorem Written.startLog (h : d.Written) {digits : String}
    (hdigits : (Value.int n).plainString = .ok digits) : ∃ started, d.startLog n = .ok started := by
  obtain ⟨⟨host, hhost⟩, ⟨port, hport⟩, ⟨path, hpath⟩⟩ := h
  unfold Dispatcher.startLog
  rw [hdigits, hhost, hport, hpath]
  exact ⟨_, rfl⟩

/-- Whatever the host resolves to can be dialed. -/
theorem Written.dialLog {own : Failure → Prop} {patient : Bool} {address : Value} (h : d.Written)
    (hresolves : Resolver.Resolves resolver own patient d.host (.ok address)) :
    ∃ log, Transport.dialLog address d.port = .ok log := by
  obtain ⟨port, hport⟩ := h.port
  have haddress : ∃ text, address.plainString = .ok text := by
    cases hresolves with
    | direct direct => exact h.host
    | found looked free address => exact ⟨_, rfl⟩
  obtain ⟨text, htext⟩ := haddress
  rw [Transport.dialLog, htext, hport]
  exact ⟨_, rfl⟩

/-! ## One request -/

/-- A request gets to dial: it has time, and its host resolves within it. -/
def Dials (d : Dispatcher) (resolver : Resolver) (n i : Nat) : Prop :=
  ∃ limit address, TimeLimit.ofValue d.timeout = .ok limit ∧ limit ≠ .expired
    ∧ (d.addresses resolver n limit)[i]? = some (.ok address)

/-- The ways out of the request at an index, of `n` ones, that are not meant for it. -/
inductive Leaves (d : Dispatcher) (resolver : Resolver) (n i : Nat) (peer : Peer) : Prop where
  | limit {failure : Failure} (refused : TimeLimit.ofValue d.timeout = .error failure)
  | host {limit : TimeLimit} {failure : Failure} (timed : TimeLimit.ofValue d.timeout = .ok limit)
      (lasts : limit ≠ .expired) (looked : resolver.isDirect d.host = false)
      (refused : Resolver.refusal? d.host = some failure)
  | reply {incoming : Stream} (dials : d.Dials resolver n i)
      (accepts : peer = .accepts incoming none)
      (misread : Response.Misread (.text "GET") incoming.bytes)

theorem refusal_not_handled {host : Value} {failure : Failure}
    (h : Resolver.refusal? host = some failure) (limit : TimeLimit) :
    ¬ (limit.bound (.failed failure)).concluded.Handled := by
  have hunhashable (type : String) :
      ¬ (limit.bound (.failed (.misuse (.unhashable type)))).concluded.Handled := by
    rw [handled_failed (by simp)]
    exact Failure.not_manageable rfl rfl
  unfold Resolver.refusal? at h
  split at h
  · cases h
  · cases h
    exact hunhashable _
  · rename_i fault hplain _
    cases h
    exact (Value.unwritable_plain hplain).not_handled limit
  · rename_i fault type hplain _
    cases h
    split
    · exact hunhashable _
    · exact (Value.unwritable_plain hplain).not_handled limit

/-- Without an address a request leaves if its host is refused. -/
theorem leaves_iff_of_unresolved {failure : Failure}
    (htimed : TimeLimit.ofValue d.timeout = .ok limit) (hlasts : limit ≠ .expired)
    (hat : (d.addresses resolver n limit)[i]? = some (.error failure)) :
    d.Leaves resolver n i peer ↔ resolver.isDirect d.host = false
      ∧ ∃ failure, Resolver.refusal? d.host = some failure := by
  constructor
  · rintro (⟨refused⟩ | ⟨-, -, looked, refused⟩ | ⟨⟨limit', address, htimed', -, hat'⟩, -, -⟩)
    · cases htimed.symm.trans refused
    · exact ⟨looked, _, refused⟩
    · cases htimed.symm.trans htimed'
      cases hat.symm.trans hat'
  · rintro ⟨looked, failure, refused⟩
    exact .host htimed hlasts looked refused

/-- With an address a request leaves if a number in its reply is misread. -/
theorem leaves_iff_of_resolved {address : Value}
    (htimed : TimeLimit.ofValue d.timeout = .ok limit) (hlasts : limit ≠ .expired)
    (hat : (d.addresses resolver n limit)[i]? = some (.ok address))
    (hfree : resolver.isDirect d.host = true ∨ Resolver.refusal? d.host = none) :
    d.Leaves resolver n i peer ↔ ∃ incoming, peer = .accepts incoming none
      ∧ Response.Misread (.text "GET") incoming.bytes := by
  constructor
  · rintro (⟨refused⟩ | ⟨-, -, looked, refused⟩ | ⟨-, accepts, misread⟩)
    · cases htimed.symm.trans refused
    · obtain direct | free := hfree
      · cases looked.symm.trans direct
      · cases free.symm.trans refused
    · exact ⟨_, accepts, misread⟩
  · rintro ⟨incoming, accepts, misread⟩
    exact .reply ⟨limit, address, htimed, hlasts, hat⟩ accepts misread

/-- A request that has time ends as it is meant to, unless it leaves. -/
theorem handled_issue {lookups : Lookups} {outcome : Except Failure Value} (hwritten : d.Written)
    (hpeer : peer.Speaks) (htimed : TimeLimit.ofValue d.timeout = .ok limit)
    (hlasts : limit ≠ .expired) (hat : (d.addresses resolver n limit)[i]? = some outcome)
    (hresolves : Resolver.Resolves resolver Failure.OfNetwork limit.patient d.host outcome) :
    (d.issue raw limit lookups outcome peer).verdict.concluded.Handled
      ↔ ¬ d.Leaves resolver n i peer := by
  rw [verdict_issue]
  cases outcome with
  | error failure =>
      rw [leaves_iff_of_unresolved htimed hlasts hat]
      cases hresolves with
      | refused looked refused =>
          exact iff_of_false (refusal_not_handled refused limit)
            (not_not_intro ⟨looked, failure, refused⟩)
      | failed looked free failed =>
          refine iff_of_true (failed.handled limit) ?_
          rintro ⟨-, cause, refused⟩
          cases free.symm.trans refused
      | calledOff looked free impatient =>
          simp only [TimeLimit.bound, impatient]
          refine iff_of_true (.failure rfl) ?_
          rintro ⟨-, cause, refused⟩
          cases free.symm.trans refused
  | ok address =>
      have hfree : resolver.isDirect d.host = true ∨ Resolver.refusal? d.host = none := by
        cases hresolves with
        | direct direct => exact .inl direct
        | found looked free address => exact .inr free
      obtain ⟨log, hdial⟩ := hwritten.dialLog hresolves
      simp only [hdial]
      rw [handled_meet_sent hpeer, leaves_iff_of_resolved htimed hlasts hat hfree]
      simp only [not_exists, not_and]

/-- Each request of a run ends as it is meant to, unless it leaves. -/
theorem handled_of_issued (hwritten : d.Written) (hresolver : resolver.Answers Failure.OfNetwork)
    (hpeer : (peers i).Speaks) (hat : (d.issueAll resolver peers raw n).1[i]? = some journal) :
    journal.verdict.concluded.Handled ↔ ¬ d.Leaves resolver n i (peers i) := by
  cases htimed : TimeLimit.ofValue d.timeout with
  | error failure =>
      rw [issueAll_unlimited htimed] at hat
      rw [List.eq_of_mem_replicate (List.mem_of_getElem? hat)]
      refine iff_of_false ?_ (not_not_intro (.limit htimed))
      rw [Verdict.concluded, handled_guarded]
      exact TimeLimit.not_manageable htimed
  | ok limit =>
      by_cases hexpired : limit = .expired
      · rw [issueAll_expired (hexpired ▸ htimed)] at hat
        rw [List.eq_of_mem_replicate (List.mem_of_getElem? hat)]
        refine iff_of_true (.failure rfl) ?_
        rintro (⟨refused⟩ | ⟨timed, lasts, -, -⟩ | ⟨⟨other, -, timed, lasts, -⟩, -, -⟩)
        · cases htimed.symm.trans refused
        · cases htimed.symm.trans timed
          exact lasts hexpired
        · cases htimed.symm.trans timed
          exact lasts hexpired
      · obtain ⟨lookups, hjournals⟩ := issueAll_timed resolver peers raw n htimed hexpired
        have hresolves := addresses_resolve (d := d) (n := n) hresolver limit
        rw [hjournals, List.getElem?_mapIdx] at hat
        obtain ⟨outcome, houtcome, rfl⟩ := Option.map_eq_some_iff.mp hat
        exact handled_issue hwritten hpeer htimed hexpired houtcome
          (hresolves outcome (List.mem_of_getElem? houtcome))

theorem bound_eq_waiting {α : Type} {verdict : Verdict α} (h : limit.bound verdict = .waiting) :
    verdict = .waiting := by
  cases verdict with
  | ok a => cases h
  | waiting => rfl
  | failed failure =>
      by_cases hcancelled : failure = .cancelled
      · subst hcancelled
        cases h
      · rw [TimeLimit.bound_failed hcancelled] at h
        exact h

/-- Nobody waits for ever who meets a peer that speaks. -/
theorem verdict_ne_waiting (hpeer : (peers i).Speaks)
    (hat : (d.issueAll resolver peers raw n).1[i]? = some journal) :
    journal.verdict ≠ .waiting := by
  obtain ⟨failure, rfl⟩ | ⟨limit, lookups, outcome, -, -, -, rfl⟩ := issueAll_getElem? hat
  · simp
  · rw [verdict_issue]
    intro hwaits
    have hinner := bound_eq_waiting hwaits
    split at hinner
    · cases hinner
    · split at hinner
      · cases hinner
      · exact meet_ne_waiting hpeer hinner

end Dispatcher

/-! ## The connections -/

/-- A connection is open until it is closed. -/
theorem closed_exchange_connectAt {lookups : Lookups} {destination : Destination} {address : Value}
    {peer : Peer} {data : List UInt8} {method : Value} {link : Link}
    (h : ((({} : Transport).connectAt lookups destination address peer).exchange (.ok data)
      method).link = some link) : link.closed = false := by
  simp only [Transport.connectAt] at h
  cases hdial : Transport.dialLog address destination.port with
  | error failure =>
      simp only [hdial] at h
      cases h
  | ok log =>
      simp only [hdial] at h
      cases peer with
      | refuses failure => cases h
      | neverAnswers => cases h
      | accepts incoming sendFailure =>
          have hlink : (Link.exchange { incoming, sendFailure } data method).2 = link :=
            Option.some.inj h
          rw [← hlink]
          unfold Link.exchange
          cases sendFailure with
          | some failure => rfl
          | none =>
              simp only [Link.read]
              split <;> rfl

namespace Dispatch

/-- The connection of a request is closed if and only if the request is told of. -/
theorem Issued.closed_iff {journal : Journal Reply} (h : Issued journal) {link : Link}
    (hlink : journal.link = some link) :
    link.closed = true ↔ ∃ concluded, Dispatcher.conclusion journal = .ok concluded := by
  refine ⟨fun hclosed => ?_, fun ⟨concluded, hconcluded⟩ => h.closed hconcluded hlink⟩
  cases h with
  | unstarted failure => cases hlink
  | issued d raw limit lookups address peer =>
      unfold Dispatcher.issue at hlink ⊢
      cases address with
      | error failure => cases hlink
      | ok address =>
          simp only at hlink ⊢
          split at hlink
          · rename_i concluded hconcluded
            exact ⟨concluded, by rwa [Dispatcher.conclusion, Client.verdict_release]⟩
          · have hopen := closed_exchange_connectAt hlink
            cases hopen.symm.trans hclosed

end Dispatch

/-! ## The whole run -/

/-- A run that has told of all its requests in order, and then of the final
counts. No connection is left open. -/
structure RunReport.Complete (report : RunReport) (n : Nat) : Prop where
  requested : report.progress.counters.requested = .int n
  total : report.progress.counters.total = n
  sum : report.progress.counters.succeeded + report.progress.counters.failed = n
  lines : ∃ texts : List String, texts.length = n ∧ report.progress.lines
    = texts.mapIdx Dispatch.Line.request ++ [.summary report.progress.counters.summary]
  journals : report.journals.length = n
  closed : ∀ journal ∈ report.journals, ∀ link, journal.link = some link → link.closed = true

namespace Dispatcher

variable {d : Dispatcher} {resolver : Resolver} {peers : Nat → Peer} {raw : List UInt8}
  {count : Value} {n : Nat} {journal : Journal Reply}

/-- The ways out of a run: its count is of no use, or one of its requests leaves. -/
inductive Escapes (d : Dispatcher) (resolver : Resolver) (peers : Nat → Peer) (count : Value) :
    Prop where
  | count {failure : Failure} (refused : Dispatch.readCount count = .error failure)
  | digits {n : Nat} {failure : Failure} (asked : Dispatch.readCount count = .ok n)
      (unwritable : (Value.int n).plainString = .error failure)
  | request {n i : Nat} (asked : Dispatch.readCount count = .ok n) (lt : i < n)
      (leaves : d.Leaves resolver n i (peers i))

theorem pos_of_readCount (h : Dispatch.readCount count = .ok n) : 1 ≤ n := by
  unfold Dispatch.readCount at h
  split at h
  · cases h
    split
    · omega
    · exact Nat.le_refl 1
  · split at h
    · cases h
      exact Nat.le_refl 1
    · cases h

/-- A request that leaves takes the run with it. -/
theorem escaping_of_leaves {i : Nat} (hwritten : d.Written)
    (hresolver : resolver.Answers Failure.OfNetwork) (hpeer : (peers i).Speaks) (hi : i < n)
    (h : d.Leaves resolver n i (peers i)) :
    ∃ failure, escaping (d.issueAll resolver peers raw n).1 = some failure := by
  obtain ⟨journal, hat⟩ : ∃ journal, (d.issueAll resolver peers raw n).1[i]? = some journal :=
    ⟨_, List.getElem?_eq_getElem (by rwa [length_issueAll])⟩
  have hunhandled : ¬ journal.verdict.concluded.Handled := fun hhandled =>
    (handled_of_issued hwritten hresolver hpeer hat).mp hhandled h
  have hends := verdict_ne_waiting hpeer hat
  obtain ⟨failure, hescapes⟩ : ∃ failure, conclusion journal = .error (some failure) := by
    rw [← conclusion_iff] at hunhandled
    unfold conclusion at hunhandled ⊢
    cases hverdict : journal.verdict with
    | waiting => exact absurd hverdict hends
    | ok reply =>
        rw [hverdict] at hunhandled
        exact absurd ⟨_, rfl⟩ hunhandled
    | failed failure =>
        rw [hverdict] at hunhandled
        by_cases htransport : failure.guarded.isTransport = true
        · simp only [if_pos htransport] at hunhandled
          exact absurd ⟨_, rfl⟩ hunhandled
        · exact ⟨failure.guarded, by simp only [if_neg htransport]⟩
  refine Option.isSome_iff_exists.mp (List.findSome?_isSome_iff.mpr ?_)
  exact ⟨journal, List.mem_of_getElem? hat, by rw [hescapes]; rfl⟩

/-- Requests none of which leaves all have a line. -/
theorem concluded_of_stays (hwritten : d.Written) (hresolver : resolver.Answers Failure.OfNetwork)
    (hpeers : ∀ i, (peers i).Speaks) (h : ∀ i < n, ¬ d.Leaves resolver n i (peers i)) :
    ∀ journal ∈ (d.issueAll resolver peers raw n).1,
      ∃ concluded, conclusion journal = .ok concluded := by
  intro journal hjournal
  obtain ⟨i, hi, hat⟩ := List.mem_iff_getElem.mp hjournal
  have hlt : i < n := by rwa [length_issueAll] at hi
  have hat' : (d.issueAll resolver peers raw n).1[i]? = some journal := by
    rw [List.getElem?_eq_getElem hi, hat]
  exact conclusion_iff.mpr ((handled_of_issued hwritten hresolver (hpeers i) hat').mpr (h i hlt))

theorem run_failed_of_escapes (hraw : d.rawRequest = .ok raw)
    (hresolver : resolver.Answers Failure.OfNetwork) (hpeers : ∀ i, (peers i).Speaks)
    (h : d.Escapes resolver peers count) :
    ∃ failure, d.run resolver peers count = .failed failure := by
  cases hsetUp : d.setUp count with
  | error failure => exact ⟨failure, run_of_setUp_error resolver peers hsetUp⟩
  | ok set =>
      obtain ⟨n, bytes, started⟩ := set
      obtain ⟨hcount, -, hstart⟩ := setUp_eq_ok_iff.mp hsetUp
      cases h with
      | count refused => cases hcount.symm.trans refused
      | digits asked unwritable =>
          cases hcount.symm.trans asked
          rw [startLog, unwritable] at hstart
          cases hstart
      | request asked lt leaves =>
          cases hcount.symm.trans asked
          obtain ⟨failure, hescaping⟩ :=
            escaping_of_leaves (written_of_rawRequest hraw) hresolver (hpeers _) lt leaves
          rw [run_of_setUp resolver peers hsetUp, comesTo, hescaping]
          exact ⟨failure, rfl⟩

/-- What is told of requests that have all ended is complete. -/
theorem complete_finishAll {report : RunReport} {conclusions : List Dispatch.Conclusion}
    (hn : 1 ≤ n) (hlength : report.journals.length = n)
    (hjournals : ∀ journal ∈ report.journals, Dispatch.Issued journal)
    (hconcluded : ∀ journal ∈ report.journals, ∃ concluded, conclusion journal = .ok concluded)
    (hconclusions : List.Forall₂ (fun journal concluded => conclusion journal = .ok concluded)
      report.journals conclusions)
    (hprogress : report.progress
      = (Dispatch.Progress.start n).finishAll (conclusions.mapIdx (·, ·))) :
    report.Complete n := by
  have hended : (conclusions.mapIdx (·, ·)).length = n := by
    rw [List.length_mapIdx, ← hconclusions.length_eq, hlength]
  obtain ⟨hcounters, hlines⟩ := Dispatch.finishAll_start hn _ (Nat.le_of_eq hended)
  rw [← hprogress] at hcounters hlines
  refine ⟨?_, ?_, ?_, ?_, hlength, fun journal hjournal link hlink => ?_⟩
  · rw [hcounters]
    rfl
  · rw [hcounters]
    exact hended
  · rw [hcounters, Dispatch.sum_ofEnded]
    exact hended
  · refine ⟨conclusions.map (·.text), ?_, ?_⟩
    · rw [List.length_map, ← hconclusions.length_eq, hlength]
    · rw [hlines, hcounters, Dispatch.summaryLines, if_pos hended]
      refine congrArg (· ++ _) (List.ext_getElem ?_ fun i hi hi' => ?_)
      · simp [Dispatch.requestLines]
      · simp [Dispatch.requestLines]
  · obtain ⟨concluded, hconcluded⟩ := hconcluded journal hjournal
    exact (hjournals journal hjournal).closed hconcluded hlink

theorem run_completes (hraw : d.rawRequest = .ok raw)
    (hresolver : resolver.Answers Failure.OfNetwork) (hpeers : ∀ i, (peers i).Speaks)
    (h : ¬ d.Escapes resolver peers count) :
    ∃ n report, Dispatch.readCount count = .ok n ∧ d.run resolver peers count = .ok report
      ∧ report.Complete n := by
  have hwritten := written_of_rawRequest hraw
  cases hcount : Dispatch.readCount count with
  | error failure => exact absurd (.count hcount) h
  | ok n =>
      cases hdigits : (Value.int n).plainString with
      | error failure => exact absurd (.digits hcount hdigits) h
      | ok digits =>
          obtain ⟨started, hstart⟩ := hwritten.startLog hdigits
          have hrun := run_of_setUp resolver peers (setUp_eq_ok_iff.mpr ⟨hcount, hraw, hstart⟩)
          have hconcluded : ∀ journal ∈ (d.issueAll resolver peers raw n).1,
              ∃ concluded, conclusion journal = .ok concluded :=
            concluded_of_stays hwritten hresolver hpeers fun i hi hleaves =>
              h (.request hcount hi hleaves)
          have hescaping : escaping (d.issueAll resolver peers raw n).1 = none := by
            refine List.findSome?_eq_none_iff.mpr fun journal hjournal => ?_
            obtain ⟨concluded, hok⟩ := hconcluded journal hjournal
            rw [hok]
          cases hconclusions : (d.issueAll resolver peers raw n).1.mapM conclusion with
          | error cause =>
              obtain ⟨journal, hjournal, herror⟩ := mapM_error hconclusions
              obtain ⟨concluded, hok⟩ := hconcluded journal hjournal
              cases hok.symm.trans herror
          | ok conclusions =>
              simp only [comesTo, hescaping, hconclusions] at hrun
              refine ⟨n, _, rfl, hrun, ?_⟩
              exact complete_finishAll (pos_of_readCount hcount) length_issueAll
                (fun journal hjournal => issued_of_mem hjournal) hconcluded
                (mapM_eq_ok.mp hconclusions) rfl

/-- A run whose request can be written returns in full if and only if there is
no way out of it, and fails otherwise. Each of its requests, carried to its
end, closes its connection unless it leaves. -/
theorem run_completes_iff (count : Value) (hraw : d.rawRequest = .ok raw)
    (hresolver : resolver.Answers Failure.OfNetwork) (hpeers : ∀ i, (peers i).Speaks) :
    ((∃ n report, Dispatch.readCount count = .ok n ∧ d.run resolver peers count = .ok report
        ∧ report.Complete n) ↔ ¬ d.Escapes resolver peers count)
      ∧ ((∃ failure, d.run resolver peers count = .failed failure)
        ↔ d.Escapes resolver peers count)
      ∧ ∀ n, ∀ i < n, ∃ journal, (d.issueAll resolver peers raw n).1[i]? = some journal
        ∧ ∀ link, journal.link = some link →
          (link.closed = true ↔ ¬ d.Leaves resolver n i (peers i)) := by
  refine ⟨⟨?_, ?_⟩, ⟨?_, ?_⟩, fun n i hi => ?_⟩
  · rintro ⟨n, report, -, hrun, -⟩ hescapes
    obtain ⟨failure, hfailed⟩ := run_failed_of_escapes hraw hresolver hpeers hescapes
    cases hrun.symm.trans hfailed
  · exact run_completes hraw hresolver hpeers
  · rintro ⟨failure, hfailed⟩
    by_contra hstays
    obtain ⟨n, report, -, hrun, -⟩ := run_completes hraw hresolver hpeers hstays
    cases hrun.symm.trans hfailed
  · exact run_failed_of_escapes hraw hresolver hpeers
  · have hlength : i < (d.issueAll resolver peers raw n).1.length := by
      rwa [length_issueAll]
    have hat := List.getElem?_eq_getElem hlength
    refine ⟨_, hat, fun link hlink => ?_⟩
    have hissued := issued_of_mem (List.mem_of_getElem? hat)
    rw [hissued.closed_iff hlink, conclusion_iff]
    exact handled_of_issued (written_of_rawRequest hraw) hresolver (hpeers i) hat

/-! ## Two runs -/

theorem rawRequest_loopback : ∃ raw, Dispatch.loopback.rawRequest = .ok raw := by
  have hauthority : authority (.text "localhost") (.int 8888) = .ok (.text "localhost:8888") := by
    have hport : (Value.int 8888).plain = .ok (Text.Integer.decimal 8888) :=
      Value.plain_int (Text.Integer.lt_tenTo_digitLimit (by decide))
    unfold authority
    rw [hport]
    rfl
  have hheaders : Dispatch.loopback.headers
      = .ok [(.text "Host", .text "localhost:8888"), (.text "Connection", .text "close")] := by
    unfold headers Dispatch.loopback
    rw [hauthority]
    rfl
  unfold rawRequest
  rw [hheaders]
  exact ⟨_, rfl⟩

/-- Servers that send a reply by the rules leave no way out of a run. -/
theorem not_escapes_inTwoChunks : ¬ Dispatch.loopback.Escapes .direct
    (fun _ => .sending Rendition.inTwoChunks.bytes) (.int 2) := by
  have hcount : Dispatch.readCount (.int 2) = .ok 2 := rfl
  rintro (⟨refused⟩ | ⟨asked, unwritable⟩ | ⟨-, -, leaves⟩)
  · cases hcount.symm.trans refused
  · cases hcount.symm.trans asked
    have hdigits := Value.plain_int (i := 2) (Text.Integer.lt_tenTo_digitLimit (by decide))
    cases hdigits.symm.trans (map_eq_error unwritable)
  · obtain refused | ⟨-, -, looked, -⟩ | ⟨-, accepts, misread⟩ := leaves
    · cases refused
    · cases looked
    · cases accepts
      exact Response.not_misread_inTwoChunks misread

/-- Both requests of such a run are told of. -/
theorem run_completes_iff_inTwoChunks :
    ∃ report, Dispatch.loopback.run .direct (fun _ => .sending Rendition.inTwoChunks.bytes) (.int 2)
        = .ok report
      ∧ report.Complete 2 := by
  obtain ⟨raw, hraw⟩ := rawRequest_loopback
  obtain ⟨hcompletes, -, -⟩ := run_completes_iff (.int 2) hraw Resolver.answers_direct
    fun _ => Peer.speaks_sending Rendition.inTwoChunks.bytes
  obtain ⟨n, report, hcount, hrun, hcomplete⟩ := hcompletes.mpr not_escapes_inTwoChunks
  cases hcount
  exact ⟨report, hrun, hcomplete⟩

/-- Of two servers the first sends a status that is no number, the second a good reply. -/
def misled (i : Nat) : Peer :=
  .sending (if i = 0 then Response.superscript else Rendition.inOneChunk.bytes)

/-- The first of them takes the whole run with it, with all that the second has sent. -/
theorem run_failed_superscript :
    (∃ raw, Dispatch.loopback.rawRequest = .ok raw) ∧ Resolver.direct.Answers Failure.OfNetwork
      ∧ (∀ i, (misled i).Speaks)
      ∧ ∃ failure, Dispatch.loopback.run .direct misled (.int 2) = .failed failure := by
  obtain ⟨raw, hraw⟩ := rawRequest_loopback
  have hpeers : ∀ i, (misled i).Speaks := fun i => Peer.speaks_sending _
  have hdials : Dispatch.loopback.Dials .direct 2 0 :=
    ⟨.unlimited, .text "localhost", rfl, by decide, rfl⟩
  refine ⟨⟨raw, hraw⟩, Resolver.answers_direct, hpeers, ?_⟩
  refine run_failed_of_escapes hraw Resolver.answers_direct hpeers
    (.request (n := 2) (i := 0) rfl (by decide) (.reply hdials rfl ?_))
  exact Response.misread_superscript (.text "GET")

end Dispatcher

end Courier
