import Courier.Proofs.BaseUrls
import Courier.Proofs.Histories

/-!
# Where requests go, and where they say they go

A request says where it goes in two places, its URL and the header `Host`, and
both come from the base URL. Where it is sent is another matter: the host of the
connection comes from the base URL as well, but the port from the options, in
which the base URL has the last word only if it names a port.

So all agree on the host, and on whether to secure the connection. They agree on
the port if and only if the options do not divert from it
(`Client.request_aligned_iff`).
-/

namespace Courier.Client

open Text

variable {c first : Client} {history : List Operation} {call : Call} {request : Request}
  {baseUrl format options : Value}

/-! ## What a request says -/

theorem head?_callPath {v : Value} {path : List Char} {mark : Char} (h : callPath v = .ok path)
    (hmark : path.head? = some mark) : mark = '/' := by
  unfold callPath at h
  split at h
  · split at h
    · cases h
      cases hmark
    · cases h
      exact (Option.some.inj hmark).symm
    · cases h
      exact (Option.some.inj hmark).symm
  · split at h
    · split at h <;> cases h
    · cases h

/-- A target starts with the path of the base URL, or with a slash. -/
theorem head?_target {base path query : List Char} {mark : Char}
    (hbase : ∀ c, base.head? = some c → Url.endsAuthority c = true)
    (hpath : ∀ c, path.head? = some c → c = '/')
    (hmark : (target base path query).head? = some mark) : Url.endsAuthority mark = true := by
  unfold target at hmark
  rw [List.head?_append] at hmark
  split at hmark
  · cases hmark
    rfl
  · rename_i hwhole
    cases base with
    | cons c base => exact hbase mark hmark
    | nil =>
        cases path with
        | cons c path => exact hpath mark hmark ▸ rfl
        | nil => exact absurd rfl hwhole

theorem prefix_target (base path query : List Char) : base <+: target base path query := by
  unfold target
  split
  · rename_i hnothing
    rw [(List.append_eq_nil_iff.mp hnothing).1]
    exact List.nil_prefix
  · rw [List.append_assoc]
    exact List.prefix_append _ _

/-- The URL of a request is the base URL up to its path, and the target. -/
theorem url_of_build (h : c.build call = .ok request) :
    request.url.toList = c.url.scheme.name.toList ++ "://".toList ++ c.url.authority
        ++ request.target.toList := by
  obtain ⟨path, -, h⟩ := bind_eq_ok h
  obtain ⟨query, -, h⟩ := bind_eq_ok h
  obtain ⟨body, -, h⟩ := bind_eq_ok h
  obtain ⟨headers, -, h⟩ := bind_eq_ok h
  cases h
  have htarget : c.url.path.toList
      ++ (target c.url.path.toList path query).drop c.url.path.toList.length
      = target c.url.path.toList path query := List.prefix_iff_eq_append.mp (prefix_target _ _ _)
  simp only [baseUrl, Url.toText, Url.hostHeader, String.toList_append, String.toList_ofList]
  rw [List.append_assoc _ _ (List.drop _ _), htarget]

theorem authority_of_build (htidy : c.url.Tidy) (h : c.build call = .ok request) :
    (Url.pieces request.url.toList).authority = some c.url.authority := by
  obtain ⟨path, query, hpath, -, htarget⟩ := (built_of_build h).target
  rw [url_of_build h]
  refine Url.authority_pieces _ htidy.clean fun mark hmark => ?_
  rw [htarget] at hmark
  exact head?_target htidy.path (fun _ => head?_callPath hpath) hmark

/-! ## Where a request is sent -/

/-- The address that is dialed: the host has been resolved to it, and the log can
tell of it and of the port. -/
def dialedAt? (resolver : Resolver) (lookups : Lookups) (host port : Value) (patient : Bool) :
    Option Value :=
  match (resolver.resolve lookups host patient).1 with
  | .error _ => none
  | .ok address => (Transport.dialLog address port).toOption.map fun _ => address

/-- The address that is dialed for a call, if it has any time. -/
def dialed? (resolver : Resolver) (lookups : Lookups) (timeout host port : Value) : Option Value :=
  match TimeLimit.ofValue timeout with
  | .error _ => none
  | .ok limit =>
      if limit = .expired then none else dialedAt? resolver lookups host port limit.patient

theorem attempts_exchange (c : Client) (resolver : Resolver) (lookups : Lookups) (peer : Peer)
    (patient : Bool) (request : Request) :
    (c.exchange resolver lookups peer patient request).attempts
      = (dialedAt? resolver lookups c.destination.host c.destination.port patient).toList.map
          c.destination.attempt := by
  have hkept (approach : Approach) (data : Except Failure (List UInt8)) (method : Value) :
      (approach.exchange data method).attempts = approach.attempts := by
    unfold Approach.exchange
    split <;> rfl
  unfold exchange
  rw [hkept]
  unfold Transport.connect dialedAt?
  obtain ⟨outcome, lookups', log⟩ := resolver.resolve lookups c.destination.host patient
  cases outcome with
  | error failure => rfl
  | ok address =>
      simp only [Transport.connectAt]
      cases Transport.dialLog address c.destination.port <;> rfl

/-- A connection is attempted for a call that gets that far, once, and for no other. -/
theorem attempts_request (h : c.build call = .ok request) (resolver : Resolver)
    (lookups : Lookups) (peer : Peer) :
    (c.request resolver lookups peer call).attempts
      = (dialed? resolver lookups c.timeout c.destination.host c.destination.port).toList.map
          c.destination.attempt := by
  have hrelease (journal : Journal Reply) : journal.release.attempts = journal.attempts := by
    unfold Journal.release
    split <;> rfl
  have hexchange (limit : TimeLimit) :
      (c.conclude request.url
          ((c.exchange resolver lookups peer limit.patient request).bound limit).release).attempts
        = (dialedAt? resolver lookups c.destination.host c.destination.port
            limit.patient).toList.map c.destination.attempt :=
    (hrelease _).trans (attempts_exchange ..)
  unfold Client.request dialed?
  simp only [h, send]
  cases TimeLimit.ofValue c.timeout with
  | error failure => rfl
  | ok limit =>
      cases limit with
      | expired => rfl
      | unlimited | limited | immediate => exact hexchange _

/-- A host that is left to the system is dialed as it is. -/
theorem dialed?_direct {timeout : Value} (h : TimeLimit.ofValue timeout = .ok .limited)
    (lookups : Lookups) (host : String) (port : Nat) (hport : port < 10000) :
    dialed? .direct lookups timeout (.text host) (.int port) = some (.text host) := by
  have hresolve : (Resolver.direct.resolve lookups (.text host) true).1 = .ok (.text host) := rfl
  have htext : (Value.int port).plainString = .ok (String.ofList (Integer.decimal port)) :=
    Value.plainString_int (Text.Integer.lt_tenTo_digitLimit (by omega))
  have hpatient : TimeLimit.limited.patient = true := rfl
  rw [dialed?, h]
  simp only [dialedAt?, hpatient, hresolve, dialLog_text, htext]
  rfl

/-- The port of the connection: that of the base URL, else that of the options,
else the default one. -/
theorem port_of_make (h : make baseUrl format options = .ok first) : ∃ entries,
    options.putInto [] = .ok entries ∧ first.destination.port = match first.url.port with
      | some port => .int port
      | none => (entries.get? (.text "port")).getD (.int first.url.scheme.defaultPort) := by
  obtain ⟨url, mode, _, -, hoptions, rfl⟩ := make_eq h
  obtain ⟨entries, hgiven, rfl⟩ := map_eq_ok hoptions
  refine ⟨entries, hgiven, ?_⟩
  simp only [destination, Url.effectivePort]
  cases url.port with
  | none | some port =>
      simp only [Entries.get?_put_text]
      rfl

theorem destination_after (c : Client) (history : List Operation) :
    (c.after history).destination = c.destination := by
  obtain ⟨hurl, -, hoptions⟩ := origin_after c history
  rw [destination, destination, hurl, hoptions]

/-! ## What they agree on -/

/-- The options divert requests to another port than the base URL means. -/
def Diverted (url : Url) (options : Value) : Prop :=
  url.port = none ∧ ∃ entries port, options.putInto [] = .ok entries
    ∧ entries.get? (.text "port") = some port ∧ port ≠ .int url.scheme.defaultPort

theorem port_eq_iff (h : make baseUrl format options = .ok first) :
    first.destination.port
        = .int ((Url.namedPort first.url.hostHeader.toList).getD first.url.scheme.defaultPort)
      ↔ ¬ Diverted first.url options := by
  obtain ⟨entries, hentries, hport⟩ := port_of_make h
  rw [hport, Url.hostHeader, String.toList_ofList, Url.namedPort_authority]
  cases hnamed : first.url.port with
  | some port =>
      refine iff_of_true rfl fun hdiverted => ?_
      cases hnamed.symm.trans hdiverted.1
  | none =>
      have hdiverted : Diverted first.url options ↔ ∃ port,
          entries.get? (.text "port") = some port ∧ port ≠ .int first.url.scheme.defaultPort := by
        constructor
        · rintro ⟨-, found, port, hfound, hport⟩
          cases hentries.symm.trans hfound
          exact ⟨port, hport⟩
        · rintro ⟨port, hport⟩
          exact ⟨hnamed, entries, port, hentries, hport⟩
      rw [hdiverted]
      cases entries.get? (.text "port") with
      | none => simp
      | some port => simp

/-- Where nobody sets the header, it names the host of the base URL. -/
theorem topmost_host {body : Option (List UInt8)} {own : Entries Value Value}
    (hown : own.latest "Host" = none) (hstanding : standing history "Host" = none) :
    topmost first history body own "Host" = some (.text first.url.hostHeader) := by
  have hbody : ∀ data : List UInt8, (if "Host" = "Content-type" then
        some (Value.text first.format.contentType)
      else if "Host" = "Content-Length" then
        some (.text (String.ofList (Integer.decimal data.length)))
      else none) = none := fun _ => rfl
  rw [topmost, hown, hstanding]
  simp only [hbody, Option.bind_fun_none]
  rfl

/-- Whatever the options and the history, a request that goes out with the host of
the base URL is sent there, and it names the port that it is sent to, or means the
default one, unless the options divert it. -/
theorem request_aligned_iff (hmake : make baseUrl format options = .ok first)
    (hbuild : (first.after history).build call = .ok request)
    (hstanding : standing history "Host" = none)
    (hown : ∀ own, overrides call = .ok own → own.latest "Host" = none)
    (resolver : Resolver) (lookups : Lookups) (peer : Peer) :
    Url.parse baseUrl = .ok first.url
      ∧ request.headers.get? (.text "Host") = some (.text first.url.hostHeader)
      ∧ (Url.pieces request.url.toList).authority = some first.url.hostHeader.toList
      ∧ ((first.after history).request resolver lookups peer call).attempts
        = (dialed? resolver lookups first.timeout (.text first.url.host)
            first.destination.port).toList.map (fun address =>
          { address
            port := first.destination.port
            secure := first.url.scheme == .https
            serverName := if first.url.scheme = .https then .text first.url.host else .null })
      ∧ (first.destination.port
          = .int ((Url.namedPort first.url.hostHeader.toList).getD first.url.scheme.defaultPort)
        ↔ ¬ Diverted first.url options) := by
  have hparse := parse_of_make hmake
  obtain ⟨hurl, -, hoptions⟩ := origin_after first history
  refine ⟨hparse, ?_, ?_, ?_, port_eq_iff hmake⟩
  · obtain ⟨own, hset, -⟩ := layers_after hmake hbuild
    rw [get?_after hmake hbuild hset, topmost_host (hown own hset) hstanding]
  · have htidy : (first.after history).url.Tidy := hurl ▸ Url.tidy_of_parse hparse
    rw [authority_of_build htidy hbuild, hurl, Url.hostHeader, String.toList_ofList]
  · have htimeout : (first.after history).timeout = first.timeout := by
      rw [timeout, timeout, hoptions]
    have hhost : first.destination.host = .text first.url.host := (Constructed.made hmake).host
    rw [attempts_request hbuild, destination_after, htimeout, hhost]
    refine congrArg (List.map · _) (funext fun address => ?_)
    have hsecure : first.destination.secure = (first.url.scheme == .https) := rfl
    have hname : first.destination.name.truthy = false := rfl
    rw [Destination.attempt, hhost, hname, hsecure]
    cases first.url.scheme <;> rfl

theorem request_aligned_iff_loopback :
    ∃ request, make (.text "http://localhost:8888") (.text "json")
        (.map [(.text "timeout", .int 10)]) = .ok loopback
      ∧ (loopback.after reworked).build getRoot = .ok request
      ∧ standing reworked "Host" = none
      ∧ (∀ own, overrides getRoot = .ok own → own.latest "Host" = none)
      ∧ request.headers.get? (.text "Host") = some (.text "localhost:8888")
      ∧ (Url.pieces request.url.toList).authority = some "localhost:8888".toList
      ∧ ∀ peer, ((loopback.after reworked).request .direct {} peer getRoot).attempts
          = [{ address := .text "localhost", port := .int 8888, secure := false }] := by
  have hmake : make (.text "http://localhost:8888") (.text "json")
      (.map [(.text "timeout", .int 10)]) = .ok loopback := rfl
  obtain ⟨request, hbuild⟩ : ∃ request, (loopback.after reworked).build getRoot = .ok request :=
    ⟨_, rfl⟩
  have hstanding : standing reworked "Host" = none := by decide
  have hown : ∀ own, overrides getRoot = .ok own → own.latest "Host" = none := by
    intro own h
    cases h
    rfl
  have haligned := request_aligned_iff hmake hbuild hstanding hown .direct {}
  obtain ⟨-, hhost, hauthority, -⟩ := haligned .neverAnswers
  refine ⟨request, hmake, hbuild, hstanding, hown, hhost, hauthority, fun peer => ?_⟩
  obtain ⟨-, -, -, hattempts, hport⟩ := haligned peer
  have hdiverted : ¬ Diverted loopback.url (.map [(.text "timeout", .int 10)]) := by
    rintro ⟨hnone, -⟩
    cases hnone
  have hnamed : loopback.destination.port = .int 8888 := hport.mpr hdiverted
  have hdialed : dialed? .direct {} loopback.timeout (.text loopback.url.host) (.int 8888)
      = some (.text "localhost") := dialed?_direct ofValue_loopback _ _ 8888 (by decide)
  rw [hattempts, hnamed, hdialed]
  rfl

/-- Options with a port. -/
def withPort : Value := .map [(.text "port", .int 9999), (.text "timeout", .int 10)]

/-- A base URL without a port leaves the port of the options in force. -/
theorem not_aligned_withPort :
    ∃ c request, make (.text "http://localhost") (.text "json") withPort = .ok c
      ∧ c.build getRoot = .ok request
      ∧ request.headers.get? (.text "Host") = some (.text "localhost")
      ∧ (Url.pieces request.url.toList).authority = some "localhost".toList
      ∧ Url.namedPort "localhost".toList = none
      ∧ (∀ peer, (c.request .direct {} peer getRoot).attempts
          = [{ address := .text "localhost", port := .int 9999, secure := false }])
      ∧ c.url.scheme.defaultPort = 80 := by
  obtain ⟨c, request, hmake, hbuild, hhost, htimeout, hdestination, hurl⟩ :
      ∃ c request, make (.text "http://localhost") (.text "json") withPort = .ok c
        ∧ c.build getRoot = .ok request
        ∧ request.headers.get? (.text "Host") = some (.text "localhost")
        ∧ c.timeout = loopback.timeout
        ∧ c.destination
          = { host := .text "localhost", port := .int 9999, secure := false }
        ∧ c.url = { scheme := .http, host := "localhost", port := none, path := "" } :=
    ⟨_, _, rfl, rfl, rfl, rfl, rfl, rfl⟩
  have hauthority := authority_of_build (Url.tidy_of_parse (parse_of_make hmake)) hbuild
  have hdialed : dialed? .direct {} loopback.timeout (.text "localhost") (.int 9999)
      = some (.text "localhost") := dialed?_direct ofValue_loopback _ _ 9999 (by decide)
  refine ⟨c, request, hmake, hbuild, hhost, ?_, by decide, fun peer => ?_, ?_⟩
  · rw [hauthority, hurl]
    rfl
  · rw [attempts_request hbuild, htimeout, hdestination, hdialed]
    rfl
  · rw [hurl]
    rfl

end Courier.Client
