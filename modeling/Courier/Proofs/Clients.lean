import Courier.Client.Request
import Courier.Proofs.Borders
import Courier.Proofs.Keys

/-!
# Clients as they come

A client is made, and then gets and loses headers, a token and its wish to
log (`Client.Constructed`). Whatever the options that it was made with, it
connects to the host of its base URL (`Client.Constructed.host`).
-/

namespace Courier.Client

/-- A client that was made, and may have been changed since. -/
inductive Constructed : Client → Prop where
  | made {baseUrl format options : Value} {c : Client}
      (h : make baseUrl format options = .ok c) : Constructed c
  | header {c next : Client} {name value : Value} (before : Constructed c)
      (h : c.addHeader name value = .ok next) : Constructed next
  | noHeader {c next : Client} {name : Value} (before : Constructed c)
      (h : c.removeHeader name = .ok next) : Constructed next
  | token {c : Client} (before : Constructed c) (token : Value) : Constructed (c.setToken token)
  | debug {c : Client} (before : Constructed c) (debug : Value) : Constructed (c.setDebug debug)

/-- The base URL has the last word on the host. -/
theorem host_connectOptions {url : Url} {given : Value} {options : Entries Value Value}
    (h : connectOptions url given = .ok options) :
    options.get? (.text "host") = some (.text url.host) := by
  unfold connectOptions at h
  cases hgiven : given.putInto [] with
  | error failure =>
      rw [hgiven] at h
      cases h
  | ok entries =>
      rw [hgiven] at h
      have hhost : (entries.put (.text "host") (.text url.host)).get? (.text "host")
          = some (.text url.host) := Entries.get?_put_self (Value.beq_text.mpr rfl) _ _
      cases hport : url.port with
      | none =>
          simp only [hport, Except.map] at h
          cases h
          exact hhost
      | some port =>
          simp only [hport, Except.map] at h
          cases h
          have hother : ∀ k : Value, (k == .text "host") = true → (k == .text "port") = false := by
            intro k hk
            rw [Value.beq_text.mp hk]
            rfl
          rw [Entries.get?_put_of_ne hother rfl]
          exact hhost

/-- A client is made of what its base URL, its format and its options are read as. -/
theorem make_iff {baseUrl format options : Value} {c : Client} :
    make baseUrl format options = .ok c ↔ ∃ url mode entries, Url.parse baseUrl = .ok url
      ∧ BodyFormat.ofValue format = .ok mode ∧ connectOptions url options = .ok entries
      ∧ c = { url, format := mode, options := entries } := by
  constructor
  · intro h
    obtain ⟨url, hurl, h⟩ := bind_eq_ok h
    obtain ⟨mode, hmode, h⟩ := bind_eq_ok h
    obtain ⟨entries, hentries, h⟩ := bind_eq_ok h
    cases h
    exact ⟨url, mode, entries, hurl, hmode, hentries, rfl⟩
  · rintro ⟨url, mode, entries, hurl, hmode, hentries, rfl⟩
    rw [make, hurl, hmode]
    simp only [bind, Except.bind, hentries]

theorem make_eq {baseUrl format options : Value} {c : Client}
    (h : make baseUrl format options = .ok c) :
    ∃ url mode entries, Url.parse baseUrl = .ok url ∧ connectOptions url options = .ok entries
      ∧ c = { url, format := mode, options := entries } := by
  obtain ⟨url, mode, entries, hurl, -, hentries, rfl⟩ := make_iff.mp h
  exact ⟨url, mode, entries, hurl, hentries, rfl⟩

theorem parse_of_make {baseUrl format options : Value} {c : Client}
    (h : make baseUrl format options = .ok c) : Url.parse baseUrl = .ok c.url := by
  obtain ⟨url, mode, entries, hparse, -, rfl⟩ := make_eq h
  exact hparse

theorem addHeader_eq {c next : Client} {name value : Value}
    (h : c.addHeader name value = .ok next) : ∃ headers, next = { c with headers } := by
  unfold addHeader at h
  split at h
  · cases h
  · cases h
    exact ⟨_, rfl⟩

theorem removeHeader_eq {c next : Client} {name : Value}
    (h : c.removeHeader name = .ok next) : ∃ headers, next = { c with headers } := by
  unfold removeHeader at h
  split at h
  · cases h
    exact ⟨_, rfl⟩
  · split at h
    · cases h
    · cases h
      exact ⟨_, rfl⟩

namespace Constructed

variable {c : Client}

theorem options_host (h : Constructed c) :
    c.options.get? (.text "host") = some (.text c.url.host) := by
  induction h with
  | made h =>
      obtain ⟨url, mode, options, -, hoptions, rfl⟩ := make_eq h
      exact host_connectOptions hoptions
  | header before h ih =>
      obtain ⟨headers, rfl⟩ := addHeader_eq h
      exact ih
  | noHeader before h ih =>
      obtain ⟨headers, rfl⟩ := removeHeader_eq h
      exact ih
  | token before token ih => exact ih
  | debug before debug ih => exact ih

/-- Requests go to the host of the base URL. -/
theorem host (h : Constructed c) : c.destination.host = .text c.url.host := by
  rw [destination, h.options_host]
  rfl

end Constructed

end Courier.Client
