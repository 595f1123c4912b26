import Courier.Proofs.Misreadings
import Courier.Proofs.ShownValues
import Courier.Proofs.SmallLetters
import Courier.Url.Parse

/-!
# How base URLs are read

A text is read as a base URL in three cuts, and each of them has a description here
that mentions no cutting: what is between the slashes and the path (`pieces_text`),
what is left of it without the user info (`HostPart`), and the host and the port
therein (`Split`). A base URL is read where all three succeed (`Cut`) and the port is a
number (`parse_eq_ok_iff`).

What is read is fit for use (`Url.Sound`). What is not read is mostly refused as
no base URL. There are two exceptions (`Unreported`): values of which a
message cannot even be written, and ports that are all digit signs but spell no
number. Nothing else goes wrong (`parse_settles_iff`).
-/

namespace Courier.Url

open Text

variable {url : Url} {s name authority rest host port tail : List Char} {given : Value} {c : Char}

/-! ## What stands between the slashes -/

/-- The mark ends an authority. -/
def endsAuthority (c : Char) : Bool := c == '/' || c == '?' || c == '#'

/-- The mark ends a path. -/
def endsPath (c : Char) : Bool := c == '?' || c == '#'

theorem endsAuthority_of_endsPath (h : endsPath c = true) : endsAuthority c = true := by
  simp only [endsPath, Bool.or_eq_true, beq_iff_eq] at h
  rcases h with rfl | rfl <;> rfl

theorem isMark_of_endsAuthority (h : endsAuthority c = true) : isMark c = true := by
  simp only [endsAuthority, Bool.or_eq_true, beq_iff_eq] at h
  rcases h with (rfl | rfl) | rfl <;> decide

/-- The authority and the path of a URL are cut at the mark between them. -/
theorem cut_of_pieces (h : (pieces s).authority = some authority) :
    (∀ c ∈ authority, endsAuthority c = false)
      ∧ (∀ c, (pieces s).path.head? = some c → endsAuthority c = true)
      ∧ ∀ c ∈ (pieces s).path, endsPath c = false := by
  unfold pieces at h ⊢
  dsimp only at h ⊢
  split at h
  · rename_i rest _
    obtain rfl := Option.some.inj h
    refine ⟨fun c hc => ?_, fun c hc => ?_, fun c hc => ?_⟩
    · have hkept := List.mem_takeWhile_imp hc
      simpa [endsAuthority] using hkept
    · rw [List.head?_takeWhile, Option.filter_eq_some_iff] at hc
      have hstop := List.head?_dropWhile_not (fun c => !endsAuthority c) rest
      have hstart : (rest.dropWhile fun c => !endsAuthority c).head? = some c := hc.1
      rw [hstart] at hstop
      simpa using hstop
    · have hkept := List.mem_takeWhile_imp hc
      simpa [endsPath] using hkept
  · cases h

/-- The name of a scheme is written in letters. -/
theorem scheme_letters (scheme : Scheme) :
    scheme.name.toList ≠ [] ∧ ∀ c ∈ scheme.name.toList, c.isAlpha = true := by
  cases scheme <;> exact ⟨by decide, List.all_eq_true.mp (by decide)⟩

theorem unmarked_of_isAlpha (h : c.isAlpha = true) : c ≠ ':' ∧ endsAuthority c = false := by
  refine ⟨?_, Bool.eq_false_iff.mpr fun hends => ?_⟩
  · rintro rfl
    cases h
  · simp only [endsAuthority, Bool.or_eq_true, beq_iff_eq] at hends
    rcases hends with (rfl | rfl) | rfl <;> cases h

/-- What is put together from a scheme, an authority and a path is cut there again. -/
theorem pieces_text (hname : name ≠ [] ∧ ∀ c ∈ name, c.isAlpha = true)
    (hauthority : ∀ c ∈ authority, endsAuthority c = false)
    (hrest : ∀ c, rest.head? = some c → endsAuthority c = true) :
    pieces (name ++ "://".toList ++ authority ++ rest)
      = ⟨name, some authority, rest.takeWhile fun c => !endsPath c⟩ := by
  have hname' : ∀ c ∈ name, (!(c == ':' || c == '/' || c == '?' || c == '#')) = true := by
    intro c hc
    obtain ⟨hcolon, hends⟩ := unmarked_of_isAlpha (hname.2 c hc)
    simp only [endsAuthority, Bool.or_eq_false_iff] at hends
    simp [hcolon, hends]
  have hauthority' : ∀ c ∈ authority, (!(c == '/' || c == '?' || c == '#')) = true := fun c hc => by
    simpa [endsAuthority] using hauthority c hc
  have hstop : ∀ c, rest.head? = some c → (!(c == '/' || c == '?' || c == '#')) = false :=
    fun c hc => by simpa only [endsAuthority, Bool.not_eq_false'] using hrest c hc
  have hcolon : ∀ c, ("://".toList ++ (authority ++ rest)).head? = some c →
      (!(c == ':' || c == '/' || c == '?' || c == '#')) = false := by
    rintro _ ⟨⟩
    rfl
  obtain ⟨htake, hdrop⟩ := span_append hname' hcolon
  obtain ⟨htake', hdrop'⟩ := span_append hauthority' hstop
  obtain ⟨first, more, rfl⟩ := List.exists_cons_of_ne_nil hname.1
  rw [List.append_assoc, List.append_assoc, pieces, htake, hdrop]
  simp only [String.reduceToList, List.cons_append, List.nil_append, htake', hdrop']
  rfl

/-! ## The host and the port -/

/-- The part of an authority that names the host: all of it, or what follows the first `@`. -/
inductive HostPart : List Char → List Char → Prop where
  | whole {part : List Char} (anonymous : '@' ∉ part) : HostPart part part
  | behind {user part : List Char} (first : '@' ∉ user) : HostPart (user ++ '@' :: part) part

theorem dropUserInfo_iff : dropUserInfo authority = rest ↔ HostPart authority rest := by
  constructor
  · rintro rfl
    unfold dropUserInfo
    split
    · rename_i hpart
      obtain ⟨rfl, hfirst⟩ := partitionAt_eq_some_iff.mp hpart
      exact .behind hfirst
    · rename_i hpart
      obtain ⟨rfl, hnone⟩ := partitionAt_eq_none_iff.mp hpart
      exact .whole hnone
  · rintro (hnone | hfirst)
    · rw [dropUserInfo, partitionAt_of_not_mem hnone]
    · rw [dropUserInfo, partitionAt_append hfirst]

theorem HostPart.sublist (h : HostPart authority rest) : rest.Sublist authority := by
  cases h with
  | whole anonymous => exact .refl _
  | behind first => exact (List.sublist_cons_self '@' rest).trans (List.sublist_append_right _ _)

/-- Of several `@` all but the first stay. -/
theorem HostPart.count (h : HostPart authority rest) :
    rest.count '@' = authority.count '@' - 1 := by
  cases h with
  | whole anonymous => rw [List.count_eq_zero_of_not_mem anonymous]
  | behind first =>
      rw [List.count_append, List.count_eq_zero_of_not_mem first, List.count_cons_self]
      omega

/-- What stands behind a host: nothing, or a colon and the port. -/
inductive PortTail : List Char → List Char → Prop where
  | absent : PortTail [] []
  | named (port : List Char) : PortTail (':' :: port) port

/-- How a host and a port stand in what names them: the host has brackets and no
closing one inside, or it holds no colon. -/
inductive Split : List Char → List Char → List Char → Prop where
  | bracketed {host tail port : List Char} (closed : ']' ∉ host) (named : PortTail tail port) :
      Split ('[' :: host ++ ']' :: tail) host port
  | plain {host tail port : List Char} (colon : ':' ∉ host) (opened : host.head? ≠ some '[')
      (named : PortTail tail port) : Split (host ++ tail) host port

theorem splitPort_unopened (h : authority.head? ≠ some '[') : splitPort authority
    = .ok ((partitionAt ':' authority).1, (partitionAt ':' authority).2.getD []) := by
  unfold splitPort
  split
  · exact absurd rfl h
  · split <;> (rename_i hpart; rw [hpart]; rfl)

theorem split_of_splitPort (h : splitPort authority = .ok (host, port)) :
    Split authority host port := by
  by_cases hopened : authority.head? = some '['
  · obtain ⟨inner, rfl⟩ := List.head?_eq_some_iff.mp hopened
    rw [splitPort] at h
    split at h
    · cases h
    · rename_i hpart
      cases h
      obtain ⟨rfl, hclosed⟩ := partitionAt_eq_some_iff.mp hpart
      exact .bracketed hclosed .absent
    · rename_i hpart
      cases h
      obtain ⟨rfl, hclosed⟩ := partitionAt_eq_some_iff.mp hpart
      exact .bracketed hclosed (.named port)
    · cases h
  · rw [splitPort_unopened hopened] at h
    cases hpart : partitionAt ':' authority with
    | mk front back =>
        rw [hpart] at h
        cases h
        cases back with
        | some back =>
            obtain ⟨rfl, hcolon⟩ := partitionAt_eq_some_iff.mp hpart
            refine .plain hcolon (fun hhead => hopened ?_) (.named back)
            rw [List.head?_append, hhead, Option.some_or]
        | none =>
            obtain ⟨rfl, hcolon⟩ := partitionAt_eq_none_iff.mp hpart
            have hsplit : Split (authority ++ []) authority [] := .plain hcolon hopened .absent
            rwa [List.append_nil] at hsplit

theorem splitPort_of_split (h : Split authority host port) :
    splitPort authority = .ok (host, port) := by
  cases h with
  | bracketed closed named => cases named <;> simp [splitPort, partitionAt_append closed]
  | plain colon opened named =>
      cases named with
      | absent =>
          rw [List.append_nil, splitPort_unopened opened, partitionAt_of_not_mem colon]
          rfl
      | named port =>
          have hunopened : (host ++ ':' :: port).head? ≠ some '[' := by
            cases host with
            | nil => nofun
            | cons first host => exact opened
          rw [splitPort_unopened hunopened, partitionAt_append colon]
          rfl

theorem splitPort_iff : splitPort authority = .ok (host, port) ↔ Split authority host port :=
  ⟨split_of_splitPort, splitPort_of_split⟩

theorem Split.sublist (h : Split rest host port) : host.Sublist rest := by
  cases h with
  | bracketed =>
      exact (List.sublist_cons_self '[' host).trans (List.sublist_append_left ('[' :: host) _)
  | plain => exact List.sublist_append_left _ _

theorem Split.count (h : Split rest host port) (hport : '@' ∉ port) :
    rest.count '@' = host.count '@' := by
  have htail : ∀ {tail : List Char}, PortTail tail port → tail.count '@' = 0 := by
    rintro _ (⟨⟩ | ⟨⟩)
    · rfl
    · rw [List.count_cons_of_ne (by decide), List.count_eq_zero_of_not_mem hport]
  cases h with
  | bracketed closed named =>
      rw [List.count_append, List.count_cons_of_ne (by decide), List.count_cons_of_ne (by decide),
        htail named, Nat.add_zero]
  | plain colon opened named => rw [List.count_append, htail named, Nat.add_zero]

/-- The number that a port's text stands for. -/
inductive PortNumber : List Char → Option Nat → Prop where
  | absent : PortNumber [] none
  | named {s : List Char} {n : Nat} (signs : allDigitSigns s = true)
      (number : Integer.ofText s = .ok n) (low : 0 < n) (high : n < 65536) :
      PortNumber s (some n)

theorem reject_ne_ok {α : Type} (given : Value) (fault : UrlFault) (a : α) :
    reject given fault ≠ .ok a := by
  unfold reject
  split <;> nofun

theorem readPort?_of_number {number : Option Nat} (h : PortNumber port number) (given : Value) :
    readPort? given port = .ok number := by
  cases h with
  | absent => rfl
  | named signs number low high =>
      have hnamed : port.isEmpty = false := by
        rw [List.isEmpty_eq_false_iff]
        exact (Response.isDigitSign_of_all signs).1
      rw [readPort?, hnamed, if_neg (by simp), readPort, if_pos signs, number]
      dsimp only
      rw [if_pos (by omega)]
      rfl

theorem readPort?_of_deceptive (h : Response.Deceptive port) (given : Value) :
    ∃ fault, readPort? given port = .error (.unacceptable fault) := by
  have hnamed : port.isEmpty = false := by
    rw [List.isEmpty_eq_false_iff]
    exact (Response.isDigitSign_of_all h.signs).1
  obtain ⟨fault, hfault⟩ := Response.ofText_of_deceptive h
  rw [readPort?, hnamed, if_neg (by simp), readPort, if_pos h.signs, hfault]
  exact ⟨fault, rfl⟩

/-- A port that is neither a number nor misread is refused. -/
theorem readPort?_refused (given : Value) (hnumber : ¬ ∃ number, PortNumber port number)
    (hdeceptive : ¬ Response.Deceptive port) :
    ∃ fault, readPort? given port = reject given fault := by
  have hsome : ∀ fault, (reject given fault : Except Failure Nat).map some
      = reject given fault := by
    intro fault
    unfold reject
    split <;> rfl
  unfold readPort? readPort
  split
  · rename_i hempty
    rw [List.isEmpty_iff.mp hempty] at hnumber
    exact absurd ⟨none, .absent⟩ hnumber
  · split
    · rename_i hsigns
      obtain ⟨n, hn⟩ := (Response.ofText_of_signs hsigns).resolve_right hdeceptive
      rw [hn]
      dsimp only
      split
      · rename_i hrange
        exact absurd ⟨some n, .named hsigns hn (by omega) (by omega)⟩ hnumber
      · exact ⟨_, hsome _⟩
    · exact ⟨_, hsome _⟩

/-! ## Whole texts -/

/-- The text is cut into a scheme, a host and the text of a port. -/
structure Cut (s : List Char) (scheme : Scheme) (authority host port : List Char) : Prop where
  known : Scheme.ofName? (lower (pieces (trim s)).scheme) = some scheme
  located : (pieces (trim s)).authority = some authority
  split : ∃ rest, HostPart authority rest ∧ Split rest host port
  named : host ≠ []

/-- The base URL that is put together from what a text is cut into. -/
def assembled (s : List Char) (scheme : Scheme) (host : List Char) (number : Option Nat) : Url where
  scheme
  host := String.ofList (lower host)
  port := number
  path := String.ofList (dropTrailing (· == '/') (pieces (trim s)).path)
  address := if isLiteral host then some (String.ofList host) else none

theorem Cut.parseText {scheme : Scheme} (h : Cut s scheme authority host port) (given : Value) :
    parseText given s = (readPort? given port).map (assembled s scheme host) := by
  obtain ⟨rest, hpart, hsplit⟩ := h.split
  have hauthority : authority ≠ [] := by
    obtain ⟨first, hfirst⟩ := List.exists_mem_of_ne_nil host h.named
    exact List.ne_nil_of_mem (hpart.sublist.subset (hsplit.sublist.subset hfirst))
  obtain ⟨a, authority, rfl⟩ := List.exists_cons_of_ne_nil hauthority
  obtain ⟨b, host, rfl⟩ := List.exists_cons_of_ne_nil h.named
  unfold Url.parseText
  simp only [h.known, h.located, dropUserInfo_iff.mpr hpart, splitPort_iff.mpr hsplit]
  rfl

/-- A text that is not cut is refused. -/
theorem parseText_of_not_cut (given : Value)
    (h : ¬ ∃ scheme authority host port, Cut s scheme authority host port) :
    ∃ fault, parseText given s = reject given fault := by
  unfold parseText
  dsimp only
  split
  · exact ⟨_, rfl⟩
  · exact ⟨_, rfl⟩
  · exact ⟨_, rfl⟩
  · rename_i scheme authority _ hscheme hauthority
    split
    · exact ⟨_, rfl⟩
    · exact ⟨_, rfl⟩
    · rename_i host port hnamed hsplit
      exact absurd ⟨scheme, authority, host, port, hscheme, hauthority,
        ⟨_, dropUserInfo_iff.mp rfl, splitPort_iff.mp hsplit⟩, fun hnil => hnamed (hnil ▸ rfl)⟩ h

theorem parseText_eq_ok_iff : parseText given s = .ok url ↔ ∃ scheme authority host port number,
    Cut s scheme authority host port ∧ PortNumber port number
      ∧ url = assembled s scheme host number := by
  constructor
  · intro h
    by_cases hcut : ∃ scheme authority host port, Cut s scheme authority host port
    · obtain ⟨scheme, authority, host, port, hcut⟩ := hcut
      rw [hcut.parseText] at h
      obtain ⟨number, hnumber, rfl⟩ := map_eq_ok h
      refine ⟨scheme, authority, host, port, number, hcut, ?_, rfl⟩
      by_contra hnone
      by_cases hdeceptive : Response.Deceptive port
      · obtain ⟨fault, hfault⟩ := readPort?_of_deceptive hdeceptive given
        cases hfault.symm.trans hnumber
      · have hothers : ¬ ∃ number, PortNumber port number := by
          rintro ⟨other, hother⟩
          cases (readPort?_of_number hother given).symm.trans hnumber
          exact hnone hother
        obtain ⟨fault, hrefused⟩ := readPort?_refused given hothers hdeceptive
        exact absurd (hrefused.symm.trans hnumber) (reject_ne_ok _ _ _)
    · obtain ⟨fault, hrefused⟩ := parseText_of_not_cut given hcut
      exact absurd (hrefused.symm.trans h) (reject_ne_ok _ _ _)
  · rintro ⟨scheme, authority, host, port, number, hcut, hnumber, rfl⟩
    rw [hcut.parseText, readPort?_of_number hnumber]
    rfl

theorem parse_of_no_text (h : ∀ s, given ≠ .text s) : parse given = reject given .notText := by
  unfold parse
  split
  · exact absurd rfl (h _)
  · rfl

theorem parse_eq_ok_iff : parse given = .ok url ↔ ∃ s scheme authority host port number,
    given = .text s ∧ Cut s.toList scheme authority host port ∧ PortNumber port number
      ∧ url = assembled s.toList scheme host number := by
  constructor
  · intro h
    by_cases htext : ∃ s, given = .text s
    · obtain ⟨s, rfl⟩ := htext
      obtain ⟨scheme, authority, host, port, number, hread⟩ := parseText_eq_ok_iff.mp h
      exact ⟨s, scheme, authority, host, port, number, rfl, hread⟩
    · rw [parse_of_no_text fun s hs => htext ⟨s, hs⟩] at h
      exact absurd h (reject_ne_ok _ _ _)
  · rintro ⟨s, scheme, authority, host, port, number, rfl, hread⟩
    exact parseText_eq_ok_iff.mpr ⟨scheme, authority, host, port, number, hread⟩

/-! ## What is read, and what is not -/

/-- A base URL that can be connected to and printed. -/
structure Sound (url : Url) : Prop where
  scheme : url.scheme.name = "http" ∨ url.scheme.name = "https"
  host : url.host ≠ ""
  port : ∀ port, url.port = some port → 1 ≤ port ∧ port ≤ 65535
  effective : 1 ≤ url.effectivePort ∧ url.effectivePort ≤ 65535
  rooted : ∀ c, url.path.toList.head? = some c → c = '/'
  trimmed : url.path.toList.getLast? ≠ some '/'
  bare : ∀ c ∈ url.path.toList, c ≠ '?' ∧ c ≠ '#'
  address : ∀ address, url.address = some address →
    isLiteral address.toList = true ∧ lower address.toList = url.host.toList

theorem defaultPort_range (scheme : Scheme) :
    1 ≤ scheme.defaultPort ∧ scheme.defaultPort ≤ 65535 := by
  cases scheme <;> decide

theorem PortNumber.range {number : Option Nat} (h : PortNumber port number) :
    ∀ n, number = some n → 1 ≤ n ∧ n ≤ 65535 := by
  cases h with
  | absent => nofun
  | named signs number low high =>
      rintro _ ⟨⟩
      omega

theorem path_assembled (s : List Char) (scheme : Scheme) (host : List Char) (number : Option Nat) :
    (assembled s scheme host number).path.toList
      = dropTrailing (· == '/') (pieces (trim s)).path := String.toList_ofList ..

theorem sound_assembled {scheme : Scheme} {number : Option Nat}
    (hcut : Cut s scheme authority host port) (hnumber : PortNumber port number) :
    (assembled s scheme host number).Sound := by
  obtain ⟨-, hstart, hends⟩ := cut_of_pieces hcut.located
  have hbare : ∀ c ∈ (assembled s scheme host number).path.toList, c ≠ '?' ∧ c ≠ '#' := by
    intro c hc
    rw [path_assembled] at hc
    simpa [endsPath] using hends c ((prefix_dropTrailing _ _).subset hc)
  constructor
  case scheme =>
    cases scheme
    · exact .inl rfl
    · exact .inr rfl
  case host =>
    intro hempty
    refine lower_ne_nil hcut.named ?_
    rw [← String.toList_ofList (l := lower host), ← String.toList_empty]
    exact congrArg String.toList hempty
  case port => exact hnumber.range
  case effective =>
    cases number with
    | none => exact defaultPort_range scheme
    | some n => exact hnumber.range n rfl
  case rooted =>
    intro c hc
    have hmarks := hbare c (List.mem_of_head? hc)
    rw [path_assembled] at hc
    have hend := hstart c (head?_of_dropTrailing hc)
    simp only [endsAuthority, Bool.or_eq_true, beq_iff_eq] at hend
    exact (hend.resolve_right hmarks.2).resolve_right hmarks.1
  case trimmed =>
    intro hlast
    rw [path_assembled] at hlast
    cases getLast?_dropTrailing hlast
  case bare => exact hbare
  case address =>
    intro address haddress
    unfold assembled at haddress
    dsimp only at haddress
    split at haddress
    · rename_i hliteral
      cases haddress
      rw [String.toList_ofList]
      exact ⟨hliteral, (String.toList_ofList ..).symm⟩
    · cases haddress

theorem sound_of_parse (h : parse given = .ok url) : url.Sound := by
  obtain ⟨s, scheme, authority, host, port, number, -, hcut, hnumber, rfl⟩ := parse_eq_ok_iff.mp h
  exact sound_assembled hcut hnumber

/-- A value that is neither read as a base URL nor refused as none: it is no text and
has no text, or it has a port of digit signs that spell no number. -/
inductive Unreported : Value → Prop where
  | unshown {v : Value} (unshown : v.Unshown Value.nestingLimit) : Unreported v
  | port {s : String} {scheme : Scheme} {authority host port : List Char}
      (cut : Cut s.toList scheme authority host port) (deceptive : Response.Deceptive port) :
      Unreported (.text s)

theorem reject_of_shown {α : Type} (h : ¬ given.Unshown Value.nestingLimit) (fault : UrlFault) :
    ∃ shown, (reject given fault : Except Failure α) = .error (.invalidUrl shown fault) := by
  unfold reject
  cases hshown : given.shownString with
  | ok shown => exact ⟨shown, rfl⟩
  | error failure => exact absurd (Value.shownWithin_fails_iff.mp ⟨failure, map_eq_error hshown⟩) h

theorem reject_of_unshown {α : Type} (h : given.Unshown Value.nestingLimit) (fault : UrlFault) :
    ∃ failure, (reject given fault : Except Failure α) = .error failure ∧ Unwritable failure := by
  obtain ⟨failure, hfailure⟩ := Value.shownWithin_fails_iff.mpr h
  have hshown : given.shownString = .error failure := by
    rw [Value.shownString, Value.shown, hfailure]
    rfl
  rw [reject, hshown]
  exact ⟨failure, rfl, Value.unwritable_shownWithin hfailure⟩

/-- Where nothing goes unreported, a value is read as a sound base URL or refused as none. -/
theorem settled_of_reported (h : ¬ Unreported given) :
    (∃ url, parse given = .ok url ∧ url.Sound)
      ∨ ∃ failure, parse given = .error failure ∧ failure.kind = .invalidUrl := by
  have hrefused : ∀ {fault}, parse given = reject given fault →
      ∃ failure, parse given = .error failure ∧ failure.kind = .invalidUrl := by
    intro fault hparse
    have hshown : ¬ given.Unshown Value.nestingLimit := fun hunshown => h (.unshown hunshown)
    obtain ⟨shown, hrejected⟩ := reject_of_shown hshown fault
    exact ⟨_, hparse.trans hrejected, rfl⟩
  by_cases htext : ∃ s, given = .text s
  · obtain ⟨s, rfl⟩ := htext
    by_cases hcut : ∃ scheme authority host port, Cut s.toList scheme authority host port
    · obtain ⟨scheme, authority, host, port, hcut⟩ := hcut
      have hparse : parse (.text s) = _ := hcut.parseText (.text s)
      by_cases hnumber : ∃ number, PortNumber port number
      · obtain ⟨number, hnumber⟩ := hnumber
        rw [readPort?_of_number hnumber] at hparse
        exact .inl ⟨_, hparse, sound_assembled hcut hnumber⟩
      · obtain ⟨fault, hfault⟩ := readPort?_refused (.text s) hnumber fun hdeceptive =>
          h (.port hcut hdeceptive)
        rw [hfault] at hparse
        have hrejected : parse (.text s) = reject (.text s) fault := by
          rw [hparse]
          unfold reject
          split <;> rfl
        exact .inr (hrefused hrejected)
    · obtain ⟨fault, hfault⟩ := parseText_of_not_cut (.text s) hcut
      exact .inr (hrefused hfault)
  · exact .inr (hrefused (parse_of_no_text fun s hs => htext ⟨s, hs⟩))

theorem parse_of_unreported (h : Unreported given) :
    ∃ failure, parse given = .error failure
      ∧ (failure.kind = .value ∨ failure.kind = .recursion) := by
  cases h with
  | unshown unshown =>
      have htext : ∀ s, given ≠ .text s := by
        rintro s rfl
        exact Value.not_unshown_text s unshown
      obtain ⟨failure, hfailure, hunwritable⟩ := reject_of_unshown unshown .notText
      exact ⟨failure, (parse_of_no_text htext).trans hfailure, hunwritable.kind⟩
  | @port s scheme authority host port cut deceptive =>
      obtain ⟨fault, hfault⟩ := readPort?_of_deceptive deceptive (.text s)
      have hparse : parse (.text s) = _ := cut.parseText (.text s)
      rw [hfault] at hparse
      exact ⟨_, hparse, .inl rfl⟩

/-- Reading a base URL gives one that is sound or a refusal, except where something goes
unreported: a value that cannot be shown, or a port of digit signs that are no number. -/
theorem parse_settles_iff (given : Value) :
    (((∃ url, parse given = .ok url ∧ url.Sound)
        ∨ ∃ failure, parse given = .error failure ∧ failure.kind = .invalidUrl)
      ↔ ¬ Unreported given)
    ∧ (Unreported given → ∃ failure, parse given = .error failure
      ∧ (failure.kind = .value ∨ failure.kind = .recursion)) := by
  refine ⟨⟨fun hsettled hunreported => ?_, settled_of_reported⟩, parse_of_unreported⟩
  obtain ⟨failure, hparse, hkind⟩ := parse_of_unreported hunreported
  rcases hsettled with ⟨url, hurl, -⟩ | ⟨other, hother, hinvalid⟩
  · cases hurl.symm.trans hparse
  · cases hother.symm.trans hparse
    rw [hinvalid] at hkind
    rcases hkind with h | h <;> cases h

/-- A raised digit is taken for a port, and then for no number: this goes unreported. -/
theorem raised_digit_unsettled : ¬ ((∃ url, parse (.text "http://h:²") = .ok url ∧ url.Sound)
    ∨ ∃ failure, parse (.text "http://h:²") = .error failure ∧ failure.kind = .invalidUrl) := by
  have hparse : parse (.text "http://h:²") = .error (.unacceptable (.integer 10 "'²'")) := by rfl
  rw [hparse]
  rintro (⟨url, h, -⟩ | ⟨failure, h, hkind⟩)
  · cases h
  · cases h
    cases hkind

end Courier.Url
