import Courier.Proofs.Clients
import Courier.Proofs.UrlTexts

/-!
# Base URLs read again

A base URL that has been read need not be legible. There are three things that
garble its text (`Garbled`), and each of them keeps it from being read as the same
again (`rereads_iff`). For this direction it is enough that reading the text can only
lose characters, at the end and in front of an `@` (`Reread`): the host then has fewer
`@` than before, or is shorter, or has no end at all.
-/

namespace Courier.Url

open Text

variable {url : Url} {host : List Char} {port : Option Nat} {c : Char}

/-! ## Base URLs that were read -/

variable {given : Value} {again : Url}

/-- The text of the base URL says something else: it has a mark in its host that ends
the user info, or a host that opens a bracket and is not in brackets, or a blank end. -/
inductive Garbled (url : Url) : Prop where
  | marked (mark : '@' ∈ url.host.toList) : Garbled url
  | opened (bracket : url.host.toList.head? = some '[') (plain : ':' ∉ url.host.toList) :
      Garbled url
  | blank {c : Char} (last : url.toText.toList.getLast? = some c) (blank : isBlank c = true) :
      Garbled url

theorem named_of_parse (h : parse given = .ok url) : url.host.toList ≠ [] := fun hnil =>
  (sound_of_parse h).host (String.toList_eq_nil_iff.mp hnil)

theorem small_of_parse (h : parse given = .ok url) : ∀ c ∈ url.host.toList, Small c := by
  obtain ⟨s, scheme, authority, host, port, number, -, -, -, rfl⟩ := parse_eq_ok_iff.mp h
  intro c hc
  rw [assembled, String.toList_ofList] at hc
  exact small_of_mem_lower hc

/-- A host was in brackets if it holds a colon or opens a bracket, and then it closes none. -/
theorem closed_of_parse (h : parse given = .ok url)
    (hbrackets : ':' ∈ url.host.toList ∨ url.host.toList.head? = some '[') :
    ']' ∉ url.host.toList := by
  obtain ⟨s, scheme, authority, host, port, number, -, hcut, -, rfl⟩ := parse_eq_ok_iff.mp h
  obtain ⟨rest, -, hsplit⟩ := hcut.split
  rw [assembled, String.toList_ofList] at hbrackets ⊢
  rw [mem_lower (by decide)]
  rw [mem_lower (by decide)] at hbrackets
  cases hsplit with
  | bracketed closed named => exact closed
  | plain colon opened named =>
      exact absurd (hbrackets.resolve_left colon) fun hhead =>
        opened (head?_lower (by decide) hhead)

theorem toText_eq (url : Url) : url.toText.toList
    = url.scheme.name.toList ++ "://".toList ++ (url.authority ++ url.path.toList) := by
  simp only [toText, hostHeader, String.toList_append, String.toList_ofList, List.append_assoc]

theorem getLast?_toText (hnamed : url.host.toList ≠ []) :
    url.toText.toList.getLast? = (url.authority ++ url.path.toList).getLast? := by
  rw [toText_eq, List.getLast?_append_of_ne_nil]
  rw [authority_eq]
  exact List.append_ne_nil_of_left_ne_nil (authorityOf_ne_nil hnamed _) _

theorem legible_of_parse (h : parse given = .ok url) (hgarbled : ¬ url.Garbled) :
    url.Legible := by
  have hsound := sound_of_parse h
  have hnamed := named_of_parse h
  refine ⟨hnamed, small_of_parse h, (tidy_of_parse h).host, fun hmark => hgarbled (.marked hmark),
    ⟨fun hcolon => closed_of_parse h (.inl hcolon), fun hplain hbracket =>
      hgarbled (.opened hbracket hplain)⟩, hsound.port, hsound.rooted, ?_, hsound.trimmed, ?_⟩
  · intro c hc
    simpa [endsPath] using hsound.bare c hc
  · intro c hc
    by_contra hblank
    rw [Bool.not_eq_false] at hblank
    rw [← getLast?_toText hnamed] at hc
    exact hgarbled (.blank hc hblank)

/-- What is read from the text of a base URL: all of it but for the blanks at its end. -/
structure Reread (url again : Url) (kept path rest host port : List Char) : Prop where
  whole : kept ++ path = dropTrailing isBlank (url.authority ++ url.path.toList)
  front : kept <+: url.authority
  back : path <+: url.path.toList
  part : HostPart kept rest
  split : Split rest host port
  named : host ≠ []
  hosted : again.host.toList = lower host
  trimmed : again.path.toList = dropTrailing (· == '/') path

/-- Only the end of a base URL's text can be lost to the blanks around it. -/
theorem trim_toText (url : Url) : trim url.toText.toList
    = url.scheme.name.toList ++ "://".toList
      ++ dropTrailing isBlank (url.authority ++ url.path.toList) := by
  have hslash : ∀ c, (url.scheme.name.toList ++ "://".toList).getLast? = some c →
      isBlank c = false := by
    cases url.scheme <;> (rintro _ ⟨⟩; decide)
  have hlead : trim ([] ++ url.toText.toList) = dropTrailing isBlank url.toText.toList := by
    refine trimBy_lead_kept nofun ?_
    rw [toText_eq]
    cases url.scheme <;> (rintro _ ⟨⟩; decide)
  rw [List.nil_append] at hlead
  rw [hlead, toText_eq, dropTrailing_append hslash]

theorem prefixes_of_prefix {s front back : List Char} (h : s <+: front ++ back) :
    ∃ kept more, kept ++ more = s ∧ kept <+: front ∧ more <+: back := by
  rcases List.prefix_or_prefix_of_prefix h (List.prefix_append ..) with hshort | ⟨more, rfl⟩
  · exact ⟨s, [], List.append_nil _, hshort, List.nil_prefix⟩
  · exact ⟨front, more, rfl, List.prefix_rfl, (List.prefix_append_right_inj _).mp h⟩

theorem reread_of_parse (h : parse given = .ok url)
    (hagain : parse (.text url.toText) = .ok again) :
    ∃ kept path rest host port, Reread url again kept path rest host port := by
  have hsound := sound_of_parse h
  obtain ⟨kept, path, hwhole, hfront, hback⟩ :=
    prefixes_of_prefix (prefix_dropTrailing isBlank (url.authority ++ url.path.toList))
  have hclean : ∀ c ∈ kept, endsAuthority c = false := fun c hc =>
    (tidy_of_parse h).clean c (hfront.subset hc)
  have hhead : ∀ c, path.head? = some c → endsAuthority c = true := by
    intro c hc
    obtain ⟨more, hmore⟩ := hback
    refine (tidy_of_parse h).path c ?_
    rw [← hmore, List.head?_append, hc]
    rfl
  have hbare : path.takeWhile (fun c => !endsPath c) = path := by
    rw [List.takeWhile_eq_self_iff]
    intro c hc
    simpa [endsPath] using hsound.bare c (hback.subset hc)
  have hpieces : pieces (trim url.toText.toList) = ⟨url.scheme.name.toList, some kept, path⟩ := by
    rw [trim_toText, ← hwhole, ← List.append_assoc,
      Url.pieces_text (scheme_letters _) hclean hhead, hbare]
  obtain ⟨s, scheme, authority, host, port, number, hs, hcut, -, rfl⟩ := parse_eq_ok_iff.mp hagain
  cases hs
  obtain ⟨rest, hpart, hsplit⟩ := hcut.split
  have hlocated := hcut.located
  rw [hpieces] at hlocated
  cases hlocated
  refine ⟨kept, path, rest, host, port, hwhole, hfront, hback, hpart, hsplit, hcut.named, ?_, ?_⟩
  · rw [assembled, String.toList_ofList]
  · rw [assembled, String.toList_ofList, hpieces]

theorem count_authorityOf (host : List Char) (port : Option Nat) :
    (authorityOf host port).count '@' = host.count '@' := by
  have hport : (portTail port).count '@' = 0 :=
    List.count_eq_zero_of_not_mem fun hmem => absurd (mem_portTail hmem) (by decide)
  rw [authorityOf, List.count_append, hport, bracketed]
  split
  · simp
  · rfl

variable {kept path rest part number : List Char}

/-- An `@` in the host ends another part of the text that is read again. -/
theorem Reread.anonymous (h : Reread url again kept path rest part number)
    (hsame : again.host = url.host) : '@' ∉ url.host.toList := by
  intro hmark
  have hpos := List.count_pos_iff.mpr hmark
  have hread : part.count '@' = url.host.toList.count '@' := by
    rw [← hsame, h.hosted, count_lower (by decide)]
  have hpart := h.split.sublist.count_le '@'
  have hrest := h.part.count
  have hkept := h.front.sublist.count_le '@'
  rw [authority_eq, count_authorityOf] at hkept
  omega

/-- Where a host is found behind an opening bracket, the bracket is closed. -/
theorem Split.closes {s : List Char} (h : Split s part number) (hnamed : part ≠ [])
    (hopened : ∀ c, s.head? = some c → c = '[') : ']' ∈ s := by
  cases h with
  | bracketed closed named => exact List.mem_append_right _ (List.mem_cons_self ..)
  | plain colon opened named =>
      obtain ⟨first, more, rfl⟩ := List.exists_cons_of_ne_nil hnamed
      exact absurd (congrArg some (hopened first rfl)) opened

theorem Reread.rest_eq (h : Reread url again kept path rest part number)
    (hmark : '@' ∉ url.host.toList) : rest = kept := by
  have hkept : '@' ∉ kept := by
    intro hmem
    have hmem' := h.front.subset hmem
    rw [authority_eq] at hmem'
    exact not_mem_authorityOf hmark _ hmem'
  cases h.part with
  | whole anonymous => rfl
  | behind first => exact absurd (List.mem_append_right _ (List.mem_cons_self ..)) hkept

/-- A host that opens a bracket without being in brackets is not read again: the bracket
is never closed. -/
theorem Reread.unopened (h : Reread url again kept path rest part number)
    (hparse : parse given = .ok url) (hmark : '@' ∉ url.host.toList)
    (hplain : ':' ∉ url.host.toList) : url.host.toList.head? ≠ some '[' := by
  intro hbracket
  have hauthority : url.authority = url.host.toList ++ portTail url.port := by
    rw [authority_eq, authorityOf, bracketed, if_neg]
    exact fun hmem => hplain (List.contains_iff_mem.mp hmem)
  have hunclosed : ']' ∉ url.authority := by
    rw [hauthority]
    intro hmem
    rcases List.mem_append.mp hmem with hmem | hmem
    · exact closed_of_parse hparse (.inr hbracket) hmem
    · exact absurd (mem_portTail hmem) (by decide)
  have hopened : ∀ c, kept.head? = some c → c = '[' := by
    intro c hc
    obtain ⟨more, hmore⟩ := h.front
    have hhead : url.authority.head? = some c := by
      rw [← hmore, List.head?_append, hc]
      rfl
    rw [hauthority, List.head?_append, hbracket] at hhead
    exact (Option.some.inj hhead).symm
  have hsplit := h.split
  rw [h.rest_eq hmark] at hsplit
  exact hunclosed (h.front.subset (hsplit.closes h.named hopened))

/-- Only a host alone has a blank for its end. -/
theorem authority_of_blank (hlast : url.authority.getLast? = some c) (hblank : isBlank c = true) :
    url.authority = url.host.toList := by
  rw [authority_eq, authorityOf, List.getLast?_append] at hlast
  cases hport : (portTail url.port).getLast? with
  | some last =>
      rw [hport] at hlast
      cases hlast
      rw [isBlank_of_mem_portTail (List.mem_of_getLast? hport)] at hblank
      cases hblank
  | none =>
      rw [hport, Option.none_or] at hlast
      rw [authority_eq, authorityOf, List.getLast?_eq_none_iff.mp hport, List.append_nil]
      unfold bracketed at hlast ⊢
      split
      · rename_i hcolon
        rw [if_pos hcolon, List.getLast?_concat] at hlast
        cases hlast
        exact absurd hblank (by decide)
      · rfl

/-- A path that is the same after its slashes were dropped has lost nothing before. -/
theorem Reread.path_eq (h : Reread url again kept path rest part number)
    (hpath : again.path = url.path) : path = url.path.toList := by
  have htrimmed := h.trimmed
  rw [hpath] at htrimmed
  have hlength := (prefix_dropTrailing (· == '/') path).length_le
  rw [← htrimmed] at hlength
  exact h.back.eq_of_length (Nat.le_antisymm h.back.length_le hlength)

/-- A host that stands alone and is the same has lost nothing. -/
theorem Reread.length_le (h : Reread url again kept path rest part number)
    (hparse : parse given = .ok url) (hhost : again.host = url.host)
    (hauthority : url.authority = url.host.toList) : url.host.toList.length ≤ kept.length := by
  have hsmall : ∀ a ∈ part, Small a := by
    intro a ha
    have hkept := h.front.subset (h.part.sublist.subset (h.split.sublist.subset ha))
    rw [hauthority] at hkept
    exact small_of_parse hparse a hkept
  have hread : url.host.toList = part := by
    rw [← hhost, h.hosted, lower_eq_self hsmall]
  rw [hread]
  exact h.split.sublist.length_le.trans h.part.sublist.length_le

/-- What loses a blank at its end is no longer the same. -/
theorem Reread.solid (h : Reread url again kept path rest part number)
    (hparse : parse given = .ok url) (hhost : again.host = url.host)
    (hpath : again.path = url.path) (hlast : url.toText.toList.getLast? = some c) :
    isBlank c = false := by
  by_contra hblank
  rw [Bool.not_eq_false] at hblank
  rw [getLast?_toText (named_of_parse hparse)] at hlast
  have hstays : ∀ a, (kept ++ path).getLast? = some a → isBlank a = false := by
    rw [h.whole]
    exact fun a => getLast?_dropTrailing
  have hsame := h.path_eq hpath
  have hempty : url.path.toList = [] := by
    by_contra hpath
    rw [List.getLast?_append_of_ne_nil _ hpath] at hlast
    rw [hsame, List.getLast?_append_of_ne_nil _ hpath] at hstays
    rw [hstays c hlast] at hblank
    cases hblank
  rw [hempty, List.append_nil] at hlast
  have hauthority := authority_of_blank hlast hblank
  -- the host is all there is, and less of it is left
  have hshort : kept.length < url.host.toList.length := by
    rw [hsame, hempty, List.append_nil] at hstays
    have hfront := h.front
    rw [hauthority] at hfront hlast
    refine Nat.lt_of_le_of_ne hfront.length_le fun hlength => ?_
    rw [hfront.eq_of_length hlength] at hstays
    rw [hstays c hlast] at hblank
    cases hblank
  exact absurd (h.length_le hparse hhost hauthority) (Nat.not_le_of_lt hshort)

/-- A base URL is read from its text again exactly if the text is not garbled. -/
theorem rereads_iff (h : parse given = .ok url) :
    (∃ again, parse (.text url.toText) = .ok again ∧ again.same url = true) ↔ ¬ url.Garbled := by
  constructor
  · rintro ⟨again, hagain, hsame⟩ hgarbled
    simp only [same, Bool.and_eq_true, beq_iff_eq] at hsame
    obtain ⟨⟨⟨-, hhost⟩, -⟩, hpath⟩ := hsame
    obtain ⟨kept, path, rest, part, number, hreread⟩ := reread_of_parse h hagain
    have hanonymous := hreread.anonymous hhost
    cases hgarbled with
    | marked mark => exact hanonymous mark
    | opened bracket plain => exact hreread.unopened h hanonymous plain bracket
    | blank last blank =>
        rw [hreread.solid h hhost hpath last] at blank
        cases blank
  · exact fun hgarbled => (legible_of_parse h hgarbled).reads

theorem not_mem_of_portNumber {digits : List Char} (h : PortNumber digits port) : '@' ∉ digits := by
  cases h with
  | absent => nofun
  | named signs number low high =>
      intro hmem
      exact absurd ((Response.isDigitSign_of_all signs).2 '@' hmem) (by decide)

/-- A host has an `@` exactly if there is more than one in front of the path. -/
theorem marked_iff {s : String} (h : parse (.text s) = .ok url) : '@' ∈ url.host.toList
    ↔ 1 < ((pieces (trim s.toList)).authority.getD []).count '@' := by
  obtain ⟨_, scheme, authority, host, port, number, ⟨⟩, hcut, hnumber, rfl⟩ := parse_eq_ok_iff.mp h
  obtain ⟨rest, hpart, hsplit⟩ := hcut.split
  have hcount := hsplit.count (not_mem_of_portNumber hnumber)
  rw [hpart.count] at hcount
  rw [assembled, String.toList_ofList, mem_lower (by decide), ← List.count_pos_iff, ← hcount,
    hcut.located, Option.getD_some]
  omega

/-- A client made from the base URL of another one is bound to the same place, if the
base URL is read again. -/
theorem remakes_iff {format options : Value} {first : Client}
    (h : Client.make given format options = .ok first) :
    (∃ again, Client.make (.text first.baseUrl) format options = .ok again
        ∧ again.url.same first.url = true ∧ again.destination = first.destination)
      ↔ ¬ first.url.Garbled := by
  rw [← rereads_iff (Client.parse_of_make h)]
  constructor
  · rintro ⟨again, hmake, hsame, -⟩
    exact ⟨again.url, Client.parse_of_make hmake, hsame⟩
  · rintro ⟨again, hparse, hsame⟩
    obtain ⟨url, mode, entries, -, hmode, hentries, rfl⟩ := Client.make_iff.mp h
    obtain ⟨⟨⟨hscheme, hhost⟩, hport⟩, -⟩ :
        ((again.scheme = url.scheme ∧ again.host = url.host) ∧ again.port = url.port)
          ∧ again.path = url.path := by
      simpa only [same, Bool.and_eq_true, beq_iff_eq] using hsame
    have hoptions : Client.connectOptions again options = .ok entries := by
      rw [← hentries, Client.connectOptions, Client.connectOptions, hhost, hport]
    refine ⟨_, Client.make_iff.mpr ⟨again, mode, entries, hparse, hmode, hoptions, rfl⟩, hsame, ?_⟩
    simp only [Client.destination, effectivePort, secure, hscheme, hport]

/-- What is read from a base URL's text, and where a client goes that is made from it: the
same place, unless the text is garbled. Hosts with a part of the user info in them come
from texts with several `@`. -/
theorem reread_iff (h : parse given = .ok url) :
    ((∃ again, parse (.text url.toText) = .ok again ∧ again.same url = true) ↔ ¬ url.Garbled)
      ∧ (∀ format options first, Client.make given format options = .ok first →
        ((∃ again, Client.make (.text first.baseUrl) format options = .ok again
            ∧ again.url.same first.url = true ∧ again.destination = first.destination)
          ↔ ¬ url.Garbled))
      ∧ ∀ s, given = .text s → ('@' ∈ url.host.toList
        ↔ 1 < ((pieces (trim s.toList)).authority.getD []).count '@') := by
  refine ⟨rereads_iff h, fun format options first hmake => ?_, ?_⟩
  · cases h.symm.trans (Client.parse_of_make hmake)
    exact remakes_iff hmake
  · rintro s rfl
    exact marked_iff h

/-- The base URL of a server on this machine, by its address. -/
def local8080 : Url where
  scheme := .http
  host := "::1"
  port := some 8080
  path := "/a"
  address := some "::1"

theorem reread_local8080 : parse (.text " http://me@[::1]:8080/a// ") = .ok local8080
    ∧ ¬ local8080.Garbled ∧ ∃ again, parse (.text local8080.toText) = .ok again
      ∧ again.same local8080 = true := by
  have hparse : parse (.text " http://me@[::1]:8080/a// ") = .ok local8080 := by rfl
  have hgarbled : ¬ local8080.Garbled := by
    rintro (hmark | ⟨hbracket, -⟩ | ⟨⟨⟩, hblank⟩)
    · exact absurd hmark (by decide)
    · exact absurd hbracket (by decide)
    · exact absurd hblank (by decide)
  exact ⟨hparse, hgarbled, (reread_iff hparse).1.mpr hgarbled⟩

/-- Of two `@` the second one stays in the host, and another host is read from the text. -/
theorem second_at_garbles : ∃ url again, parse (.text "http://a@b@c/") = .ok url
    ∧ '@' ∈ url.host.toList ∧ parse (.text url.toText) = .ok again
    ∧ again.host = "c" ∧ again.same url = false := by
  refine ⟨⟨.http, "b@c", none, "", none⟩, ⟨.http, "c", none, "", none⟩, by rfl, by decide, by rfl,
    rfl, by decide⟩

end Courier.Url
