import Courier.Proofs.BaseUrls

/-!
# Base URLs read from their texts

The text of a base URL is there to be read again. That succeeds where the URL is
`Legible`, and then in other spellings as well: with blanks around it, with letters
in another case, with a user, or with slashes and a query behind it
(`Spelling.Of.reads`). Canonical base URLs are legible.
-/

namespace Courier.Url

open Text

variable {url : Url} {host : List Char} {port : Option Nat} {c : Char}

/-! ## Authorities -/

/-- The text of a port: nothing if there is none. -/
def portDigits : Option Nat → List Char
  | some port => Integer.decimal port
  | none => []

theorem portTail_digits (port : Option Nat) : PortTail (portTail port) (portDigits port) := by
  cases port with
  | none => exact .absent
  | some port => exact .named _

theorem portNumber_digits (hrange : ∀ n, port = some n → 1 ≤ n ∧ n ≤ 65535) :
    PortNumber (portDigits port) port := by
  cases port with
  | none => exact .absent
  | some n =>
      obtain ⟨hlow, hhigh⟩ := hrange n rfl
      have hshort : n < tenTo digitLimit := Integer.lt_tenTo_digitLimit (by omega)
      rw [portDigits, Integer.decimal_natCast]
      exact .named (Integer.allDigitSigns_toDigits n) (Integer.ofText_toDigits hshort)
        (by omega) (by omega)

/-- A host that is written so that it can be told from what stands around it. -/
structure Separate (host : List Char) : Prop where
  closed : ':' ∈ host → ']' ∉ host
  opened : ':' ∉ host → host.head? ≠ some '['

theorem Separate.split (h : Separate host) (port : Option Nat) :
    Split (authorityOf host port) host (portDigits port) := by
  unfold authorityOf bracketed
  split
  · rename_i hcolon
    rw [List.append_assoc]
    exact .bracketed (h.closed (List.contains_iff_mem.mp hcolon)) (portTail_digits port)
  · rename_i hcolon
    have hplain : ':' ∉ host := fun hmem => hcolon (List.contains_iff_mem.mpr hmem)
    exact .plain hplain (h.opened hplain) (portTail_digits port)

theorem not_mem_authorityOf (h : '@' ∉ host) (port : Option Nat) : '@' ∉ authorityOf host port := by
  intro hmem
  rcases List.mem_append.mp hmem with hmem | hmem
  · rcases mem_bracketed hmem with hmem | ⟨hbracket, -⟩
    · exact h hmem
    · exact absurd hbracket (by decide)
  · exact absurd (mem_portTail hmem) (by decide)

theorem authorityOf_ne_nil (h : host ≠ []) (port : Option Nat) : authorityOf host port ≠ [] := by
  intro hnil
  have hbrackets := (List.append_eq_nil_iff.mp hnil).1
  unfold bracketed at hbrackets
  split at hbrackets
  · cases hbrackets
  · exact h hbrackets

theorem recased_authorityOf {shown : List Char} (h : Recased shown host) (port : Option Nat) :
    Recased (authorityOf shown port) (authorityOf host port) := by
  have hcolon : shown.contains ':' = host.contains ':' := by
    rw [Bool.eq_iff_iff, List.contains_iff_mem, List.contains_iff_mem]
    exact h.mem_iff rfl
  have hport : Recased (portTail port) (portTail port) := by
    refine recased_self fun c hc hcapital => ?_
    rcases mem_portTail hc with rfl | hdigit
    · exact absurd hcapital (by decide)
    · have hhigh : c.toNat ≤ 57 := by
        simp only [Char.isDigit, Bool.and_eq_true, decide_eq_true_eq] at hdigit
        exact hdigit.2
      omega
  refine Recased.append ?_ hport
  unfold bracketed
  rw [hcolon]
  split
  · have hopening : Recased ['['] ['['] := rfl
    exact (hopening.append h).append rfl
  · exact h

/-! ## Spellings -/

/-- How a base URL is written, when it is not just printed. -/
structure Spelling where
  lead : List Char := []
  scheme : List Char
  user : Option (List Char) := none
  host : List Char
  slashes : Nat := 0
  tail : List Char := []
  trail : List Char := []

namespace Spelling

variable {spelling : Spelling}

def userInfo (spelling : Spelling) : List Char :=
  match spelling.user with
  | some user => user ++ ['@']
  | none => []

/-- The base URL as it is written: with blanks around it, and with slashes and perhaps a
query behind its path. -/
def text (spelling : Spelling) (url : Url) : List Char :=
  spelling.lead
    ++ (spelling.scheme ++ "://".toList
      ++ (spelling.userInfo ++ authorityOf spelling.host url.port)
      ++ (url.path.toList ++ List.replicate spelling.slashes '/' ++ spelling.tail))
    ++ spelling.trail

/-- It is the base URL that is written. The letters of the scheme and the host
may have either case. -/
structure Of (spelling : Spelling) (url : Url) : Prop where
  lead : ∀ c ∈ spelling.lead, isBlank c = true
  scheme : Recased spelling.scheme url.scheme.name.toList
  user : ∀ user, spelling.user = some user → ∀ c ∈ user, c ≠ '@' ∧ endsAuthority c = false
  host : Recased spelling.host url.host.toList
  tail : ∀ c, spelling.tail.head? = some c → endsPath c = true
  trail : ∀ c ∈ spelling.trail, isBlank c = true

end Spelling

/-- A base URL that is read from its text again. -/
structure Legible (url : Url) : Prop where
  named : url.host.toList ≠ []
  small : ∀ c ∈ url.host.toList, Small c
  clean : ∀ c ∈ url.host.toList, endsAuthority c = false
  anonymous : '@' ∉ url.host.toList
  separate : Separate url.host.toList
  port : ∀ n, url.port = some n → 1 ≤ n ∧ n ≤ 65535
  rooted : ∀ c, url.path.toList.head? = some c → c = '/'
  bare : ∀ c ∈ url.path.toList, endsPath c = false
  trimmed : url.path.toList.getLast? ≠ some '/'
  solid : ∀ c, (url.authority ++ url.path.toList).getLast? = some c → isBlank c = false

namespace Spelling

variable {spelling : Spelling}

/-- The case of a host's letters has no part in where it ends. -/
theorem Of.separate (h : spelling.Of url) (hseparate : Separate url.host.toList) :
    Separate spelling.host where
  closed hcolon hclosing :=
    hseparate.closed ((h.host.mem_iff rfl).mp hcolon) ((h.host.mem_iff rfl).mp hclosing)
  opened hcolon hopening := by
    refine hseparate.opened (fun hmem => hcolon ((h.host.mem_iff rfl).mpr hmem)) ?_
    rw [h.host.head?, hopening]
    rfl

theorem Of.host_ne_nil (h : spelling.Of url) (hnamed : url.host.toList ≠ []) :
    spelling.host ≠ [] := by
  intro hnil
  have hhost := h.host
  rw [hnil] at hhost
  exact hnamed hhost.symm

theorem Of.scheme_ne_nil (h : spelling.Of url) : spelling.scheme ≠ [] := by
  intro hnil
  have hscheme := h.scheme
  rw [hnil] at hscheme
  revert hscheme
  cases url.scheme <;> nofun

theorem Of.scheme_letters (h : spelling.Of url) : ∀ c ∈ spelling.scheme, c.isAlpha = true := by
  intro c hc
  by_contra halpha
  rw [Bool.not_eq_true] at halpha
  rw [(Url.scheme_letters _).2 c ((h.scheme.mem_iff halpha).mp hc)] at halpha
  cases halpha

/-- What ends the front of a spelling stays: no blank stands there. -/
theorem Of.solid (h : spelling.Of url) (hlegible : url.Legible) :
    ∀ c, (authorityOf spelling.host url.port
      ++ (url.path.toList ++ List.replicate spelling.slashes '/')).getLast? = some c →
        isBlank c = false := by
  intro c hc
  rw [← List.append_assoc, List.getLast?_append] at hc
  cases hslashes : spelling.slashes with
  | succ slashes =>
      rw [hslashes, List.getLast?_replicate, if_neg (by omega)] at hc
      cases hc
      decide
  | zero =>
      rw [hslashes, List.replicate_zero, List.getLast?_nil, Option.none_or,
        List.getLast?_append] at hc
      have hsolid := hlegible.solid
      rw [List.getLast?_append, authority_eq,
        (recased_authorityOf h.host url.port).getLast?] at hsolid
      cases hpath : url.path.toList.getLast? with
      | some last =>
          rw [hpath] at hc hsolid
          exact hsolid c hc
      | none =>
          rw [hpath, Option.none_or] at hc hsolid
          rw [hc] at hsolid
          by_contra hblank
          rw [Bool.not_eq_false] at hblank
          have hsame : c.toLower = c := (toLower_eq_iff (isAlpha_of_isBlank hblank)).mpr rfl
          have hkept := hsolid c (congrArg some hsame)
          rw [hblank] at hkept
          cases hkept

/-- Of a spelling only the blanks around it are taken off, and those that end its query. -/
theorem Of.trim_text (h : spelling.Of url) (hlegible : url.Legible) :
    trim (spelling.text url)
      = spelling.scheme ++ "://".toList ++ (spelling.userInfo ++ authorityOf spelling.host url.port)
        ++ (url.path.toList ++ List.replicate spelling.slashes '/'
          ++ dropTrailing isBlank spelling.tail) := by
  have hnamed : authorityOf spelling.host url.port
      ++ (url.path.toList ++ List.replicate spelling.slashes '/') ≠ [] :=
    List.append_ne_nil_of_left_ne_nil (authorityOf_ne_nil (h.host_ne_nil hlegible.named) _) _
  have hkept : ∀ c, (spelling.scheme ++ "://".toList
      ++ (spelling.userInfo ++ authorityOf spelling.host url.port)
      ++ (url.path.toList ++ List.replicate spelling.slashes '/')).getLast? = some c →
        isBlank c = false := by
    intro c hc
    refine h.solid hlegible c ?_
    rw [← List.append_assoc _ spelling.userInfo, List.append_assoc,
      List.getLast?_append_of_ne_nil _ hnamed] at hc
    exact hc
  have hhead : ∀ c, (spelling.scheme ++ "://".toList
      ++ (spelling.userInfo ++ authorityOf spelling.host url.port)
      ++ (url.path.toList ++ List.replicate spelling.slashes '/' ++ spelling.tail)).head? = some c →
        isBlank c = false := by
    intro c hc
    obtain ⟨first, more, hfirst⟩ := List.exists_cons_of_ne_nil h.scheme_ne_nil
    rw [hfirst] at hc
    cases hc
    exact isBlank_of_isAlpha (h.scheme_letters c (hfirst ▸ List.mem_cons_self ..))
  rw [text, trim, trimBy_trail h.trail, trimBy_lead_kept h.lead hhead,
    ← List.append_assoc _ _ spelling.tail, dropTrailing_append hkept, List.append_assoc]

theorem Of.clean (h : spelling.Of url) (hlegible : url.Legible) :
    ∀ c ∈ spelling.userInfo ++ authorityOf spelling.host url.port, endsAuthority c = false := by
  have hhost : ∀ c ∈ spelling.host, endsAuthority c = false := by
    intro c hc
    by_contra hends
    rw [Bool.not_eq_false] at hends
    have hother : c.isAlpha = false := Bool.eq_false_iff.mpr fun hletter => by
      cases hends.symm.trans (unmarked_of_isAlpha hletter).2
    rw [hlegible.clean c ((h.host.mem_iff hother).mp hc)] at hends
    cases hends
  intro c hc
  rcases List.mem_append.mp hc with hc | hc
  · unfold userInfo at hc
    split at hc
    · rename_i user huser
      rcases List.mem_append.mp hc with hc | hc
      · exact (h.user user huser c hc).2
      · rw [List.mem_singleton.mp hc]
        rfl
    · cases hc
  · exact clean_authorityOf hhost _ c hc

theorem Of.pieces_text (h : spelling.Of url) (hlegible : url.Legible) :
    pieces (trim (spelling.text url))
      = ⟨spelling.scheme, some (spelling.userInfo ++ authorityOf spelling.host url.port),
        url.path.toList ++ List.replicate spelling.slashes '/'⟩ := by
  have htail : ∀ c, (dropTrailing isBlank spelling.tail).head? = some c → endsPath c = true :=
    fun c hc => h.tail c (head?_of_dropTrailing hc)
  have hrest : ∀ c, (url.path.toList ++ List.replicate spelling.slashes '/'
      ++ dropTrailing isBlank spelling.tail).head? = some c → endsAuthority c = true := by
    intro c hc
    rw [List.head?_append, List.head?_append, Option.or_eq_some_iff, Option.or_eq_some_iff] at hc
    rcases hc with (hc | ⟨-, hc⟩) | ⟨-, hc⟩
    · rw [hlegible.rooted c hc]
      rfl
    · rw [(List.mem_replicate.mp (List.mem_of_head? hc)).2]
      rfl
    · exact endsAuthority_of_endsPath (htail c hc)
  have hpath : ∀ c ∈ url.path.toList ++ List.replicate spelling.slashes '/',
      (!endsPath c) = true := by
    intro c hc
    rcases List.mem_append.mp hc with hc | hc
    · rw [hlegible.bare c hc]
      rfl
    · rw [(List.mem_replicate.mp hc).2]
      rfl
  rw [h.trim_text hlegible,
    Url.pieces_text ⟨h.scheme_ne_nil, h.scheme_letters⟩ (h.clean hlegible) hrest,
    (span_append hpath fun c hc => by rw [htail c hc]; rfl).1]

theorem Of.hostPart (h : spelling.Of url) (hlegible : url.Legible) :
    HostPart (spelling.userInfo ++ authorityOf spelling.host url.port)
      (authorityOf spelling.host url.port) := by
  unfold userInfo
  split
  · rename_i user huser
    rw [List.append_assoc]
    exact .behind fun hmem => (h.user user huser _ hmem).1 rfl
  · refine .whole (not_mem_authorityOf (fun hmem => ?_) _)
    exact hlegible.anonymous ((h.host.mem_iff rfl).mp hmem)

/-- However it is written, a legible base URL is read as what it is. -/
theorem Of.reads (h : spelling.Of url) (hlegible : url.Legible) :
    ∃ again, parse (.text (String.ofList (spelling.text url))) = .ok again
      ∧ again.same url = true := by
  have hpieces := h.pieces_text hlegible
  have hname : ∀ c ∈ url.scheme.name.toList, Small c := by
    have hsmall : lower url.scheme.name.toList = url.scheme.name.toList := by
      cases url.scheme <;> decide
    exact fun c hc => small_of_mem_lower (hsmall.symm ▸ hc)
  have hcut : Cut (spelling.text url) url.scheme
      (spelling.userInfo ++ authorityOf spelling.host url.port) spelling.host
      (portDigits url.port) := by
    refine ⟨?_, ?_, ⟨_, h.hostPart hlegible, (h.separate hlegible.separate).split _⟩,
      h.host_ne_nil hlegible.named⟩
    · rw [hpieces, h.scheme.lower_eq hname, Scheme.ofName?_name]
    · rw [hpieces]
  have hread : parseText (.text (String.ofList (spelling.text url))) (spelling.text url)
      = .ok (assembled (spelling.text url) url.scheme spelling.host url.port) :=
    parseText_eq_ok_iff.mpr ⟨_, _, _, _, _, hcut, portNumber_digits hlegible.port, rfl⟩
  have hpath : dropTrailing (· == '/') (url.path.toList ++ List.replicate spelling.slashes '/')
      = url.path.toList := by
    rw [dropTrailing_append, dropTrailing_eq_nil, List.append_nil]
    · intro c hc
      rw [(List.mem_replicate.mp hc).2]
      rfl
    · intro c hc
      refine beq_eq_false_iff_ne.mpr ?_
      rintro rfl
      exact hlegible.trimmed hc
  refine ⟨assembled (spelling.text url) url.scheme spelling.host url.port, ?_, ?_⟩
  · rw [parse, String.toList_ofList, hread]
  · simp only [same, assembled, h.host.lower_eq hlegible.small, hpieces, hpath,
      String.ofList_toList, beq_self_eq_true, Bool.and_self]

/-- The text of a base URL, as one of its spellings. -/
def printed (url : Url) : Spelling where
  scheme := url.scheme.name.toList
  host := url.host.toList

theorem text_printed (url : Url) : (printed url).text url = url.toText.toList := by
  simp only [text, printed, userInfo, toText, hostHeader, authority_eq, String.toList_append,
    String.toList_ofList, List.replicate_zero, List.nil_append, List.append_nil]

theorem printed_of (hsmall : ∀ c ∈ url.host.toList, Small c) : (printed url).Of url where
  lead := nofun
  scheme := by
    unfold printed
    cases url.scheme <;> rfl
  user := nofun
  host := .refl_of_small hsmall
  tail := nofun
  trail := nofun

end Spelling

theorem Legible.reads (h : url.Legible) :
    ∃ again, parse (.text url.toText) = .ok again ∧ again.same url = true := by
  have hread := (Spelling.printed_of h.small).reads h
  rwa [Spelling.text_printed, String.ofList_toList] at hread

/-! ## Canonical base URLs -/

/-- A base URL in its plain form: a host in lower case without blanks or marks other
than colons, a port in range, and a path that starts but does not end with a slash. -/
structure Canonical (url : Url) : Prop where
  named : url.host ≠ ""
  small : lower url.host.toList = url.host.toList
  clean : ∀ c ∈ url.host.toList, isBlank c = false ∧ c ∉ ['/', '?', '#', '@', '[', ']']
  port : ∀ n, url.port = some n → 1 ≤ n ∧ n ≤ 65535
  rooted : ∀ c, url.path.toList.head? = some c → c = '/'
  bare : ∀ c ∈ url.path.toList, c ≠ '?' ∧ c ≠ '#'
  ended : ∀ c, url.path.toList.getLast? = some c → c ≠ '/' ∧ isBlank c = false

theorem isBlank_of_mem_portTail (h : c ∈ portTail port) : isBlank c = false := by
  cases port with
  | none => cases h
  | some port =>
      rcases List.mem_cons.mp h with rfl | h
      · decide
      · rw [Integer.decimal_natCast] at h
        exact Integer.isBlank_of_mem_toDigits h

theorem Canonical.legible (h : url.Canonical) : url.Legible where
  named hnil := h.named (String.toList_eq_nil_iff.mp hnil)
  small c hc := small_of_mem_lower (h.small.symm ▸ hc)
  clean c hc := by
    have hmarks := (h.clean c hc).2
    simp only [List.mem_cons, List.not_mem_nil, or_false, not_or] at hmarks
    simp [endsAuthority, hmarks]
  anonymous hmem := (h.clean '@' hmem).2 (by decide)
  separate :=
    { closed := fun _ hmem => (h.clean ']' hmem).2 (by decide)
      opened := fun _ hhead => (h.clean '[' (List.mem_of_head? hhead)).2 (by decide) }
  port := h.port
  rooted := h.rooted
  bare c hc := by simpa [endsPath] using h.bare c hc
  trimmed hlast := (h.ended '/' hlast).1 rfl
  solid c hc := by
    rw [List.getLast?_append, Option.or_eq_some_iff] at hc
    rcases hc with hc | ⟨-, hc⟩
    · exact (h.ended c hc).2
    · rw [authority_eq] at hc
      rcases List.mem_append.mp (List.mem_of_getLast? hc) with hc | hc
      · rcases mem_bracketed hc with hc | ⟨rfl | rfl, -⟩
        · exact (h.clean c hc).1
        · decide
        · decide
      · exact isBlank_of_mem_portTail hc

/-- A canonical base URL is read from its text, and from every other spelling. -/
theorem reads_canonical (h : url.Canonical) :
    (∃ again, parse (.text url.toText) = .ok again ∧ again.same url = true)
      ∧ ∀ spelling : Spelling, spelling.Of url →
        ∃ again, parse (.text (String.ofList (spelling.text url))) = .ok again
          ∧ again.same url = true :=
  ⟨h.legible.reads, fun _ hspelling => hspelling.reads h.legible⟩

/-- A local address with the name of its link. -/
def linkLocal : Url where
  scheme := .https
  host := "fe80::1%é"
  port := some 8443
  path := "/a b"

/-- The address in another spelling, with a query that looks like a base URL. -/
def linkLocalSpelling : Spelling where
  lead := " \t".toList
  scheme := "HttpS".toList
  user := some "me:[pw]".toList
  host := "FE80::1%é".toList
  slashes := 2
  tail := "?at=http://x@y:1#/ ".toList
  trail := "\n".toList

theorem reads_linkLocal : linkLocal.Canonical ∧ linkLocalSpelling.Of linkLocal
    ∧ ∃ again, parse (.text (String.ofList (linkLocalSpelling.text linkLocal))) = .ok again
      ∧ again.same linkLocal = true := by
  have hcanonical : linkLocal.Canonical := by
    refine ⟨by decide, by decide +kernel, Response.forall_mem_of_all (by decide +kernel), ?_, ?_,
      Response.forall_mem_of_all (by decide), ?_⟩ <;> (rintro _ ⟨⟩; decide)
  have hspelling : linkLocalSpelling.Of linkLocal := by
    refine ⟨Response.forall_mem_of_all (by decide), by rfl, ?_, by rfl, ?_,
      Response.forall_mem_of_all (by decide)⟩
    · rintro _ ⟨⟩
      exact Response.forall_mem_of_all (by decide)
    · rintro _ ⟨⟩
      decide
  exact ⟨hcanonical, hspelling, (reads_canonical hcanonical).2 linkLocalSpelling hspelling⟩

end Courier.Url
