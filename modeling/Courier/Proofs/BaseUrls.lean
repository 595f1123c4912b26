import Courier.Proofs.UrlReads

/-!
# Base URLs and their texts

What a base URL says of the place it names can be found again in every text that
starts as its own text does. Whoever cuts such a text at its marks finds the host
and the port between `//` and the path (`Url.authority_pieces`), and whoever looks
for a port behind the last colon there finds the port of the URL, or none if it
has none (`Url.namedPort_authority`).

The first needs a host without marks. Where the host was read there are none, and
lower-casing it adds none (`Text.mem_lower`), so that every URL that was read is
tidy (`Url.tidy_of_parse`).
-/

namespace Courier

namespace Url

open Text

variable {url : Url} {authority tail : List Char} {given : Value} {c : Char}

/-! ## What stands between the slashes -/

/-- What stands behind the slashes is found there, whatever follows. -/
theorem authority_pieces (scheme : Scheme) (hauthority : ∀ c ∈ authority, endsAuthority c = false)
    (htail : ∀ c, tail.head? = some c → endsAuthority c = true) :
    (pieces (scheme.name.toList ++ "://".toList ++ authority ++ tail)).authority
      = some authority := by
  rw [pieces_text (scheme_letters scheme) hauthority htail]

/-- The host has none of the marks that end an authority, and the path starts with one. -/
structure Tidy (url : Url) : Prop where
  host : ∀ c ∈ url.host.toList, endsAuthority c = false
  path : ∀ c, url.path.toList.head? = some c → endsAuthority c = true

theorem tidy_of_parse (h : parse given = .ok url) : url.Tidy := by
  obtain ⟨s, scheme, authority, host, port, number, -, hcut, -, rfl⟩ := parse_eq_ok_iff.mp h
  obtain ⟨rest, hpart, hsplit⟩ := hcut.split
  obtain ⟨hclean, hstart, -⟩ := cut_of_pieces hcut.located
  constructor
  · intro c hc
    rw [assembled, String.toList_ofList] at hc
    by_contra hends
    rw [Bool.not_eq_false] at hends
    have hmem := (mem_lower (isMark_of_endsAuthority hends)).mp hc
    have hmark := hclean c (hpart.sublist.subset (hsplit.sublist.subset hmem))
    rw [hends] at hmark
    cases hmark
  · intro c hc
    rw [assembled, String.toList_ofList] at hc
    exact hstart c (head?_of_dropTrailing hc)

/-- A port as it stands behind a host. -/
def portTail : Option Nat → List Char
  | some port => ':' :: Integer.decimal port
  | none => []

/-- A host, in any case, with a port behind it. -/
def authorityOf (host : List Char) (port : Option Nat) : List Char :=
  bracketed host ++ portTail port

theorem authority_eq (url : Url) : url.authority = authorityOf url.host.toList url.port := by
  unfold authority authorityOf portTail
  cases url.port <;> rfl

theorem isDigit_of_mem_decimal {n : Nat} (h : c ∈ Integer.decimal n) : c.isDigit = true := by
  rw [Integer.decimal_natCast] at h
  exact Nat.isDigit_of_mem_toDigits (by decide) (by decide) h

theorem mem_portTail {port : Option Nat} (h : c ∈ portTail port) : c = ':' ∨ c.isDigit = true := by
  cases port with
  | none => cases h
  | some port => exact (List.mem_cons.mp h).imp id isDigit_of_mem_decimal

theorem mem_bracketed {host : List Char} (h : c ∈ bracketed host) :
    c ∈ host ∨ (c = '[' ∨ c = ']') ∧ ':' ∈ host := by
  unfold bracketed at h
  split at h
  · rename_i hcolon
    simp only [List.cons_append, List.mem_cons, List.mem_append, List.not_mem_nil, or_false] at h
    rcases h with rfl | h | rfl
    · exact .inr ⟨.inl rfl, List.contains_iff_mem.mp hcolon⟩
    · exact .inl h
    · exact .inr ⟨.inr rfl, List.contains_iff_mem.mp hcolon⟩
  · exact .inl h

theorem clean_authorityOf {host : List Char} (h : ∀ c ∈ host, endsAuthority c = false)
    (port : Option Nat) : ∀ c ∈ authorityOf host port, endsAuthority c = false := by
  intro c hc
  rcases List.mem_append.mp hc with hc | hc
  · rcases mem_bracketed hc with hc | ⟨rfl | rfl, -⟩
    · exact h c hc
    · rfl
    · rfl
  · by_contra hends
    simp only [Bool.not_eq_false, endsAuthority, Bool.or_eq_true, beq_iff_eq] at hends
    rcases hends with (rfl | rfl) | rfl <;> exact absurd (mem_portTail hc) (by decide)

theorem Tidy.clean (h : url.Tidy) : ∀ c ∈ url.authority, endsAuthority c = false := by
  rw [authority_eq]
  exact clean_authorityOf h.host _

/-! ## Ports behind colons -/

/-- The port that an authority names: the number behind a colon at its end. -/
def namedPort (authority : List Char) : Option Nat :=
  let digits := (authority.reverse.takeWhile isAsciiDigit).reverse
  match authority.reverse.dropWhile isAsciiDigit with
  | ':' :: _ =>
      if digits.isEmpty then none
      else some (Integer.ofDigits 10 (digits.filterMap Integer.asciiDigit?))
  | _ => none

theorem namedPort_colon (host : List Char) (port : Nat) :
    namedPort (host ++ ':' :: Integer.decimal port) = some port := by
  obtain ⟨values, hspells, hvalue⟩ : ∃ values,
      Integer.Spells Integer.asciiDigit? (Nat.toDigits 10 port) values
        ∧ Integer.ofDigits 10 values = port := Integer.spells_toDigits (by decide) (by decide) port
  have hdigits : ∀ c ∈ (Nat.toDigits 10 port).reverse, isAsciiDigit c = true := by
    intro c hc
    have hsome := hspells.isSome c (List.mem_reverse.mp hc)
    by_contra hnot
    rw [Integer.asciiDigit?, if_neg hnot] at hsome
    cases hsome
  have hback : (host ++ ':' :: Nat.toDigits 10 port).reverse
      = (Nat.toDigits 10 port).reverse ++ ':' :: host.reverse := by simp
  have hcolon : ∀ c, (':' :: host.reverse).head? = some c → isAsciiDigit c = false := by
    intro c hc
    cases hc
    rfl
  obtain ⟨htake, hdrop⟩ := span_append hdigits hcolon
  have hsome : (Nat.toDigits 10 port).isEmpty = false := by simp [Nat.toDigits_ne_nil]
  rw [Integer.decimal_natCast, namedPort]
  simp only [hback, htake, hdrop, List.reverse_reverse, hsome, hspells.filterMap, hvalue]
  rfl

/-- A host names no port: it holds no colon, or ends with a bracket. -/
theorem namedPort_bracketed (host : List Char) : namedPort (bracketed host) = none := by
  have hstop : ∀ c, ((bracketed host).reverse.dropWhile isAsciiDigit).head? = some c → c ≠ ':' := by
    intro c hc heq
    unfold bracketed at hc
    split at hc
    · have hbracket : isAsciiDigit ']' = false := by decide
      have hback : ('[' :: host ++ [']']).reverse = ']' :: ('[' :: host).reverse :=
        List.reverse_concat ..
      rw [hback, List.dropWhile_cons_of_neg (by simp [hbracket])] at hc
      cases hc
      cases heq
    · rename_i hnone
      have hmem := (List.dropWhile_suffix _).subset (List.mem_of_head? hc)
      exact hnone (List.contains_iff_mem.mpr (heq ▸ List.mem_reverse.mp hmem))
  unfold namedPort
  dsimp only
  split
  · rename_i rest hdrop
    exact absurd rfl (hstop ':' (by rw [hdrop]; rfl))
  · rfl

/-- The port that a URL has is found in its authority, and no other. -/
theorem namedPort_authority (url : Url) : namedPort url.authority = url.port := by
  unfold authority
  cases url.port with
  | none =>
      rw [List.append_nil]
      exact namedPort_bracketed _
  | some port => exact namedPort_colon _ _

end Url

end Courier
