import Courier.Proofs.Keys
import Courier.Proofs.Misreadings
import Courier.Proofs.Separators
import Courier.Proofs.SmallLetters
import Courier.Transport

/-!
# Which framing is chosen

By the letter, a body comes in chunks if the chunked coding is one of the listed
transfer codings, else it has the length that the headers spell in ASCII digits, and
else it goes on up to the end of the data (`Framing.Due`). What is chosen is due, but for
two kinds of headers (`Misframed`): a coding that is not the chunked one may hold its
name, and a length may be of digit signs that spell no number.

With headers of one byte a character there are no other kinds (`framing_due_iff`): small
letters are then a matter of single characters (`lower_latin`), and a decimal digit is
one of ASCII (`isAsciiDigit_of_digit`). A length is never negative, whatever the headers.
-/

namespace Courier

namespace Text

variable {c : Char} {s : List Char}

/-- The character is a single byte of Latin-1. -/
def IsLatin (c : Char) : Prop := c.toNat < 256

instance : DecidablePred IsLatin := fun c => inferInstanceAs (Decidable (c.toNat < 256))

theorem lowerFrom_latin : ∀ {s before done : List Char}, (∀ c ∈ s, IsLatin c) →
    lowerFrom before done s = done.reverse ++ s.map lowerChar
  | [], before, done, _ => by simp [lowerFrom]
  | c :: s, before, done, h => by
      have hc : c.toNat < 256 := h c List.mem_cons_self
      have hform : lowerWithin before c s = [lowerChar c] := by
        rw [lowerWithin, if_neg, if_neg]
        · rintro rfl
          exact absurd hc (by decide)
        · rintro rfl
          exact absurd hc (by decide)
      rw [lowerFrom, hform,
        lowerFrom_latin fun other hother => h other (List.mem_cons_of_mem _ hother)]
      simp

/-- Where a character is one byte, its small letter does not depend on the others. -/
theorem lower_latin (h : ∀ c ∈ s, IsLatin c) : lower s = s.map lowerChar := by
  unfold lower
  split
  · rename_i hascii
    refine List.map_congr_left fun c hc => ?_
    have hsmall : c.toNat < 0x80 := by simpa using List.all_eq_true.mp hascii c hc
    exact (lowerChar_ascii hsmall).symm
  · exact lowerFrom_latin h

/-- A digit of one byte is one of ASCII. -/
theorem isAsciiDigit_of_digit (hlatin : IsLatin c) (h : (digitValue? c).isSome) :
    isAsciiDigit c = true := by
  have hzeros : ∀ z ∈ digitZeros, z < 256 → z = 0x30 := by decide
  obtain ⟨d, hd⟩ := Option.isSome_iff_exists.mp h
  obtain ⟨z, hz, hc, hsmall⟩ := Integer.digitValue?_eq_some hd
  have hzero : z = 0x30 := hzeros z hz (by have := hlatin; unfold IsLatin at this; omega)
  rw [isAsciiDigit, Bool.and_eq_true, decide_eq_true_eq, decide_eq_true_eq]
  exact ⟨show 0x30 ≤ c.toNat by omega, show c.toNat ≤ 0x39 by omega⟩

/-- The value of a digit of ASCII. -/
def asciiValue (c : Char) : Nat := c.toNat - '0'.toNat

theorem digitValue?_of_ascii (h : isAsciiDigit c = true) : digitValue? c = some (asciiValue c) := by
  rw [isAsciiDigit, Bool.and_eq_true, decide_eq_true_eq, decide_eq_true_eq] at h
  have hlow : 0x30 ≤ c.toNat := h.1
  have hhigh : c.toNat ≤ 0x39 := h.2
  rw [digitValue?, if_pos (by omega), if_pos ⟨hlow, hhigh⟩]
  rfl

theorem spells_ascii (h : ∀ c ∈ s, isAsciiDigit c = true) :
    Integer.Spells digitValue? s (s.map asciiValue) := by
  rw [Integer.Spells, List.map_map]
  exact List.map_congr_left fun c hc => digitValue?_of_ascii (h c hc)

end Text

open Text

namespace Response

variable {headers : Entries String String} {value : String} {s : List Char}

/-! ## What is due -/

/-- The number that digits of ASCII spell. -/
def asciiNumber (s : List Char) : Nat := Integer.ofDigits 10 (s.map asciiValue)

/-- The elements of a list in a header: what stands between commas, without blanks
around it and in small letters. -/
def listed (value : List Char) : List (List Char) :=
  (fields ',' value).map fun element => lower (trim element)

/-- The chunked coding is one of the listed transfer codings. -/
def ListsChunked (headers : Entries String String) : Prop :=
  ∃ value, headers.get? codingHeader = some value ∧ chunkedCoding ∈ listed value.toList

/-- The framing by the letter. -/
inductive Framing.Due (headers : Entries String String) : Except Failure Framing → Prop where
  | chunked (lists : ListsChunked headers) : Due headers (.ok .chunked)
  | fixed {value : String} (unlisted : ¬ ListsChunked headers)
      (found : headers.get? lengthHeader = some value) (number : Integer.AsciiNumber value.toList) :
      Due headers (.ok (.fixed (asciiNumber value.toList)))
  | refused {value : String} (unlisted : ¬ ListsChunked headers)
      (found : headers.get? lengthHeader = some value) (other : ¬ Integer.AsciiNumber value.toList) :
      Due headers (.error (.invalidResponse (.contentLength
        (String.ofList (Quoted.text value.toList)))))
  | untilClosed (unlisted : ¬ ListsChunked headers) (missing : headers.get? lengthHeader = none) :
      Due headers (.ok .untilClosed)

/-- Headers whose framing is not chosen by the letter. -/
inductive Misframed (headers : Entries String String) : Prop where
  /-- A coding, but not the chunked one, holds its name. -/
  | coding {value : String} (found : headers.get? codingHeader = some value)
      (holds : chunkedCoding <:+: lower value.toList)
      (other : chunkedCoding ∉ listed value.toList)
  /-- Digit signs that spell no number stand for the length. -/
  | length {value : String} (unchunked : isChunked headers = false)
      (found : headers.get? lengthHeader = some value) (deceptive : Deceptive value.toList)

/-! ## Codings -/

/-- A listed element stands in the small letters of the list. -/
theorem infix_of_mem_listed (hlatin : ∀ c ∈ s, IsLatin c) {element : List Char}
    (h : element ∈ listed s) : element <:+: lower s := by
  obtain ⟨part, hpart, rfl⟩ := List.mem_map.mp h
  obtain ⟨lead, trail, haround, -, -⟩ := exists_around_trimBy isBlank part
  have htrim : trim part <:+: s :=
    List.IsInfix.trans ⟨lead, trail, haround.symm⟩ (infix_of_mem_fields hpart)
  rw [lower_latin hlatin, lower_latin fun c hc => hlatin c (htrim.subset hc)]
  exact htrim.map lowerChar

theorem isChunked_iff : isChunked headers = true
    ↔ ∃ value, headers.get? codingHeader = some value ∧ chunkedCoding <:+: lower value.toList := by
  unfold isChunked
  cases headers.get? codingHeader with
  | none => simp
  | some value => simp [speaksOfChunks, occursIn_iff]

theorem isChunked_of_lists (hlatin : ∀ entry ∈ headers, ∀ c ∈ entry.2.toList, IsLatin c)
    (h : ListsChunked headers) : isChunked headers = true := by
  obtain ⟨value, hfound, hlisted⟩ := h
  obtain ⟨entry, hentry, -, rfl⟩ := Entries.mem_of_get? hfound
  exact isChunked_iff.mpr ⟨_, hfound, infix_of_mem_listed (hlatin entry hentry) hlisted⟩

/-! ## Lengths -/

theorem signs_of_asciiNumber (h : Integer.AsciiNumber s) : allDigitSigns s = true := by
  rw [allDigitSigns, Bool.and_eq_true, Bool.not_eq_true', List.isEmpty_eq_false_iff,
    List.all_eq_true]
  refine ⟨h.1, fun c hc => Integer.isDigitSign_of_isSome ?_⟩
  rw [digitValue?_of_ascii (h.2 c hc)]
  rfl

/-- Digit signs of one byte are digits of ASCII, if they spell a number. -/
theorem asciiNumber_of_readable (hlatin : ∀ c ∈ s, IsLatin c) (hsigns : allDigitSigns s = true)
    (h : Integer.Readable s) : Integer.AsciiNumber s :=
  ⟨(isDigitSign_of_all hsigns).1, fun c hc => isAsciiDigit_of_digit (hlatin c hc) (h.digits c hc)⟩

theorem ofText_of_asciiNumber (h : Integer.AsciiNumber s) (hshort : s.length ≤ digitLimit) :
    Integer.ofText s = .ok (asciiNumber s) :=
  Integer.ofText_of_spells (spells_ascii h.2) h.1 hshort

/-- Without chunks, the framing is due if the length is not deceptive. -/
theorem due_of_unchunked (hlatin : ∀ entry ∈ headers, ∀ c ∈ entry.2.toList, IsLatin c)
    (h : isChunked headers = false) (hmisframed : ¬ Misframed headers) :
    Framing.Due headers (Framing.ofHeaders headers) := by
  have hunlisted : ¬ ListsChunked headers := by
    intro hlists
    rw [isChunked_of_lists hlatin hlists] at h
    cases h
  cases hfound : headers.get? lengthHeader with
  | none =>
      have hopen : Framing.ofHeaders headers = .ok .untilClosed := by
        rw [Framing.ofHeaders, h, if_neg Bool.false_ne_true, contentLength, hfound]
        rfl
      rw [hopen]
      exact .untilClosed hunlisted hfound
  | some value =>
      have hframing : Framing.ofHeaders headers = (readLength value.toList).map .fixed := by
        rw [Framing.ofHeaders, h, if_neg Bool.false_ne_true, contentLength, hfound]
        dsimp only
        cases readLength value.toList <;> rfl
      rw [hframing, readLength]
      by_cases hsigns : allDigitSigns value.toList = true
      · obtain ⟨entry, hentry, -, rfl⟩ := Entries.mem_of_get? hfound
        have hreadable : Integer.Readable entry.2.toList := by
          by_contra hunreadable
          exact hmisframed (.length h hfound ⟨hsigns, hunreadable⟩)
        have hnumber := asciiNumber_of_readable (hlatin entry hentry) hsigns hreadable
        rw [if_pos hsigns, ofText_of_asciiNumber hnumber hreadable.short]
        exact .fixed hunlisted hfound hnumber
      · rw [if_neg hsigns]
        exact .refused hunlisted hfound fun hnumber => hsigns (signs_of_asciiNumber hnumber)

/-! ## What is chosen -/

/-- What is chosen for misframed headers is not due. -/
theorem Misframed.not_due (h : Misframed headers) :
    ¬ Framing.Due headers (Framing.ofHeaders headers) := by
  cases h with
  | @coding value found holds other =>
      have hunlisted : ¬ ListsChunked headers := by
        rintro ⟨listing, hlisting, hlisted⟩
        cases found.symm.trans hlisting
        exact other hlisted
      rw [ofHeaders_of_chunked (isChunked_iff.mpr ⟨value, found, holds⟩)]
      intro hdue
      cases hdue with
      | chunked lists => exact hunlisted lists
  | @length value unchunked found deceptive =>
      obtain ⟨fault, hfault⟩ := ofText_of_deceptive deceptive
      have hframing : Framing.ofHeaders headers = .error (.unacceptable fault) := by
        rw [Framing.ofHeaders, unchunked, contentLength, found]
        simp only [readLength, deceptive.signs, hfault]
        rfl
      rw [hframing]
      intro hdue
      cases hdue

/-- A length that is chosen is not negative. -/
theorem nonneg_of_ofHeaders {n : Int} (h : Framing.ofHeaders headers = .ok (.fixed n)) : 0 ≤ n := by
  cases hchunked : isChunked headers with
  | true =>
      rw [ofHeaders_of_chunked hchunked] at h
      cases h
  | false =>
      obtain hopen | ⟨m, hfixed⟩ | ⟨failure, hfails, -⟩ | ⟨value, -, -, fault, hfails⟩ :=
        ofHeaders_of_unchunked hchunked
      · cases hopen.symm.trans h
      · cases hfixed.symm.trans h
        exact Int.natCast_nonneg m
      · cases hfails.symm.trans h
      · cases hfails.symm.trans h

/-- Headers as a map of any values. -/
def valueOf (headers : Entries String String) : Value :=
  .map (headers.map fun entry => (.text entry.1, .text entry.2))

theorem headerOf_valueOf (headers : Entries String String) (name : String) :
    headerOf (valueOf headers) name = .ok ((headers.get? name).map .text) := by
  refine congrArg Except.ok ?_
  induction headers with
  | nil => rfl
  | cons entry headers ih =>
      rw [List.map_cons, Entries.get?_cons, Entries.get?_cons, ih]
      by_cases hname : entry.1 = name
      · rw [if_pos (Value.beq_text.mpr (congrArg Value.text hname)), if_pos (beq_iff_eq.mpr hname)]
        rfl
      · rw [if_neg fun h => hname (Value.text.inj (Value.beq_text.mp h)),
          if_neg fun h => hname (beq_iff_eq.mp h)]

/-- Headers are framed in the same way as a map of any values. -/
theorem ofValue_valueOf (headers : Entries String String) :
    Framing.ofValue (valueOf headers) = Framing.ofHeaders headers := by
  have hchunked : isChunkedIn (valueOf headers) = .ok (isChunked headers) := by
    rw [isChunkedIn, headerOf_valueOf, isChunked]
    cases headers.get? codingHeader <;> rfl
  have hlength : contentLengthIn (valueOf headers) = contentLength headers := by
    rw [contentLengthIn, headerOf_valueOf, contentLength]
    cases headers.get? lengthHeader <;> rfl
  rw [Framing.ofValue, hchunked, hlength, Framing.ofHeaders]
  cases isChunked headers with
  | true => rfl
  | false =>
      cases contentLength headers with
      | error failure => rfl
      | ok length => cases length <;> rfl

/-- Over a connection, the framing that is chosen is due, exactly if the headers are not
misframed; and it is no length below zero. -/
theorem framing_due_iff (hlatin : ∀ entry ∈ headers, ∀ c ∈ entry.2.toList, IsLatin c)
    {t : Transport} (hconnected : t.links ≠ []) :
    (Framing.Due headers (t.framing (valueOf headers)) ↔ ¬ Misframed headers)
      ∧ t.framing (valueOf headers) = Framing.ofHeaders headers
      ∧ ∀ n, t.framing (valueOf headers) = .ok (.fixed n) → 0 ≤ n := by
  have hframing : t.framing (valueOf headers) = Framing.ofHeaders headers := by
    rw [Transport.framing, if_neg (by simpa using hconnected), ofValue_valueOf]
  rw [hframing]
  refine ⟨⟨fun hdue hmisframed => hmisframed.not_due hdue, fun hmisframed => ?_⟩, rfl,
    fun n hn => nonneg_of_ofHeaders hn⟩
  cases hchunked : isChunked headers with
  | false => exact due_of_unchunked hlatin hchunked hmisframed
  | true =>
      rw [ofHeaders_of_chunked hchunked]
      obtain ⟨value, hfound, hholds⟩ := isChunked_iff.mp hchunked
      by_cases hlisted : chunkedCoding ∈ listed value.toList
      · exact .chunked ⟨value, hfound, hlisted⟩
      · exact absurd (.coding hfound hholds hlisted) hmisframed

/-- A transport with a connection over which nothing comes. -/
def connected : Transport := { links := [{ incoming := {} }] }

theorem framing_due_gzip_chunked :
    connected.links ≠ []
      ∧ Framing.Due [(codingHeader, "gzip, Chunked"), (lengthHeader, "12")]
          (connected.framing (valueOf [(codingHeader, "gzip, Chunked"), (lengthHeader, "12")]))
      ∧ connected.framing (valueOf [(codingHeader, "gzip, Chunked"), (lengthHeader, "12")])
          = .ok .chunked := by
  have hwhole : ¬ Misframed [(codingHeader, "gzip, Chunked"), (lengthHeader, "12")] := by
    rintro (⟨hfound, -, hother⟩ | ⟨hunchunked, -, -⟩)
    · cases hfound
      exact hother (by decide)
    · exact absurd hunchunked (by decide)
  have hlatin : ∀ entry ∈ [(codingHeader, "gzip, Chunked"), (lengthHeader, "12")],
      ∀ c ∈ entry.2.toList, IsLatin c :=
    List.forall_mem_cons.mpr ⟨forall_mem_of_all (by decide),
      List.forall_mem_singleton.mpr (forall_mem_of_all (by decide))⟩
  obtain ⟨hdue, hsame, -⟩ := framing_due_iff (t := connected) hlatin nofun
  exact ⟨nofun, hdue.mpr hwhole, hsame.trans rfl⟩

/-- A raised digit stands for the length, and the response is not refused as invalid. -/
theorem not_due_superscript :
    ¬ ∀ headers : Entries String String, (∀ entry ∈ headers, ∀ c ∈ entry.2.toList, IsLatin c) →
      Framing.Due headers (connected.framing (valueOf headers)) := by
  intro hall
  have hlatin : ∀ c ∈ "²".toList, IsLatin c := forall_mem_of_all (by decide)
  have hdue := hall [(lengthHeader, "²")] (List.forall_mem_singleton.mpr hlatin)
  rw [Transport.framing, if_neg (by decide), ofValue_valueOf] at hdue
  have hdeceptive : Deceptive "²".toList :=
    ⟨rfl, fun hreadable => absurd (hreadable.digits '²' (by decide)) (by decide)⟩
  exact (Misframed.length rfl rfl hdeceptive).not_due hdue

end Response

end Courier
