import Courier.Proofs.Containment
import Courier.Proofs.Lines

/-!
# Fields as they are read

Whoever reads a head takes its bytes for Latin-1, and each line after the first
for a field: a name in lower case, and a value (`fieldOf`, `fieldsOf`). Names
are written as UTF-8, so that a reader sees characters that nobody wrote
(`Text.seen`).

A reader is not misled by that: a field with a name of ASCII comes from a
header that was given this name, up to letter case and blanks around it
(`Request.named_of_field`).
-/

namespace Courier

/-! ## Texts as they are seen -/

namespace Text

variable {s t : List Char} {c : Char}

/-- What the bytes of a text are taken for. -/
def seen (s : List Char) : List Char := Latin1.decode (Utf8.encode s)

theorem seen_append : seen (s ++ t) = seen s ++ seen t := by
  rw [seen, Utf8.encode_append, Latin1.decode, List.map_append]
  rfl

/-- A character of ASCII is seen where it is written. -/
theorem mem_seen (hc : c.toNat < 128) : c ∈ seen s ↔ c ∈ s := by
  rw [seen, Latin1.decode, List.mem_map, ← Utf8.mem_encode hc]
  constructor
  · rintro ⟨b, hb, rfl⟩
    rwa [Latin1.toNat_ofNat_of_lt b.toNat_lt, UInt8.ofNat_toNat]
  · intro hmem
    refine ⟨_, hmem, ?_⟩
    rw [UInt8.toNat_ofNat', Nat.mod_eq_of_lt (by omega), Char.ofNat_toNat]

/-- ASCII is seen as it is written. -/
theorem seen_ascii (h : ∀ c ∈ s, c.toNat < 128) : seen s = s := by
  induction s with
  | nil => rfl
  | cons c s ih =>
      obtain ⟨hc, hs⟩ := List.forall_mem_cons.mp h
      have hv : c.val.toNat = c.toNat := rfl
      have hbytes : String.utf8EncodeChar c = [UInt8.ofNat c.toNat] := by
        unfold String.utf8EncodeChar
        simp only [hv]
        rw [if_pos (by omega)]
      have hone : seen [c] = [c] := by
        rw [seen, Utf8.encode, List.flatMap_singleton, hbytes, Latin1.decode, List.map_singleton,
          UInt8.toNat_ofNat', Nat.mod_eq_of_lt (by omega), Char.ofNat_toNat]
      rw [← List.singleton_append, seen_append, hone, ih hs]

/-- The first byte of any other character is seen as a Latin letter or as one of
two signs, none of them a blank. -/
theorem exists_lead (h : 128 ≤ c.toNat) :
    ∃ b ∈ String.utf8EncodeChar c, 192 ≤ b.toNat ∧ b.toNat < 248 := by
  have hv : c.val.toNat = c.toNat := rfl
  have hmax : c.toNat < 1114112 := by
    rcases c.valid with hlow | ⟨-, hhigh⟩
    · exact Nat.lt_trans hlow (by decide)
    · exact hhigh
  unfold String.utf8EncodeChar
  simp only [hv]
  rw [if_neg (by omega)]
  split
  · refine ⟨_, List.mem_cons_self .., ?_⟩
    rw [UInt8.toNat_ofNat']
    omega
  · split
    · refine ⟨_, List.mem_cons_self .., ?_⟩
      rw [UInt8.toNat_ofNat']
      omega
    · refine ⟨_, List.mem_cons_self .., ?_⟩
      rw [UInt8.toNat_ofNat']
      omega

theorem lead_not_blank {n : Nat} (hlow : 192 ≤ n) (hhigh : n < 248) :
    isBlank (Char.ofNat n) = false ∧ 128 ≤ (lowerChar (Char.ofNat n)).toNat := by
  have hall : ∀ k < 56, isBlank (Char.ofNat (192 + k)) = false
      ∧ 128 ≤ (lowerChar (Char.ofNat (192 + k))).toNat := by decide +kernel
  have hk := hall (n - 192) (by omega)
  rwa [Nat.add_sub_cancel' hlow] at hk

theorem mem_lowerFrom (hdot : c ≠ 'İ') (hsigma : c ≠ 'Σ') : ∀ (s before done : List Char),
    c ∈ s ∨ lowerChar c ∈ done → lowerChar c ∈ lowerFrom before done s
  | [], before, done, h => by
      rw [lowerFrom, List.mem_reverse]
      exact h.resolve_left List.not_mem_nil
  | d :: s, before, done, h => by
      rw [lowerFrom]
      refine mem_lowerFrom hdot hsigma s _ _ ?_
      rw [List.mem_append, List.mem_reverse]
      rcases h with hmem | hdone
      · rcases List.mem_cons.mp hmem with rfl | hmem
        · refine .inr (.inl ?_)
          rw [lowerWithin, if_neg hdot, if_neg hsigma]
          exact List.mem_singleton_self _
        · exact .inl hmem
      · exact .inr (.inr hdone)

/-- A name that is seen as ASCII is ASCII. -/
theorem ascii_of_lower_seen (h : ∀ c ∈ lower (trim (seen s)), c.toNat < 128) :
    ∀ c ∈ s, c.toNat < 128 := by
  intro c hc
  by_contra hlarge
  obtain ⟨b, hb, hlow, hhigh⟩ := exists_lead (Nat.le_of_not_lt hlarge)
  obtain ⟨hblank, hlower⟩ := lead_not_blank hlow hhigh
  have hcode := Latin1.toNat_ofNat_of_lt b.toNat_lt
  have hseen : Char.ofNat b.toNat ∈ seen s :=
    List.mem_map_of_mem (List.mem_flatMap.mpr ⟨c, hc, hb⟩)
  have htrimmed : Char.ofNat b.toNat ∈ trim (seen s) := mem_trimBy hseen hblank
  have hforeign : (trim (seen s)).all (·.toNat < 0x80) = false := by
    refine List.all_eq_false.mpr ⟨_, htrimmed, ?_⟩
    simp only [hcode, decide_eq_true_eq]
    omega
  have hdot : Char.ofNat b.toNat ≠ 'İ' := by
    intro heq
    rw [heq] at hcode
    exact absurd (hcode ▸ hhigh) (by decide)
  have hsigma : Char.ofNat b.toNat ≠ 'Σ' := by
    intro heq
    rw [heq] at hcode
    exact absurd (hcode ▸ hhigh) (by decide)
  have hmem : lowerChar (Char.ofNat b.toNat) ∈ lower (trim (seen s)) := by
    rw [lower, hforeign, if_neg Bool.false_ne_true]
    exact mem_lowerFrom hdot hsigma _ _ _ (.inl htrimmed)
  exact absurd (h _ hmem) (Nat.not_lt.mpr hlower)

end Text

open Text

namespace Request

variable {header : Value × Value} {headers : Entries Value Value} {field : String × String}
  {lines : List (List Char)} {name value : List Char}

/-! ## Fields -/

/-- The field that a line is read as: a name in lower case, and a value. -/
def fieldOf (line : List UInt8) : Option (String × String) :=
  (Response.readHeader (Response.lineText line)).toOption

/-- The fields of a head: what its lines after the first are read as. -/
def fieldsOf (bytes : List UInt8) : List (String × String) :=
  (linesOf (headOf bytes)).tail.filterMap fieldOf

/-- The field that a header is read as. -/
def fieldOfHeader (header : Value × Value) : Option (String × String) :=
  (headerLine header.1 header.2).toOption.bind fun line => fieldOf (Utf8.encode line)

theorem oneLine_seen {s : List Char} (h : Unbreaking s) : Response.OneLine (seen s) := by
  constructor
  · intro hmem
    cases h _ ((mem_seen (by decide)).mp hmem)
  · intro hmem
    cases h _ ((mem_seen (by decide)).mp hmem)

/-- A line is read as the name and the value that are seen in it. -/
theorem fieldOf_encode (hcolon : ':' ∉ name) (hname : Unbreaking name) (hvalue : Unbreaking value) :
    fieldOf (Utf8.encode (name ++ ':' :: ' ' :: value))
      = if (trim (seen name)).isEmpty then none
        else some (String.ofList (lower (trim (seen name))), String.ofList (trim (seen value))) := by
  have hmark : seen [':', ' '] = [':', ' '] := by decide
  have htext : Response.lineText (Utf8.encode (name ++ ':' :: ' ' :: value))
      = seen name ++ ':' :: ' ' :: seen value ++ ['\r', '\n'] := by
    have hend : Latin1.decode lineEnd = ['\r', '\n'] := by decide
    have hseen : seen (name ++ ([':', ' '] ++ value)) = seen name ++ ([':', ' '] ++ seen value) := by
      rw [seen_append, seen_append, hmark]
    rw [Response.lineText, Latin1.decode, List.map_append]
    exact congrArg₂ (· ++ ·) hseen hend
  have hline : Response.OneLine (seen name ++ ':' :: ' ' :: seen value) := by
    have hseen := oneLine_seen (unbreaking_append.mpr ⟨hname, hvalue⟩)
    rw [seen_append] at hseen
    simpa [Response.OneLine] using hseen
  have hsplit : partitionAt ':' (seen name ++ ':' :: ' ' :: seen value)
      = (seen name, some (' ' :: seen value)) :=
    partitionAt_append fun hmem => hcolon ((mem_seen (by decide)).mp hmem)
  rw [fieldOf, htext, Response.readHeader, Response.trimLineEnds_append hline, hsplit]
  simp only [trim_blank_cons (show isBlank ' ' = true by decide)]
  split <;> rfl

theorem fieldOfHeader_eq_some (h : fieldOfHeader header = some field) :
    ∃ name value, header.1.plain = .ok name ∧ header.2.plain = .ok value
      ∧ field = (String.ofList (lower (trim (seen name))), String.ofList (trim (seen value))) := by
  obtain ⟨line, hline, hfield⟩ := Option.bind_eq_some_iff.mp h
  cases hwritten : headerLine header.1 header.2 with
  | error failure =>
      rw [hwritten] at hline
      cases hline
  | ok written =>
      rw [hwritten] at hline
      cases hline
      obtain ⟨name, value, hname, hvalue, rfl, hcolon, hsealedName, hsealedValue⟩ :=
        parts_of_headerLine hwritten
      rw [fieldOf_encode hcolon hsealedName hsealedValue] at hfield
      split at hfield
      · cases hfield
      · cases hfield
        exact ⟨name, value, hname, hvalue, rfl⟩

/-- The header is given this name, whatever the letter case and the blanks around it. -/
def Named (name : String) (header : Value × Value) : Prop :=
  ∃ text, header.1.plain = .ok text ∧ lower (trim text) = name.toList

/-- A field with a name of ASCII comes from a header that was given this name. -/
theorem named_of_field (h : fieldOfHeader header = some field)
    (hascii : ∀ c ∈ field.1.toList, c.toNat < 128) : Named field.1 header := by
  obtain ⟨name, value, hname, -, rfl⟩ := fieldOfHeader_eq_some h
  rw [String.toList_ofList] at hascii
  have hplain : seen name = name := seen_ascii (ascii_of_lower_seen hascii)
  refine ⟨name, hname, ?_⟩
  rw [String.toList_ofList, hplain]

/-- A header of ASCII that is written is read as it is written. -/
theorem fieldOfHeader_ascii {line : List Char} (hline : headerLine header.1 header.2 = .ok line)
    (hname : header.1.plain = .ok name) (hvalue : header.2.plain = .ok value)
    (hascii : ∀ c ∈ name ++ value, c.toNat < 128) (hempty : (trim name).isEmpty = false) :
    fieldOfHeader header = some (String.ofList (lower (trim name)), String.ofList (trim value)) := by
  obtain ⟨name', value', hname', hvalue', rfl, hcolon, hsealedName, hsealedValue⟩ :=
    parts_of_headerLine hline
  cases hname.symm.trans hname'
  cases hvalue.symm.trans hvalue'
  obtain ⟨hasciiName, hasciiValue⟩ := List.forall_mem_append.mp hascii
  rw [fieldOfHeader, hline]
  refine (fieldOf_encode hcolon hsealedName hsealedValue).trans ?_
  rw [seen_ascii hasciiName, seen_ascii hasciiValue, hempty]
  rfl

/-- The lines of headers are read as the fields of the headers. -/
theorem filterMap_fieldOf (h : List.Forall₂ (fun header line =>
      headerLine header.1 header.2 = .ok line) headers lines) :
    (lines.map Utf8.encode).filterMap fieldOf = headers.filterMap fieldOfHeader := by
  induction h with
  | nil => rfl
  | @cons header line headers lines hline hlines ih =>
      have hfield : fieldOfHeader header = fieldOf (Utf8.encode line) := by
        rw [fieldOfHeader, hline]
        rfl
      rw [List.map_cons, List.filterMap_cons, List.filterMap_cons, hfield, ih]

/-- If the fields of a name come from the headers under a text, they are those of these headers. -/
theorem filter_fields {name s : String} (h : ∀ header ∈ headers, ∀ field,
      fieldOfHeader header = some field → (field.1 = name ↔ header.1 = .text s)) :
    (headers.filterMap fieldOfHeader).filter (·.1 == name)
      = (Entries.under headers s).filterMap fieldOfHeader := by
  rw [List.filter_filterMap, Entries.under, List.filterMap_filter]
  refine List.filterMap_congr fun header hheader => ?_
  cases hfield : fieldOfHeader header with
  | none => split <;> rfl
  | some field =>
      have hname := h header hheader field hfield
      by_cases hkey : header.1 = .text s
      · rw [if_pos (Value.beq_text.mpr hkey), Option.filter_some, if_pos]
        exact beq_iff_eq.mpr (hname.mpr hkey)
      · rw [if_neg (by rwa [Value.beq_text]), Option.filter_some, if_neg]
        rw [beq_iff_eq, hname]
        exact hkey

end Request

end Courier
