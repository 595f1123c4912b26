import Courier.Proofs.JsonWrites
import Courier.Proofs.Numerals
import Courier.Proofs.Separators

/-!
# Strings as JSON has them

A string that was written is read back, whatever follows it (`readString_writeText`): each
character is written as one escape or as itself (`Escape`), and this is read as one unit, which
stands for the character again (`Means`).

Quotes also tell what stands outside strings. `outside` cuts the strings out of a text, and of
what is written only marks are left, and no blanks (`Compact`).
-/

namespace Courier.Json

open Text

variable {s t tail rest opening : List Char} {c : Char} {done : List CodeUnit}

/-! ## Reading strings -/

/-- How a character is written inside a string: as a letter or a code behind a backslash, or
as itself. -/
inductive Escape (c : Char) : List Char → Prop where
  | letter {mark : Char} (stands : letterEscape? mark = some c) : Escape c ['\\', mark]
  | code (control : c.toNat < 0x20) : Escape c ('\\' :: 'u' :: hexDigits 4 c.toNat)
  | self (quote : c ≠ '"') (escape : c ≠ '\\') (control : ¬ c.toNat < 0x20) : Escape c [c]

theorem escape_escapeChar (c : Char) : Escape c (escapeChar c) := by
  unfold escapeChar
  split
  · rename_i hmark
    obtain rfl | rfl := hmark <;> exact .letter rfl
  split
  · rename_i hmark
    exact hmark ▸ .letter rfl
  split
  · rename_i hmark
    exact hmark ▸ .letter rfl
  split
  · rename_i hmark
    exact hmark ▸ .letter rfl
  split
  · rename_i hmark
    exact hmark ▸ .letter rfl
  split
  · rename_i hmark
    exact hmark ▸ .letter rfl
  split
  · rename_i hcontrol
    exact .code hcontrol
  · rename_i hmarks _ _ _ _ _ hcontrol
    obtain ⟨hquote, hescape⟩ := not_or.mp hmarks
    exact .self hquote hescape hcontrol

/-- The unit of a string stands for the character. -/
inductive Means : CodeUnit → Char → Prop where
  | char (c : Char) : Means (.char c) c
  | code (c : Char) (control : c.toNat < 0x20) : Means (.code c.toNat) c

theorem joinUnits_code {n : Nat} (h : n < 0x20) (done : List Char) (units : List CodeUnit) :
    joinUnits done (.code n :: units) = joinUnits (Char.ofNat n :: done) units := by
  have hchar : joinUnits.unitChar n = Char.ofNat n := if_neg (by omega)
  have hpair : ¬ 0xD800 ≤ n := by omega
  cases units with
  | nil => simp [joinUnits, hchar]
  | cons unit units => cases unit <;> simp [joinUnits, hchar, hpair]

theorem joinUnits_means {units : List CodeUnit} (h : List.Forall₂ Means units s)
    (done : List Char) : joinUnits done units = done.reverse ++ s := by
  induction h generalizing done with
  | nil => exact (List.append_nil _).symm
  | cons hunit _ ih =>
      cases hunit with
      | char c =>
          rw [joinUnits, ih, List.reverse_cons, List.append_assoc]
          rfl
      | code c hcontrol =>
          rw [joinUnits_code hcontrol, ih, Char.ofNat_toNat, List.reverse_cons, List.append_assoc]
          rfl

/-- A code is read only where something follows it, as the closing quote does. -/
theorem readUnits_code (h : c.toNat < 0x20) (htail : tail ≠ []) :
    readUnits opening done ('\\' :: 'u' :: hexDigits 4 c.toNat ++ tail)
      = readUnits opening (.code c.toNat :: done) tail := by
  have hdigits : ∀ n < 0x20, hexDigits 4 n = ['0', '0', hexDigit (n / 16), hexDigit n]
      ∧ fourHex? '0' '0' (hexDigit (n / 16)) (hexDigit n) = some n := by decide
  obtain ⟨hhex, hvalue⟩ := hdigits c.toNat h
  obtain ⟨next, more, rfl⟩ := List.exists_cons_of_ne_nil htail
  rw [hhex]
  simp only [List.cons_append, List.nil_append]
  rw [readUnits, hvalue]

theorem readUnits_self (hquote : c ≠ '"') (hescape : c ≠ '\\') (hcontrol : ¬ c.toNat < 0x20) :
    readUnits opening done (c :: tail) = readUnits opening (.char c :: done) tail := by
  rw [readUnits, if_neg hcontrol]
  · exact hquote
  all_goals
    intros
    contradiction

theorem readUnits_letter {mark : Char} (h : letterEscape? mark = some c) :
    readUnits opening done ('\\' :: mark :: tail) = readUnits opening (.char c :: done) tail := by
  have hmark : mark ≠ 'u' := by
    rintro rfl
    cases h
  rw [readUnits, h]
  all_goals
    intros
    contradiction

/-- The escape of a character is read as one unit. -/
theorem Escape.readUnits (h : Escape c s) (opening : List Char) (done : List CodeUnit)
    (htail : tail ≠ []) : ∃ unit, Means unit c
      ∧ readUnits opening done (s ++ tail) = readUnits opening (unit :: done) tail := by
  cases h with
  | letter hletter => exact ⟨_, .char c, readUnits_letter hletter⟩
  | code hcontrol => exact ⟨_, .code c hcontrol, readUnits_code hcontrol htail⟩
  | self hquote hescape hcontrol => exact ⟨_, .char c, readUnits_self hquote hescape hcontrol⟩

theorem readUnits_escaped (opening : List Char) (done : List CodeUnit) (s rest : List Char) :
    ∃ units, List.Forall₂ Means units s
      ∧ readUnits opening done (s.flatMap escapeChar ++ '"' :: rest)
        = .ok (done.reverse ++ units, rest) := by
  induction s generalizing done with
  | nil => exact ⟨[], .nil, by simp [readUnits]⟩
  | cons c s ih =>
      have htail : s.flatMap escapeChar ++ '"' :: rest ≠ [] := by simp
      obtain ⟨unit, hunit, hread⟩ := (escape_escapeChar c).readUnits opening done htail
      obtain ⟨units, hunits, hmore⟩ := ih (unit :: done)
      refine ⟨unit :: units, .cons hunit hunits, ?_⟩
      rw [List.flatMap_cons, List.append_assoc, hread, hmore, List.reverse_cons, List.append_assoc]
      rfl

/-- A string that was written is read back. -/
theorem readString_writeText (s rest : List Char) :
    readString (writeText s ++ rest) = .ok (String.ofList s, rest) := by
  have hopen : writeText s ++ rest = '"' :: (s.flatMap escapeChar ++ '"' :: rest) := by
    simp [writeText]
  obtain ⟨units, hunits, hread⟩ := readUnits_escaped (writeText s ++ rest) [] s rest
  rw [readString]
  nth_rewrite 2 [hopen]
  rw [List.tail_cons, hread]
  simp only [Except.map, List.reverse_nil, List.nil_append, joinUnits_means hunits]

/-! ## What stands outside strings -/

/-- Where a character of a JSON text stands: outside of strings, in a string, or behind a
backslash in one. -/
inductive Place where
  | outside
  | inside
  | escaped
  deriving DecidableEq

/-- The place of what follows a character. -/
def Place.next (place : Place) (c : Char) : Place :=
  match place with
  | .outside => if c = '"' then .inside else .outside
  | .inside => if c = '"' then .outside else if c = '\\' then .escaped else .inside
  | .escaped => .inside

/-- The place of what follows a text. -/
def Place.behind (place : Place) (s : List Char) : Place := s.foldl Place.next place

/-- What stands outside strings, with the quotes that open them. -/
def outside (place : Place) : List Char → List Char
  | [] => []
  | c :: s => if place = .outside then c :: outside (place.next c) s else outside (place.next c) s

theorem outside_append (place : Place) (s t : List Char) :
    outside place (s ++ t) = outside place s ++ outside (place.behind s) t := by
  induction s generalizing place with
  | nil => rfl
  | cons c s ih =>
      rw [List.cons_append, outside, outside, ih]
      split <;> rfl

theorem behind_append (place : Place) (s t : List Char) :
    place.behind (s ++ t) = (place.behind s).behind t := List.foldl_append

/-- The character is a mark of ASCII, and no blank. -/
def IsMark (c : Char) : Prop := 0x20 < c.toNat ∧ c.toNat < 0x7F

instance : DecidablePred IsMark := fun c =>
  inferInstanceAs (Decidable (0x20 < c.toNat ∧ c.toNat < 0x7F))

theorem IsMark.not_blank (h : IsMark c) : Text.isBlank c = false := by
  have hranges : ∀ range ∈ blankRanges, range.2 ≤ 0x20 ∨ 0x7F ≤ range.1 := by decide
  refine Bool.eq_false_iff.mpr fun hblank => ?_
  obtain ⟨range, hrange, hlow, hhigh⟩ := Ranges.contains_iff.mp hblank
  obtain ⟨hfirst, hlast⟩ := h
  have := hranges range hrange
  omega

/-- The text closes all its strings, and has marks only outside of them. -/
structure Compact (s : List Char) : Prop where
  closed : Place.outside.behind s = .outside
  marks : ∀ c ∈ outside .outside s, IsMark c

theorem compact_nil : Compact [] := ⟨rfl, nofun⟩

theorem Compact.append (hs : Compact s) (ht : Compact t) : Compact (s ++ t) where
  closed := by rw [behind_append, hs.closed, ht.closed]
  marks := by
    rw [outside_append, hs.closed]
    exact List.forall_mem_append.mpr ⟨hs.marks, ht.marks⟩

theorem compact_singleton (h : IsMark c) (hquote : c ≠ '"') : Compact [c] where
  closed := if_neg hquote
  marks := List.forall_mem_singleton.mpr h

theorem compact_of_marks (h : ∀ c ∈ s, IsMark c ∧ c ≠ '"') : Compact s := by
  induction s with
  | nil => exact compact_nil
  | cons c s ih =>
      obtain ⟨⟨hmark, hquote⟩, hs⟩ := List.forall_mem_cons.mp h
      exact (compact_singleton hmark hquote).append (ih hs)

theorem compact_of_all (h : s.all (fun c => decide (IsMark c ∧ c ≠ '"')) = true) : Compact s :=
  compact_of_marks (Response.forall_mem_of_all h)

theorem compact_intercalate {parts : List (List Char)} (h : ∀ part ∈ parts, Compact part) :
    Compact ([','].intercalate parts) :=
  intercalate_of_append compact_nil (fun hs ht => hs.append ht)
    (compact_singleton (by decide) (by decide)) h

/-- An escape starts and ends inside its string. -/
theorem Escape.inside (h : Escape c s) :
    Place.inside.behind s = .inside ∧ outside .inside s = [] := by
  cases h with
  | letter => exact ⟨rfl, rfl⟩
  | code hcontrol =>
      have hhex : ∀ n < 0x20, Place.inside.behind ('\\' :: 'u' :: hexDigits 4 n) = .inside
          ∧ outside .inside ('\\' :: 'u' :: hexDigits 4 n) = [] := by decide
      exact hhex c.toNat hcontrol
  | self hquote hescape =>
      constructor
      · simp [Place.behind, Place.next, hquote, hescape]
      · simp [outside]

theorem compact_writeText (s : List Char) : Compact (writeText s) := by
  have hinside : Place.inside.behind (s.flatMap escapeChar) = .inside
      ∧ outside .inside (s.flatMap escapeChar) = [] := by
    induction s with
    | nil => exact ⟨rfl, rfl⟩
    | cons c s ih =>
        obtain ⟨hbehind, hnothing⟩ := (escape_escapeChar c).inside
        rw [List.flatMap_cons, behind_append, outside_append, hbehind, hnothing]
        exact ih
  have hopen : writeText s = ['"'] ++ (s.flatMap escapeChar ++ ['"']) := by simp [writeText]
  obtain ⟨hbehind, hnothing⟩ := hinside
  rw [hopen]
  constructor
  · rw [behind_append]
    show Place.inside.behind _ = _
    rw [behind_append, hbehind]
    rfl
  · rw [outside_append]
    show ∀ c ∈ ['"'] ++ outside .inside _, _
    rw [outside_append, hnothing, hbehind]
    exact Response.forall_mem_of_all (by decide)

end Courier.Json
