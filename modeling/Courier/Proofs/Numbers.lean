import Courier.Response.Body
import Mathlib.Data.List.TakeWhile

/-!
# Reading numbers

A text of digits spells the digits it is made of (`Spells`), in whatever
script they are written. Reading such a text gives the number they stand for
(`readDigits_of_spells`), and the digits of a number spell it
(`spells_toDigits`). Digit signs that are no decimal digits, and digits
beyond the limit, spell nothing and are refused (`ofText_refused`): a text
of digit signs is a number only if it is `Readable`.
-/

namespace Courier.Text.Integer

/-- The text is made of digits with these values. -/
def Spells (digit? : Char → Option Nat) (s : List Char) (values : List Nat) : Prop :=
  s.map digit? = values.map some

variable {digit? : Char → Option Nat} {s t : List Char} {values more : List Nat} {base : Nat}

theorem Spells.length (h : Spells digit? s values) : values.length = s.length := by
  simpa using (congrArg List.length h).symm

theorem Spells.append (h : Spells digit? s values) (h' : Spells digit? t more) :
    Spells digit? (s ++ t) (values ++ more) := by
  simp only [Spells, List.map_append] at *
  rw [h, h']

theorem Spells.isSome (h : Spells digit? s values) : ∀ c ∈ s, (digit? c).isSome := by
  intro c hc
  have hmem : digit? c ∈ s.map digit? := List.mem_map_of_mem hc
  rw [h] at hmem
  obtain ⟨d, -, hd⟩ := List.mem_map.mp hmem
  rw [← hd]
  rfl

theorem Spells.filterMap (h : Spells digit? s values) : s.filterMap digit? = values := by
  have hid : s.filterMap digit? = (s.map digit?).filterMap id := by
    rw [List.filterMap_map]
    rfl
  rw [hid, h, List.filterMap_map]
  exact List.filterMap_some

theorem spells_of_isSome : ∀ {s : List Char}, (∀ c ∈ s, (digit? c).isSome) →
    ∃ values, Spells digit? s values
  | [], _ => ⟨[], rfl⟩
  | c :: s, h => by
      obtain ⟨d, hd⟩ := Option.isSome_iff_exists.mp (h c (List.mem_cons_self ..))
      obtain ⟨values, hvalues⟩ :=
        spells_of_isSome fun other hother => h other (List.mem_cons_of_mem _ hother)
      exact ⟨d :: values, by simp only [Spells, List.map_cons, hd] at *; rw [hvalues]⟩

/-! ## Values of digits -/

theorem ofDigits_append_singleton (base : Nat) (values : List Nat) (d : Nat) :
    ofDigits base (values ++ [d]) = ofDigits base values * base + d := by
  simp [ofDigits]

theorem ofDigits_replicate_zero_append (base zeros : Nat) (values : List Nat) :
    ofDigits base (List.replicate zeros 0 ++ values) = ofDigits base values := by
  induction zeros with
  | zero => rfl
  | succ zeros ih => simpa [ofDigits, List.replicate_succ] using ih

theorem spells_toDigits (hbase : 1 < base) (hdigit : ∀ d < base, digit? d.digitChar = some d)
    (n : Nat) :
    ∃ values, Spells digit? (Nat.toDigits base n) values ∧ ofDigits base values = n := by
  induction n using Nat.strongRecOn with
  | _ n ih =>
      by_cases hn : n < base
      · refine ⟨[n], ?_, by simp [ofDigits]⟩
        rw [Nat.toDigits_of_lt_base hn, Spells, List.map_singleton, hdigit n hn]
        rfl
      · obtain ⟨values, hspells, hvalue⟩ := ih (n / base) (Nat.div_lt_self (by omega) hbase)
        have hlast : n % base < base := Nat.mod_lt _ (by omega)
        refine ⟨values ++ [n % base], ?_, ?_⟩
        · rw [Nat.toDigits_of_base_le hbase (Nat.le_of_not_lt hn)]
          refine hspells.append ?_
          rw [Spells, List.map_singleton, hdigit _ hlast]
          rfl
        · rw [ofDigits_append_singleton, hvalue, Nat.mul_comm]
          exact Nat.div_add_mod n base

/-! ## Reading digits -/

theorem underscoresSeparate_of_not_mem (h : '_' ∉ s) : underscoresSeparate s = true := by
  simp only [underscoresSeparate, Bool.and_eq_true, bne_iff_ne, ne_eq]
  refine ⟨⟨fun hhead => h (List.mem_of_head? hhead),
    fun hlast => h (List.mem_of_getLast? hlast)⟩, List.all_eq_true.mpr ?_⟩
  rintro ⟨a, b⟩ hpair
  have ha : a ≠ '_' := fun heq => h (heq ▸ (List.of_mem_zip hpair).1)
  simp [ha]

/-- A text of digits is read, up to the limit of their number. -/
theorem readDigits_of_spells (limit : Option Nat) (hunderscore : digit? '_' = none)
    (h : Spells digit? s values) (hne : s ≠ []) :
    readDigits base limit digit? s =
      if limit.any (· < values.length) then .error (.tooManyDigits values.length)
      else .ok (ofDigits base values) := by
  have hrun : ∀ c ∈ s, (c == '_' || (digit? c).isSome) = true := fun c hc => by
    rw [h.isSome c hc, Bool.or_true]
  have hdrop := List.dropWhile_eq_nil_iff.mpr hrun
  have htake := List.takeWhile_eq_self_iff.mpr hrun
  have hsep : underscoresSeparate s = true := by
    refine underscoresSeparate_of_not_mem fun hmem => ?_
    have hsome := h.isSome _ hmem
    rw [hunderscore] at hsome
    cases hsome
  have hvalues : values.isEmpty = false := by
    have hlen := h.length
    cases values with
    | nil => exact absurd (List.length_eq_zero_iff.mp hlen.symm) hne
    | cons d values => rfl
  simp only [readDigits, htake, hdrop, h.filterMap, hsep, hvalues]
  rfl

/-- A character that is neither a part of a number nor a blank spoils it. -/
theorem readDigits_refused (base : Nat) (limit : Option Nat) {c : Char} (hmem : c ∈ s)
    (hunderscore : c ≠ '_') (hdigit : digit? c = none) (hblank : isAsciiBlank c = false) :
    ∃ fault, readDigits base limit digit? s = .error fault := by
  have hnot : (c == '_' || (digit? c).isSome) = false := by simp [hunderscore, hdigit]
  have hrest : c ∈ s.dropWhile fun c => c == '_' || (digit? c).isSome := by
    rw [← List.takeWhile_append_dropWhile (p := fun c => c == '_' || (digit? c).isSome) (l := s)]
      at hmem
    refine (List.mem_append.mp hmem).resolve_left fun htake => ?_
    rw [List.mem_takeWhile_imp htake] at hnot
    cases hnot
  have hall : (s.dropWhile fun c => c == '_' || (digit? c).isSome).all isAsciiBlank = false := by
    rw [List.all_eq_false]
    exact ⟨c, hrest, by simp [hblank]⟩
  simp only [readDigits, hall]
  split
  · exact ⟨_, rfl⟩
  · split <;> exact ⟨_, rfl⟩

/-! ## Digit signs -/

theorem zero_not_blank :
    ∀ z ∈ digitZeros, ∀ range ∈ blankRanges, z + 9 < range.1 ∨ range.2 < z := by decide

theorem sign_not_blank :
    ∀ sign ∈ digitSignRanges, ∀ range ∈ blankRanges, sign.2 < range.1 ∨ range.2 < sign.1 := by
  decide

theorem sign_not_ascii : ∀ sign ∈ digitSignRanges, 0x80 ≤ sign.1 := by decide

/-- Where a decimal digit lies: `d` places after a zero. -/
theorem digitValue?_eq_some {c : Char} {d : Nat} (h : digitValue? c = some d) :
    ∃ z ∈ digitZeros, c.toNat = z + d ∧ d < 10 := by
  unfold digitValue? at h
  split at h
  · split at h
    · cases h
      exact ⟨0x30, by decide, by omega, by omega⟩
    · cases h
  · obtain ⟨z, hfind, hd⟩ := Option.map_eq_some_iff.mp h
    have hz := List.find?_some hfind
    simp only [Bool.and_eq_true, decide_eq_true_eq] at hz
    exact ⟨z, List.mem_of_find?_eq_some hfind, by omega, by omega⟩

theorem isBlank_of_digit {c : Char} {d : Nat} (h : digitValue? c = some d) : isBlank c = false := by
  obtain ⟨z, hz, hc, hd⟩ := digitValue?_eq_some h
  refine Bool.eq_false_iff.mpr fun hblank => ?_
  obtain ⟨range, hrange, hlow, hhigh⟩ := Ranges.contains_iff.mp hblank
  have := zero_not_blank z hz range hrange
  omega

/-- A digit of any script becomes the ASCII digit of the same value. -/
theorem asciiDigit?_plainChar {c : Char} {d : Nat} (h : digitValue? c = some d) :
    asciiDigit? (plainChar c) = some d := by
  have hplain : ∀ d < 10, asciiDigit? (hexDigit d) = some d := by decide
  unfold plainChar
  split
  · rename_i hc
    have hascii : digitValue? c = asciiDigit? c := by
      simp only [digitValue?, asciiDigit?, if_pos (show c.toNat < 0x80 by omega), isAsciiDigit,
        Bool.and_eq_true, decide_eq_true_eq, Char.le_def, UInt32.le_iff_toNat_le]
      rfl
    rw [← hascii, h]
  · obtain ⟨z, -, -, hd⟩ := digitValue?_eq_some h
    simp only [isBlank_of_digit h, h]
    exact hplain d hd

/-- A digit sign without a value becomes a character that has no place in a number. -/
theorem plainChar_of_sign {c : Char} (h : isDigitSign c = true) (hnone : digitValue? c = none) :
    plainChar c = '?' := by
  simp only [isDigitSign, hnone, Option.isSome_none, Bool.false_or] at h
  obtain ⟨sign, hsign, hlow, hhigh⟩ := Ranges.contains_iff.mp h
  have hascii := sign_not_ascii sign hsign
  have hblank : isBlank c = false := by
    refine Bool.eq_false_iff.mpr fun hblank => ?_
    obtain ⟨range, hrange, hlow', hhigh'⟩ := Ranges.contains_iff.mp hblank
    have := sign_not_blank sign hsign range hrange
    omega
  simp [plainChar, hblank, hnone, show ¬ c.toNat < 0x7F by omega]

theorem plain_of_signs (h : ∀ c ∈ s, isDigitSign c = true) : plain s = s.map plainChar := by
  unfold plain
  split
  · rename_i hascii
    refine (List.map_id' s).symm.trans (List.map_congr_left fun c hc => ?_)
    have hlow : c.toNat < 0x80 := by simpa using List.all_eq_true.mp hascii c hc
    -- below the signs there are only the ASCII digits
    cases hvalue : digitValue? c with
    | none =>
        have hsign := h c hc
        simp only [isDigitSign, hvalue, Option.isSome_none, Bool.false_or] at hsign
        obtain ⟨sign, hmem, hfirst, -⟩ := Ranges.contains_iff.mp hsign
        have := sign_not_ascii sign hmem
        omega
    | some d =>
        simp only [digitValue?, if_pos hlow] at hvalue
        split at hvalue
        · rw [plainChar, if_pos (by omega)]
        · cases hvalue
  · rfl

/-! ## Whole texts -/

/-- Nothing comes before the digits: no blank and no sign. -/
theorem splitSign_unsigned (h : ∀ c ∈ s, isAsciiBlank c = false ∧ c ≠ '-' ∧ c ≠ '+') :
    splitSign (s.dropWhile isAsciiBlank) = (false, s) := by
  cases s with
  | nil => rfl
  | cons c rest =>
      obtain ⟨hblank, hminus, hplus⟩ := h c (List.mem_cons_self ..)
      rw [List.dropWhile_cons_of_neg (by simp [hblank])]
      unfold splitSign
      split
      · rename_i heq
        exact absurd (List.cons.inj heq).1 hminus
      · rename_i heq
        exact absurd (List.cons.inj heq).1 hplus
      · rfl

theorem plainChar_digit_sign {c : Char} (h : isDigitSign c = true) :
    (∃ d, asciiDigit? (plainChar c) = some d ∧ digitValue? c = some d)
      ∨ plainChar c = '?' ∧ digitValue? c = none := by
  cases hvalue : digitValue? c with
  | some d => exact .inl ⟨d, asciiDigit?_plainChar hvalue, rfl⟩
  | none => exact .inr ⟨plainChar_of_sign h hvalue, rfl⟩

/-- What stands at or behind the digit zero is neither a blank nor a sign. -/
theorem unsigned_of_le {c : Char} (h : '0' ≤ c) :
    isAsciiBlank c = false ∧ c ≠ '-' ∧ c ≠ '+' := by
  have hlow : 0x30 ≤ c.toNat := h
  refine ⟨?_, ?_, ?_⟩
  · rw [isAsciiBlank, Bool.or_eq_false_iff, Bool.and_eq_false_iff]
    refine ⟨decide_eq_false ?_, .inr (decide_eq_false (by omega))⟩
    rintro rfl
    exact absurd h (by decide)
  · rintro rfl
    exact absurd h (by decide)
  · rintro rfl
    exact absurd h (by decide)

theorem zero_le_of_asciiDigit {c : Char} (h : (asciiDigit? c).isSome) : '0' ≤ c := by
  unfold asciiDigit? isAsciiDigit at h
  split at h
  · simp_all
  · cases h

theorem read_of_signs (h : ∀ c ∈ s, isDigitSign c = true) :
    read s = (readDigits 10 (some digitLimit) asciiDigit? (s.map plainChar)).map
      fun n => (n : Int) := by
  have hplain : ∀ c ∈ s.map plainChar, isAsciiBlank c = false ∧ c ≠ '-' ∧ c ≠ '+' := by
    intro c hc
    obtain ⟨sign, hsign, rfl⟩ := List.mem_map.mp hc
    obtain ⟨d, hd, -⟩ | ⟨hmark, -⟩ := plainChar_digit_sign (h sign hsign)
    · exact unsigned_of_le (zero_le_of_asciiDigit (by rw [hd]; rfl))
    · rw [hmark]
      decide
  simp only [read, plain_of_signs h, readAscii, splitSign_unsigned hplain]
  rfl

/-- The text spells a number: decimal digits, and not too many of them. -/
structure Readable (s : List Char) : Prop where
  digits : ∀ c ∈ s, (digitValue? c).isSome
  short : s.length ≤ digitLimit

theorem isDigitSign_of_isSome {c : Char} (h : (digitValue? c).isSome) : isDigitSign c = true := by
  rw [isDigitSign, h, Bool.true_or]

theorem Spells.plain (h : Spells digitValue? s values) :
    Spells asciiDigit? (s.map plainChar) values := by
  rw [Spells, List.map_map, ← h]
  refine List.map_congr_left fun c hc => ?_
  obtain ⟨d, hd⟩ := Option.isSome_iff_exists.mp (h.isSome c hc)
  rw [Function.comp_apply, asciiDigit?_plainChar hd, hd]

/-- Digits of any script are read, up to the limit of their number. -/
theorem read_of_spells (h : Spells digitValue? s values) (hne : s ≠ []) :
    read s = if digitLimit < s.length then .error (.tooManyDigits s.length)
      else .ok (ofDigits 10 values) := by
  have hread : readDigits 10 (some digitLimit) asciiDigit? (s.map plainChar) = _ :=
    readDigits_of_spells (some digitLimit) (by decide) h.plain (by simpa using hne)
  rw [read_of_signs fun c hc => isDigitSign_of_isSome (h.isSome c hc), hread, h.length]
  simp only [Option.any_some, decide_eq_true_eq]
  split <;> rfl

theorem ofText_of_spells (h : Spells digitValue? s values) (hne : s ≠ [])
    (hshort : s.length ≤ digitLimit) : ofText s = .ok (ofDigits 10 values) := by
  rw [ofText, read_of_spells h hne, if_neg (Nat.not_lt.mpr hshort)]
  rfl

theorem ofText_readable (h : Readable s) (hne : s ≠ []) : ∃ n : Nat, ofText s = .ok n := by
  obtain ⟨values, hvalues⟩ := spells_of_isSome h.digits
  exact ⟨_, ofText_of_spells hvalues hne h.short⟩

theorem read_refused (hsigns : ∀ c ∈ s, isDigitSign c = true) (h : ¬ Readable s) :
    ∃ fault, read s = .error fault := by
  by_cases hdigits : ∀ c ∈ s, (digitValue? c).isSome
  · have hlong : digitLimit < s.length := Nat.lt_of_not_le fun hle => h ⟨hdigits, hle⟩
    have hne : s ≠ [] := List.ne_nil_of_length_pos (by omega)
    obtain ⟨values, hvalues⟩ := spells_of_isSome hdigits
    rw [read_of_spells hvalues hne, if_pos hlong]
    exact ⟨_, rfl⟩
  · obtain ⟨c, hc⟩ := Classical.not_forall.mp hdigits
    obtain ⟨hmem, hnone⟩ := Classical.not_imp.mp hc
    have hmark : plainChar c = '?' := plainChar_of_sign (hsigns c hmem) (by simpa using hnone)
    have hmark' : '?' ∈ s.map plainChar := List.mem_map.mpr ⟨c, hmem, hmark⟩
    have hfault : ∃ fault, readDigits 10 (some digitLimit) asciiDigit? (s.map plainChar)
        = .error fault :=
      readDigits_refused 10 (some digitLimit) hmark' (by decide) (by decide) (by decide)
    obtain ⟨fault, hread⟩ := hfault
    rw [read_of_signs hsigns, hread]
    exact ⟨fault, rfl⟩

theorem ofText_refused (hsigns : ∀ c ∈ s, isDigitSign c = true) (h : ¬ Readable s) :
    ∃ fault, ofText s = .error (.unacceptable fault) := by
  obtain ⟨fault, hread⟩ := read_refused hsigns h
  rw [ofText, hread]
  cases fault with
  | malformed => exact ⟨_, rfl⟩
  | tooManyDigits count => exact ⟨_, rfl⟩

/-! ## Numbers in base ten and in base sixteen -/

theorem decimal_natCast (n : Nat) : decimal n = Nat.toDigits 10 n := by simp [decimal]

theorem spells_decimal (n : Nat) :
    ∃ values, Spells digitValue? (Nat.toDigits 10 n) values ∧ ofDigits 10 values = n :=
  spells_toDigits (by decide) (by decide) n

theorem length_toDigits_le {n count : Nat} (hpos : 0 < count) (h : n < tenTo count) :
    (Nat.toDigits 10 n).length ≤ count :=
  (Nat.length_toDigits_le_iff (by decide) hpos).mpr h

/-- Ports, statuses and the like are short enough to be written and read. -/
theorem lt_tenTo_digitLimit {n : Nat} (h : n < 100000) : n < tenTo digitLimit :=
  Nat.lt_of_lt_of_le (show n < tenTo 5 from h) (tenTo_mono (show 5 ≤ digitLimit by decide))

theorem ofText_toDigits {n : Nat} (h : n < tenTo digitLimit) :
    ofText (Nat.toDigits 10 n) = .ok n := by
  obtain ⟨values, hspells, hvalue⟩ := spells_decimal n
  have hshort := length_toDigits_le (by decide) h
  rw [ofText_of_spells hspells Nat.toDigits_ne_nil hshort, hvalue]

theorem allDigitSigns_toDigits (n : Nat) : allDigitSigns (Nat.toDigits 10 n) = true := by
  obtain ⟨values, hspells, -⟩ := spells_decimal n
  rw [allDigitSigns, Bool.and_eq_true, List.all_eq_true]
  exact ⟨by simp [Nat.toDigits_ne_nil], fun c hc => isDigitSign_of_isSome (hspells.isSome c hc)⟩

/-- The text is one or more digits of ASCII. -/
def AsciiNumber (s : List Char) : Prop := s ≠ [] ∧ ∀ c ∈ s, isAsciiDigit c = true

theorem asciiNumber_toDigits (n : Nat) : AsciiNumber (Nat.toDigits 10 n) := by
  refine ⟨Nat.toDigits_ne_nil, fun c hc => ?_⟩
  have hdigit := Nat.isDigit_of_mem_toDigits (by decide) (by decide) hc
  rw [Char.isDigit, Bool.and_eq_true] at hdigit
  rw [isAsciiDigit, Bool.and_eq_true]
  exact hdigit

theorem isBlank_of_mem_toDigits {n : Nat} {c : Char} (h : c ∈ Nat.toDigits 10 n) :
    isBlank c = false := by
  obtain ⟨values, hspells, -⟩ := spells_decimal n
  obtain ⟨d, hd⟩ := Option.isSome_iff_exists.mp (hspells.isSome c h)
  exact isBlank_of_digit hd

theorem toNat_lt_of_mem_toDigits {n : Nat} {c : Char} (h : c ∈ Nat.toDigits 10 n) :
    c.toNat < 128 := by
  have hdigit := Nat.isDigit_of_mem_toDigits (by decide) (by decide) h
  rw [Char.isDigit, Bool.and_eq_true, decide_eq_true_eq, decide_eq_true_eq] at hdigit
  exact Nat.lt_of_le_of_lt hdigit.2 (by decide)

/-- The case of a hexadecimal digit does not matter. -/
theorem hexValue?_toLower (c : Char) : hexValue? c.toLower = hexValue? c := by
  by_cases hupper : 'A' ≤ c ∧ c ≤ 'Z'
  · have hcases : ∀ n < 26, hexValue? (Char.ofNat (65 + n)).toLower
        = hexValue? (Char.ofNat (65 + n)) := by decide
    have hlow : 65 ≤ c.toNat := hupper.1
    have hhigh : c.toNat ≤ 90 := hupper.2
    have := hcases (c.toNat - 65) (by omega)
    rwa [Nat.add_sub_cancel' hlow, Char.ofNat_toNat] at this
  · have hsame : c.toLower = c := dif_neg hupper
    rw [hsame]

theorem zero_le_of_hexValue {c : Char} (h : (hexValue? c).isSome) : '0' ≤ c := by
  unfold hexValue? at h
  split at h
  · simp_all
  · split at h
    · rename_i hc
      exact Nat.le_trans (show '0'.toNat ≤ 'a'.toNat by decide) hc.1
    · split at h
      · rename_i hc
        exact Nat.le_trans (show '0'.toNat ≤ 'A'.toNat by decide) hc.1
      · cases h

theorem toNat_lt_of_hexValue {c : Char} (h : (hexValue? c).isSome) : c.toNat < 256 := by
  unfold hexValue? at h
  split at h
  · rename_i hc
    exact Nat.lt_of_le_of_lt hc.2 (by decide)
  · split at h
    · rename_i hc
      exact Nat.lt_of_le_of_lt hc.2 (by decide)
    · split at h
      · rename_i hc
        exact Nat.lt_of_le_of_lt hc.2 (by decide)
      · cases h

/-- The mark of a hexadecimal number holds a character that is no digit. -/
theorem dropHexMark_of_isSome (h : ∀ c ∈ s, (hexValue? c).isSome) : dropHexMark s = s := by
  unfold dropHexMark
  split
  · rename_i x rest
    have hx := h x (by simp)
    split
    · rename_i hmark
      obtain rfl | rfl := hmark <;> exact absurd hx (by decide)
    · rfl
  · rfl

theorem readHex_of_spells (h : Spells hexValue? s values) (hne : s ≠ []) :
    readHex s = .ok (ofDigits 16 values) := by
  have hunsigned : ∀ c ∈ s, isAsciiBlank c = false ∧ c ≠ '-' ∧ c ≠ '+' := fun c hc =>
    unsigned_of_le (zero_le_of_hexValue (h.isSome c hc))
  have hread : readDigits 16 none hexValue? s = .ok (ofDigits 16 values) :=
    readDigits_of_spells none (by decide) h hne
  simp only [readHex, splitSign_unsigned hunsigned, dropHexMark_of_isSome h.isSome, hread]
  rfl

/-- The text is the number in base sixteen, in either case and with any leading zeros. -/
def IsHex (s : List Char) (n : Nat) : Prop :=
  ∃ zeros, s.map Char.toLower = List.replicate zeros '0' ++ Nat.toDigits 16 n

theorem IsHex.spells {n : Nat} (h : IsHex s n) :
    ∃ values, Spells hexValue? s values ∧ ofDigits 16 values = n := by
  obtain ⟨zeros, hs⟩ := h
  obtain ⟨values, hspells, hvalue⟩ : ∃ values, Spells hexValue? (Nat.toDigits 16 n) values
      ∧ ofDigits 16 values = n := spells_toDigits (by decide) (by decide) n
  have hzeros : Spells hexValue? (List.replicate zeros '0') (List.replicate zeros 0) := by
    simp only [Spells, List.map_replicate]
    rfl
  refine ⟨List.replicate zeros 0 ++ values, ?_, ?_⟩
  · have hlower : s.map hexValue? = (s.map Char.toLower).map hexValue? := by
      rw [List.map_map]
      exact List.map_congr_left fun c _ => (hexValue?_toLower c).symm
    rw [Spells, hlower, hs]
    exact hzeros.append hspells
  · rw [ofDigits_replicate_zero_append, hvalue]

theorem IsHex.ne_nil {n : Nat} (h : IsHex s n) : s ≠ [] := by
  rintro rfl
  obtain ⟨zeros, hs⟩ := h
  exact Nat.toDigits_ne_nil (List.append_eq_nil_iff.mp hs.symm).2

theorem readHex_of_isHex {n : Nat} (h : IsHex s n) : readHex s = .ok n := by
  obtain ⟨values, hspells, hvalue⟩ := h.spells
  rw [readHex_of_spells hspells h.ne_nil, hvalue]

end Courier.Text.Integer
