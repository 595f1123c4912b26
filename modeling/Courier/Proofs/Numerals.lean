import Courier.Json.Read
import Courier.Json.Write
import Courier.Proofs.Lines
import Courier.Proofs.Numbers

/-!
# Numbers as JSON has them

A numeral has a whole part, and may have a fraction and a power of ten (`Numeral`). All
that is written for a number, be it an integer or laid out from the shortest digits of a
floating-point number, is a numeral that is sound, with or without a sign
(`decimal_eq_signed`, `exists_toText`).

A numeral is read to its end wherever something follows that is no part of one
(`Follows`). It is then the integer that was written (`readScalar_showInteger`), or a
floating-point number (`readScalar_writeFloat`).
-/

namespace Courier.Json

open Text Decimal
open Text.Integer (AsciiNumber)

variable {s tail rest : List Char} {c : Char}

/-- What may stand behind a value: nothing, a comma, or the end of a list or a map. -/
def Follows (rest : List Char) : Prop :=
  ∀ c, rest.head? = some c → c = ',' ∨ c = ']' ∨ c = '\x7d'

/-- The parts of a number: digits, digits behind a point, and a power of ten, which has a
sign and digits. -/
structure Numeral where
  whole : List Char
  fraction : List Char := []
  power : Option (Char × List Char) := none

namespace Numeral

variable {n : Numeral}

def fractionText (n : Numeral) : List Char :=
  if n.fraction = [] then [] else '.' :: n.fraction

def powerText (n : Numeral) : List Char :=
  match n.power with
  | none => []
  | some (sign, digits) => 'e' :: sign :: digits

def text (n : Numeral) : List Char := n.whole ++ (n.fractionText ++ n.powerText)

/-- The power of ten as a number. -/
def exponent? (n : Numeral) : Option Int :=
  n.power.map fun (sign, digits) =>
    let size := Integer.ofDigits 10 (digits.filterMap Integer.asciiDigit?)
    if sign == '-' then -(size : Int) else size

/-- The text of a number of either sign. -/
def signed (n : Numeral) (negative : Bool) : List Char :=
  if negative then '-' :: n.text else n.text

/-- The number is an integer by its text. -/
def IsWhole (n : Numeral) : Prop := n.fraction = [] ∧ n.power = none

/-- The parts are digits, and the whole part has no zero in front of another digit. -/
structure Sound (n : Numeral) : Prop where
  whole : n.whole = ['0'] ∨ AsciiNumber n.whole ∧ n.whole.head? ≠ some '0'
  fraction : ∀ c ∈ n.fraction, isAsciiDigit c = true
  power : ∀ sign digits, n.power = some (sign, digits) →
    (sign = '-' ∨ sign = '+') ∧ AsciiNumber digits

theorem Sound.digits (h : n.Sound) : AsciiNumber n.whole := by
  rcases h.whole with hzero | ⟨hdigits, -⟩
  · rw [hzero]
    exact ⟨List.cons_ne_nil _ _, List.forall_mem_singleton.mpr rfl⟩
  · exact hdigits

/-! ## Reading the parts -/

theorem not_digit_of_follows (h : Follows rest) :
    ∀ c, rest.head? = some c → isAsciiDigit c = false := by
  intro c hc
  obtain rfl | rfl | rfl := h c hc <;> rfl

/-- Behind the whole part and the fraction there is no digit. -/
theorem not_digit_of_power (n : Numeral) (h : Follows rest) :
    ∀ c, (n.powerText ++ rest).head? = some c → isAsciiDigit c = false ∧ c ≠ '.' := by
  intro c hc
  unfold powerText at hc
  split at hc
  · obtain rfl | rfl | rfl := h c hc <;> exact ⟨rfl, by decide⟩
  · cases hc
    exact ⟨rfl, by decide⟩

theorem not_digit_of_fraction (n : Numeral) (h : Follows rest) :
    ∀ c, (n.fractionText ++ (n.powerText ++ rest)).head? = some c → isAsciiDigit c = false := by
  intro c hc
  unfold fractionText at hc
  split at hc
  · exact (n.not_digit_of_power h c hc).1
  · cases hc
    rfl

theorem takeDigits_append (hs : ∀ c ∈ s, isAsciiDigit c = true)
    (htail : ∀ c, tail.head? = some c → isAsciiDigit c = false) :
    takeDigits (s ++ tail) = (s, tail) := by
  obtain ⟨htake, hdrop⟩ := span_append hs htail
  rw [takeDigits, htake, hdrop]

theorem takeWhole_append (h : n.Sound) (htail : ∀ c, tail.head? = some c → isAsciiDigit c = false) :
    takeWhole (n.whole ++ tail) = (n.whole, tail) := by
  rcases h.whole with hzero | ⟨⟨hne, hdigits⟩, hhead⟩
  · rw [hzero]
    rfl
  · unfold takeWhole
    split
    · rename_i rest hzero
      obtain ⟨digit, more, hwhole⟩ := List.exists_cons_of_ne_nil hne
      rw [hwhole] at hzero hhead
      obtain ⟨rfl, -⟩ := List.cons.inj hzero
      exact absurd rfl hhead
    · exact takeDigits_append hdigits htail

theorem takeFraction_append (h : n.Sound)
    (htail : ∀ c, tail.head? = some c → isAsciiDigit c = false ∧ c ≠ '.') :
    takeFraction (n.fractionText ++ tail) = (n.fraction, tail) := by
  unfold fractionText
  split
  · rename_i hnone
    rw [hnone, List.nil_append]
    unfold takeFraction
    split
    · exact absurd rfl (htail '.' rfl).2
    · rfl
  · rename_i hsome
    have hdigits := takeDigits_append h.fraction fun c hc => (htail c hc).1
    rw [List.cons_append, takeFraction, hdigits]
    cases hfraction : n.fraction with
    | nil => exact absurd hfraction hsome
    | cons digit more => rfl

theorem takeExponent_of_follows (h : Follows rest) : takeExponent rest = (none, rest) := by
  cases rest with
  | nil => rfl
  | cons c rest => obtain rfl | rfl | rfl := h c rfl <;> rfl

theorem takeExponent_append (h : n.Sound) (hrest : Follows rest) :
    takeExponent (n.powerText ++ rest) = (n.exponent?, rest) := by
  unfold powerText exponent?
  split
  · rename_i hnone
    rw [hnone]
    exact takeExponent_of_follows hrest
  · rename_i sign digits hsome
    obtain ⟨hsign, hne, hdigits⟩ := h.power sign digits hsome
    have hsplit : Integer.splitSign (sign :: (digits ++ rest)) = (sign == '-', digits ++ rest) := by
      obtain rfl | rfl := hsign <;> rfl
    have htake := takeDigits_append hdigits (not_digit_of_follows hrest)
    rw [hsome, List.cons_append, List.cons_append, takeExponent, if_pos (.inl rfl), hsplit]
    simp only [htake]
    cases digits with
    | nil => exact absurd rfl hne
    | cons digit more => rfl

/-! ## Reading numbers -/

theorem Sound.starts (h : n.Sound) (rest : List Char) :
    ∃ digit more, n.text ++ rest = digit :: more ∧ isAsciiDigit digit = true := by
  obtain ⟨hne, hdigits⟩ := h.digits
  obtain ⟨digit, more, hwhole⟩ := List.exists_cons_of_ne_nil hne
  refine ⟨digit, more ++ (n.fractionText ++ n.powerText) ++ rest, ?_, ?_⟩
  · rw [text, hwhole]
    rfl
  · exact hdigits digit (hwhole ▸ List.mem_cons_self)

theorem ne_minus_of_digit (h : isAsciiDigit c = true) : c ≠ '-' := by
  rintro rfl
  cases h

/-- Reads a number whose sign has been taken off from the front of `text`. -/
def readUnsigned (negative : Bool) (text s : List Char) : Reading Value :=
  match takeWhole s with
  | ([], _) => .error (.broken .valueExpected text)
  | (whole, rest) =>
      let (fraction, rest) := takeFraction rest
      let (exponent, rest) := takeExponent rest
      if fraction.isEmpty && exponent.isNone then
        (integerValue negative whole).map fun v => (v, rest)
      else
        let digits := (whole ++ fraction).filterMap Integer.asciiDigit?
        .ok (.float (.ofDecimal negative (Integer.ofDigits 10 digits)
          (exponent.getD 0 - fraction.length)), rest)

theorem readNumber_signed (h : n.Sound) (negative : Bool) (rest : List Char) :
    readNumber (n.signed negative ++ rest)
      = readUnsigned negative (n.signed negative ++ rest) (n.text ++ rest) := by
  cases negative with
  | true => rfl
  | false =>
      have hplain : n.signed false = n.text := rfl
      obtain ⟨digit, more, htext, hdigit⟩ := h.starts rest
      rw [hplain, htext]
      unfold readNumber
      split
      rename_i negative left hsplit
      split at hsplit
      · rename_i hminus
        exact absurd (List.cons.inj hminus).1 (ne_minus_of_digit hdigit)
      · cases hsplit
        rfl

/-- The floating-point number next to a numeral. -/
def toFloat (n : Numeral) (negative : Bool) : Binary64 :=
  .ofDecimal negative (Integer.ofDigits 10 ((n.whole ++ n.fraction).filterMap Integer.asciiDigit?))
    (n.exponent?.getD 0 - n.fraction.length)

theorem isWhole_iff : (n.fraction.isEmpty && n.exponent?.isNone) = true ↔ n.IsWhole := by
  simp [IsWhole, exponent?]

/-- A numeral is read to its end, as an integer if it is one. -/
theorem readNumber_append (h : n.Sound) (negative : Bool) (hrest : Follows rest) :
    (n.IsWhole → readNumber (n.signed negative ++ rest)
        = (integerValue negative n.whole).map fun v => (v, rest))
      ∧ (¬ n.IsWhole →
        readNumber (n.signed negative ++ rest) = .ok (.float (n.toFloat negative), rest)) := by
  have hexponent := takeExponent_append h hrest
  have hfraction := takeFraction_append h (n.not_digit_of_power hrest)
  have hwhole := takeWhole_append h (n.not_digit_of_fraction hrest)
  have htext : n.text ++ rest = n.whole ++ (n.fractionText ++ (n.powerText ++ rest)) := by
    simp [text]
  rw [readNumber_signed h, readUnsigned, htext, hwhole]
  split
  · rename_i heq
    exact absurd (Prod.mk.inj heq).1 h.digits.1
  · rename_i whole left hne heq
    cases heq
    simp only [hfraction, hexponent]
    constructor
    · intro his
      rw [if_pos (isWhole_iff.mpr his)]
    · intro hnot
      rw [if_neg fun his => hnot (isWhole_iff.mp his)]
      rfl

/-! ## Numerals as values -/

/-- No name starts with a digit, or with a minus and a digit. -/
theorem names_start : ∀ entry ∈ names, ∃ mark, entry.1.head? = some mark
    ∧ isAsciiDigit mark = false
    ∧ (mark = '-' → entry.1.tail.head? = some 'I') := by
  simp only [names, List.forall_mem_cons, List.not_mem_nil, false_implies, implies_true, and_true]
  exact ⟨⟨'n', rfl, rfl, nofun⟩, ⟨'t', rfl, rfl, nofun⟩, ⟨'f', rfl, rfl, nofun⟩,
    ⟨'N', rfl, rfl, nofun⟩, ⟨'I', rfl, rfl, nofun⟩, ⟨'-', rfl, rfl, fun _ => rfl⟩⟩

theorem not_name (h : isAsciiDigit c = true) (negative : Bool) (s : List Char) :
    names.find? (fun entry => entry.1.isPrefixOf (if negative then '-' :: c :: s else c :: s))
      = none := by
  refine List.find?_eq_none.mpr fun entry hentry hprefix => ?_
  obtain ⟨mark, hmark, hdigit, hminus⟩ := names_start entry hentry
  obtain ⟨more, hname⟩ := List.head?_eq_some_iff.mp hmark
  obtain ⟨tail, htail⟩ := List.isPrefixOf_iff_prefix.mp hprefix
  rw [hname] at htail hminus
  cases negative with
  | false =>
      obtain ⟨rfl, -⟩ := List.cons.inj htail
      rw [h] at hdigit
      cases hdigit
  | true =>
      obtain ⟨rfl, hmore⟩ := List.cons.inj htail
      obtain ⟨last, rfl⟩ := List.head?_eq_some_iff.mp (hminus rfl)
      obtain ⟨rfl, -⟩ := List.cons.inj hmore
      cases h

theorem readScalar_signed (h : n.Sound) (negative : Bool) (rest : List Char) :
    readScalar (n.signed negative ++ rest) = readNumber (n.signed negative ++ rest) := by
  obtain ⟨digit, more, htext, hdigit⟩ := h.starts rest
  have hsigned : n.signed negative ++ rest
      = if negative then '-' :: digit :: more else digit :: more := by
    rw [← htext]
    cases negative <;> rfl
  have hquote : ∀ tail, n.signed negative ++ rest ≠ '"' :: tail := by
    intro tail hquote
    rw [hsigned] at hquote
    cases negative with
    | false =>
        obtain ⟨rfl, -⟩ := List.cons.inj hquote
        cases hdigit
    | true => cases hquote
  unfold readScalar
  split
  · rename_i tail heq
    exact absurd heq (hquote tail)
  · rw [hsigned, not_name hdigit]

/-- A numeral that is no integer is read as a floating-point number. -/
theorem readScalar_numeral (h : n.Sound) (hparts : ¬ n.IsWhole) (negative : Bool)
    (hrest : Follows rest) :
    readScalar (n.signed negative ++ rest) = .ok (.float (n.toFloat negative), rest) := by
  rw [readScalar_signed h]
  exact (readNumber_append h negative hrest).2 hparts

/-! ## Integers -/

theorem head?_toDigits {n : Nat} (h : n ≠ 0) : (Nat.toDigits 10 n).head? ≠ some '0' := by
  induction n using Nat.strongRecOn with
  | _ n ih =>
      by_cases hsmall : n < 10
      · have hdigits : ∀ k < 10, k ≠ 0 → Nat.digitChar k ≠ '0' := by decide
        rw [Nat.toDigits_of_lt_base hsmall, List.head?_singleton]
        exact fun hzero => hdigits n hsmall h (Option.some.inj hzero)
      · have hfront := ih (n / 10) (by omega) (by omega)
        rw [Nat.toDigits_of_base_le (by decide) (Nat.le_of_not_lt hsmall)]
        obtain ⟨digit, more, hdigits⟩ := List.exists_cons_of_ne_nil
          (Nat.toDigits_ne_nil (n := n / 10) (b := 10))
        rw [hdigits] at hfront ⊢
        exact hfront

theorem sound_toDigits (n : Nat) : Sound { whole := Nat.toDigits 10 n } := by
  refine ⟨?_, nofun, nofun⟩
  by_cases hzero : n = 0
  · subst hzero
    exact .inl rfl
  · exact .inr ⟨Integer.asciiNumber_toDigits n, head?_toDigits hzero⟩

theorem decimal_eq_signed (i : Int) :
    Integer.decimal i = signed { whole := Nat.toDigits 10 i.natAbs } (i < 0) := by
  simp [Integer.decimal, signed, text, fractionText, powerText]

/-- The digits of an integer that is short enough are read as this integer. -/
theorem integerValue_toDigits {i : Int} (h : i.natAbs < tenTo digitLimit) :
    integerValue (i < 0) (Nat.toDigits 10 i.natAbs) = .ok (.int i) := by
  have hdigit : ∀ d < 10, Integer.asciiDigit? d.digitChar = some d := by decide
  obtain ⟨values, hspells, hvalue⟩ := Integer.spells_toDigits (by decide) hdigit i.natAbs
  have hshort := Integer.length_toDigits_le (by decide) h
  rw [integerValue, if_neg (Nat.not_lt.mpr hshort), hspells.filterMap, hvalue]
  by_cases hneg : i < 0
  · simp only [decide_eq_true hneg, if_true]
    rw [show -(i.natAbs : Int) = i by omega]
  · simp only [decide_eq_false hneg, Bool.false_eq_true, if_false]
    rw [show (i.natAbs : Int) = i by omega]

/-- An integer that is written is read back. -/
theorem readScalar_showInteger {i : Int} {text : List Char} (h : Value.showInteger i = .ok text)
    (hrest : Follows rest) : readScalar (text ++ rest) = .ok (.int i, rest) := by
  unfold Value.showInteger Integer.decimal? at h
  split at h
  · rename_i digits hdigits
    cases h
    split at hdigits
    · cases hdigits
    · rename_i hshort
      cases hdigits
      have hsound := sound_toDigits i.natAbs
      rw [decimal_eq_signed, readScalar_signed hsound,
        (readNumber_append hsound _ hrest).1 ⟨rfl, rfl⟩,
        integerValue_toDigits (Nat.lt_of_not_le hshort)]
      rfl
  · cases h

/-! ## Floating-point numbers -/

theorem asciiNumber_append (hs : AsciiNumber s) (htail : ∀ c ∈ tail, isAsciiDigit c = true) :
    AsciiNumber (s ++ tail) :=
  ⟨List.append_ne_nil_of_left_ne_nil hs.1 _, List.forall_mem_append.mpr ⟨hs.2, htail⟩⟩

theorem digits_replicate_zero (count : Nat) :
    ∀ c ∈ List.replicate count '0', isAsciiDigit c = true := by
  intro c hc
  rw [(List.mem_replicate.mp hc).2]
  rfl

theorem exponentPart_eq (exponent : Int) : ∃ sign digits, exponentPart exponent = sign :: digits
    ∧ (sign = '-' ∨ sign = '+') ∧ AsciiNumber digits := by
  have hdigits := Integer.asciiNumber_toDigits exponent.natAbs
  refine ⟨_, _, rfl, ?_, ?_⟩
  · split
    · exact .inl rfl
    · exact .inr rfl
  · split
    · exact ⟨List.cons_ne_nil _ _, List.forall_mem_cons.mpr ⟨rfl, hdigits.2⟩⟩
    · exact hdigits

/-- Digits that are laid out are a numeral, and no integer. -/
theorem exists_layout {digits : List Char} (hdigits : AsciiNumber digits)
    (hhead : digits.head? ≠ some '0') (leading : Int) :
    ∃ n : Numeral, n.Sound ∧ ¬ n.IsWhole ∧ layout digits leading = n.text := by
  obtain ⟨first, more, rfl⟩ := List.exists_cons_of_ne_nil hdigits.1
  have hfirst : ∀ {whole : List Char}, AsciiNumber (first :: whole) →
      first :: whole = ['0'] ∨ AsciiNumber (first :: whole)
        ∧ (first :: whole).head? ≠ some '0' := fun h => .inr ⟨h, hhead⟩
  unfold layout
  split
  · split
    · -- a point behind a zero
      refine ⟨{ whole := ['0'],
                fraction := List.replicate ((-leading).toNat - 1) '0' ++ first :: more },
        ⟨.inl rfl, List.forall_mem_append.mpr ⟨digits_replicate_zero _, hdigits.2⟩, nofun⟩,
        fun his => ?_, ?_⟩
      · exact List.append_ne_nil_of_right_ne_nil _ (List.cons_ne_nil _ _) his.1
      · simp [text, fractionText, powerText]
    · dsimp only
      split
      · -- a point behind all digits
        refine ⟨{ whole := first :: more
                    ++ List.replicate (leading.toNat + 1 - (first :: more).length) '0',
                  fraction := ['0'] },
          ⟨hfirst (asciiNumber_append hdigits (digits_replicate_zero _)),
            digits_replicate_zero 1, nofun⟩, fun his => List.cons_ne_nil _ _ his.1, ?_⟩
        simp [text, fractionText, powerText]
      · -- a point between digits
        rename_i hlong
        have hmore : more.drop leading.toNat ≠ [] := by
          rw [Ne, List.drop_eq_nil_iff]
          rw [List.length_cons] at hlong
          omega
        have hfront : ∀ c ∈ first :: more.take leading.toNat, isAsciiDigit c = true := fun c hc =>
          hdigits.2 c ((List.mem_cons.mp hc).elim (fun h => h ▸ List.mem_cons_self) fun h =>
            List.mem_cons_of_mem _ (List.mem_of_mem_take h))
        refine ⟨{ whole := first :: more.take leading.toNat, fraction := more.drop leading.toNat },
          ⟨hfirst ⟨List.cons_ne_nil _ _, hfront⟩,
            fun c hc => hdigits.2 c (List.mem_cons_of_mem _ (List.mem_of_mem_drop hc)), nofun⟩,
          fun his => hmore his.1, ?_⟩
        simp [text, fractionText, powerText, hmore]
  · -- a power of ten
    obtain ⟨sign, power, hpart, hsign, hpower⟩ := exponentPart_eq leading
    obtain ⟨hfirstDigit, hmore⟩ := List.forall_mem_cons.mp hdigits.2
    refine ⟨{ whole := [first], fraction := more, power := some (sign, power) },
      ⟨hfirst ⟨List.cons_ne_nil _ _, List.forall_mem_singleton.mpr hfirstDigit⟩, hmore, ?_⟩,
      fun his => ?_, ?_⟩
    · rintro _ _ ⟨⟩
      exact ⟨hsign, hpower⟩
    · cases his.2
    · rw [hpart]
      simp [text, fractionText, powerText]

/-- The shortest digits of a number that is not zero are not zero. -/
theorem digits_shortest_ne_zero {mantissa : Nat} (h : mantissa ≠ 0) (exponent : Int) :
    (shortest mantissa exponent).digits ≠ 0 := by
  unfold shortest
  dsimp only
  generalize hsearch : (List.range 17).findSome? _ = found
  cases found with
  | none =>
      exact Nat.ne_of_gt (Nat.mul_pos (Nat.pos_of_ne_zero h) (twoTo_pos _))
  | some d =>
      obtain ⟨grid, -, hgrid⟩ := List.exists_of_findSome?_eq_some hsearch
      have hreads := onGrid_reads hgrid
      intro hzero
      rw [Option.getD_some] at hzero
      rw [hzero, beq_iff_eq, Binary64.ofDecimal, if_pos rfl, Binary64.zero] at hreads
      exact h (Binary64.finite.inj hreads).2.1.symm

theorem dropTrailing_zeros {m : Nat} (h : m ≠ 0) :
    AsciiNumber (dropTrailing (· == '0') (Nat.toDigits 10 m))
      ∧ (dropTrailing (· == '0') (Nat.toDigits 10 m)).head? ≠ some '0' := by
  have hhead := head?_toDigits h
  refine ⟨⟨fun hnil => ?_, fun c hc => ?_⟩, fun hzero => hhead (head?_of_dropTrailing hzero)⟩
  · -- all digits would be zeros
    obtain ⟨first, more, hdigits⟩ := List.exists_cons_of_ne_nil
      (Nat.toDigits_ne_nil (n := m) (b := 10))
    rw [dropTrailing, List.reverse_eq_nil_iff, List.dropWhile_eq_nil_iff] at hnil
    have hfirst := hnil first (by rw [hdigits]; simp)
    rw [hdigits, beq_iff_eq.mp hfirst] at hhead
    exact hhead rfl
  · exact (Integer.asciiNumber_toDigits m).2 c ((prefix_dropTrailing _ _).subset hc)

/-- A finite number is written as a numeral. -/
theorem exists_toText (negative : Bool) (mantissa : Nat) (exponent : Int) :
    ∃ n : Numeral, n.Sound ∧ ¬ n.IsWhole
      ∧ (Binary64.finite negative mantissa exponent).toText = n.signed negative := by
  unfold Binary64.toText
  dsimp only
  by_cases hmantissa : mantissa = 0
  · refine ⟨{ whole := ['0'], fraction := ['0'] }, ⟨.inl rfl, digits_replicate_zero 1, nofun⟩,
      fun his => List.cons_ne_nil _ _ his.1, ?_⟩
    rw [if_pos hmantissa]
    rfl
  · obtain ⟨hdigits, hhead⟩ := dropTrailing_zeros (digits_shortest_ne_zero hmantissa exponent)
    obtain ⟨n, hsound, hparts, htext⟩ := exists_layout hdigits hhead
      ((shortest mantissa exponent).exponent
        + (Nat.toDigits 10 (shortest mantissa exponent).digits).length - 1)
    refine ⟨n, hsound, hparts, ?_⟩
    rw [if_neg hmantissa, htext]
    rfl

/-- Whatever is written for a floating-point number is read as one. -/
theorem readScalar_writeFloat (x : Binary64) :
    ∃ y, ∀ rest, Follows rest → readScalar (writeFloat x ++ rest) = .ok (.float y, rest) := by
  cases x with
  | nan => exact ⟨.nan, fun _ _ => rfl⟩
  | infinity negative => cases negative <;> exact ⟨_, fun _ _ => rfl⟩
  | finite negative mantissa exponent =>
      obtain ⟨n, hsound, hparts, htext⟩ := exists_toText negative mantissa exponent
      have hwrite : writeFloat (.finite negative mantissa exponent) = n.signed negative := htext
      rw [hwrite]
      exact ⟨_, fun rest hrest => readScalar_numeral hsound hparts negative hrest⟩

end Numeral

end Courier.Json
