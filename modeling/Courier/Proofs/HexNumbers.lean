import Courier.Proofs.Lines

/-!
# Hexadecimal numbers, strict and lenient

A number in base sixteen is one or more digits (`Integer.Digits`). The reader
takes more than that for one: a sign, the mark `0x`, and single underscores
between digits (`Integer.Lenient`). This is all it takes, with blanks around it
(`Integer.readHex_eq_ok_iff`).
-/

namespace Courier.Text

namespace Integer

variable {s run digits : List Char} {values : List Nat} {c d : Char} {v : Nat} {n : Int}

/-! ## Groups of digits -/

/-- Digits with at most one underscore between neighbours. -/
inductive Grouped : List Char → List Nat → Prop where
  | last {c : Char} {v : Nat} (digit : hexValue? c = some v) : Grouped [c] [v]
  | next {c : Char} {v : Nat} {s : List Char} {values : List Nat} (digit : hexValue? c = some v)
      (rest : Grouped s values) : Grouped (c :: s) (v :: values)
  | apart {c : Char} {v : Nat} {s : List Char} {values : List Nat} (digit : hexValue? c = some v)
      (rest : Grouped s values) : Grouped (c :: '_' :: s) (v :: values)

theorem underscoresSeparate_next (hc : (c == '_') = false) (hd : (d == '_') = false) :
    underscoresSeparate (c :: d :: s) = underscoresSeparate (d :: s) := by
  simp [underscoresSeparate, bne, hc, hd]

theorem underscoresSeparate_apart (hc : (c == '_') = false) :
    underscoresSeparate (c :: '_' :: s) = (!s.isEmpty && underscoresSeparate s) := by
  cases s with
  | nil => simp [underscoresSeparate, bne]
  | cons d s =>
      cases hd : d == '_' <;> simp [underscoresSeparate, bne, hc, hd]

theorem not_underscore_of_hex (h : hexValue? c = some v) : (c == '_') = false := by
  rw [← Bool.not_eq_true, beq_iff_eq]
  rintro rfl
  cases h

theorem Grouped.head (h : Grouped s values) : ∃ c rest, s = c :: rest ∧ (hexValue? c).isSome := by
  cases h with
  | last digit => exact ⟨_, _, rfl, by rw [digit]; rfl⟩
  | next digit rest => exact ⟨_, _, rfl, by rw [digit]; rfl⟩
  | apart digit rest => exact ⟨_, _, rfl, by rw [digit]; rfl⟩

theorem Grouped.mem (h : Grouped s values) : ∀ c ∈ s, c = '_' ∨ (hexValue? c).isSome := by
  induction h with
  | last digit =>
      intro c hc
      rw [List.mem_singleton.mp hc, digit]
      exact .inr rfl
  | next digit rest ih =>
      intro c hc
      rcases List.mem_cons.mp hc with rfl | hc
      · exact .inr (by rw [digit]; rfl)
      · exact ih c hc
  | apart digit rest ih =>
      intro c hc
      rcases List.mem_cons.mp hc with rfl | hc
      · exact .inr (by rw [digit]; rfl)
      · rcases List.mem_cons.mp hc with rfl | hc
        · exact .inl rfl
        · exact ih c hc

theorem Grouped.filterMap (h : Grouped s values) : s.filterMap hexValue? = values := by
  have hunderscore : hexValue? '_' = none := by decide
  induction h with
  | last digit => simp [digit]
  | next digit rest ih => simp [digit, ih]
  | apart digit rest ih => simp [digit, hunderscore, ih]

theorem Grouped.separate (h : Grouped s values) : underscoresSeparate s = true := by
  induction h with
  | last digit =>
      simp [underscoresSeparate, bne, not_underscore_of_hex digit]
  | next digit rest ih =>
      obtain ⟨d, more, rfl, hd⟩ := rest.head
      obtain ⟨v, hv⟩ := Option.isSome_iff_exists.mp hd
      rw [underscoresSeparate_next (not_underscore_of_hex digit) (not_underscore_of_hex hv)]
      exact ih
  | apart digit rest ih =>
      obtain ⟨d, more, rfl, hd⟩ := rest.head
      rw [underscoresSeparate_apart (not_underscore_of_hex digit), ih]
      rfl

/-- Digits and separate underscores are groups of digits. -/
theorem grouped_of_separate : ∀ {s : List Char}, s ≠ [] →
    (∀ c ∈ s, c = '_' ∨ (hexValue? c).isSome) → underscoresSeparate s = true →
      Grouped s (s.filterMap hexValue?)
  | [], hne, _, _ => absurd rfl hne
  | [c], _, hmem, hseparate => by
      rcases hmem c (List.mem_singleton_self c) with rfl | hc
      · cases hseparate
      · obtain ⟨v, hv⟩ := Option.isSome_iff_exists.mp hc
        simpa [hv] using Grouped.last hv
  | c :: d :: s, _, hmem, hseparate => by
      rcases hmem c List.mem_cons_self with rfl | hc
      · simp [underscoresSeparate] at hseparate
      · obtain ⟨v, hv⟩ := Option.isSome_iff_exists.mp hc
        have hmark := not_underscore_of_hex hv
        rcases hmem d (List.mem_cons_of_mem _ List.mem_cons_self) with rfl | hd
        · rw [underscoresSeparate_apart hmark, Bool.and_eq_true] at hseparate
          have hne : s ≠ [] := by simpa using hseparate.1
          have hrest := grouped_of_separate hne (fun e he =>
            hmem e (List.mem_cons_of_mem _ (List.mem_cons_of_mem _ he))) hseparate.2
          have hunderscore : hexValue? '_' = none := by decide
          simpa [hv, hunderscore] using Grouped.apart hv hrest
        · obtain ⟨w, hw⟩ := Option.isSome_iff_exists.mp hd
          rw [underscoresSeparate_next hmark (not_underscore_of_hex hw)] at hseparate
          have hrest := grouped_of_separate (List.cons_ne_nil d s) (fun e he =>
            hmem e (List.mem_cons_of_mem _ he)) hseparate
          rw [List.filterMap_cons, hv]
          exact Grouped.next hv hrest

theorem not_blank_of_inRun (h : c = '_' ∨ (hexValue? c).isSome) : isAsciiBlank c = false := by
  rcases h with rfl | hc
  · decide
  · exact (unsigned_of_le (zero_le_of_hexValue hc)).1

/-- Groups of digits with blanks behind them are all that is read without a sign and a mark. -/
theorem readDigits_eq_ok_iff {n : Nat} : readDigits 16 none hexValue? s = .ok n
    ↔ ∃ run trail values, s = run ++ trail ∧ Grouped run values
      ∧ (∀ c ∈ trail, isAsciiBlank c = true) ∧ n = ofDigits 16 values := by
  constructor
  · intro h
    simp only [readDigits] at h
    split at h
    · cases h
    · rename_i hrun
      rw [if_neg (by simp)] at h
      split at h
      · rename_i hblanks
        cases h
        simp only [Bool.or_eq_true, not_or, Bool.not_eq_true, Bool.not_eq_false'] at hrun
        have hne : (s.takeWhile fun c => c == '_' || (hexValue? c).isSome) ≠ [] := by
          intro hnil
          rw [hnil] at hrun
          cases hrun.1
        have hmem : ∀ c ∈ s.takeWhile fun c => c == '_' || (hexValue? c).isSome,
            c = '_' ∨ (hexValue? c).isSome := by
          intro c hc
          simpa using List.mem_takeWhile_imp hc
        exact ⟨_, _, _, List.takeWhile_append_dropWhile.symm,
          grouped_of_separate hne hmem hrun.2, List.all_eq_true.mp hblanks, rfl⟩
      · cases h
  · rintro ⟨run, trail, values, rfl, hrun, htrail, rfl⟩
    have hinRun : ∀ c ∈ run, (c == '_' || (hexValue? c).isSome) = true := by
      intro c hc
      simpa using hrun.mem c hc
    have hstop : ∀ c ∈ trail, (c == '_' || (hexValue? c).isSome) = false := by
      intro c hc
      rw [← Bool.not_eq_true]
      intro hin
      have hblank := not_blank_of_inRun (c := c) (by simpa using hin)
      rw [htrail c hc] at hblank
      cases hblank
    obtain ⟨htake, hdrop⟩ :=
      span_append hinRun fun c hc => hstop c (List.mem_of_head? hc)
    have hvalues : values.isEmpty = false := by
      cases hrun <;> rfl
    have hblanks : trail.all isAsciiBlank = true := List.all_eq_true.mpr htrail
    simp only [readDigits, htake, hdrop, hrun.filterMap, hvalues, hrun.separate, hblanks]
    rfl

/-! ## Signs and marks -/

def hexMarks : List (List Char) := [[], ['0', 'x'], ['0', 'X'], ['0', 'x', '_'], ['0', 'X', '_']]

theorem exists_hexMark (s : List Char) : ∃ mark ∈ hexMarks, s = mark ++ dropHexMark s := by
  unfold dropHexMark
  split
  · rename_i x rest
    split
    · rename_i hx
      rcases hx with rfl | rfl
      · split
        · exact ⟨['0', 'x', '_'], by decide, rfl⟩
        · exact ⟨['0', 'x'], by decide, rfl⟩
      · split
        · exact ⟨['0', 'X', '_'], by decide, rfl⟩
        · exact ⟨['0', 'X'], by decide, rfl⟩
    · exact ⟨[], by decide, rfl⟩
  · exact ⟨[], by decide, rfl⟩

theorem dropHexMark_of_not_mem (h : ∀ c ∈ s, c ≠ 'x' ∧ c ≠ 'X') : dropHexMark s = s := by
  unfold dropHexMark
  split
  · rename_i x rest
    rw [if_neg]
    rintro (rfl | rfl)
    · exact (h 'x' (by simp)).1 rfl
    · exact (h 'X' (by simp)).2 rfl
  · rfl

/-- A mark in front of a group of digits is taken off, and no more than that. -/
theorem dropHexMark_append {mark trail : List Char} (hmark : mark ∈ hexMarks)
    (hrun : Grouped run values) (htrail : ∀ c ∈ trail, isAsciiBlank c = true) :
    dropHexMark (mark ++ (run ++ trail)) = run ++ trail := by
  obtain ⟨c, rest, rfl, hc⟩ := hrun.head
  obtain ⟨v, hv⟩ := Option.isSome_iff_exists.mp hc
  have hunderscore : c ≠ '_' := by simpa using not_underscore_of_hex hv
  simp only [hexMarks, List.mem_cons, List.not_mem_nil, or_false] at hmark
  rcases hmark with rfl | rfl | rfl | rfl | rfl
  · rw [List.nil_append]
    refine dropHexMark_of_not_mem fun d hd => ?_
    rcases List.mem_append.mp hd with hd | hd
    · rcases hrun.mem d hd with rfl | hdigit
      · decide
      · constructor <;> rintro rfl <;> cases hdigit
    · have hblank := htrail d hd
      constructor <;> rintro rfl <;> cases hblank
  · simp [dropHexMark, hunderscore]
  · simp [dropHexMark, hunderscore]
  · rfl
  · rfl

theorem exists_sign (s : List Char) :
    ∃ sign ∈ [[], ['+'], ['-']], s = sign ++ (splitSign s).2
      ∧ (splitSign s).1 = decide (sign = ['-']) := by
  unfold splitSign
  split
  · exact ⟨['-'], by decide, rfl, rfl⟩
  · exact ⟨['+'], by decide, rfl, rfl⟩
  · exact ⟨[], by decide, rfl, rfl⟩

theorem splitSign_append {sign : List Char} (hsign : sign ∈ [[], ['+'], ['-']])
    (hs : ∀ c, s.head? = some c → '0' ≤ c) :
    splitSign (sign ++ s) = (decide (sign = ['-']), s) := by
  simp only [List.mem_cons, List.not_mem_nil, or_false] at hsign
  rcases hsign with rfl | rfl | rfl
  · cases s with
    | nil => rfl
    | cons c s =>
        obtain ⟨-, hminus, hplus⟩ := unsigned_of_le (hs c rfl)
        unfold splitSign
        split
        · rename_i heq
          exact absurd (List.cons.inj heq).1 hminus
        · rename_i heq
          exact absurd (List.cons.inj heq).1 hplus
        · rfl
  · rfl
  · rfl

/-- The number that digits stand for behind a sign. -/
def signed (sign : List Char) (values : List Nat) : Int :=
  if decide (sign = ['-']) then -(ofDigits 16 values : Int) else ofDigits 16 values

/-- What is taken for a number in base sixteen: perhaps a sign, perhaps a mark,
and groups of digits. -/
inductive Lenient : List Char → Int → Prop where
  | intro {sign mark run : List Char} {values : List Nat} (sign_mem : sign ∈ [[], ['+'], ['-']])
      (mark_mem : mark ∈ hexMarks) (grouped : Grouped run values) :
      Lenient (sign ++ (mark ++ run)) (signed sign values)

/-- A number by the strict rules: hexadecimal digits and nothing else. -/
def Digits (s : List Char) (n : Int) : Prop :=
  s ≠ [] ∧ ∃ values, Spells hexValue? s values ∧ n = ofDigits 16 values

theorem Digits.lenient (h : Digits s n) : Lenient s n := by
  obtain ⟨hne, values, hspells, rfl⟩ := h
  have hunderscore : '_' ∉ s := by
    intro hmem
    have hsome := hspells.isSome _ hmem
    cases hsome
  have hgrouped := grouped_of_separate hne (fun c hc => .inr (hspells.isSome c hc))
    (underscoresSeparate_of_not_mem hunderscore)
  rw [hspells.filterMap] at hgrouped
  have hlenient : Lenient ([] ++ ([] ++ s)) (signed [] values) :=
    .intro (by decide) (by decide) hgrouped
  exact hlenient

theorem Lenient.not_blank (h : Lenient s n) : ∀ c ∈ s, isAsciiBlank c = false := by
  have hsigns : ∀ sign ∈ [[], ['+'], ['-']], ∀ c ∈ sign, isAsciiBlank c = false := by
    simp [isAsciiBlank]
  have hmarks : ∀ mark ∈ hexMarks, ∀ c ∈ mark, isAsciiBlank c = false := by
    simp [hexMarks, isAsciiBlank]
  cases h with
  | intro sign_mem mark_mem grouped =>
      intro c hc
      rcases List.mem_append.mp hc with hc | hc
      · exact hsigns _ sign_mem c hc
      · rcases List.mem_append.mp hc with hc | hc
        · exact hmarks _ mark_mem c hc
        · exact not_blank_of_inRun (grouped.mem c hc)

theorem readHex_eq (s : List Char) : readHex s
    = (readDigits 16 none hexValue? (dropHexMark (splitSign (s.dropWhile isAsciiBlank)).2)).map
      fun n => if (splitSign (s.dropWhile isAsciiBlank)).1 then -(n : Int) else n := rfl

/-- A number is read wherever blanks stand around it. -/
theorem readHex_around {lead trail : List Char} (h : Lenient s n)
    (hlead : ∀ c ∈ lead, isAsciiBlank c = true) (htrail : ∀ c ∈ trail, isAsciiBlank c = true) :
    readHex (lead ++ s ++ trail) = .ok n := by
  have hblank := h.not_blank
  cases h with
  | @intro sign mark run values hsign hmark hrun =>
      have hdrop : (lead ++ (sign ++ (mark ++ run)) ++ trail).dropWhile isAsciiBlank
          = sign ++ (mark ++ (run ++ trail)) := by
        have hne : sign ++ (mark ++ run) ≠ [] := by
          obtain ⟨c, rest, rfl, -⟩ := hrun.head
          simp
        obtain ⟨c, rest, hcons⟩ := List.exists_cons_of_ne_nil hne
        have hc : isAsciiBlank c = false := hblank c (hcons ▸ List.mem_cons_self)
        rw [List.append_assoc, List.dropWhile_append_of_pos hlead, hcons, List.cons_append,
          List.dropWhile_cons_of_neg (by simp [hc]), ← List.cons_append, ← hcons]
        simp only [List.append_assoc]
      have hhead : ∀ c, (mark ++ (run ++ trail)).head? = some c → '0' ≤ c := by
        intro c hc
        obtain ⟨d, rest, rfl, hd⟩ := hrun.head
        simp only [hexMarks, List.mem_cons, List.not_mem_nil, or_false] at hmark
        rcases hmark with rfl | rfl | rfl | rfl | rfl
        · cases hc
          exact zero_le_of_hexValue hd
        all_goals
          cases hc
          exact Nat.le_refl _
      have hread := readDigits_eq_ok_iff.mpr ⟨run, trail, values, rfl, hrun, htrail, rfl⟩
      rw [readHex_eq, hdrop, splitSign_append hsign hhead, dropHexMark_append hmark hrun htrail,
        hread]
      rfl

/-- All that is read is a number with blanks around it. -/
theorem readHex_eq_ok_iff : readHex s = .ok n ↔ Lenient (trimBy isAsciiBlank s) n := by
  constructor
  · intro h
    obtain ⟨sign, hsign, hsigned, hnegative⟩ := exists_sign (s.dropWhile isAsciiBlank)
    obtain ⟨mark, hmark, hmarked⟩ := exists_hexMark (splitSign (s.dropWhile isAsciiBlank)).2
    rw [readHex_eq] at h
    cases hread : readDigits 16 none hexValue?
        (dropHexMark (splitSign (s.dropWhile isAsciiBlank)).2) with
    | error fault =>
        rw [hread] at h
        cases h
    | ok value =>
        rw [hread, hnegative] at h
        obtain ⟨run, trail, values, hrest, hrun, htrail, rfl⟩ := readDigits_eq_ok_iff.mp hread
        have hnumber : Lenient (sign ++ (mark ++ run)) n := by
          have hvalue : signed sign values = n := Except.ok.inj h
          rw [← hvalue]
          exact .intro hsign hmark hrun
        have hlead : ∀ c ∈ s.takeWhile isAsciiBlank, isAsciiBlank c = true :=
          fun c hc => List.mem_takeWhile_imp hc
        have hparts : s = s.takeWhile isAsciiBlank ++ ((sign ++ (mark ++ run)) ++ trail) := by
          rw [hrest] at hmarked
          rw [hmarked] at hsigned
          calc s = s.takeWhile isAsciiBlank ++ s.dropWhile isAsciiBlank :=
                List.takeWhile_append_dropWhile.symm
            _ = s.takeWhile isAsciiBlank ++ ((sign ++ (mark ++ run)) ++ trail) := by
                rw [hsigned]
                simp only [List.append_assoc]
        have hword : trimBy isAsciiBlank s = sign ++ (mark ++ run) := by
          rw [hparts, trimBy_lead hlead, trimBy_trail htrail, trimBy_eq_self hnumber.not_blank]
        rw [hword]
        exact hnumber
  · intro h
    obtain ⟨lead, trail, haround, hlead, htrail⟩ := exists_around_trimBy isAsciiBlank s
    rw [haround]
    exact readHex_around h hlead htrail

end Integer

end Courier.Text
