import Courier.Text.Blank
import Courier.Text.Lower
import Mathlib.Data.List.Forall2

/-!
# Texts in lower case

A text in lower case is put together from the small forms of its characters, one
after the other (`SmallForm`, `lower_eq_flatten`). That is all that the rest needs
to know of the tables: which characters have a small form of their own does not
matter.

Two things follow. What is in lower case stays as it is when it is lower-cased
again (`lower_eq_self`, `small_of_mem_lower`), because no small letter is the
capital of another one (`images_apart`). And the marks that structure a text,
which have no case, stand in lower case where they stood before (`count_lower`,
`head?_lower`).
-/

namespace Courier.Text

variable {s t before after done form : List Char} {c d : Char} {run other : CaseRun}

/-! ## Characters -/

/-- The character is one of ASCII in front of the small letters, and no capital. -/
def isMark (c : Char) : Bool := c.toNat < 65 || (90 < c.toNat && c.toNat < 97)

theorem toNat_ofNat {n : Nat} (h : n.isValidChar) : (Char.ofNat n).toNat = n := by
  rw [Char.ofNat, dif_pos h]
  rfl

theorem capital_iff : 'A' ≤ c ∧ c ≤ 'Z' ↔ 65 ≤ c.toNat ∧ c.toNat ≤ 90 := Iff.rfl

theorem toLower_of_not_capital (h : ¬ (65 ≤ c.toNat ∧ c.toNat ≤ 90)) : c.toLower = c :=
  dif_neg (capital_iff.not.mpr h)

theorem toNat_toLower (h : 65 ≤ c.toNat ∧ c.toNat ≤ 90) : c.toLower.toNat = c.toNat + 32 := by
  have hletters : ∀ n < 26, (Char.ofNat (65 + n)).toLower.toNat = 65 + n + 32 := by decide
  have hletter := hletters (c.toNat - 65) (by omega)
  rwa [Nat.add_sub_cancel' h.1, Char.ofNat_toNat] at hletter

theorem toLower_toLower (c : Char) : c.toLower.toLower = c.toLower := by
  by_cases h : 65 ≤ c.toNat ∧ c.toNat ≤ 90
  · refine toLower_of_not_capital ?_
    rw [toNat_toLower h]
    omega
  · rw [toLower_of_not_capital h, toLower_of_not_capital h]

theorem lowerChar_ascii (h : c.toNat < 0x80) : lowerChar c = c.toLower := if_pos h

/-! ## Small letters -/

/-- The code point of the small letter that a run gives to a capital. -/
def CaseRun.image (run : CaseRun) (n : Nat) : Nat := (n + run.offset).toNat

/-- The small letters of a run are no capitals of another one: they lie apart, or
both take every other place and never the same one. -/
def CaseRun.apart (run other : CaseRun) : Bool :=
  run.image run.last < other.first || other.last < run.image run.first
    || (other.step == 2 && (run.step == 2 || run.first == run.last)
      && (run.image run.first + other.first) % 2 == 1)

theorem images_apart : (caseRuns.all fun run => caseRuns.all run.apart) = true := by
  decide +kernel

/-- The capitals of a run have characters for small letters: none is a mark, a
capital of ASCII, or the capital with a dot. -/
theorem small_letters : ∀ run ∈ caseRuns, 97 ≤ (run.first : Int) + run.offset
    ∧ ((run.last : Int) + run.offset < 0xD800
      ∨ 0xDFFF < (run.first : Int) + run.offset ∧ (run.last : Int) + run.offset < 0x110000)
    ∧ ((run.last : Int) + run.offset < 0x130 ∨ 0x130 < (run.first : Int) + run.offset) := by
  decide +kernel

theorem covers_iff {n : Nat} : run.covers n = true
    ↔ run.first ≤ n ∧ n ≤ run.last ∧ (n - run.first) % run.step = 0 := by
  simp [CaseRun.covers, and_assoc]

/-- The small letters of a run lie between that of its first capital and that of its last one. -/
theorem image_between {n : Nat} (hrun : run ∈ caseRuns) (h : run.covers n = true) :
    run.image run.first ≤ run.image n ∧ run.image n ≤ run.image run.last
      ∧ run.image n + run.first = run.image run.first + n := by
  obtain ⟨hfirst, hlast, -⟩ := covers_iff.mp h
  obtain ⟨hlow, -, -⟩ := small_letters run hrun
  unfold CaseRun.image
  omega

/-- No small letter is a capital. -/
theorem covers_image {n : Nat} (hrun : run ∈ caseRuns) (hother : other ∈ caseRuns)
    (h : run.covers n = true) : other.covers (run.image n) = false := by
  obtain ⟨hfirst, hlast, hstep⟩ := covers_iff.mp h
  obtain ⟨hbelow, habove, hshift⟩ := image_between hrun h
  have hapart := List.all_eq_true.mp (List.all_eq_true.mp images_apart run hrun) other hother
  rw [← Bool.not_eq_true, covers_iff]
  rintro ⟨hfirst', hlast', hstep'⟩
  simp only [CaseRun.apart, Bool.or_eq_true, Bool.and_eq_true, decide_eq_true_eq,
    beq_iff_eq] at hapart
  rcases hapart with (hunder | hover) | ⟨⟨htwo', htwo | hone⟩, hodd⟩
  · omega
  · omega
  · rw [htwo'] at hstep'
    rw [htwo] at hstep
    omega
  · rw [htwo'] at hstep'
    omega

/-- The small form of a character outside ASCII is itself, or what a run gives it. -/
theorem lowerChar_cases (h : ¬ c.toNat < 0x80) :
    lowerChar c = c ∧ (∀ run ∈ caseRuns, run.covers c.toNat = false)
      ∨ ∃ run ∈ caseRuns, run.covers c.toNat = true
        ∧ (lowerChar c).toNat = run.image c.toNat := by
  unfold lowerChar
  rw [if_neg h]
  cases hfind : caseRuns.find? (·.covers c.toNat) with
  | none =>
      refine .inl ⟨rfl, fun run hrun => ?_⟩
      simpa using List.find?_eq_none.mp hfind run hrun
  | some run =>
      have hrun := List.mem_of_find?_eq_some hfind
      have hcovers : run.covers c.toNat = true := by simpa using List.find?_some hfind
      obtain ⟨hfirst, hlast, -⟩ := covers_iff.mp hcovers
      obtain ⟨hlow, hhigh, -⟩ := small_letters run hrun
      -- a code point that is no character would be taken for NUL
      have hvalid : (c.toNat + run.offset).toNat.isValidChar := by
        unfold Nat.isValidChar
        omega
      exact .inr ⟨run, hrun, hcovers, toNat_ofNat hvalid⟩

/-- A mark is its own small form, and that of no other character. -/
theorem lowerChar_eq_mark_iff (hmark : isMark d = true) : lowerChar c = d ↔ c = d := by
  simp only [isMark, Bool.or_eq_true, Bool.and_eq_true, decide_eq_true_eq] at hmark
  constructor
  · rintro rfl
    by_cases hascii : c.toNat < 0x80
    · rw [lowerChar_ascii hascii] at hmark ⊢
      by_cases hcapital : 65 ≤ c.toNat ∧ c.toNat ≤ 90
      · have := toNat_toLower hcapital
        omega
      · exact (toLower_of_not_capital hcapital).symm
    · obtain ⟨hsame, -⟩ | ⟨run, hrun, hcovers, hcode⟩ := lowerChar_cases hascii
      · exact hsame.symm
      · obtain ⟨hfirst, -, -⟩ := covers_iff.mp hcovers
        obtain ⟨hlow, -, -⟩ := small_letters run hrun
        rw [CaseRun.image] at hcode
        omega
  · rintro rfl
    rw [lowerChar_ascii (by omega), toLower_of_not_capital (by omega)]

/-- The character is in lower case: it is its own small form. -/
structure Small (c : Char) : Prop where
  fixed : lowerChar c = c
  undotted : c ≠ 'İ'

theorem Small.ne_sigma (h : Small c) : c ≠ 'Σ' := by
  rintro rfl
  exact absurd h.fixed (by decide)

/-- What a character becomes in lower case is in lower case. -/
theorem small_lowerChar (hdot : c ≠ 'İ') : Small (lowerChar c) := by
  by_cases hascii : c.toNat < 0x80
  · rw [lowerChar_ascii hascii]
    have hlower : c.toLower.toNat < 0x80 := by
      by_cases hcapital : 65 ≤ c.toNat ∧ c.toNat ≤ 90
      · rw [toNat_toLower hcapital]
        omega
      · rwa [toLower_of_not_capital hcapital]
    refine ⟨by rw [lowerChar_ascii hlower, toLower_toLower], fun heq => ?_⟩
    rw [heq] at hlower
    exact absurd hlower (by decide)
  · obtain ⟨hsame, -⟩ | ⟨run, hrun, hcovers, hcode⟩ := lowerChar_cases hascii
    · rw [hsame]
      exact ⟨hsame, hdot⟩
    · obtain ⟨hfirst, hlast, -⟩ := covers_iff.mp hcovers
      obtain ⟨hlow, -, hundotted⟩ := small_letters run hrun
      have himage := hcode
      rw [CaseRun.image] at hcode
      refine ⟨?_, fun heq => ?_⟩
      · by_cases hsmall : (lowerChar c).toNat < 0x80
        · rw [lowerChar_ascii hsmall]
          exact toLower_of_not_capital (by omega)
        · obtain ⟨hfixed, -⟩ | ⟨other, hother, hagain, -⟩ := lowerChar_cases hsmall
          · exact hfixed
          · rw [himage, covers_image hrun hother hcovers] at hagain
            cases hagain
      · have hdotted : (lowerChar c).toNat = 0x130 := by
          rw [heq]
          rfl
        omega

/-! ## Texts -/

/-- What becomes of a character in lower case. A sigma has two small forms, which
depend on its place. -/
inductive SmallForm : Char → List Char → Prop where
  | dotted : SmallForm 'İ' ['i', '̇']
  | final : SmallForm 'Σ' ['ς']
  | sigma : SmallForm 'Σ' ['σ']
  | single {c : Char} (undotted : c ≠ 'İ') (other : c ≠ 'Σ') : SmallForm c [lowerChar c]

theorem smallForm_lowerWithin (before : List Char) (c : Char) (after : List Char) :
    SmallForm c (lowerWithin before c after) := by
  unfold lowerWithin
  split
  · rename_i hdot
    subst hdot
    exact .dotted
  · rename_i hdot
    split
    · rename_i hsigma
      subst hsigma
      split
      · exact .final
      · exact .sigma
    · rename_i hsigma
      exact .single hdot hsigma

theorem lowerFrom_eq (s before done : List Char) : ∃ forms,
    lowerFrom before done s = done.reverse ++ forms.flatten ∧ List.Forall₂ SmallForm s forms := by
  induction s generalizing before done with
  | nil => exact ⟨[], (List.append_nil _).symm, .nil⟩
  | cons c s ih =>
      obtain ⟨forms, heq, hforms⟩ := ih (c :: before) ((lowerWithin before c s).reverse ++ done)
      refine ⟨lowerWithin before c s :: forms, ?_, .cons (smallForm_lowerWithin ..) hforms⟩
      rw [lowerFrom, heq, List.reverse_append, List.reverse_reverse, List.flatten_cons,
        List.append_assoc]

/-- A text in lower case is made of the small forms of its characters. -/
theorem lower_eq_flatten (s : List Char) :
    ∃ forms, lower s = forms.flatten ∧ List.Forall₂ SmallForm s forms := by
  unfold lower
  split
  · rename_i hascii
    refine ⟨s.map fun c => [c.toLower], by rw [← List.flatMap_def, List.map_eq_flatMap], ?_⟩
    rw [List.forall₂_map_right_iff, List.forall₂_same]
    intro c hc
    have hsmall : c.toNat < 0x80 := by simpa using List.all_eq_true.mp hascii c hc
    rw [← lowerChar_ascii hsmall]
    refine .single ?_ ?_
    · rintro rfl
      exact absurd hsmall (by decide)
    · rintro rfl
      exact absurd hsmall (by decide)
  · exact lowerFrom_eq s [] []

theorem SmallForm.ne_nil (h : SmallForm c form) : form ≠ [] := by
  cases h <;> simp

theorem SmallForm.small (h : SmallForm c form) : ∀ d ∈ form, Small d := by
  intro d hd
  cases h with
  | dotted =>
      rcases List.mem_pair.mp hd with rfl | rfl <;> exact ⟨by decide, by decide⟩
  | final =>
      obtain rfl := List.mem_singleton.mp hd
      exact ⟨by decide, by decide⟩
  | sigma =>
      obtain rfl := List.mem_singleton.mp hd
      exact ⟨by decide, by decide⟩
  | single undotted other =>
      obtain rfl := List.mem_singleton.mp hd
      exact small_lowerChar undotted

/-- The small form of a mark is the mark, and no other one holds it. -/
theorem SmallForm.count (h : SmallForm c form) (hmark : isMark d = true) :
    form.count d = [c].count d := by
  cases h with
  | dotted | final | sigma =>
      have hother : ['i', '̇', 'ς', 'σ', 'İ', 'Σ'].all (fun d => !isMark d) = true := by decide
      have hne : ∀ e ∈ ['i', '̇', 'ς', 'σ', 'İ', 'Σ'], e ≠ d := by
        rintro e he rfl
        have hunmarked := List.all_eq_true.mp hother e he
        rw [hmark] at hunmarked
        cases hunmarked
      simp only [List.mem_cons, List.not_mem_nil, or_false, forall_eq_or_imp, forall_eq] at hne
      simp [hne]
  | single undotted other =>
      simp only [List.count_singleton, beq_iff_eq, lowerChar_eq_mark_iff hmark]

/-- Marks stand in a text in lower case as often as before. -/
theorem count_lower (hmark : isMark d = true) : (lower s).count d = s.count d := by
  obtain ⟨forms, heq, hforms⟩ := lower_eq_flatten s
  rw [heq]
  clear heq
  induction hforms with
  | nil => rfl
  | @cons c form s forms hform hforms ih =>
      rw [List.flatten_cons, List.count_append, hform.count hmark, ih, ← List.count_append]
      rfl

theorem mem_lower (hmark : isMark d = true) : d ∈ lower s ↔ d ∈ s := by
  rw [← List.count_pos_iff, count_lower hmark, List.count_pos_iff]

theorem head?_lower (hmark : isMark d = true) (h : (lower s).head? = some d) :
    s.head? = some d := by
  obtain ⟨forms, heq, hforms⟩ := lower_eq_flatten s
  rw [heq] at h
  cases hforms with
  | nil => cases h
  | @cons c form s forms hform hforms =>
      obtain ⟨e, rest, rfl⟩ := List.exists_cons_of_ne_nil hform.ne_nil
      cases h
      have hcount := hform.count hmark
      rw [List.count_cons_self] at hcount
      have hmem : d ∈ [c] := List.count_pos_iff.mp (by omega)
      rw [List.mem_singleton.mp hmem]
      rfl

theorem lower_ne_nil (h : s ≠ []) : lower s ≠ [] := by
  obtain ⟨forms, heq, hforms⟩ := lower_eq_flatten s
  rw [heq]
  cases hforms with
  | nil => exact absurd rfl h
  | cons hform hforms => exact fun hnil => hform.ne_nil (List.append_eq_nil_iff.mp hnil).1

theorem small_of_mem_lower (h : d ∈ lower s) : Small d := by
  obtain ⟨forms, heq, hforms⟩ := lower_eq_flatten s
  rw [heq, List.mem_flatten] at h
  obtain ⟨form, hform, hd⟩ := h
  clear heq
  induction hforms with
  | nil => cases hform
  | cons hfirst hforms ih =>
      rcases List.mem_cons.mp hform with rfl | hform
      · exact hfirst.small d hd
      · exact ih hform

/-- The texts are the same but for the case of ASCII letters in the first one. -/
def Recased (t s : List Char) : Prop := t.map Char.toLower = s

theorem recased_self (h : ∀ c ∈ s, ¬ (65 ≤ c.toNat ∧ c.toNat ≤ 90)) : Recased s s :=
  (List.map_congr_left fun c hc => toLower_of_not_capital (h c hc)).trans (List.map_id s)

theorem Recased.refl_of_small (h : ∀ c ∈ s, Small c) : Recased s s := by
  refine recased_self fun c hc hcapital => ?_
  have hfixed := congrArg Char.toNat (h c hc).fixed
  rw [lowerChar_ascii (by omega), toNat_toLower hcapital] at hfixed
  omega

/-- Whatever the case of its letters, a text becomes what it is in lower case. -/
theorem Recased.lower_eq (h : Recased t s) (hsmall : ∀ c ∈ s, Small c) : lower t = s := by
  obtain ⟨forms, heq, hforms⟩ := lower_eq_flatten t
  rw [heq, ← h]
  rw [← h, List.forall_mem_map] at hsmall
  clear heq h
  induction hforms with
  | nil => rfl
  | @cons c form t forms hform hforms ih =>
      obtain ⟨hc, ht⟩ := List.forall_mem_cons.mp hsmall
      rw [List.flatten_cons, ih ht, List.map_cons, ← List.singleton_append]
      congr 1
      by_cases hcapital : 65 ≤ c.toNat ∧ c.toNat ≤ 90
      · cases hform with
        | single undotted other => rw [lowerChar_ascii (by omega)]
        | _ => exact absurd hcapital (by decide)
      · rw [toLower_of_not_capital hcapital] at hc ⊢
        cases hform with
        | dotted => exact absurd rfl hc.undotted
        | final => exact absurd rfl hc.ne_sigma
        | sigma => exact absurd rfl hc.ne_sigma
        | single undotted other => rw [hc.fixed]

/-- What is in lower case stays as it is. -/
theorem lower_eq_self (h : ∀ c ∈ s, Small c) : lower s = s := (Recased.refl_of_small h).lower_eq h

theorem isAlpha_iff : c.isAlpha = true
    ↔ (65 ≤ c.toNat ∧ c.toNat ≤ 90) ∨ (97 ≤ c.toNat ∧ c.toNat ≤ 122) := by
  have hletter : c.isAlpha = (decide (c.val ≥ 'A'.val ∧ c.val ≤ 'Z'.val)
      || (decide (c.val ≥ 'a'.val) && decide (c.val ≤ 'z'.val))) := rfl
  rw [hletter]
  simp only [Bool.or_eq_true, Bool.and_eq_true, decide_eq_true_eq]
  exact Iff.rfl

/-- Whatever is no letter of ASCII is the small form of itself alone. -/
theorem toLower_eq_iff (hd : d.isAlpha = false) : c.toLower = d ↔ c = d := by
  obtain ⟨hupper, hlower⟩ := not_or.mp (isAlpha_iff.not.mp (Bool.eq_false_iff.mp hd))
  by_cases hcapital : 65 ≤ c.toNat ∧ c.toNat ≤ 90
  · have hcode := toNat_toLower hcapital
    refine iff_of_false ?_ ?_
    · rintro rfl
      omega
    · rintro rfl
      exact hupper hcapital
  · rw [toLower_of_not_capital hcapital]

/-- Whatever is no letter of ASCII stands in both texts or in none. -/
theorem Recased.mem_iff (h : Recased t s) (hc : c.isAlpha = false) : c ∈ t ↔ c ∈ s := by
  rw [← h, List.mem_map]
  constructor
  · intro hmem
    exact ⟨c, hmem, (toLower_eq_iff hc).mpr rfl⟩
  · rintro ⟨d, hmem, hd⟩
    rwa [(toLower_eq_iff hc).mp hd] at hmem

theorem Recased.head? (h : Recased t s) : s.head? = t.head?.map Char.toLower := by
  rw [← h, List.head?_map]

theorem Recased.getLast? (h : Recased t s) : s.getLast? = t.getLast?.map Char.toLower := by
  rw [← h, List.getLast?_map]

theorem Recased.append {t' s' : List Char} (h : Recased t s) (h' : Recased t' s') :
    Recased (t ++ t') (s ++ s') := by
  rw [Recased, List.map_append, h, h']

/-- Blanks are no letters. -/
theorem isAlpha_of_isBlank (h : isBlank c = true) : c.isAlpha = false := by
  have hapart : ∀ range ∈ blankRanges, range.2 < 65 ∨ 122 < range.1 := by decide
  obtain ⟨range, hrange, hlow, hhigh⟩ := Ranges.contains_iff.mp h
  rw [Bool.eq_false_iff, ne_eq, isAlpha_iff]
  obtain hbelow | habove := hapart range hrange <;> omega

theorem isBlank_of_isAlpha (h : c.isAlpha = true) : isBlank c = false := by
  by_contra hblank
  rw [Bool.not_eq_false] at hblank
  cases h.symm.trans (isAlpha_of_isBlank hblank)

end Courier.Text
