import Courier.LogFormat.Placeholder
import Mathlib.Data.List.MinMax

/-!
# One pass over a text

A table of names and directives can be applied to a text in one pass: from left to right,
a name that stands at a place is replaced by its directive, and all else is copied
(`pass`). Where several names stand at one place (`candidates`), one of them is chosen
(`Choice`): the first one in the table, or the longest one.

In the tables of formats each name begins with a dollar sign and each directive with a
percent sign, and neither stands further inside a name, nor a dollar sign in a directive
(`Marked`). So what a pass writes holds no names but those that it copies, and neither
makes nor breaks one (`prefix_pass_iff`). Hence a pass can be cut at every dollar sign
(`pass_append_dollar`), two passes are one with both tables (`pass_pass`), and replacing
names one after the other is one pass that takes the first one (`expandAll_eq_pass`).
-/

namespace Courier.LogFormat

open Text

/-! ## Choices and passes -/

/-- The entries of a table whose names stand at the start of a text. -/
def candidates (table : List (String × String)) (s : List Char) : List (String × String) :=
  table.filter fun entry => entry.1.toList.isPrefixOf s

/-- Which one of several names is replaced that stand at the same place. -/
abbrev Choice := List (String × String) → Option (String × String)

/-- One of the names is chosen, if there are any. -/
structure Choice.Lawful (choice : Choice) : Prop where
  mem : ∀ {entries entry}, choice entries = some entry → entry ∈ entries
  eq_nil : ∀ {entries}, choice entries = none → entries = []

def firstOf : Choice := List.head?

def longestOf : Choice := List.argmax fun entry => entry.1.length

theorem lawful_firstOf : Choice.Lawful firstOf where
  mem := List.mem_of_mem_head?
  eq_nil := List.head?_eq_none_iff.mp

theorem lawful_longestOf : Choice.Lawful longestOf where
  mem := List.argmax_mem
  eq_nil := List.argmax_eq_none.mp

theorem Choice.Lawful.nil {choice : Choice} (h : choice.Lawful) : choice [] = none := by
  cases hchosen : choice [] with
  | none => rfl
  | some entry => exact absurd (h.mem hchosen) List.not_mem_nil

/-- What a pass writes, after dropping `skip` characters of a name. -/
def passFrom (choice : Choice) (table : List (String × String)) : Nat → List Char → List Char
  | _, [] => []
  | skip + 1, _ :: rest => passFrom choice table skip rest
  | 0, c :: rest =>
      match choice (candidates table (c :: rest)) with
      | some entry => entry.2.toList ++ passFrom choice table (entry.1.length - 1) rest
      | none => c :: passFrom choice table 0 rest

/-- Replaces names from left to right and copies all else. -/
def pass (choice : Choice) (table : List (String × String)) (s : List Char) : List Char :=
  passFrom choice table 0 s

/-- The name begins with a dollar sign and the directive with a percent sign. Further inside
a name there is neither, and no dollar sign in a directive. -/
def Marked (entry : String × String) : Prop :=
  entry.1.toList.head? = some '$' ∧ '$' ∉ entry.1.toList.tail ∧ '%' ∉ entry.1.toList.tail
    ∧ entry.2.toList.head? = some '%' ∧ '$' ∉ entry.2.toList

instance : DecidablePred Marked := fun _ => inferInstanceAs (Decidable (_ ∧ _))

variable {choice : Choice} {table earlier later : List (String × String)}
  {entry : String × String} {s front back rest word : List Char} {c : Char}

theorem Marked.exists_name (h : Marked entry) :
    ∃ word, entry.1.toList = '$' :: word ∧ '$' ∉ word ∧ '%' ∉ word := by
  obtain ⟨hhead, hdollar, hpercent, -⟩ := h
  obtain ⟨word, hword⟩ := List.head?_eq_some_iff.mp hhead
  rw [hword] at hdollar hpercent
  exact ⟨word, hword, hdollar, hpercent⟩

theorem Marked.exists_directive (h : Marked entry) : ∃ rest, entry.2.toList = '%' :: rest :=
  List.head?_eq_some_iff.mp h.2.2.2.1

theorem mem_candidates : entry ∈ candidates table s ↔ entry ∈ table ∧ entry.1.toList <+: s := by
  rw [candidates, List.mem_filter, List.isPrefixOf_iff_prefix]

/-! ## One step of a pass -/

theorem passFrom_eq (choice : Choice) (table : List (String × String)) :
    ∀ (skip : Nat) (s : List Char), passFrom choice table skip s = pass choice table (s.drop skip)
  | 0, _ => rfl
  | _ + 1, [] => rfl
  | skip + 1, _ :: rest => passFrom_eq choice table skip rest

/-- Where no name stands, a character is copied. -/
theorem pass_char (hlawful : choice.Lawful) (h : candidates table (c :: rest) = []) :
    pass choice table (c :: rest) = c :: pass choice table rest := by
  rw [pass, passFrom, h, hlawful.nil]
  rfl

/-- A name that is chosen is replaced. -/
theorem pass_name (hmarked : Marked entry)
    (h : choice (candidates table (entry.1.toList ++ back)) = some entry) :
    pass choice table (entry.1.toList ++ back) = entry.2.toList ++ pass choice table back := by
  obtain ⟨word, hword, -⟩ := hmarked.exists_name
  have hlength : entry.1.length - 1 = word.length := by
    rw [← String.length_toList, hword]
    rfl
  rw [hword, List.cons_append] at h ⊢
  rw [pass, passFrom, h]
  simp only [hlength, passFrom_eq, List.drop_left]

/-- At each place a character is copied or a name replaced. -/
theorem pass_cases (hlawful : choice.Lawful) (hmarked : ∀ entry ∈ table, Marked entry) (c : Char)
    (rest : List Char) :
    (candidates table (c :: rest) = []
        ∧ pass choice table (c :: rest) = c :: pass choice table rest)
      ∨ ∃ entry back, entry ∈ table ∧ choice (candidates table (c :: rest)) = some entry
        ∧ c :: rest = entry.1.toList ++ back
        ∧ pass choice table (c :: rest) = entry.2.toList ++ pass choice table back := by
  cases hchosen : choice (candidates table (c :: rest)) with
  | none =>
      have hnone := hlawful.eq_nil hchosen
      exact .inl ⟨hnone, pass_char hlawful hnone⟩
  | some entry =>
      obtain ⟨hmem, back, hback⟩ := mem_candidates.mp (hlawful.mem hchosen)
      rw [← hback] at hchosen
      have hpass := pass_name (hmarked entry hmem) hchosen
      rw [hback] at hpass
      exact .inr ⟨entry, back, hmem, rfl, hback.symm, hpass⟩

/-- What stands behind a name is shorter. -/
theorem Marked.length_le (h : Marked entry) (hsplit : c :: rest = entry.1.toList ++ back) :
    back.length ≤ rest.length := by
  obtain ⟨word, hword, -⟩ := h.exists_name
  rw [hword, List.cons_append] at hsplit
  rw [(List.cons.inj hsplit).2, List.length_append]
  exact Nat.le_add_left ..

/-! ## What holds no names -/

/-- No name starts with a character that is no dollar sign. -/
theorem candidates_of_ne (hmarked : ∀ entry ∈ table, Marked entry) (hc : c ≠ '$') :
    candidates table (c :: rest) = [] := by
  refine List.filter_eq_nil_iff.mpr fun entry hentry hprefix => ?_
  obtain ⟨word, hword, -⟩ := (hmarked entry hentry).exists_name
  rw [List.isPrefixOf_iff_prefix, hword, List.cons_prefix_cons] at hprefix
  exact hc hprefix.1.symm

theorem pass_append_of_not_mem (hlawful : choice.Lawful) (hmarked : ∀ entry ∈ table, Marked entry)
    (h : '$' ∉ front) (rest : List Char) :
    pass choice table (front ++ rest) = front ++ pass choice table rest := by
  induction front with
  | nil => rfl
  | cons c front ih =>
      obtain ⟨hc, hfront⟩ := List.ne_and_not_mem_of_not_mem_cons h
      rw [List.cons_append, pass_char hlawful (candidates_of_ne hmarked hc.symm), ih hfront]
      rfl

/-- A word without signs stands at the start of what a pass writes if it did so before. -/
theorem prefix_pass_iff (hlawful : choice.Lawful) (hmarked : ∀ entry ∈ table, Marked entry) :
    ∀ {word : List Char}, '$' ∉ word → '%' ∉ word → ∀ s : List Char,
      (word <+: pass choice table s ↔ word <+: s)
  | [], _, _, _ => iff_of_true List.nil_prefix List.nil_prefix
  | a :: word, _, _, [] => Iff.rfl
  | a :: word, hdollar, hpercent, c :: rest => by
      obtain ⟨ha, hword⟩ := List.ne_and_not_mem_of_not_mem_cons hdollar
      obtain ⟨ha', hword'⟩ := List.ne_and_not_mem_of_not_mem_cons hpercent
      obtain ⟨-, hpass⟩ | ⟨entry, back, hmem, -, hsplit, hpass⟩ :=
        pass_cases hlawful hmarked c rest
      · rw [hpass, List.cons_prefix_cons, List.cons_prefix_cons,
          prefix_pass_iff hlawful hmarked hword hword' rest]
      · -- a name was replaced: the word begins with none of the two signs
        obtain ⟨name, hname, -⟩ := (hmarked entry hmem).exists_name
        obtain ⟨directive, hdirective⟩ := (hmarked entry hmem).exists_directive
        rw [hpass, hsplit, hname, hdirective]
        refine iff_of_false (fun h => ?_) fun h => ?_
        · exact ha' (List.cons_prefix_cons.mp h).1.symm
        · exact ha (List.cons_prefix_cons.mp h).1.symm

/-! ## Cutting a pass -/

theorem prefix_append_dollar_iff (back : List Char) : ∀ {word : List Char}, '$' ∉ word →
    ∀ s : List Char, (word <+: s ++ '$' :: back ↔ word <+: s)
  | [], _, _ => iff_of_true List.nil_prefix List.nil_prefix
  | a :: word, h, [] => by
      obtain ⟨ha, -⟩ := List.ne_and_not_mem_of_not_mem_cons h
      refine iff_of_false (fun hprefix => ?_) fun hprefix => ?_
      · exact ha (List.cons_prefix_cons.mp hprefix).1.symm
      · exact List.cons_ne_nil _ _ (List.prefix_nil.mp hprefix)
  | a :: word, h, c :: s => by
      obtain ⟨-, hword⟩ := List.ne_and_not_mem_of_not_mem_cons h
      rw [List.cons_append, List.cons_prefix_cons, List.cons_prefix_cons,
        prefix_append_dollar_iff back hword s]

/-- A name that stands at a place ends in front of the next dollar sign. -/
theorem candidates_append_dollar (hmarked : ∀ entry ∈ table, Marked entry) (c : Char)
    (rest back : List Char) :
    candidates table (c :: rest ++ '$' :: back) = candidates table (c :: rest) := by
  refine List.filter_congr fun entry hentry => ?_
  obtain ⟨word, hword, hdollar, -⟩ := (hmarked entry hentry).exists_name
  rw [Bool.eq_iff_iff, List.isPrefixOf_iff_prefix, List.isPrefixOf_iff_prefix, hword,
    List.cons_append, List.cons_prefix_cons, List.cons_prefix_cons,
    prefix_append_dollar_iff back hdollar rest]

/-- What stands in front of a dollar sign does not matter behind it, and the other way round. -/
theorem pass_append_dollar (hlawful : choice.Lawful) (hmarked : ∀ entry ∈ table, Marked entry)
    (back : List Char) : ∀ front : List Char, pass choice table (front ++ '$' :: back)
      = pass choice table front ++ pass choice table ('$' :: back)
  | [] => rfl
  | c :: front => by
      have hsame := candidates_append_dollar hmarked c front back
      obtain ⟨hnone, hpass⟩ | ⟨entry, behind, hmem, hchosen, hsplit, hpass⟩ :=
        pass_cases hlawful hmarked c front
      · rw [hnone, List.cons_append] at hsame
        rw [hpass, List.cons_append, pass_char hlawful hsame,
          pass_append_dollar hlawful hmarked back front]
        rfl
      · have hshorter := (hmarked entry hmem).length_le hsplit
        rw [← hsame, hsplit, List.append_assoc] at hchosen
        rw [hpass, hsplit, List.append_assoc, pass_name (hmarked entry hmem) hchosen,
          pass_append_dollar hlawful hmarked back behind, List.append_assoc]
  termination_by front => front.length

/-- A pass can be cut on both sides of a name that is chosen. -/
theorem pass_append_name (hlawful : choice.Lawful) (hmarked : ∀ entry ∈ table, Marked entry)
    (h : choice (candidates table (entry.1.toList ++ back)) = some entry) (front : List Char) :
    pass choice table (front ++ (entry.1.toList ++ back))
      = pass choice table front ++ (entry.2.toList ++ pass choice table back) := by
  have hentry := hmarked entry (mem_candidates.mp (hlawful.mem h)).1
  have hcut : pass choice table (front ++ (entry.1.toList ++ back))
      = pass choice table front ++ pass choice table (entry.1.toList ++ back) := by
    obtain ⟨word, hword, -⟩ := hentry.exists_name
    rw [hword, List.cons_append]
    exact pass_append_dollar hlawful hmarked (word ++ back) front
  rw [hcut, pass_name hentry h]

/-! ## Two passes -/

theorem candidates_append (earlier later : List (String × String)) (s : List Char) :
    candidates (earlier ++ later) s = candidates earlier s ++ candidates later s :=
  List.filter_append ..

/-- Where nothing is replaced, a pass leaves the names of other tables where they stand. -/
theorem candidates_pass (hlawful : choice.Lawful) (hearlier : ∀ entry ∈ earlier, Marked entry)
    (hlater : ∀ entry ∈ later, Marked entry) (h : candidates earlier (c :: rest) = []) :
    candidates later (pass choice earlier (c :: rest)) = candidates later (c :: rest) := by
  refine List.filter_congr fun entry hentry => ?_
  obtain ⟨word, hword, hdollar, hpercent⟩ := (hlater entry hentry).exists_name
  rw [Bool.eq_iff_iff, List.isPrefixOf_iff_prefix, List.isPrefixOf_iff_prefix, hword,
    pass_char hlawful h, List.cons_prefix_cons, List.cons_prefix_cons,
    prefix_pass_iff hlawful hearlier hdollar hpercent]

/-- A name that is not replaced is copied. -/
theorem pass_name_copied (hlawful : choice.Lawful) (hmarked : ∀ entry ∈ table, Marked entry)
    (hentry : Marked entry) (h : candidates table (entry.1.toList ++ back) = []) :
    pass choice table (entry.1.toList ++ back) = entry.1.toList ++ pass choice table back := by
  obtain ⟨word, hword, hdollar, -⟩ := hentry.exists_name
  rw [hword, List.cons_append] at h
  rw [hword, List.cons_append, pass_char hlawful h,
    pass_append_of_not_mem hlawful hmarked hdollar]
  rfl

/-- Two passes that take the first name are one pass with both tables. -/
theorem pass_pass (hearlier : ∀ entry ∈ earlier, Marked entry)
    (hlater : ∀ entry ∈ later, Marked entry) : ∀ s : List Char,
    pass firstOf later (pass firstOf earlier s) = pass firstOf (earlier ++ later) s
  | [] => rfl
  | c :: rest => by
      have hboth := candidates_append earlier later (c :: rest)
      obtain ⟨hnone, hpass⟩ | ⟨entry, back, hmem, hchosen, hsplit, hpass⟩ :=
        pass_cases lawful_firstOf hearlier c rest
      · have hsame := candidates_pass lawful_firstOf hearlier hlater hnone
        rw [hnone, List.nil_append] at hboth
        obtain ⟨hnone', -⟩ | ⟨entry, back, hmem, hchosen, hsplit, -⟩ :=
          pass_cases lawful_firstOf hlater c rest
        · rw [hpass] at hsame ⊢
          rw [pass_char lawful_firstOf (hsame.trans hnone'), pass_pass hearlier hlater rest,
            pass_char lawful_firstOf (hboth.trans hnone')]
        · have hshorter := (hlater entry hmem).length_le hsplit
          rw [hsplit] at hnone hsame hboth hchosen ⊢
          have hcopied := pass_name_copied lawful_firstOf hearlier (hlater entry hmem) hnone
          rw [hcopied] at hsame ⊢
          rw [pass_name (hlater entry hmem) (by rw [hsame, hchosen]),
            pass_pass hearlier hlater back,
            pass_name (hlater entry hmem) (by rw [hboth, hchosen])]
      · have hshorter := (hearlier entry hmem).length_le hsplit
        have hfirst : firstOf (candidates (earlier ++ later) (c :: rest)) = some entry := by
          rw [hboth, firstOf, List.head?_append, ← firstOf, hchosen]
          rfl
        rw [hpass, pass_append_of_not_mem lawful_firstOf hlater (hearlier entry hmem).2.2.2.2,
          pass_pass hearlier hlater back]
        rw [hsplit] at hfirst ⊢
        rw [pass_name (hearlier entry hmem) hfirst]
  termination_by s => s.length

/-- Replacing one name is a pass with nothing else in the table. -/
theorem replaceFrom_eq_passFrom (entry : String × String) : ∀ (skip : Nat) (s : List Char),
    replaceFrom entry.1.toList entry.2.toList skip s = passFrom firstOf [entry] skip s
  | _, [] => rfl
  | skip + 1, _ :: rest => replaceFrom_eq_passFrom entry skip rest
  | 0, c :: rest => by
      by_cases hprefix : entry.1.toList.isPrefixOf (c :: rest) = true
      · have hchosen : firstOf (candidates [entry] (c :: rest)) = some entry := by
          simp [candidates, hprefix, firstOf]
        rw [replaceFrom, if_pos hprefix, passFrom, hchosen, String.length_toList,
          replaceFrom_eq_passFrom entry _ rest]
      · have hnone : firstOf (candidates [entry] (c :: rest)) = none := by
          simp [candidates, hprefix, firstOf]
        rw [replaceFrom, if_neg hprefix, passFrom, hnone, replaceFrom_eq_passFrom entry 0 rest]

/-- Without a table everything is copied. -/
theorem pass_without_names (hlawful : choice.Lawful) : ∀ s : List Char, pass choice [] s = s
  | [] => rfl
  | c :: rest => by rw [pass_char hlawful rfl, pass_without_names hlawful rest]

/-- Replacing names one after the other is one pass that takes the first one. -/
theorem expandAll_eq_pass : ∀ {table : List (String × String)}, (∀ entry ∈ table, Marked entry) →
    ∀ s : List Char, expandAll table s = pass firstOf table s
  | [], _, s => (pass_without_names lawful_firstOf s).symm
  | entry :: table, h, s => by
      obtain ⟨hentry, htable⟩ := List.forall_mem_cons.mp h
      have hone : replaceAll entry.1.toList entry.2.toList s = pass firstOf [entry] s :=
        replaceFrom_eq_passFrom entry 0 s
      have hrest : expandAll (entry :: table) s
          = expandAll table (replaceAll entry.1.toList entry.2.toList s) := rfl
      rw [hrest, expandAll_eq_pass htable, hone,
        pass_pass (List.forall_mem_singleton.mpr hentry) htable]
      rfl

/-! ## Passes that choose alike -/

/-- Passes are the same if they choose the same at every place. -/
theorem pass_congr {other : Choice} {otherTable : List (String × String)}
    (h : ∀ t, t <:+ s → choice (candidates table t) = other (candidates otherTable t)) :
    pass choice table s = pass other otherTable s := by
  suffices hfrom : ∀ skip, passFrom choice table skip s = passFrom other otherTable skip s from
    hfrom 0
  induction s with
  | nil => exact fun skip => by cases skip <;> rfl
  | cons c rest ih =>
      have hrest := ih fun t ht => h t (ht.trans (List.suffix_cons c rest))
      rintro (- | skip)
      · rw [passFrom, passFrom, h _ List.suffix_rfl]
        cases other (candidates otherTable (c :: rest)) with
        | none => exact congrArg _ (hrest 0)
        | some entry => exact congrArg _ (hrest _)
      · exact hrest skip

end Courier.LogFormat
