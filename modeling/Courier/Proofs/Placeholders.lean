import Courier.Proofs.Borders
import Courier.Proofs.Passes
import Courier.Settings.Basic
import Mathlib.Data.List.Permutation

/-!
# Placeholders

A format is meant to have each of its placeholders replaced by its directive, and where one
name begins another, the longer one (`substitute`). The placeholders are replaced one after
the other in the order of the table, which is one pass that takes the first name, so only
names that begin others can make a difference.

There is one such pair, `$thread` and `$threadName` (`rivals`). A table in which the shorter
one stands first is `Shadowing`: wherever `$threadName` stands, the shorter name is found
(`firstOf_threadName`), and what is written differs from what is meant from there on
(`pass_of_shadowing`). With every other order of the entries, and in every text without
`$threadName`, the first name is as good as the longest (`pass_eq_iff`). The table of formats
is one of those that shadow, so that formats stand for what they are meant to exactly if they
do not hold `$threadName` (`expand_substitutes_iff`).
-/

namespace Courier.LogFormat

open Text

/-- The placeholder whose name begins another one. -/
def thread : String × String := ("$thread", "%(thread)d")

/-- The placeholder whose name begins with another one. -/
def threadName : String × String := ("$threadName", "%(threadName)s")

/-- The format that a text with placeholders is meant to stand for. -/
def substitute (s : String) : String := String.ofList (pass longestOf placeholders s.toList)

/-- The shorter of the two names stands in front of the longer one. -/
def Shadowing (table : List (String × String)) : Prop :=
  List.Sublist [thread, threadName] table

instance : DecidablePred Shadowing := fun _ => inferInstanceAs (Decidable (List.Sublist _ _))

theorem marked_placeholders : ∀ entry ∈ placeholders, Marked entry := by decide

theorem shadowing_placeholders : Shadowing placeholders := by decide

variable {choice other : Choice} {table : List (String × String)} {entry rival : String × String}
  {s front back : List Char}

/-! ## Names at the same place -/

theorem name_begins : ∀ entry ∈ placeholders, ∀ rival ∈ placeholders,
    entry.1.toList <+: rival.1.toList → entry = rival ∨ entry = thread ∧ rival = threadName := by
  decide

/-- Two names that stand at the same place are the same, or these two. -/
theorem rivals (hentry : entry ∈ candidates placeholders s)
    (hrival : rival ∈ candidates placeholders s) : entry = rival
      ∨ entry = thread ∧ rival = threadName ∨ rival = thread ∧ entry = threadName := by
  obtain ⟨hentry, hprefix⟩ := mem_candidates.mp hentry
  obtain ⟨hrival, hprefix'⟩ := mem_candidates.mp hrival
  obtain hbegins | hbegins := List.prefix_or_prefix_of_prefix hprefix hprefix'
  · exact (name_begins _ hentry _ hrival hbegins).imp_right .inl
  · exact (name_begins _ hrival _ hentry hbegins).imp Eq.symm .inr

/-- Where `$threadName` does not stand, there is no choice. -/
theorem choices_agree_of_alone (hchoice : choice.Lawful) (hother : other.Lawful)
    (hperm : table.Perm placeholders) (h : ¬ threadName.1.toList <+: s) :
    choice (candidates table s) = other (candidates placeholders s) := by
  have hsame : (candidates table s).Perm (candidates placeholders s) := hperm.filter _
  cases hchosen : choice (candidates table s) with
  | none =>
      rw [hchoice.eq_nil hchosen, List.nil_perm] at hsame
      rw [hsame, hother.nil]
  | some entry =>
      have hentry := hsame.mem_iff.mp (hchoice.mem hchosen)
      cases hchosen' : other (candidates placeholders s) with
      | none =>
          rw [hother.eq_nil hchosen'] at hentry
          exact absurd hentry List.not_mem_nil
      | some rival =>
          have hrival := hother.mem hchosen'
          obtain rfl | ⟨-, rfl⟩ | ⟨-, rfl⟩ := rivals hentry hrival
          · rfl
          · exact absurd (mem_candidates.mp hrival).2 h
          · exact absurd (mem_candidates.mp hentry).2 h

/-- Where `$threadName` stands, it and `$thread` do. -/
theorem candidates_of_threadName (h : threadName.1.toList <+: s) :
    (candidates placeholders s).Perm [thread, threadName] := by
  have hlonger : threadName ∈ candidates placeholders s := mem_candidates.mpr ⟨by decide, h⟩
  have hbegins : thread.1.toList <+: threadName.1.toList := by decide
  have hshorter : thread ∈ candidates placeholders s :=
    mem_candidates.mpr ⟨by decide, hbegins.trans h⟩
  have hnodup : placeholders.Nodup := by decide
  refine (List.perm_ext_iff_of_nodup (hnodup.filter _) (by decide)).mpr fun entry => ?_
  rw [List.mem_pair]
  constructor
  · intro hentry
    obtain rfl | ⟨rfl, -⟩ | ⟨-, rfl⟩ := rivals hentry hlonger
    · exact .inr rfl
    · exact .inl rfl
    · exact .inr rfl
  · rintro (rfl | rfl)
    · exact hshorter
    · exact hlonger

theorem longestOf_threadName (h : threadName.1.toList <+: s) :
    longestOf (candidates placeholders s) = some threadName := by
  have hpair := candidates_of_threadName h
  have hlonger := hpair.mem_iff.mpr (List.mem_pair.mpr (.inr rfl))
  cases hchosen : longestOf (candidates placeholders s) with
  | none =>
      rw [lawful_longestOf.eq_nil hchosen] at hlonger
      exact absurd hlonger List.not_mem_nil
  | some entry =>
      have hlength : threadName.1.length ≤ entry.1.length :=
        List.le_of_mem_argmax (f := fun entry : String × String => entry.1.length) hlonger hchosen
      obtain rfl | rfl := List.mem_pair.mp (hpair.mem_iff.mp (lawful_longestOf.mem hchosen))
      · exact absurd hlength (by decide)
      · rfl

/-- Where `$threadName` stands, the names are found in the order of the table. -/
theorem candidates_eq_iff (hperm : table.Perm placeholders) (h : threadName.1.toList <+: s) :
    candidates table s = [thread, threadName] ↔ Shadowing table := by
  have hbegins : thread.1.toList <+: threadName.1.toList := by decide
  have hstand : candidates [thread, threadName] s = [thread, threadName] := by
    refine List.filter_eq_self.mpr fun entry hentry => List.isPrefixOf_iff_prefix.mpr ?_
    obtain rfl | rfl := List.mem_pair.mp hentry
    · exact hbegins.trans h
    · exact h
  constructor
  · intro hfound
    rw [Shadowing, ← hfound]
    exact List.filter_sublist
  · intro hshadow
    have hfound : [thread, threadName].Sublist (candidates table s) :=
      hstand ▸ List.Sublist.filter _ hshadow
    have hpair := (hperm.filter _).trans (candidates_of_threadName h)
    exact (hfound.eq_of_length hpair.length_eq.symm).symm

theorem firstOf_threadName (hperm : table.Perm placeholders) (h : threadName.1.toList <+: s) :
    firstOf (candidates table s) = some (if Shadowing table then thread else threadName) := by
  have hpair : (candidates table s).Perm [thread, threadName] :=
    (hperm.filter _).trans (candidates_of_threadName h)
  have horder := candidates_eq_iff hperm h
  obtain hfound | hfound := List.perm_pair.mp hpair
  · rw [if_pos (horder.mp hfound), hfound]
    rfl
  · have hnot : ¬ Shadowing table := fun hshadow => by
      rw [horder.mpr hshadow] at hfound
      exact absurd hfound (by decide)
    rw [if_neg hnot, hfound]
    rfl

/-! ## Whole texts -/

theorem marked_of_perm (hperm : table.Perm placeholders) : ∀ entry ∈ table, Marked entry :=
  fun entry hentry => marked_placeholders entry (hperm.mem_iff.mp hentry)

/-- Without `$threadName`, neither the order nor the choice matters. -/
theorem pass_of_alone (hchoice : choice.Lawful) (hother : other.Lawful)
    (hperm : table.Perm placeholders) (h : ¬ threadName.1.toList <:+: s) :
    pass choice table s = pass other placeholders s := by
  refine pass_congr fun t hsuffix => choices_agree_of_alone hchoice hother hperm fun hbegins => ?_
  have hinside : threadName.1.toList <:+: t := hbegins.isInfix
  exact h (hinside.trans hsuffix.isInfix)

/-- A table that does not shadow is as good as a choice of the longest name. -/
theorem pass_of_not_shadowing (hperm : table.Perm placeholders) (h : ¬ Shadowing table)
    (s : List Char) : pass firstOf table s = pass longestOf placeholders s := by
  refine pass_congr fun t _ => ?_
  by_cases hprefix : threadName.1.toList <+: t
  · rw [firstOf_threadName hperm hprefix, if_neg h, longestOf_threadName hprefix]
  · exact choices_agree_of_alone lawful_firstOf lawful_longestOf hperm hprefix

/-- A table that shadows writes the shorter directive, and leaves the rest of the name. -/
theorem pass_of_shadowing (hperm : table.Perm placeholders) (h : Shadowing table)
    (front back : List Char) : pass firstOf table (front ++ (threadName.1.toList ++ back))
      = pass firstOf table front ++ (thread.2.toList ++ pass firstOf table ("Name".toList ++ back))
    := by
  have hchosen := firstOf_threadName hperm (List.prefix_append threadName.1.toList back)
  have hname : threadName.1.toList ++ back = thread.1.toList ++ ("Name".toList ++ back) := rfl
  rw [if_pos h, hname] at hchosen
  rw [hname, pass_append_name lawful_firstOf (marked_of_perm hperm) hchosen front]

theorem directives_differ (s t : List Char) : thread.2.toList ++ s ≠ threadName.2.toList ++ t := by
  intro h
  have hprefix : thread.2.toList <+: threadName.2.toList :=
    List.prefix_of_prefix_length_le (h ▸ List.prefix_append ..) (List.prefix_append ..) (by decide)
  exact absurd hprefix (by decide)

/-- Where a word stands, it stands somewhere for the first time. -/
theorem exists_first {word : List Char} (hword : word ≠ []) : ∀ {s : List Char}, word <:+: s →
    ∃ front back, s = front ++ (word ++ back) ∧ ¬ word <:+: front
  | [], h => absurd (List.infix_nil.mp h) hword
  | c :: rest, h => by
      by_cases hprefix : word <+: c :: rest
      · obtain ⟨back, hback⟩ := hprefix
        exact ⟨[], back, hback.symm, fun h => hword (List.infix_nil.mp h)⟩
      · have hrest : word <:+: rest := (List.infix_cons_iff.mp h).resolve_left hprefix
        obtain ⟨front, back, rfl, hfirst⟩ := exists_first hword hrest
        refine ⟨c :: front, back, rfl, fun h => ?_⟩
        obtain hbegins | hinside := List.infix_cons_iff.mp h
        · exact hprefix (hbegins.trans (List.prefix_append (c :: front) _))
        · exact hfirst hinside

/-- The first name is as good as the longest, unless one shadows the other in this text. -/
theorem pass_eq_iff (hperm : table.Perm placeholders) (s : List Char) :
    pass firstOf table s = pass longestOf placeholders s
      ↔ ¬ (Shadowing table ∧ threadName.1.toList <:+: s) := by
  constructor
  · rintro hsame ⟨hshadow, hstands⟩
    -- up to the first `$threadName` the two passes write the same, and there they differ
    obtain ⟨front, back, rfl, hfirst⟩ := exists_first (by decide) hstands
    have hlongest := longestOf_threadName (List.prefix_append threadName.1.toList back)
    rw [pass_of_shadowing hperm hshadow,
      pass_append_name lawful_longestOf marked_placeholders hlongest front,
      pass_of_alone lawful_firstOf lawful_longestOf hperm hfirst] at hsame
    exact directives_differ _ _ (List.append_cancel_left hsame)
  · intro h
    by_cases hshadow : Shadowing table
    · exact pass_of_alone lawful_firstOf lawful_longestOf hperm fun hstands => h ⟨hshadow, hstands⟩
    · exact pass_of_not_shadowing hperm hshadow s

/-! ## Formats -/

theorem expandAll_eq_iff (hperm : table.Perm placeholders) (text : String) :
    String.ofList (expandAll table text.toList) = substitute text
      ↔ ¬ (Shadowing table ∧ threadName.1.toList <:+: text.toList) := by
  rw [substitute, String.ofList_inj, expandAll_eq_pass (marked_of_perm hperm), pass_eq_iff hperm]

theorem expand_eq_iff (text : String) :
    expand text = substitute text ↔ ¬ threadName.1.toList <:+: text.toList := by
  rw [expand, expandAll_eq_iff (.refl _), and_iff_right shadowing_placeholders]

theorem toList_expand (text : String) :
    (expand text).toList = pass firstOf placeholders text.toList := by
  rw [expand, String.toList_ofList, expandAll_eq_pass marked_placeholders]

/-- A placeholder becomes its directive, and the text around it what it stands for, unless it
is the one that is shadowed. -/
theorem expand_append_iff {front back : String}
    (h : longestOf (candidates placeholders (entry.1 ++ back).toList) = some entry) :
    expand (front ++ entry.1 ++ back) = expand front ++ entry.2 ++ expand back
      ↔ entry ≠ threadName := by
  rw [String.toList_append] at h
  rw [← String.toList_inj]
  simp only [String.toList_append, toList_expand, List.append_assoc]
  constructor
  · rintro hsame rfl
    rw [pass_of_shadowing (.refl _) shadowing_placeholders] at hsame
    exact directives_differ _ _ (List.append_cancel_left hsame)
  · intro hne
    have halone : ¬ threadName.1.toList <+: entry.1.toList ++ back.toList := fun hprefix =>
      hne (Option.some.inj (h.symm.trans (longestOf_threadName hprefix)))
    have hfirst := choices_agree_of_alone lawful_firstOf lawful_longestOf (.refl _) halone
    exact pass_append_name lawful_firstOf marked_placeholders (hfirst.trans h) front.toList

end Courier.LogFormat

namespace Courier.Settings

/-- The format that a settings file gives, as it stands there. -/
def offered (file : Option String) : Except Fault String := do
  (← Ini.read (file.getD "")).get "Logging" "stream_handler_format"

theorem readFormat_eq_ok {text format : String} (h : readFormat text = .ok format) :
    format = LogFormat.expand text := by
  simp only [readFormat] at h
  split at h
  · exact (Except.ok.inj h).symm
  · cases h

/-- The format comes from its own option, whatever else is read from the file. -/
theorem format_of_ofIni {ini : Ini} {token : Option String} {settings : Settings}
    (h : ofIni ini token = .ok settings) :
    ∃ text, ini.get "Logging" "stream_handler_format" = .ok text
      ∧ readFormat text = .ok settings.format := by
  unfold ofIni at h
  -- however many options have been read before it, the format is the last one
  repeat obtain ⟨_, hread, h⟩ := bind_eq_ok h
  rename_i htext _ format
  cases h
  exact ⟨_, htext, hread⟩

/-- The format of settings that were read is that of the file, with its placeholders replaced. -/
theorem format_of_load {file token : Option String} {settings : Settings}
    (h : load file token = .ok settings) :
    ∃ text, offered file = .ok text ∧ settings.format = LogFormat.expand text := by
  obtain ⟨ini, hini, h⟩ := bind_eq_ok h
  obtain ⟨text, htext, hformat⟩ := format_of_ofIni h
  exact ⟨text, by rw [offered, hini]; exact htext, readFormat_eq_ok hformat⟩

end Courier.Settings

namespace Courier.LogFormat

/-- A format stands for what it is meant to exactly if it does not hold `$threadName`. With the
entries in another order the same is true if that order shadows, and there is no exception
otherwise. A placeholder that is the longest one at its place becomes its directive, whatever
is around it, exactly if it is not `$threadName`. The format in settings that were read is the
one that their file offers, with its placeholders replaced in this way. -/
theorem expand_substitutes_iff (text : String) :
    (expand text = substitute text ↔ ¬ threadName.1.toList <:+: text.toList)
      ∧ (∀ table : List (String × String), table.Perm placeholders →
          (String.ofList (expandAll table text.toList) = substitute text
            ↔ ¬ (Shadowing table ∧ threadName.1.toList <:+: text.toList)))
      ∧ (∀ (entry : String × String) (front back : String), text = front ++ entry.1 ++ back →
          longestOf (candidates placeholders (entry.1 ++ back).toList) = some entry →
          (expand text = expand front ++ entry.2 ++ expand back ↔ entry ≠ threadName))
      ∧ ∀ (file token : Option String) (settings : Settings),
          Settings.load file token = .ok settings → Settings.offered file = .ok text →
          settings.format = expand text := by
  refine ⟨expand_eq_iff text, fun table hperm => expandAll_eq_iff hperm text, ?_, ?_⟩
  · rintro entry front back rfl hlongest
    exact expand_append_iff hlongest
  · intro file token settings hload hoffered
    obtain ⟨found, hfound, hformat⟩ := Settings.format_of_load hload
    rw [hoffered] at hfound
    rw [hformat, Except.ok.inj hfound]

/-- Adjacent placeholders become their directives, and the table in reverse order replaces
`$threadName` as it is meant to be. -/
theorem expand_substitutes_adjacent :
    expand "$thread$name" = substitute "$thread$name"
      ∧ expand "$thread$name" = expand "" ++ "%(thread)d" ++ expand "$name"
      ∧ String.ofList (expandAll placeholders.reverse "$threadName".toList)
        = substitute "$threadName" := by
  obtain ⟨hwhole, -, hone, -⟩ := expand_substitutes_iff "$thread$name"
  obtain ⟨-, horder, -⟩ := expand_substitutes_iff "$threadName"
  have hlacks : 'N' ∉ "$thread$name".toList := by decide
  have halone : ¬ threadName.1.toList <:+: "$thread$name".toList := fun h =>
    hlacks (h.subset (by decide))
  have hlongest : longestOf (candidates placeholders (thread.1 ++ "$name").toList) = some thread :=
    by decide
  have hunshadowed : ¬ Shadowing placeholders.reverse := by decide
  refine ⟨hwhole.mpr halone, ?_, ?_⟩
  · exact (hone thread "" "$name" (by decide) hlongest).mpr (by decide)
  · exact (horder _ (List.reverse_perm _)).mpr fun h => hunshadowed h.1

/-- The text `$threadName` is accepted as a format, and stands for something else than the
directive that it names. -/
theorem threadName_not_substituted : Settings.readFormat "$threadName" = .ok "%(thread)dName"
    ∧ substitute "$threadName" = "%(threadName)s"
    ∧ ¬ ∀ text, expand text = substitute text := by
  have hexpand : expand "$threadName" = "%(thread)dName" := by decide
  have hmeant : substitute "$threadName" = "%(threadName)s" := by decide
  have haccepted : isValid "%(thread)dName" = true := by decide +kernel
  refine ⟨?_, hmeant, fun hall => ?_⟩
  · simp only [Settings.readFormat, hexpand, haccepted, if_true]
  · rw [hall, hmeant] at hexpand
    exact absurd hexpand (by decide)

end Courier.LogFormat
