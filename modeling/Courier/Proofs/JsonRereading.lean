import Courier.Proofs.JsonReads
import Courier.Proofs.JsonStrings
import Courier.Proofs.Keys
import Courier.Proofs.Payloads

/-!
# JSON that was written

What is written for a value is read again, within the depth it was written in (`rereads`).
By induction on the depth, every part is a text of its own (`Written`): it is read to its
end wherever a comma or a closing bracket follows, and it starts with a mark, so no blanks
are to be skipped in front of it. A round of the loop over elements or over members takes
one part off the text (`takes_element`, `takes_member`), and so all of them are taken
(`takes_joined`).

What is read need not be the value that was written, since tuples are read as lists, keys
as texts, and of members of one name only the last is left. Values of which none of this is
true are `Faithful`, and these are read as they were (`read_of_faithful`).
-/

namespace Courier.Json

open Text Decimal

variable {rounds depth count : Nat} {s text rest : List Char} {c : Char} {v : Value}
  {parts : List (List Char)}

/-! ## Texts of values -/

/-- The text is read as the value, whatever may stand behind it. -/
structure Written (depth : Nat) (text : List Char) (v : Value) : Prop where
  reads : ∀ rounds rest, text.length ≤ rounds → Follows rest →
    readValue rounds depth (text ++ rest) = .ok (v, rest)
  compact : Compact text

theorem follows_nil : Follows [] := nofun

theorem follows_comma (rest : List Char) : Follows (',' :: rest) := by
  rintro _ ⟨⟩
  exact .inl rfl

theorem follows_closing (bracket : Bracket) (rest : List Char) :
    Follows (bracket.closing :: rest) := by
  rintro _ ⟨⟩
  cases bracket
  · exact .inr (.inl rfl)
  · exact .inr (.inr rfl)

theorem skipBlanks_mark (h : IsMark c) (rest : List Char) :
    skipBlanks (c :: rest) = c :: rest := by
  have hblank : isBlank c ≠ true := by
    unfold isBlank
    simp only [ne_eq, Bool.or_eq_true, beq_iff_eq]
    rintro (((rfl | rfl) | rfl) | rfl) <;> exact absurd h (by decide)
  exact List.dropWhile_cons_of_neg hblank

theorem skipBlanks_closing (bracket : Bracket) (rest : List Char) :
    skipBlanks (bracket.closing :: rest) = bracket.closing :: rest :=
  skipBlanks_mark (by cases bracket <;> decide) rest

theorem skipBlanks_comma (rest : List Char) : skipBlanks (',' :: rest) = ',' :: rest :=
  skipBlanks_mark (by decide) rest

/-- Where a value is read, a mark stands, and no bracket that closes. -/
theorem Written.starts (h : Written depth text v) :
    ∃ c more, text = c :: more ∧ IsMark c ∧ c ≠ ']' := by
  have hread := h.reads text.length [] (Nat.le_refl _) follows_nil
  cases text with
  | nil =>
      rw [readValue_scalar fun bracket rest => by cases bracket <;> nofun] at hread
      cases hread
  | cons c more =>
      refine ⟨c, more, rfl, h.compact.marks c List.mem_cons_self, ?_⟩
      rintro rfl
      rw [readValue_scalar fun bracket rest => by cases bracket <;> nofun] at hread
      cases hread

theorem Written.skipBlanks_append (h : Written depth text v) (rest : List Char) :
    skipBlanks (text ++ rest) = text ++ rest := by
  obtain ⟨c, more, rfl, hmark, -⟩ := h.starts
  exact skipBlanks_mark hmark _

/-- A text that is the text of a value, and nothing else, is read as JSON. -/
theorem Written.read (h : Written Value.nestingLimit text v) : read text = .ok v := by
  have hblanks := h.skipBlanks_append []
  have hread := h.reads text.length [] (Nat.le_refl _) follows_nil
  rw [List.append_nil] at hblanks hread
  obtain ⟨c, more, htext, hmark, -⟩ := h.starts
  have hunmarked : ∀ rest, text ≠ '\uFEFF' :: rest := by
    rintro rest rfl
    cases htext
    exact absurd hmark (by decide)
  rw [read_unmarked hunmarked, readWhole, hblanks, hread]
  rfl

/-! ## Values without brackets -/

/-- Nothing that is read without brackets starts with one. -/
theorem readValue_of_readScalar (h : readScalar s = .ok (v, rest)) (rounds depth : Nat) :
    readValue rounds depth s = .ok (v, rest) := by
  rw [readValue_scalar, h]
  rintro bracket more rfl
  cases bracket <;> cases h

theorem written_scalar (hread : ∀ rest, Follows rest → readScalar (text ++ rest) = .ok (v, rest))
    (hcompact : Compact text) : Written depth text v where
  reads rounds _ _ hrest := readValue_of_readScalar (hread _ hrest) rounds depth
  compact := hcompact

theorem isMark_of_digit (h : isAsciiDigit c = true) : IsMark c ∧ c ≠ '"' := by
  rw [isAsciiDigit, Bool.and_eq_true, decide_eq_true_iff, decide_eq_true_iff] at h
  have hlow : 0x30 ≤ c.toNat := h.1
  have hhigh : c.toNat ≤ 0x39 := h.2
  refine ⟨⟨by omega, by omega⟩, ?_⟩
  rintro rfl
  exact absurd hlow (by decide)

/-- A numeral is written in digits and a few marks. -/
theorem Numeral.Sound.marks {n : Numeral} (h : n.Sound) (negative : Bool) :
    ∀ c ∈ n.signed negative, IsMark c ∧ c ≠ '"' := by
  have hfraction : ∀ c ∈ n.fractionText, IsMark c ∧ c ≠ '"' := by
    unfold fractionText
    split
    · exact nofun
    · exact List.forall_mem_cons.mpr ⟨by decide, fun c hc => isMark_of_digit (h.fraction c hc)⟩
  have hpower : ∀ c ∈ n.powerText, IsMark c ∧ c ≠ '"' := by
    unfold powerText
    split
    · exact nofun
    · rename_i sign digits hsome
      obtain ⟨hsign, -, hdigits⟩ := h.power sign digits hsome
      refine List.forall_mem_cons.mpr ⟨by decide, List.forall_mem_cons.mpr ⟨?_, ?_⟩⟩
      · obtain rfl | rfl := hsign <;> decide
      · exact fun c hc => isMark_of_digit (hdigits c hc)
  have htext : ∀ c ∈ n.text, IsMark c ∧ c ≠ '"' :=
    List.forall_mem_append.mpr ⟨fun c hc => isMark_of_digit (h.digits.2 c hc),
      List.forall_mem_append.mpr ⟨hfraction, hpower⟩⟩
  cases negative with
  | false => exact htext
  | true => exact List.forall_mem_cons.mpr ⟨by decide, htext⟩

theorem compact_showInteger {i : Int} (h : Value.showInteger i = .ok text) : Compact text := by
  unfold Value.showInteger Integer.decimal? at h
  split at h
  · rename_i digits hdigits
    cases h
    split at hdigits
    · cases hdigits
    · cases hdigits
      rw [Numeral.decimal_eq_signed]
      exact compact_of_marks ((Numeral.sound_toDigits i.natAbs).marks _)
  · cases h

theorem compact_writeFloat (x : Binary64) : Compact (writeFloat x) := by
  cases x with
  | nan => exact compact_of_all (by decide)
  | infinity negative => cases negative <;> exact compact_of_all (by decide)
  | finite negative mantissa exponent =>
      obtain ⟨n, hsound, -, htext⟩ := Numeral.exists_toText negative mantissa exponent
      have hwrite : writeFloat (.finite negative mantissa exponent) = n.signed negative := htext
      rw [hwrite]
      exact compact_of_marks (hsound.marks negative)

/-- The members of a map whose keys are texts. -/
def textKeyed (members : Entries String Value) : List (Value × Value) :=
  members.map fun member => (.text member.1, member.2)

/-- A value that JSON keeps as it is: made of nothing, truth values, integers, texts, lists,
and maps whose keys are texts. -/
inductive Faithful : Value → Prop where
  | null : Faithful .null
  | bool (b : Bool) : Faithful (.bool b)
  | int (i : Int) : Faithful (.int i)
  | text (s : String) : Faithful (.text s)
  | list {items : List Value} (kept : ∀ item ∈ items, Faithful item) : Faithful (.list items)
  | map {members : Entries String Value} (names : (members.map (·.1)).Nodup)
      (kept : ∀ member ∈ members, Faithful member.2) : Faithful (.map (textKeyed members))

theorem exists_written_scalar (hscalar : bracketed v = false)
    (h : writeWithin depth v = .ok text) :
    ∃ read, Written depth text read ∧ (Faithful v → read = v) := by
  cases v with
  | null =>
      obtain rfl : "null".toList = text := by cases depth <;> exact Except.ok.inj h
      exact ⟨.null, written_scalar (fun _ _ => rfl) (compact_of_all (by decide)), fun _ => rfl⟩
  | bool b =>
      obtain rfl : (if b then "true" else "false").toList = text := by
        cases depth <;> exact Except.ok.inj h
      refine ⟨.bool b, written_scalar (fun _ _ => ?_) (compact_of_all ?_), fun _ => rfl⟩
      · cases b <;> rfl
      · cases b <;> decide
  | int i =>
      have hshow : Value.showInteger i = .ok text := by cases depth <;> exact h
      exact ⟨.int i, written_scalar (fun _ hrest => Numeral.readScalar_showInteger hshow hrest)
        (compact_showInteger hshow), fun _ => rfl⟩
  | float x =>
      obtain rfl : writeFloat x = text := by cases depth <;> exact Except.ok.inj h
      obtain ⟨y, hread⟩ := Numeral.readScalar_writeFloat x
      exact ⟨.float y, written_scalar hread (compact_writeFloat x), nofun⟩
  | text s =>
      obtain rfl : writeText s.toList = text := by cases depth <;> exact Except.ok.inj h
      refine ⟨.text s, written_scalar (fun rest _ => ?_) (compact_writeText _), fun _ => rfl⟩
      have hread := readString_writeText s.toList rest
      rw [String.ofList_toList] at hread
      have hscalar : readScalar (writeText s.toList ++ rest)
          = (readString (writeText s.toList ++ rest)).map fun read => (.text read.1, read.2) := rfl
      rw [hscalar, hread]
      rfl
  | list | tuple | map => cases hscalar
  | _ => cases depth <;> cases h

/-! ## Parts between commas -/

section Parts

variable {α δ : Type} {bracket : Bracket} {loop : Nat → δ → List Char → Reading δ}
  {add : δ → α → δ} {finish : δ → δ} {part : List Char}

/-- What follows a bracket that opens: parts with commas between them, and the bracket that
closes. -/
def joined (bracket : Bracket) (parts : List (List Char)) (rest : List Char) : List Char :=
  [','].intercalate parts ++ bracket.closing :: rest

theorem joined_singleton (bracket : Bracket) (part rest : List Char) :
    joined bracket [part] rest = part ++ bracket.closing :: rest := by
  rw [joined, List.intercalate_singleton]

theorem joined_cons_cons (bracket : Bracket) (part next : List Char) (parts : List (List Char))
    (rest : List Char) : joined bracket (part :: next :: parts) rest
      = part ++ ',' :: joined bracket (next :: parts) rest := by
  simp [joined, List.intercalate_cons_cons]

theorem exists_joined_cons (bracket : Bracket) (part : List Char) (parts : List (List Char))
    (rest : List Char) : ∃ more, joined bracket (part :: parts) rest = part ++ more := by
  cases parts with
  | nil => exact ⟨_, joined_singleton _ _ _⟩
  | cons next parts => exact ⟨_, joined_cons_cons _ _ _ _ _⟩

theorem bracket_append (bracket : Bracket) (parts : List (List Char)) (rest : List Char) :
    Json.bracket bracket.opening bracket.closing parts ++ rest
      = bracket.opening :: joined bracket parts rest := by
  simp [Json.bracket, joined]

/-- No part is as long as all, and there are no more parts than characters. -/
theorem length_joined (bracket : Bracket) : ∀ parts : List (List Char),
    (∀ part ∈ parts, part.length < (joined bracket parts []).length)
      ∧ parts.length ≤ (joined bracket parts []).length
  | [] => ⟨nofun, Nat.zero_le _⟩
  | [part] => by
      rw [joined_singleton]
      simp
  | part :: next :: parts => by
      obtain ⟨hparts, hlength⟩ := length_joined bracket (next :: parts)
      rw [joined_cons_cons, List.length_append, List.length_cons, List.length_cons (a := part)]
      refine ⟨List.forall_mem_cons.mpr ⟨by omega, fun other hother => ?_⟩, by omega⟩
      have hother := hparts other hother
      omega

/-- One round of a loop takes the part off the front of the text. -/
structure Takes (bracket : Bracket) (loop : Nat → δ → List Char → Reading δ) (add : δ → α → δ)
    (finish : δ → δ) (part : List Char) (a : α) : Prop where
  comma : ∀ count done more,
    loop (count + 1) done (part ++ ',' :: more) = loop count (add done a) more
  closing : ∀ count done rest,
    loop (count + 1) done (part ++ bracket.closing :: rest) = .ok (finish (add done a), rest)

/-- Round by round all parts are taken. -/
theorem takes_joined {contents : List α}
    (h : List.Forall₂ (Takes bracket loop add finish) parts contents) (hne : parts ≠ [])
    (hcount : parts.length ≤ count) (done : δ) (rest : List Char) :
    loop count done (joined bracket parts rest) = .ok (finish (contents.foldl add done), rest) := by
  induction h generalizing count done with
  | nil => exact absurd rfl hne
  | @cons part a parts contents hpart hparts ih =>
      obtain ⟨left, rfl⟩ : ∃ left, count = left + 1 := Nat.exists_eq_add_one.mpr (by
        rw [List.length_cons] at hcount
        omega)
      -- a bracket closes behind the last part, and a comma stands behind any other one
      cases hparts with
      | nil => rw [joined_singleton, hpart.closing, List.foldl_cons, List.foldl_nil]
      | cons hnext hmore =>
          rw [joined_cons_cons, hpart.comma, List.foldl_cons]
          exact ih (List.cons_ne_nil _ _) (Nat.le_of_succ_le_succ hcount) _

theorem compact_bracket (bracket : Bracket) (h : ∀ part ∈ parts, Compact part) :
    Compact (Json.bracket bracket.opening bracket.closing parts) := by
  have hopening : Compact [bracket.opening] := by
    cases bracket <;> exact compact_singleton (by decide) (by decide)
  have hclosing : Compact [bracket.closing] := by
    cases bracket <;> exact compact_singleton (by decide) (by decide)
  exact (hopening.append (compact_intercalate h)).append hclosing

end Parts

/-! ## Lists and maps that were written -/

theorem takes_element {part : List Char} (h : Written depth part v)
    (hrounds : part.length ≤ rounds) :
    Takes .list (readElements (readValue rounds depth)) (fun done v => v :: done) List.reverse
      part v where
  comma count done more := by
    rw [readElements, h.skipBlanks_append, h.reads rounds _ hrounds (follows_comma more)]
    simp only [skipBlanks_comma]
  closing count done rest := by
    rw [readElements, h.skipBlanks_append, h.reads rounds _ hrounds (follows_closing .list rest)]
    simp only [skipBlanks_closing]
    rfl

/-- A name, a colon and the text of a value. -/
inductive WrittenMember (depth : Nat) : List Char → String × Value → Prop where
  | named (name text : List Char) {v : Value} (value : Written depth text v) :
      WrittenMember depth (writeText name ++ ':' :: text) (String.ofList name, v)

theorem takes_member {part : List Char} {member : String × Value}
    (h : WrittenMember depth part member) (hrounds : part.length ≤ rounds) :
    Takes .map (readMembers (readValue rounds depth))
      (fun done member => Entries.put done member.1 member.2) id part member := by
  obtain ⟨name, text, hvalue⟩ := h
  rw [List.length_append, List.length_cons] at hrounds
  have hquote : ∀ tail, skipBlanks (writeText name ++ ':' :: text ++ tail)
      = '"' :: (name.flatMap escapeChar ++ ['"'] ++ ':' :: text ++ tail) := fun _ =>
    skipBlanks_mark (by decide) _
  have hname : ∀ tail,
      readString ('"' :: (name.flatMap escapeChar ++ ['"'] ++ ':' :: text ++ tail))
        = .ok (String.ofList name, ':' :: (text ++ tail)) := by
    intro tail
    have hread := readString_writeText name (':' :: text ++ tail)
    rwa [← List.append_assoc] at hread
  have hcolon : ∀ tail, skipBlanks (':' :: tail) = ':' :: tail := skipBlanks_mark (by decide)
  constructor
  · intro count done more
    rw [readMembers, hquote]
    simp only [hname, hcolon, hvalue.skipBlanks_append,
      hvalue.reads rounds _ (by omega) (follows_comma more), skipBlanks_comma]
  · intro count done rest
    rw [readMembers, hquote]
    simp only [hname, hcolon, hvalue.skipBlanks_append,
      hvalue.reads rounds _ (by omega) (follows_closing .map rest), skipBlanks_closing]
    rfl

theorem WrittenMember.compact {part : List Char} {member : String × Value}
    (h : WrittenMember depth part member) : Compact part := by
  obtain ⟨name, text, hvalue⟩ := h
  have hcolon : Compact [':'] := compact_singleton (by decide) (by decide)
  exact (compact_writeText name).append (hcolon.append hvalue.compact)

/-- Brackets around parts are the text of a value if reading them, with rounds enough, leaves
what stands behind them. -/
theorem written_bracket (bracket : Bracket) (hcompact : ∀ part ∈ parts, Compact part)
    (hread : ∀ rounds rest, parts.length ≤ rounds → (∀ part ∈ parts, part.length ≤ rounds) →
      readBracket rounds depth bracket (joined bracket parts rest) = .ok (v, rest)) :
    Written (depth + 1) (Json.bracket bracket.opening bracket.closing parts) v where
  reads rounds rest hrounds _ := by
    obtain ⟨hparts, hcount⟩ := length_joined bracket parts
    have hlength : (Json.bracket bracket.opening bracket.closing parts).length
        = (joined bracket parts []).length + 1 := by
      rw [← List.append_nil (Json.bracket _ _ _), bracket_append, List.length_cons]
    rw [bracket_append, readValue_opening]
    refine hread rounds rest (by omega) fun part hpart => ?_
    have hpart := hparts part hpart
    omega
  compact := compact_bracket bracket hcompact

theorem readList_of_mark {element : List Char → Reading Value} (h : IsMark c) (hopen : c ≠ ']')
    (rounds : Nat) (more : List Char) : readList element rounds (c :: more)
      = (readElements element rounds [] (c :: more)).map fun read => (.list read.1, read.2) := by
  rw [readList, skipBlanks_mark h]
  split
  · rename_i heq
    exact absurd (List.cons.inj heq).1 hopen
  · rfl

theorem written_list {items : List Value} (h : List.Forall₂ (Written depth) parts items) :
    Written (depth + 1) (bracket '[' ']' parts) (.list items) := by
  have hcompact := (List.forall₂_and_left _ _).mp (h.imp fun _ _ hpart => ⟨hpart.compact, hpart⟩)
  refine written_bracket .list hcompact.1 fun rounds rest hcount hrounds => ?_
  have htakes := ((List.forall₂_and_left _ _).mpr ⟨hrounds, h⟩).imp fun _ _ hpart =>
    takes_element hpart.2 hpart.1
  cases h with
  | nil => rfl
  | cons hpart hparts =>
      have hloop := takes_joined htakes (List.cons_ne_nil _ _) hcount [] rest
      -- the first element must not be taken for the end of a list without any
      obtain ⟨c, more, rfl, hmark, hopen⟩ := hpart.starts
      obtain ⟨tail, hjoined⟩ := exists_joined_cons .list (c :: more) _ rest
      rw [hjoined, List.cons_append] at hloop ⊢
      rw [readBracket, readList_of_mark hmark hopen, hloop]
      simp [Except.map]

theorem written_map {members : Entries String Value}
    (h : List.Forall₂ (WrittenMember depth) parts members) :
    Written (depth + 1) (bracket '\x7b' '\x7d' parts)
      (.map (textKeyed (Entries.putAll [] members))) := by
  have hcompact := (List.forall₂_and_left _ _).mp (h.imp fun _ _ hpart => ⟨hpart.compact, hpart⟩)
  refine written_bracket .map hcompact.1 fun rounds rest hcount hrounds => ?_
  have htakes := ((List.forall₂_and_left _ _).mpr ⟨hrounds, h⟩).imp fun _ _ hpart =>
    takes_member hpart.2 hpart.1
  cases h with
  | nil => rfl
  | cons hpart hparts =>
      have hloop := takes_joined htakes (List.cons_ne_nil _ _) hcount [] rest
      obtain ⟨name, text, hvalue⟩ := hpart
      obtain ⟨tail, hjoined⟩ := exists_joined_cons .map (writeText name ++ ':' :: text) _ rest
      rw [hjoined] at hloop ⊢
      have hmap : readBracket rounds depth .map (writeText name ++ ':' :: text ++ tail)
          = (readMembers (readValue rounds depth) rounds []
              (writeText name ++ ':' :: text ++ tail)).map fun read =>
            (.map (textKeyed read.1), read.2) := rfl
      rw [hmap, hloop]
      rfl

/-! ## Values that were written -/

/-- Whatever is written within this depth is the text of a value, and of the same value if
it is faithful. -/
def Rereads (depth : Nat) : Prop :=
  ∀ v text, writeWithin depth v = .ok text →
    ∃ read, Written depth text read ∧ (Faithful v → read = v)

theorem exists_elements {items : List Value} (hdepth : Rereads depth)
    (h : List.Forall₂ (fun item part => writeWithin depth item = .ok part) items parts) :
    ∃ reads, List.Forall₂ (Written depth) parts reads
      ∧ ((∀ item ∈ items, Faithful item) → reads = items) := by
  induction h with
  | nil => exact ⟨[], .nil, fun _ => rfl⟩
  | cons hwrite _ ih =>
      obtain ⟨read, hread, hsame⟩ := hdepth _ _ hwrite
      obtain ⟨reads, hreads, hmore⟩ := ih
      refine ⟨read :: reads, .cons hread hreads, fun hkept => ?_⟩
      obtain ⟨hfirst, hothers⟩ := List.forall_mem_cons.mp hkept
      rw [hsame hfirst, hmore hothers]

theorem exists_members {entries : List (Value × Value)} (hdepth : Rereads depth)
    (h : List.Forall₂ (fun entry part => ((keyText entry.1).bind fun key =>
      (writeWithin depth entry.2).map fun value => writeText key ++ ':' :: value) = .ok part)
      entries parts) :
    ∃ reads, List.Forall₂ (WrittenMember depth) parts reads ∧ ∀ members : Entries String Value,
      entries = textKeyed members → (∀ member ∈ members, Faithful member.2) → reads = members := by
  induction h with
  | nil =>
      refine ⟨[], .nil, fun members hmembers _ => ?_⟩
      exact (List.map_eq_nil_iff.mp hmembers.symm).symm
  | @cons entry part entries parts hwrite _ ih =>
      obtain ⟨key, hkey, hvalue⟩ := bind_eq_ok hwrite
      obtain ⟨text, htext, rfl⟩ := map_eq_ok hvalue
      obtain ⟨read, hread, hsame⟩ := hdepth _ _ htext
      obtain ⟨reads, hreads, hmore⟩ := ih
      refine ⟨(String.ofList key, read) :: reads, .cons (.named key text hread) hreads, ?_⟩
      intro members hmembers hkept
      cases members with
      | nil => cases hmembers
      | cons member members =>
          obtain ⟨rfl, hentries⟩ := List.cons.inj hmembers
          obtain ⟨hfirst, hothers⟩ := List.forall_mem_cons.mp hkept
          obtain rfl : member.1.toList = key := Except.ok.inj hkey
          rw [hsame hfirst, hmore members hentries hothers, String.ofList_toList]

theorem rereads (depth : Nat) : Rereads depth := by
  induction depth with
  | zero =>
      intro v text h
      cases hscalar : bracketed v with
      | false => exact exists_written_scalar hscalar h
      | true =>
          -- at depth zero nothing is written in brackets
          obtain ⟨failure, hfails, -⟩ := (fails_zero hscalar).mpr rfl
          cases h.symm.trans hfails
  | succ depth ih =>
      intro v text h
      cases v with
      | list items =>
          obtain ⟨parts, hparts, rfl⟩ := map_eq_ok h
          obtain ⟨reads, hreads, hsame⟩ := exists_elements ih (mapM_eq_ok.mp hparts)
          refine ⟨.list reads, written_list hreads, ?_⟩
          rintro ⟨⟩
          rename_i hkept
          rw [hsame hkept]
      | tuple items =>
          obtain ⟨parts, hparts, rfl⟩ := map_eq_ok h
          obtain ⟨reads, hreads, -⟩ := exists_elements ih (mapM_eq_ok.mp hparts)
          exact ⟨.list reads, written_list hreads, nofun⟩
      | map entries =>
          obtain ⟨parts, hparts, rfl⟩ := map_eq_ok h
          obtain ⟨reads, hreads, hsame⟩ := exists_members ih (mapM_eq_ok.mp hparts)
          refine ⟨_, written_map hreads, fun hfaithful => ?_⟩
          cases hfaithful with
          | map names kept =>
              -- names that differ do not replace each other
              rw [hsame _ rfl kept, Entries.putAll_of_nodup names]
              rfl
      | _ => exact exists_written_scalar rfl h

/-- Decoding takes back the writing of a faithful value. -/
theorem read_of_faithful (hfaithful : Faithful v) (h : write v = .ok text) : read text = .ok v := by
  obtain ⟨_, hwritten, hsame⟩ := rereads _ _ _ h
  exact hsame hfaithful ▸ hwritten.read

end Courier.Json

namespace Courier.Payload

open Text

variable {payload : Value} {s : List Char}

theorem write_of_text (hother : ∀ t, payload ≠ .text t) (h : text payload .json = .ok s) :
    Json.write payload = .ok s := by
  rcases text_cases payload with ⟨t, rfl⟩ | ⟨-, -, hjson⟩
  · exact absurd rfl (hother t)
  · rw [hjson, explain_eq_ok] at h
    exact h

/-- A text is sent as it is where it can be read as JSON. -/
theorem text_of_read {v : Value} (h : Json.read s = .ok v) :
    text (.text (String.ofList s)) .json = .ok s := by
  have htext : text (.text (String.ofList s)) .json
      = explain (.text (String.ofList s)) .json explainedJson
          ((Json.read (String.ofList s).toList).map fun _ => (String.ofList s).toList) := rfl
  rw [htext, String.toList_ofList, explain_eq_ok, h]
  rfl

/-- The JSON of a payload that is no text is sent as it is when it is handed over as a text,
and it has no blanks outside strings. A faithful payload is read from its JSON again, and no
other faithful one has the same. -/
theorem json_reread (hother : ∀ t, payload ≠ .text t) (h : text payload .json = .ok s) :
    text (.text (String.ofList s)) .json = .ok s
      ∧ (∀ c ∈ Json.outside .outside s, isBlank c = false)
      ∧ (Json.Faithful payload → Json.read s = .ok payload
        ∧ ∀ other, (∀ t, other ≠ .text t) → Json.Faithful other →
          text other .json = .ok s → other = payload) := by
  have hwrite := write_of_text hother h
  obtain ⟨read, hwritten, -⟩ := Json.rereads _ _ _ hwrite
  refine ⟨text_of_read hwritten.read, fun c hc => (hwritten.compact.marks c hc).not_blank,
    fun hfaithful => ?_⟩
  have hread := Json.read_of_faithful hfaithful hwrite
  refine ⟨hread, fun other htexts hkept hsame => ?_⟩
  have hagain := Json.read_of_faithful hkept (write_of_text htexts hsame)
  exact Except.ok.inj (hagain.symm.trans hread)

/-- A list in a map, whose name has a quote. -/
theorem json_reread_nested :
    text (.map [(.text "a\"", .list [.null, .bool true, .list [], .text "b c\n"])]) .json
        = .ok "\x7b\"a\\\"\":[null,true,[],\"b c\\n\"]\x7d".toList
      ∧ text (.text "\x7b\"a\\\"\":[null,true,[],\"b c\\n\"]\x7d") .json
        = .ok "\x7b\"a\\\"\":[null,true,[],\"b c\\n\"]\x7d".toList
      ∧ Json.read "\x7b\"a\\\"\":[null,true,[],\"b c\\n\"]\x7d".toList
        = .ok (.map [(.text "a\"", .list [.null, .bool true, .list [], .text "b c\n"])]) := by
  have h : text (.map [(.text "a\"", .list [.null, .bool true, .list [], .text "b c\n"])]) .json
      = .ok "\x7b\"a\\\"\":[null,true,[],\"b c\\n\"]\x7d".toList := rfl
  have hlist : Json.Faithful (.list [.null, .bool true, .list [], .text "b c\n"]) := by
    refine .list ?_
    simp only [List.forall_mem_cons, List.not_mem_nil, false_implies, implies_true, and_true]
    exact ⟨.null, .bool true, .list nofun, .text _⟩
  have hmap : Json.Faithful (.map (Json.textKeyed
      [("a\"", .list [.null, .bool true, .list [], .text "b c\n"])])) :=
    .map (by decide) (List.forall_mem_singleton.mpr hlist)
  obtain ⟨hagain, -, hread⟩ := json_reread (by nofun) h
  rw [String.ofList_toList] at hagain
  exact ⟨h, hagain, (hread hmap).1⟩

end Courier.Payload
