import Courier.Proofs.Numbers
import Courier.Response.Body
import Courier.Response.Head

/-!
# Reading lines

What the lines of a head are read as. Trimming, splitting at a mark and
splitting into words are undone by putting the parts together again, and from
that come the two readers of lines: `read_statusLine` for the first line of a
head, and `readHeader_line` for the ones after it. `chunkSize_line` does the
same for the line in front of a chunk.
-/

namespace Courier

namespace Text

section Cuts

variable {α : Type} {drop : α → Bool} {front back items lead trail : List α}

/-- Trimming takes off what was put at the end, up to what has to stay. -/
theorem trimBy_append (hfront : ∀ a ∈ front, drop a = false) (hback : ∀ a ∈ back, drop a = true) :
    trimBy drop (front ++ back) = front := by
  have hlead : (front ++ back).dropWhile drop = front ++ back ∨ front = [] := by
    cases front with
    | nil => exact .inr rfl
    | cons a front =>
        exact .inl (List.dropWhile_cons_of_neg (by simp [hfront a (List.mem_cons_self ..)]))
  obtain hlead | rfl := hlead
  · have hrev : ∀ a ∈ back.reverse, drop a = true := fun a ha => hback a (List.mem_reverse.mp ha)
    have hstop : front.reverse.dropWhile drop = front.reverse := by
      cases hfr : front.reverse with
      | nil => rfl
      | cons a rest =>
          have ha : a ∈ front := by
            rw [← List.mem_reverse, hfr]
            exact List.mem_cons_self ..
          exact List.dropWhile_cons_of_neg (by simp [hfront a ha])
    rw [trimBy, hlead, dropTrailing, List.reverse_append, List.dropWhile_append_of_pos hrev, hstop,
      List.reverse_reverse]
  · rw [trimBy, List.nil_append, List.dropWhile_eq_nil_iff.mpr hback]
    rfl

theorem trimBy_eq_self (h : ∀ a ∈ front, drop a = false) : trimBy drop front = front := by
  have htrim : trimBy drop (front ++ []) = front := trimBy_append h (by simp)
  rwa [List.append_nil] at htrim

/-- Trimming takes off nothing that has to stay. -/
theorem mem_trimBy {a : α} (h : a ∈ front) (hkeep : drop a = false) : a ∈ trimBy drop front := by
  have hstays : ∀ {items : List α}, a ∈ items → a ∈ items.dropWhile drop := by
    intro items hmem
    rw [← List.takeWhile_append_dropWhile (p := drop) (l := items)] at hmem
    refine (List.mem_append.mp hmem).resolve_left fun htake => ?_
    rw [List.mem_takeWhile_imp htake] at hkeep
    cases hkeep
  rw [trimBy, dropTrailing, List.mem_reverse]
  exact hstays (List.mem_reverse.mpr (hstays h))

theorem trimBy_lead (hlead : ∀ a ∈ lead, drop a = true) :
    trimBy drop (lead ++ items) = trimBy drop items := by
  rw [trimBy, List.dropWhile_append_of_pos hlead]
  rfl

theorem trimBy_trail (htrail : ∀ a ∈ trail, drop a = true) :
    trimBy drop (items ++ trail) = trimBy drop items := by
  have hrev : ∀ a ∈ trail.reverse, drop a = true := fun a ha => htrail a (List.mem_reverse.mp ha)
  rw [trimBy, List.dropWhile_append]
  split
  · rename_i hempty
    rw [trimBy, List.isEmpty_iff.mp hempty, List.dropWhile_eq_nil_iff.mpr htrail]
  · rw [dropTrailing, List.reverse_append, List.dropWhile_append_of_pos hrev]
    rfl

/-- Trimming takes off what is around. -/
theorem exists_around_trimBy (drop : α → Bool) (items : List α) :
    ∃ lead trail, items = lead ++ trimBy drop items ++ trail
      ∧ (∀ a ∈ lead, drop a = true) ∧ ∀ a ∈ trail, drop a = true := by
  refine ⟨items.takeWhile drop, ((items.dropWhile drop).reverse.takeWhile drop).reverse, ?_, ?_, ?_⟩
  · rw [trimBy, dropTrailing, List.append_assoc, ← List.reverse_append,
      List.takeWhile_append_dropWhile, List.reverse_reverse, List.takeWhile_append_dropWhile]
  · exact fun a ha => List.mem_takeWhile_imp ha
  · exact fun a ha => List.mem_takeWhile_imp (List.mem_reverse.mp ha)

/-- A run ends where something follows that is not in it. -/
theorem span_append {inRun : α → Bool} (hlead : ∀ a ∈ lead, inRun a = true)
    (htrail : ∀ a, trail.head? = some a → inRun a = false) :
    (lead ++ trail).takeWhile inRun = lead ∧ (lead ++ trail).dropWhile inRun = trail := by
  rw [List.takeWhile_append_of_pos hlead, List.dropWhile_append_of_pos hlead]
  cases trail with
  | nil => exact ⟨List.append_nil lead, rfl⟩
  | cons a trail =>
      have ha : inRun a = false := htrail a rfl
      rw [List.takeWhile_cons_of_neg (by simp [ha]), List.dropWhile_cons_of_neg (by simp [ha])]
      exact ⟨List.append_nil lead, rfl⟩

theorem prefix_dropTrailing (drop : α → Bool) (items : List α) :
    dropTrailing drop items <+: items := by
  rw [dropTrailing, ← List.reverse_suffix, List.reverse_reverse]
  exact List.dropWhile_suffix _

/-- What is taken off at the end leaves the start, or nothing. -/
theorem head?_of_dropTrailing {a : α} (h : (dropTrailing drop front).head? = some a) :
    front.head? = some a := by
  obtain ⟨trail, hfront⟩ := prefix_dropTrailing drop front
  rw [← hfront, List.head?_append, h]
  rfl

theorem getLast?_dropTrailing {a : α} (h : (dropTrailing drop items).getLast? = some a) :
    drop a = false := by
  rw [dropTrailing, List.getLast?_reverse] at h
  have hstop := List.head?_dropWhile_not drop items.reverse
  rw [h] at hstop
  exact Bool.eq_false_iff.mpr (by simpa using hstop)

/-- Nothing is taken off in front of an end that stays. -/
theorem dropTrailing_append (hkept : ∀ a, front.getLast? = some a → drop a = false) :
    dropTrailing drop (front ++ back) = front ++ dropTrailing drop back := by
  have hfront : front.reverse.dropWhile drop = front.reverse := by
    cases hfr : front.reverse with
    | nil => rfl
    | cons a rest =>
        have ha : front.getLast? = some a := by rw [← List.head?_reverse, hfr, List.head?_cons]
        exact List.dropWhile_cons_of_neg (by simp [hkept a ha])
  rw [dropTrailing, List.reverse_append, List.dropWhile_append]
  split
  · rename_i hempty
    rw [dropTrailing, List.isEmpty_iff.mp hempty, hfront, List.reverse_reverse, List.reverse_nil,
      List.append_nil]
  · rw [List.reverse_append, List.reverse_reverse, dropTrailing]

theorem dropTrailing_eq_nil (h : ∀ a ∈ back, drop a = true) : dropTrailing drop back = [] := by
  rw [dropTrailing, List.dropWhile_eq_nil_iff.mpr fun a ha => h a (List.mem_reverse.mp ha)]
  rfl

/-- Trimming takes off the lead, and what is at the end. -/
theorem trimBy_lead_kept (hlead : ∀ a ∈ lead, drop a = true)
    (hkept : ∀ a, items.head? = some a → drop a = false) :
    trimBy drop (lead ++ items) = dropTrailing drop items := by
  rw [trimBy_lead hlead, trimBy]
  cases items with
  | nil => rfl
  | cons a items => rw [List.dropWhile_cons_of_neg (by simp [hkept a rfl])]

theorem trim_blank_cons {c : Char} (h : isBlank c = true) (s : List Char) :
    trim (c :: s) = trim s := by
  rw [trim, trimBy, List.dropWhile_cons_of_pos h]
  rfl

variable [BEq α] [LawfulBEq α] {mark : α}

theorem partitionAt_append (h : mark ∉ front) :
    partitionAt mark (front ++ mark :: back) = (front, some back) := by
  have hfront : ∀ a ∈ front, (a != mark) = true := fun a ha =>
    bne_iff_ne.mpr fun heq => h (heq ▸ ha)
  have hdrop : (mark :: back).dropWhile (· != mark) = mark :: back := by simp
  have htake : (mark :: back).takeWhile (· != mark) = [] := by simp
  rw [partitionAt, List.dropWhile_append_of_pos hfront, List.takeWhile_append_of_pos hfront,
    hdrop, htake, List.append_nil]

theorem partitionAt_of_not_mem (h : mark ∉ front) : partitionAt mark front = (front, none) := by
  have hfront : ∀ a ∈ front, (a != mark) = true := fun a ha =>
    bne_iff_ne.mpr fun heq => h (heq ▸ ha)
  rw [partitionAt, List.dropWhile_eq_nil_iff.mpr hfront]

/-- The text is cut at the first mark that stands in it. -/
theorem partitionAt_eq_some_iff :
    partitionAt mark items = (front, some back) ↔ items = front ++ mark :: back ∧ mark ∉ front := by
  constructor
  · intro h
    by_cases hmem : mark ∈ items
    · obtain ⟨before, after, rfl, hbefore⟩ := List.eq_append_cons_of_mem hmem
      rw [partitionAt_append hbefore] at h
      cases h
      exact ⟨rfl, hbefore⟩
    · rw [partitionAt_of_not_mem hmem] at h
      cases h
  · rintro ⟨rfl, hfront⟩
    exact partitionAt_append hfront

theorem partitionAt_eq_none_iff :
    partitionAt mark items = (front, none) ↔ items = front ∧ mark ∉ front := by
  constructor
  · intro h
    by_cases hmem : mark ∈ items
    · obtain ⟨before, after, rfl, hbefore⟩ := List.eq_append_cons_of_mem hmem
      rw [partitionAt_append hbefore] at h
      cases h
    · rw [partitionAt_of_not_mem hmem] at h
      cases h
      exact ⟨rfl, hmem⟩
  · rintro ⟨rfl, hfront⟩
    exact partitionAt_of_not_mem hfront

end Cuts

/-! ## Words -/

theorem words_blank_cons {c : Char} (h : isBlank c = true) (cuts : Nat) (s : List Char) :
    words cuts (c :: s) = words cuts s := by
  cases cuts <;> simp only [words, List.dropWhile_cons_of_pos h]

/-- A word and a blank are split off. -/
theorem words_append {word rest : List Char} (hne : word ≠ [])
    (hword : ∀ c ∈ word, isBlank c = false) (cuts : Nat) :
    words (cuts + 1) (word ++ ' ' :: rest) = word :: words cuts rest := by
  have hkeep : ∀ c ∈ word, (!isBlank c) = true := fun c hc => by rw [hword c hc]; rfl
  have hblank : isBlank ' ' = true := by decide
  have hdrop : (' ' :: rest).dropWhile (fun c => !isBlank c) = ' ' :: rest := by simp [hblank]
  have htake : (' ' :: rest).takeWhile (fun c => !isBlank c) = [] := by simp [hblank]
  have hlead : (word ++ ' ' :: rest).dropWhile isBlank = word ++ ' ' :: rest := by
    cases word with
    | nil => exact absurd rfl hne
    | cons c word =>
        exact List.dropWhile_cons_of_neg (by simp [hword c (List.mem_cons_self ..)])
  have hcons : ∃ c more, word ++ ' ' :: rest = c :: more :=
    List.exists_cons_of_ne_nil (by simp)
  obtain ⟨c, more, hcons⟩ := hcons
  rw [words, hlead]
  simp only [hcons]
  rw [← hcons, List.takeWhile_append_of_pos hkeep, List.dropWhile_append_of_pos hkeep, htake,
    hdrop, List.append_nil, words_blank_cons hblank]

theorem flatten_words_zero {s : List Char} (h : ∀ c, s.head? = some c → isBlank c = false) :
    (words 0 s).flatten = s := by
  cases s with
  | nil => rfl
  | cons c rest =>
      rw [words, List.dropWhile_cons_of_neg (by simp [h c rfl])]
      simp

theorem Latin1.decode_encode {s : List Char} (h : ∀ c ∈ s, c.toNat < 256) :
    decode (encode s) = s := by
  rw [decode, encode, List.map_map]
  refine (List.map_congr_left fun c hc => ?_).trans (List.map_id s)
  rw [Function.comp_apply, UInt8.toNat_ofNat', Nat.mod_eq_of_lt (h c hc), Char.ofNat_toNat]
  rfl

/-- The bytes of a text stand for its characters. -/
theorem Latin1.mem_of_mem_encode {s : List Char} (h : ∀ c ∈ s, c.toNat < 256) {b : UInt8}
    (hb : b ∈ encode s) : Char.ofNat b.toNat ∈ s := by
  have hmem : Char.ofNat b.toNat ∈ decode (encode s) := List.mem_map_of_mem hb
  rwa [decode_encode h] at hmem

end Text

open Text

namespace Response

/-! ## Lines of a head -/

theorem forall_mem_of_all {s : List Char} {p : Char → Prop} [DecidablePred p]
    (h : s.all (fun c => decide (p c)) = true) : ∀ c ∈ s, p c := by
  simpa using h

theorem lineText_encode {s : List Char} (h : ∀ c ∈ s, c.toNat < 256) :
    lineText (Latin1.encode s) = s ++ ['\r', '\n'] := by
  have hend : Latin1.decode lineEnd = ['\r', '\n'] := by decide
  have hs := Latin1.decode_encode h
  rw [Latin1.decode] at hs hend
  rw [lineText, Latin1.decode, List.map_append, hs, hend]

/-- The text holds no character of a line end. -/
def OneLine (s : List Char) : Prop := '\r' ∉ s ∧ '\n' ∉ s

theorem trimLineEnds_append {s : List Char} (h : OneLine s) :
    trimLineEnds (s ++ ['\r', '\n']) = s := by
  refine trimBy_append (fun c hc => ?_) (by simp)
  have hreturn : c ≠ '\r' := fun heq => h.1 (heq ▸ hc)
  have hfeed : c ≠ '\n' := fun heq => h.2 (heq ▸ hc)
  simp [hreturn, hfeed]

/-- A protocol, a status, and a reason that starts with no blank. -/
theorem read_statusLine {protocol code reason : List Char} {status : Int}
    (hprotocol : protocolStart.isPrefixOf protocol = true)
    (hword : ∀ c ∈ protocol, isBlank c = false) (hcode : code ≠ [])
    (hcodeWord : ∀ c ∈ code, isBlank c = false) (hstatus : readStatus code = .ok status)
    (hreason : ∀ c, reason.head? = some c → isBlank c = false)
    (hline : OneLine (protocol ++ ' ' :: (code ++ ' ' :: reason))) :
    StatusLine.read (protocol ++ ' ' :: (code ++ ' ' :: reason) ++ ['\r', '\n'])
      = .ok { protocol := String.ofList protocol, status, reason := String.ofList reason } := by
  have hne : protocol ≠ [] := by
    rintro rfl
    cases hprotocol
  rw [StatusLine.read, trimLineEnds_append hline, words_append hne hword, words_append hcode
    hcodeWord]
  simp only [hprotocol, hstatus, flatten_words_zero hreason]
  rfl

/-- A name without a colon, a colon, and a value. -/
theorem readHeader_line {name value : List Char} (hcolon : ':' ∉ name)
    (hname : ∃ c ∈ name, isBlank c = false)
    (hline : OneLine (name ++ ':' :: ' ' :: value)) :
    readHeader (name ++ ':' :: ' ' :: value ++ ['\r', '\n'])
      = .ok (String.ofList (lower (trim name)), String.ofList (trim value)) := by
  obtain ⟨c, hc, hblank⟩ := hname
  have hempty : (trim name).isEmpty = false :=
    List.isEmpty_eq_false_iff.mpr (List.ne_nil_of_mem (mem_trimBy hc hblank))
  rw [readHeader, trimLineEnds_append hline, partitionAt_append hcolon]
  simp only [hempty, trim_blank_cons (show isBlank ' ' = true by decide)]
  rfl

/-! ## Lines of chunks -/

/-- A size of hexadecimal digits, with what may follow it behind a semicolon. -/
theorem chunkSize_line {digits : List Char} {size : Nat} (h : Integer.IsHex digits size) :
    chunkSize (Latin1.encode digits) = .ok size
      ∧ ∀ extension : List UInt8,
          chunkSize (Latin1.encode digits ++ 59 :: extension) = .ok size := by
  obtain ⟨values, hspells, -⟩ := h.spells
  have hlatin : ∀ c ∈ digits, c.toNat < 256 := fun c hc =>
    Integer.toNat_lt_of_hexValue (hspells.isSome c hc)
  have hread : Integer.ofHexBytes (Latin1.encode digits) = .ok size := by
    have hdecode := Latin1.decode_encode hlatin
    rw [Latin1.decode] at hdecode
    rw [Integer.ofHexBytes, hdecode, Integer.readHex_of_isHex h]
    rfl
  have hmark : (59 : UInt8) ∉ Latin1.encode digits := fun hmem =>
    absurd (hspells.isSome _ (Latin1.mem_of_mem_encode hlatin hmem)) (by decide)
  have htrim : trimBy (fun b : UInt8 => isAsciiBlank (Char.ofNat b.toNat)) (Latin1.encode digits)
      = Latin1.encode digits := by
    refine trimBy_eq_self fun b hb => ?_
    have hdigit := hspells.isSome _ (Latin1.mem_of_mem_encode hlatin hb)
    exact (Integer.unsigned_of_le (Integer.zero_le_of_hexValue hdigit)).1
  constructor
  · have hsize : sizeText (Latin1.encode digits) = Latin1.encode digits := by
      simp only [sizeText, partitionAt_of_not_mem hmark]
    rw [chunkSize, hsize, hread]
    rfl
  · intro extension
    have hsize : sizeText (Latin1.encode digits ++ 59 :: extension) = Latin1.encode digits := by
      simp only [sizeText, partitionAt_append hmark, htrim]
    rw [chunkSize, hsize, hread]
    rfl

end Response

end Courier
