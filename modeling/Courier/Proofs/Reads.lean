import Courier.Stream

/-!
# What a read meets

The two reads that everything else is made of, told by the bytes of the
stream and its ending alone. The pieces that the bytes arrive in are gone
after this file.

A reader of lines meets one of three things (`lineFront`): a whole line of
allowed length, the open end of a line that may still become one, or more
bytes than a line may have. Which one it is does not depend on the pieces,
although two different tests find out that a line is too long: one when its
end has come into sight, one before that. The case lemmas `readLine_whole`,
`readLine_open` and `readLine_overlong` say what comes of each; a counted
read has `readExactly_enough` and `readExactly_short`.
-/

namespace Courier

/-- No line end stands in the bytes. -/
def Unbroken (bytes : List UInt8) : Prop := ¬ lineEnd <:+: bytes

theorem Unbroken.of_part {part bytes : List UInt8} (h : Unbroken bytes) (hp : part <:+: bytes) :
    Unbroken part := fun hl => h (hl.trans hp)

theorem unbroken_nil : Unbroken [] := by
  simp [Unbroken, lineEnd, List.infix_nil]

theorem lineEnd_prefix_cons {b : UInt8} {rest : List UInt8} :
    lineEnd <+: b :: rest ↔ b = 13 ∧ rest.head? = some 10 := by
  rw [lineEnd, List.cons_prefix_cons, eq_comm]
  refine and_congr_right fun _ => ?_
  cases rest with
  | nil => simp
  | cons c rest => simp [eq_comm]

theorem unbroken_cons {b : UInt8} {rest : List UInt8} :
    Unbroken (b :: rest) ↔ ¬ (b = 13 ∧ rest.head? = some 10) ∧ Unbroken rest := by
  simp only [Unbroken, List.infix_cons_iff, lineEnd_prefix_cons, not_or]

/-- A carriage return at the end starts no line end. -/
theorem Unbroken.append_return {line : List UInt8} (h : Unbroken line) :
    Unbroken (line ++ [13]) := by
  induction line with
  | nil => exact unbroken_cons.mpr ⟨by simp, unbroken_nil⟩
  | cons b rest ih =>
      obtain ⟨hb, hrest⟩ := unbroken_cons.mp h
      refine unbroken_cons.mpr ⟨?_, ih hrest⟩
      rintro ⟨rfl, hc⟩
      cases rest with
      | nil => simp at hc
      | cons c rest => exact hb ⟨rfl, by simpa using hc⟩

/-- Bytes without one of the two that make up a line end hold none. -/
theorem unbroken_of_not_mem {bytes : List UInt8} (h : 13 ∉ bytes) : Unbroken bytes :=
  fun hl => h (hl.subset (by simp [lineEnd]))

/-! ## The first line -/

theorem splitLine?_go_append : ∀ {line done rest : List UInt8}, Unbroken line →
    splitLine?.go done (line ++ lineEnd ++ rest) = some (done.reverse ++ line, rest)
  | [], done, rest, _ => by simp [lineEnd, splitLine?.go]
  | b :: line, done, rest, h => by
      obtain ⟨hb, hline⟩ := unbroken_cons.mp h
      have hnot : ¬ (b = 13 ∧ (line ++ lineEnd ++ rest).head? = some 10) := by
        rintro ⟨rfl, hc⟩
        cases line with
        | nil => simp [lineEnd] at hc
        | cons c line => exact hb ⟨rfl, by simpa using hc⟩
      rw [List.cons_append, List.cons_append, splitLine?.go, if_neg hnot,
        splitLine?_go_append hline]
      simp

theorem splitLine?_go_unbroken : ∀ {bytes done line rest : List UInt8},
    splitLine?.go done bytes = some (line, rest) →
      ∃ more, line = done.reverse ++ more ∧ Unbroken more
  | [], done, line, rest, h => by simp [splitLine?.go] at h
  | b :: after, done, line, rest, h => by
      rw [splitLine?.go] at h
      split at h
      · obtain ⟨rfl, -⟩ := Prod.mk.injEq .. |>.mp (Option.some.inj h)
        exact ⟨[], by simp, unbroken_nil⟩
      · rename_i hb
        obtain ⟨more, rfl, hmore⟩ := splitLine?_go_unbroken h
        refine ⟨b :: more, by simp, unbroken_cons.mpr ⟨?_, hmore⟩⟩
        rintro ⟨rfl, hc⟩
        -- the line goes on with what the bytes go on with
        have hall := splitLine?_go_eq h
        cases more with
        | nil => simp at hc
        | cons c more =>
            refine hb ⟨rfl, ?_⟩
            obtain rfl : c = 10 := by simpa using hc
            have : (10 :: more ++ lineEnd ++ rest) = after := by simpa using hall
            rw [← this]
            rfl

/-- The first line of the bytes: the part before the first line end. -/
theorem splitLine?_eq_some_iff {bytes line rest : List UInt8} :
    splitLine? bytes = some (line, rest) ↔
      bytes = line ++ lineEnd ++ rest ∧ Unbroken line := by
  constructor
  · intro h
    obtain ⟨more, rfl, hmore⟩ := splitLine?_go_unbroken h
    exact ⟨(splitLine?_eq_some h).symm, by simpa using hmore⟩
  · rintro ⟨rfl, h⟩
    have hgo : splitLine?.go [] (line ++ lineEnd ++ rest) = some ([].reverse ++ line, rest) :=
      splitLine?_go_append h
    simpa [splitLine?] using hgo

theorem splitLine?_go_none : ∀ {bytes done : List UInt8},
    splitLine?.go done bytes = none → Unbroken bytes
  | [], _, _ => unbroken_nil
  | b :: after, done, h => by
      rw [splitLine?.go] at h
      split at h
      · cases h
      · rename_i hb
        exact unbroken_cons.mpr ⟨hb, splitLine?_go_none h⟩

theorem splitLine?_eq_none_iff {bytes : List UInt8} :
    splitLine? bytes = none ↔ Unbroken bytes := by
  refine ⟨splitLine?_go_none, fun h => ?_⟩
  cases hs : splitLine? bytes with
  | none => rfl
  | some split =>
      obtain ⟨rfl, -⟩ := splitLine?_eq_some_iff.mp hs
      exact absurd ⟨split.1, split.2, rfl⟩ h

/-- Bytes have one first line. -/
theorem first_line_unique {line line' rest rest' : List UInt8} (h : Unbroken line)
    (h' : Unbroken line') (heq : line ++ lineEnd ++ rest = line' ++ lineEnd ++ rest') :
    line = line' ∧ rest = rest' := by
  have h1 : splitLine? (line ++ lineEnd ++ rest) = some (line, rest) :=
    splitLine?_eq_some_iff.mpr ⟨rfl, h⟩
  have h2 : splitLine? (line ++ lineEnd ++ rest) = some (line', rest') :=
    splitLine?_eq_some_iff.mpr ⟨heq, h'⟩
  simpa using h1.symm.trans h2

/-! ## Three fronts -/

/-- More bytes than a line and its end may have, and no line end among the first of them. -/
def Overlong (bytes : List UInt8) : Prop :=
  lineLimit + 2 ≤ bytes.length ∧ Unbroken (bytes.take (lineLimit + 2))

/-- A line that can be read: it holds no line end and is within the limit. -/
structure Legible (line : List UInt8) : Prop where
  unbroken : Unbroken line
  short : line.length ≤ lineLimit

/-- The empty line. -/
theorem legible_nil : Legible [] := ⟨unbroken_nil, Nat.zero_le _⟩

/-- What a reader of lines meets at the front of the bytes. -/
inductive LineFront (bytes : List UInt8) : Prop where
  /-- A line with its end. -/
  | whole (line after : List UInt8) (split : bytes = line ++ lineEnd ++ after)
      (legible : Legible line)
  /-- The start of a line. -/
  | part (unbroken : Unbroken bytes) (short : bytes.length ≤ lineLimit + 1)
  /-- More than a line may have. -/
  | overlong (long : Overlong bytes)

/-- A first line beyond the limit is overlong before its end comes into sight. -/
theorem overlong_of_line {line after : List UInt8} (h : Unbroken line)
    (hlong : lineLimit < line.length) : Overlong (line ++ lineEnd ++ after) := by
  refine ⟨by simp [lineEnd]; omega, (h.append_return).of_part ?_⟩
  have hsplit : line ++ lineEnd ++ after = (line ++ [13]) ++ (10 :: after) := by simp [lineEnd]
  rw [hsplit, List.take_append_of_le_length (by simp; omega)]
  exact (List.take_prefix ..).isInfix

theorem lineFront (bytes : List UInt8) : LineFront bytes := by
  cases hs : splitLine? bytes with
  | some split =>
      obtain ⟨hsplit, hline⟩ := splitLine?_eq_some_iff.mp hs
      by_cases hlong : lineLimit < split.1.length
      · exact .overlong (hsplit ▸ overlong_of_line hline hlong)
      · exact .whole split.1 split.2 hsplit ⟨hline, Nat.le_of_not_lt hlong⟩
  | none =>
      have hun := splitLine?_eq_none_iff.mp hs
      by_cases hlong : lineLimit + 2 ≤ bytes.length
      · exact .overlong ⟨hlong, hun.of_part (List.take_prefix ..).isInfix⟩
      · exact .part hun (by omega)

/-- The first line of overlong bytes, if they have one, is beyond the limit. -/
theorem Overlong.lt_length {line after : List UInt8}
    (h : Overlong (line ++ lineEnd ++ after)) : lineLimit < line.length := by
  refine Nat.lt_of_not_le fun hle => h.2 ?_
  have hpre : line ++ lineEnd <+: (line ++ lineEnd ++ after).take (lineLimit + 2) := by
    rw [List.prefix_take_iff]
    exact ⟨List.prefix_append .., by simp [lineEnd]; omega⟩
  exact (List.suffix_append ..).isInfix.trans hpre.isInfix

namespace Stream

/-! ## Reading a line -/

theorem readLine_go_whole {ending : Ending} {line after : List UInt8} (hline : Legible line) :
    ∀ {segments : List (List UInt8)} {buffer : List UInt8},
      buffer ++ segments.flatten = line ++ lineEnd ++ after →
        ∃ rest, readLine.go ending buffer segments = .done line rest
          ∧ rest.bytes = after ∧ rest.ending = ending := by
  intro segments
  induction segments with
  | nil =>
      intro buffer h
      have hs := splitLine?_eq_some_iff.mpr ⟨by simpa using h, hline.unbroken⟩
      unfold readLine.go
      rw [hs]
      exact ⟨⟨after, [], ending⟩, if_neg (Nat.not_lt.mpr hline.short), by simp [bytes], rfl⟩
  | cons segment more ih =>
      intro buffer h
      unfold readLine.go
      cases hs : splitLine? buffer with
      | some split =>
          obtain ⟨rfl, hsplit⟩ := splitLine?_eq_some_iff.mp hs
          have hfirst : split.1 ++ lineEnd ++ (split.2 ++ (segment :: more).flatten)
              = line ++ lineEnd ++ after := by simpa using h
          obtain ⟨rfl, rfl⟩ := first_line_unique hsplit hline.unbroken hfirst
          exact ⟨⟨split.2, segment :: more, ending⟩, if_neg (Nat.not_lt.mpr hline.short), rfl, rfl⟩
      | none =>
          have hun := splitLine?_eq_none_iff.mp hs
          -- the bytes at hand end before the line does
          have hlen : buffer.length ≤ line.length + 1 := by
            refine Nat.le_of_not_lt fun hlt => hun ?_
            have hwhole : line ++ lineEnd <+: line ++ lineEnd ++ after := List.prefix_append ..
            have hpre : line ++ lineEnd <+: buffer := by
              refine List.prefix_of_prefix_length_le hwhole (h ▸ List.prefix_append ..) ?_
              simp [lineEnd]; omega
            exact (List.suffix_append ..).isInfix.trans hpre.isInfix
          have hshort := hline.short
          simp only [if_neg (show ¬ lineLimit < buffer.length - 1 by omega)]
          exact ih (by simpa using h)

/-- A legible line is read, and what follows it is left. -/
theorem readLine_whole {s : Stream} {line after : List UInt8}
    (h : s.bytes = line ++ lineEnd ++ after) (hline : Legible line) :
    ∃ rest, s.readLine = .done line rest ∧ rest.bytes = after ∧ rest.ending = s.ending :=
  readLine_go_whole hline h

theorem readLine_go_part {ending : Ending} :
    ∀ {segments : List (List UInt8)} {buffer : List UInt8},
      Unbroken (buffer ++ segments.flatten) →
      (buffer ++ segments.flatten).length ≤ lineLimit + 1 →
        readLine.go ending buffer segments = starved none (buffer ++ segments.flatten) ending := by
  intro segments
  induction segments with
  | nil =>
      intro buffer hun hshort
      rw [List.flatten_nil, List.append_nil] at *
      unfold readLine.go
      rw [splitLine?_eq_none_iff.mpr hun]
      simp only [if_neg (show ¬ lineLimit < buffer.length - 1 by omega)]
  | cons segment more ih =>
      intro buffer hun hshort
      have hbuffer := hun.of_part (List.prefix_append buffer _).isInfix
      have hlen : buffer.length ≤ lineLimit + 1 := by
        rw [List.length_append] at hshort; omega
      rw [List.flatten_cons, ← List.append_assoc] at *
      unfold readLine.go
      rw [splitLine?_eq_none_iff.mpr hbuffer]
      simp only [if_neg (show ¬ lineLimit < buffer.length - 1 by omega)]
      exact ih hun hshort

/-- The start of a line is no line: the read runs dry. -/
theorem readLine_part {s : Stream} (hun : Unbroken s.bytes)
    (hshort : s.bytes.length ≤ lineLimit + 1) :
    s.readLine = starved none s.bytes s.ending := readLine_go_part hun hshort

theorem readLine_go_overlong {ending : Ending} :
    ∀ {segments : List (List UInt8)} {buffer : List UInt8},
      Overlong (buffer ++ segments.flatten) →
        ∃ endFound rest, readLine.go ending buffer segments
          = .failed (.lineTooLong endFound) rest := by
  intro segments
  induction segments with
  | nil =>
      intro buffer h
      rw [List.flatten_nil, List.append_nil] at h
      unfold readLine.go
      cases hs : splitLine? buffer with
      | some split =>
          obtain ⟨rfl, -⟩ := splitLine?_eq_some_iff.mp hs
          exact ⟨true, _, if_pos h.lt_length⟩
      | none =>
          have hlen := h.1
          exact ⟨false, _, if_pos (by omega)⟩
  | cons segment more ih =>
      intro buffer h
      unfold readLine.go
      cases hs : splitLine? buffer with
      | some split =>
          obtain ⟨rfl, -⟩ := splitLine?_eq_some_iff.mp hs
          rw [List.append_assoc] at h
          exact ⟨true, _, if_pos h.lt_length⟩
      | none =>
          by_cases hlong : lineLimit < buffer.length - 1
          · exact ⟨false, _, if_pos hlong⟩
          · simp only [if_neg hlong]
            exact ih (by simpa using h)

/-- Too many bytes without a line end are refused, with one of two texts. -/
theorem readLine_overlong {s : Stream} (h : Overlong s.bytes) :
    ∃ endFound rest, s.readLine = .failed (.lineTooLong endFound) rest :=
  readLine_go_overlong h

theorem starved_ne_done {α : Type} {expected : Option Nat} {buffer : List UInt8}
    {ending : Ending} {a : α} {rest : Stream} : starved expected buffer ending ≠ .done a rest := by
  cases ending <;> rintro ⟨⟩

/-- A line that is read was legible. -/
theorem legible_readLine {s rest : Stream} {line : List UInt8} (h : s.readLine = .done line rest) :
    Legible line := by
  cases lineFront s.bytes with
  | whole first after hsplit hfirst =>
      obtain ⟨rest', hread, -⟩ := readLine_whole hsplit hfirst
      obtain ⟨rfl, -⟩ := Outcome.done.inj (h.symm.trans hread)
      exact hfirst
  | part hpart hshort => exact absurd ((readLine_part hpart hshort).symm.trans h) starved_ne_done
  | overlong hlong =>
      obtain ⟨endFound, rest', hread⟩ := readLine_overlong hlong
      cases h.symm.trans hread

/-! ## Reading a number of bytes -/

end Stream

theorem splitFront?_go_append {α : Type} : ∀ {front done rest : List α},
    splitFront?.go front.length done (front ++ rest) = some (done.reverse ++ front, rest)
  | [], done, rest => by simp [splitFront?.go]
  | a :: front, done, rest => by
      rw [List.length_cons, List.cons_append, splitFront?.go, splitFront?_go_append]
      simp

/-- The front of a list that starts with `front`. -/
theorem splitFront?_append {α : Type} (front rest : List α) :
    splitFront? front.length (front ++ rest) = some (front, rest) := by
  have hgo : splitFront?.go front.length [] (front ++ rest) = some ([].reverse ++ front, rest) :=
    splitFront?_go_append
  simpa [splitFront?] using hgo

theorem splitFront?_eq_none_iff {α : Type} {n : Nat} {items : List α} :
    splitFront? n items = none ↔ items.length < n := by
  by_cases h : n ≤ items.length
  · have hsplit := splitFront?_append (items.take n) (items.drop n)
    rw [List.length_take_of_le h, List.take_append_drop] at hsplit
    rw [hsplit]
    simp only [reduceCtorEq, false_iff]
    omega
  · refine ⟨fun _ => by omega, fun _ => ?_⟩
    cases hs : splitFront? n items with
    | none => rfl
    | some split =>
        have := splitFront?_eq_some hs
        have := congrArg List.length this.1
        rw [List.length_append] at this
        omega

namespace Stream

theorem readExactly_go_enough {ending : Ending} {front after : List UInt8} :
    ∀ {segments : List (List UInt8)} {buffer : List UInt8},
      buffer ++ segments.flatten = front ++ after →
        ∃ rest, readExactly.go front.length ending buffer segments = .done front rest
          ∧ rest.bytes = after ∧ rest.ending = ending := by
  intro segments
  induction segments with
  | nil =>
      intro buffer h
      rw [List.flatten_nil, List.append_nil] at h
      unfold readExactly.go
      rw [h, splitFront?_append]
      exact ⟨⟨after, [], ending⟩, rfl, by simp [bytes], rfl⟩
  | cons segment more ih =>
      intro buffer h
      unfold readExactly.go
      cases hs : splitFront? front.length buffer with
      | some split =>
          obtain ⟨rfl, hlen⟩ := splitFront?_eq_some hs
          rw [List.append_assoc] at h
          obtain ⟨hfront, rfl⟩ := List.append_inj h hlen
          exact ⟨⟨split.2, segment :: more, ending⟩, by rw [← hfront], rfl, rfl⟩
      | none => exact ih (by simpa using h)

/-- As many bytes as are asked for are read, if they are there. -/
theorem readExactly_enough {s : Stream} {front after : List UInt8}
    (h : s.bytes = front ++ after) :
    ∃ rest, s.readExactly front.length = .done front rest
      ∧ rest.bytes = after ∧ rest.ending = s.ending := readExactly_go_enough h

theorem readExactly_go_short {n : Nat} {ending : Ending} :
    ∀ {segments : List (List UInt8)} {buffer : List UInt8},
      (buffer ++ segments.flatten).length < n →
        readExactly.go n ending buffer segments
          = starved (some n) (buffer ++ segments.flatten) ending := by
  intro segments
  induction segments with
  | nil =>
      intro buffer h
      rw [List.flatten_nil, List.append_nil] at *
      unfold readExactly.go
      rw [splitFront?_eq_none_iff.mpr h]
  | cons segment more ih =>
      intro buffer h
      have hbuffer : buffer.length < n := by
        rw [List.length_append] at h; omega
      rw [List.flatten_cons, ← List.append_assoc] at *
      unfold readExactly.go
      rw [splitFront?_eq_none_iff.mpr hbuffer]
      exact ih h

/-- Fewer bytes than are asked for are none: the read runs dry. -/
theorem readExactly_short {s : Stream} {n : Nat} (h : s.bytes.length < n) :
    s.readExactly n = starved (some n) s.bytes s.ending := readExactly_go_short h

end Stream

end Courier
