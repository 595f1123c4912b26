import Courier.Proofs.Borders
import Courier.Proofs.HeadReads

/-!
# Requests on the wire

What somebody makes of the bytes of a request who knows nothing of how they
came about: the head is what stands before the first empty line (`headOf`),
and it is cut into lines at the line ends (`linesOf`). The bytes of lines
without a carriage return, none of them empty, give exactly these lines back
(`headOf_joinLines`, `linesOf_intercalate`); lines that are `Sealed` have no
byte that anybody could take for a line end.

Header lines are sealed because they are checked. The request line is not
checked, so it is as sealed as the texts of the method and the target are
unbreaking (`sealed_encode`).
-/

namespace Courier

open Text
open Response (joinLines joinLines_cons)

/-! ## Bytes of a text -/

namespace Text.Utf8

/-- A byte below 128 stands for a character of its own. -/
theorem toNat_of_mem_encodeChar {c : Char} {b : UInt8} (h : b ∈ String.utf8EncodeChar c)
    (hb : b.toNat < 128) : c.toNat = b.toNat := by
  have hv : c.val.toNat = c.toNat := rfl
  unfold String.utf8EncodeChar at h
  simp only [hv] at h
  split at h
  · rw [List.mem_singleton.mp h, UInt8.toNat_ofNat']
    omega
  · -- every byte of a longer character has its first bit set
    exfalso
    split at h
    · simp only [List.mem_cons, List.not_mem_nil, or_false] at h
      rcases h with rfl | rfl <;> simp only [UInt8.toNat_ofNat'] at hb <;> omega
    · split at h
      · simp only [List.mem_cons, List.not_mem_nil, or_false] at h
        rcases h with rfl | rfl | rfl <;> simp only [UInt8.toNat_ofNat'] at hb <;> omega
      · simp only [List.mem_cons, List.not_mem_nil, or_false] at h
        rcases h with rfl | rfl | rfl | rfl <;> simp only [UInt8.toNat_ofNat'] at hb <;> omega

theorem mem_encodeChar_self {c : Char} (hc : c.toNat < 128) :
    UInt8.ofNat c.toNat ∈ String.utf8EncodeChar c := by
  have hv : c.val.toNat = c.toNat := rfl
  unfold String.utf8EncodeChar
  simp only [hv]
  rw [if_pos (by omega)]
  exact List.mem_singleton_self _

/-- A character of one byte is in a text if and only if its byte is in the bytes. -/
theorem mem_encode {s : List Char} {c : Char} (hc : c.toNat < 128) :
    UInt8.ofNat c.toNat ∈ encode s ↔ c ∈ s := by
  have hbyte : (UInt8.ofNat c.toNat).toNat = c.toNat := by
    rw [UInt8.toNat_ofNat']
    omega
  unfold encode
  rw [List.mem_flatMap]
  constructor
  · rintro ⟨other, hother, hmem⟩
    have hsame := toNat_of_mem_encodeChar hmem (by omega)
    have heq : other = c := Char.toNat_inj.mp (hsame.trans hbyte)
    exact heq ▸ hother
  · intro hmem
    exact ⟨c, hmem, mem_encodeChar_self hc⟩

theorem encode_append (s t : List Char) : encode (s ++ t) = encode s ++ encode t :=
  List.flatMap_append

theorem encode_ne_nil {s : List Char} (h : s ≠ []) : encode s ≠ [] := by
  obtain ⟨c, rest, rfl⟩ := List.exists_cons_of_ne_nil h
  intro hnil
  have hlength := congrArg List.length (List.append_eq_nil_iff.mp hnil).1
  rw [String.length_utf8EncodeChar, List.length_nil] at hlength
  exact absurd hlength (Nat.ne_of_gt c.utf8Size_pos)

end Text.Utf8

/-- No byte of the line could end it: no line feed, no carriage return, no zero. -/
def Sealed (line : List UInt8) : Prop := ∀ b ∈ line, b ≠ 13 ∧ b ≠ 10 ∧ b ≠ 0

/-- No character of the text could end a line. -/
def Unbreaking (s : List Char) : Prop := ∀ c ∈ s, Request.breaksLine c = false

instance (s : List Char) : Decidable (Unbreaking s) :=
  List.decidableBAll (fun c => Request.breaksLine c = false) s

@[simp] theorem unbreaking_nil : Unbreaking [] := fun _ h => by cases h

@[simp] theorem unbreaking_cons {c : Char} {s : List Char} :
    Unbreaking (c :: s) ↔ Request.breaksLine c = false ∧ Unbreaking s := List.forall_mem_cons

@[simp] theorem unbreaking_append {s t : List Char} :
    Unbreaking (s ++ t) ↔ Unbreaking s ∧ Unbreaking t := List.forall_mem_append

theorem Request.breaksLine_iff {c : Char} :
    breaksLine c = true ↔ c = '\r' ∨ c = '\n' ∨ c = '\x00' := by
  simp [breaksLine, or_assoc]

/-- The bytes of a text are sealed as its characters are. -/
theorem sealed_encode {s : List Char} :
    Sealed (Utf8.encode s) ↔ Unbreaking s := by
  have hreturn : (13 : UInt8) ∈ Utf8.encode s ↔ '\r' ∈ s := Utf8.mem_encode (c := '\r') (by decide)
  have hfeed : (10 : UInt8) ∈ Utf8.encode s ↔ '\n' ∈ s := Utf8.mem_encode (c := '\n') (by decide)
  have hzero : (0 : UInt8) ∈ Utf8.encode s ↔ '\x00' ∈ s :=
    Utf8.mem_encode (c := '\x00') (by decide)
  constructor
  · intro h c hc
    by_contra hbreaks
    obtain rfl | rfl | rfl := Request.breaksLine_iff.mp (by simpa using hbreaks)
    · exact (h 13 (hreturn.mpr hc)).1 rfl
    · exact (h 10 (hfeed.mpr hc)).2.1 rfl
    · exact (h 0 (hzero.mpr hc)).2.2 rfl
  · intro h b hb
    refine ⟨?_, ?_, ?_⟩
    · rintro rfl
      cases h _ (hreturn.mp hb)
    · rintro rfl
      cases h _ (hfeed.mp hb)
    · rintro rfl
      cases h _ (hzero.mp hb)

/-! ## Heads and lines -/

/-- What stands before the first empty line: before the first two line ends in
a row, or everything if there are none. -/
def headOf : List UInt8 → List UInt8
  | [] => []
  | b :: rest => if (lineEnd ++ lineEnd).isPrefixOf (b :: rest) then [] else b :: headOf rest

/-- What stands between line ends. -/
def linesOf : List UInt8 → List (List UInt8)
  | [] => [[]]
  | [b] => [[b]]
  | b :: c :: rest =>
      if b = 13 ∧ c = 10 then [] :: linesOf rest else consToFirst b (linesOf (c :: rest))

theorem headOf_append {line : List UInt8} (h : (13 : UInt8) ∉ line) (rest : List UInt8) :
    headOf (line ++ rest) = line ++ headOf rest := by
  induction line with
  | nil => rfl
  | cons b line ih =>
      obtain ⟨hb, hline⟩ := not_or.mp (List.mem_cons.not.mp h)
      have hmark : (lineEnd ++ lineEnd).isPrefixOf (b :: (line ++ rest)) = false := by
        have hne : ((13 : UInt8) == b) = false := beq_false_of_ne hb
        simp [lineEnd, List.isPrefixOf, hne]
      rw [List.cons_append, headOf, hmark, if_neg (by decide), ih hline]
      rfl

/-- A line end before more of the head. -/
theorem headOf_lineEnd {rest : List UInt8} (h : rest.head? ≠ some 13) :
    headOf (lineEnd ++ rest) = lineEnd ++ headOf rest := by
  have hmark : (lineEnd ++ lineEnd).isPrefixOf (13 :: 10 :: rest) = false := by
    cases rest with
    | nil => rfl
    | cons b rest =>
        have hne : ((13 : UInt8) == b) = false := beq_false_of_ne fun heq => h (by rw [← heq]; rfl)
        simp [lineEnd, List.isPrefixOf, hne]
  have hfeed : (lineEnd ++ lineEnd).isPrefixOf (10 :: rest) = false := by
    simp [lineEnd, List.isPrefixOf]
  show headOf (13 :: 10 :: rest) = 13 :: 10 :: headOf rest
  rw [headOf, hmark, if_neg (by decide), headOf, hfeed, if_neg (by decide)]

theorem headOf_emptyLine (rest : List UInt8) : headOf (lineEnd ++ (lineEnd ++ rest)) = [] := by
  show headOf (13 :: 10 :: 13 :: 10 :: rest) = []
  rw [headOf, if_pos (by simp [lineEnd, List.isPrefixOf])]

/-- The head of lines is these lines, up to the end of the last one. -/
theorem headOf_joinLines (rest : List UInt8) : ∀ {lines : List (List UInt8)}, lines ≠ [] →
    (∀ line ∈ lines, line ≠ [] ∧ (13 : UInt8) ∉ line) →
    headOf (joinLines lines ++ (lineEnd ++ rest)) = lineEnd.intercalate lines
  | [line], _, h => by
      have hline := (h line (List.mem_singleton_self _)).2
      simp only [joinLines, List.flatMap_cons, List.flatMap_nil, List.append_nil, List.append_assoc]
      rw [headOf_append hline, headOf_emptyLine, List.append_nil, List.intercalate_singleton]
  | line :: next :: lines, _, h => by
      have hline := (h line (List.mem_cons_self ..)).2
      obtain ⟨hne, hnext⟩ := h next (List.mem_cons_of_mem _ (List.mem_cons_self ..))
      have ih := headOf_joinLines rest (List.cons_ne_nil next lines)
        fun l hl => h l (List.mem_cons_of_mem _ hl)
      have hhead : (joinLines (next :: lines) ++ (lineEnd ++ rest)).head? ≠ some 13 := by
        obtain ⟨b, more, rfl⟩ := List.exists_cons_of_ne_nil hne
        intro hreturn
        exact hnext (Option.some.inj hreturn ▸ List.mem_cons_self ..)
      rw [joinLines_cons, List.append_assoc, List.append_assoc, headOf_append hline,
        headOf_lineEnd hhead, ih, List.intercalate_cons_cons, List.append_assoc]

theorem joinLines_eq_intercalate : ∀ {lines : List (List UInt8)}, lines ≠ [] →
    joinLines lines = lineEnd.intercalate lines ++ lineEnd
  | [line], _ => by
      rw [List.intercalate_singleton]
      exact List.append_nil _
  | line :: next :: lines, _ => by
      rw [joinLines_cons, joinLines_eq_intercalate (List.cons_ne_nil next lines),
        List.intercalate_cons_cons]
      simp only [List.append_assoc]

theorem linesOf_eq_singleton : ∀ {line : List UInt8}, (13 : UInt8) ∉ line → linesOf line = [line]
  | [], _ => rfl
  | [b], _ => rfl
  | b :: c :: line, h => by
      obtain ⟨hb, hline⟩ := not_or.mp (List.mem_cons.not.mp h)
      rw [linesOf, if_neg fun hend => hb hend.1.symm, linesOf_eq_singleton hline]
      rfl

theorem linesOf_append : ∀ {line : List UInt8}, (13 : UInt8) ∉ line → ∀ rest : List UInt8,
    linesOf (line ++ (lineEnd ++ rest)) = line :: linesOf rest
  | [], _, rest => rfl
  | [b], h, rest => by
      have hb : b ≠ 13 := fun heq => h (heq ▸ List.mem_singleton_self _)
      show linesOf (b :: 13 :: (10 :: rest)) = [b] :: linesOf rest
      rw [linesOf, if_neg fun hend => hb hend.1]
      rfl
  | b :: c :: line, h, rest => by
      obtain ⟨hb, hline⟩ := not_or.mp (List.mem_cons.not.mp h)
      show linesOf (b :: c :: (line ++ (lineEnd ++ rest))) = _
      rw [linesOf, if_neg fun hend => hb hend.1.symm, ← List.cons_append,
        linesOf_append hline]
      rfl

/-- Lines with line ends between them are these lines. -/
theorem linesOf_intercalate : ∀ {lines : List (List UInt8)}, lines ≠ [] →
    (∀ line ∈ lines, (13 : UInt8) ∉ line) → linesOf (lineEnd.intercalate lines) = lines
  | [line], _, h => by
      rw [List.intercalate_singleton]
      exact linesOf_eq_singleton (h line (List.mem_singleton_self _))
  | line :: next :: lines, _, h => by
      rw [List.intercalate_cons_cons, List.append_assoc,
        linesOf_append (h line (List.mem_cons_self ..)),
        linesOf_intercalate (List.cons_ne_nil _ _) fun l hl => h l (List.mem_cons_of_mem _ hl)]

end Courier
