import Courier.Text.Utf8
import Mathlib.Tactic.SplitIfs

/-!
# Decoding what is a text

`decodeLossy` gives every sequence of bytes a text. What matters of it is that bytes that are
those of a text give that text back, so that nothing is lost where nothing is broken
(`decodeLossy_encode`).

The decoder stands between two characters before and after the bytes of one
(`foldl_encodeChar`). The first byte opens the character with the bounds on the second one
that hold of its code point, since that is no surrogate and of no shorter form (`lead_two`,
`lead_three`, `lead_four`); each further byte adds six bits (`step_more`, `step_last`).
-/

namespace Courier.Text.Utf8

variable {v : Nat} {b : UInt8} {p : Pending}

/-! ## Further bytes -/

theorem step_start (done : List Char) (h : lead b.toNat = .opening p) :
    Decoder.step ⟨none, done⟩ b = ⟨some p, done⟩ := by
  simp only [Decoder.step, Decoder.start, h]

theorem step_more (done : List Char) (hleast : p.least ≤ b.toNat) (hgreatest : b.toNat ≤ p.greatest)
    (howed : p.owed ≠ 1) : Decoder.step ⟨some p, done⟩ b
      = ⟨some { bits := p.bits * 64 + (b.toNat - 0x80), owed := p.owed - 1 }, done⟩ := by
  simp only [Decoder.step, if_pos (And.intro hleast hgreatest), if_neg howed]

theorem step_last (done : List Char) (hleast : p.least ≤ b.toNat) (hgreatest : b.toNat ≤ p.greatest)
    (howed : p.owed = 1) : Decoder.step ⟨some p, done⟩ b
      = ⟨none, Char.ofNat (p.bits * 64 + (b.toNat - 0x80)) :: done⟩ := by
  simp only [Decoder.step, if_pos (And.intro hleast hgreatest), if_pos howed]

/-- A byte behind the first one holds six bits. -/
theorem toNat_tail (n : Nat) : (UInt8.ofNat (n % 64 + 128)).toNat = n % 64 + 128 := by
  rw [UInt8.toNat_ofNat']
  omega

/-! ## First bytes -/

theorem lead_two (hleast : 0x80 ≤ v) (hgreatest : v < 0x800) :
    lead (UInt8.ofNat (v / 64 % 32 + 192)).toNat = .opening { bits := v / 64, owed := 1 } := by
  have hb : (UInt8.ofNat (v / 64 % 32 + 192)).toNat = v / 64 + 0xC0 := by
    rw [UInt8.toNat_ofNat']
    omega
  rw [hb, lead, if_neg (by omega), if_neg (by omega), if_pos (by omega), Nat.add_sub_cancel]

/-- What the first byte of a character tells: its bits, how many bytes are owed, and that the
second one keeps to its bounds. -/
structure Opens (b : UInt8) (bits owed second : Nat) (p : Pending) : Prop where
  lead : lead b.toNat = .opening p
  bits : p.bits = bits
  owed : p.owed = owed
  least : p.least ≤ second
  greatest : second ≤ p.greatest

theorem lead_three (hleast : 0x800 ≤ v) (hgreatest : v < 0x10000)
    (hscalar : v < 0xD800 ∨ 0xDFFF < v) : ∃ p,
    Opens (UInt8.ofNat (v / 4096 % 16 + 224)) (v / 4096) 2 (v / 64 % 64 + 128) p := by
  have hb : (UInt8.ofNat (v / 4096 % 16 + 224)).toNat = v / 4096 + 0xE0 := by
    rw [UInt8.toNat_ofNat']
    omega
  by_cases hshort : v / 4096 = 0
  · exact ⟨_, by rw [hb, hshort]; rfl, hshort.symm, rfl, by simp only; omega, by simp only; omega⟩
  · by_cases hsurrogate : v / 4096 = 0xD
    · exact ⟨_, by rw [hb, hsurrogate]; rfl, hsurrogate.symm, rfl, by simp only; omega,
        by simp only; omega⟩
    · have hlead : lead (v / 4096 + 0xE0) = .opening { bits := v / 4096, owed := 2 } := by
        rw [lead, if_neg (by omega), if_neg (by omega), if_neg (by omega), if_neg (by omega),
          if_neg (by omega), if_pos (by omega), Nat.add_sub_cancel]
      exact ⟨_, hb ▸ hlead, rfl, rfl, by simp only; omega, by simp only; omega⟩

theorem lead_four (hleast : 0x10000 ≤ v) (hgreatest : v < 0x110000) : ∃ p,
    Opens (UInt8.ofNat (v / 262144 % 8 + 240)) (v / 262144) 3 (v / 4096 % 64 + 128) p := by
  have hb : (UInt8.ofNat (v / 262144 % 8 + 240)).toNat = v / 262144 + 0xF0 := by
    rw [UInt8.toNat_ofNat']
    omega
  by_cases hshort : v / 262144 = 0
  · exact ⟨_, by rw [hb, hshort]; rfl, hshort.symm, rfl, by simp only; omega, by simp only; omega⟩
  · by_cases hlast : v / 262144 = 4
    · exact ⟨_, by rw [hb, hlast]; rfl, hlast.symm, rfl, by simp only; omega, by simp only; omega⟩
    · have hlead : lead (v / 262144 + 0xF0) = .opening { bits := v / 262144, owed := 3 } := by
        rw [lead, if_neg (by omega), if_neg (by omega), if_neg (by omega), if_neg (by omega),
          if_neg (by omega), if_neg (by omega), if_neg (by omega), if_pos (by omega),
          Nat.add_sub_cancel]
      exact ⟨_, hb ▸ hlead, rfl, rfl, by simp only; omega, by simp only; omega⟩

/-! ## Characters and texts -/

/-- The bytes of a character take the decoder from before it to behind it. -/
theorem foldl_encodeChar (c : Char) (done : List Char) :
    (String.utf8EncodeChar c).foldl Decoder.step ⟨none, done⟩ = ⟨none, c :: done⟩ := by
  have hv : c.val.toNat = c.toNat := rfl
  have hscalar : c.toNat < 0xD800 ∨ 0xDFFF < c.toNat ∧ c.toNat < 0x110000 := c.valid
  have hc : Char.ofNat c.toNat = c := Char.ofNat_toNat c
  unfold String.utf8EncodeChar
  simp only [hv]
  split_ifs with hone htwo hthree
  · have hb : (UInt8.ofNat c.toNat).toNat = c.toNat := by
      rw [UInt8.toNat_ofNat']
      omega
    have hlead : lead (UInt8.ofNat c.toNat).toNat = .whole c := by
      rw [hb, lead, if_pos (by omega), hc]
    simp only [List.foldl_cons, List.foldl_nil, Decoder.step, Decoder.start, hlead]
  · have hlast := toNat_tail c.toNat
    have hbits : c.toNat / 64 * 64 + (c.toNat % 64 + 128 - 0x80) = c.toNat := by omega
    rw [List.foldl_cons, step_start done (lead_two (by omega) (by omega)), List.foldl_cons,
      List.foldl_nil, step_last done (by simp only; omega) (by simp only; omega) rfl]
    simp only [hlast, hbits, hc]
  · obtain ⟨p, hopens⟩ := lead_three (v := c.toNat) (by omega) (by omega) (by omega)
    have hsecond := toNat_tail (c.toNat / 64)
    have hlast := toNat_tail c.toNat
    have hbits : (c.toNat / 4096 * 64 + (c.toNat / 64 % 64 + 128 - 0x80)) * 64
        + (c.toNat % 64 + 128 - 0x80) = c.toNat := by omega
    have howed := hopens.owed
    rw [List.foldl_cons, step_start done hopens.lead, List.foldl_cons,
      step_more done (by rw [hsecond]; exact hopens.least) (by rw [hsecond]; exact hopens.greatest)
        (by omega), List.foldl_cons, List.foldl_nil,
      step_last done (by simp only; omega) (by simp only; omega) (by simp only; omega)]
    simp only [hopens.bits, hsecond, hlast, hbits, hc]
  · obtain ⟨p, hopens⟩ := lead_four (v := c.toNat) (by omega) (by omega)
    have hsecond := toNat_tail (c.toNat / 4096)
    have hthird := toNat_tail (c.toNat / 64)
    have hlast := toNat_tail c.toNat
    have hbits : ((c.toNat / 262144 * 64 + (c.toNat / 4096 % 64 + 128 - 0x80)) * 64
        + (c.toNat / 64 % 64 + 128 - 0x80)) * 64 + (c.toNat % 64 + 128 - 0x80) = c.toNat := by omega
    have howed := hopens.owed
    rw [List.foldl_cons, step_start done hopens.lead, List.foldl_cons,
      step_more done (by rw [hsecond]; exact hopens.least) (by rw [hsecond]; exact hopens.greatest)
        (by omega), List.foldl_cons,
      step_more done (by simp only; omega) (by simp only; omega) (by simp only; omega),
      List.foldl_cons, List.foldl_nil,
      step_last done (by simp only; omega) (by simp only; omega) (by simp only; omega)]
    simp only [hopens.bits, hsecond, hthird, hlast, hbits, hc]

theorem foldl_encode : ∀ (s done : List Char),
    (encode s).foldl Decoder.step ⟨none, done⟩ = ⟨none, s.reverse ++ done⟩
  | [], _ => rfl
  | c :: s, done => by
      have hfirst : encode (c :: s) = String.utf8EncodeChar c ++ encode s := rfl
      rw [hfirst, List.foldl_append, foldl_encodeChar, foldl_encode s, List.reverse_cons,
        List.append_assoc, List.singleton_append]

/-- The bytes of a text are decoded to that text. -/
theorem decodeLossy_encode (s : List Char) : decodeLossy (encode s) = s := by
  have hdecoder : (encode s).foldl Decoder.step {} = ⟨none, s.reverse ++ []⟩ := foldl_encode s []
  rw [decodeLossy, hdecoder, List.append_nil]
  exact List.reverse_reverse s

end Courier.Text.Utf8
