/-!
# Latin-1

One byte is one character. Heads of messages are read this way, so every
byte string has a text and `encode` gives the bytes back.
-/

namespace Courier.Text.Latin1

/-- The text with one character per byte. -/
def decode (bytes : List UInt8) : List Char := bytes.map fun b => Char.ofNat b.toNat

/-- The bytes of a text whose code points are all below 256. -/
def encode (s : List Char) : List UInt8 := s.map fun c => UInt8.ofNat c.toNat

theorem toNat_ofNat_of_lt {n : Nat} (h : n < 256) : (Char.ofNat n).toNat = n := by
  have hv : n.isValidChar := Or.inl (by omega)
  unfold Char.ofNat
  rw [dif_pos hv]
  rfl

/-- Nothing is lost: the bytes come back from their text. -/
theorem encode_decode (bytes : List UInt8) : encode (decode bytes) = bytes := by
  induction bytes with
  | nil => rfl
  | cons b rest ih =>
      have hb := toNat_ofNat_of_lt (UInt8.toNat_lt b)
      simp only [encode, decode, List.map_cons, List.cons.injEq] at ih ⊢
      exact ⟨by rw [hb]; exact UInt8.ofNat_toNat, ih⟩

end Courier.Text.Latin1
