import Mathlib.Data.List.Basic
import SentenceGen.Text.Utf8

/-!
# UTF-8 read back

The bytes that write a text are read as this text (`Utf8.decode_encode`). Reading goes byte by byte
through the sequence of a character; the range in which its second byte must lie is the one that
leaves out overlong forms, surrogates and numbers that are too large, so that no character is
refused: this is where the bounds on code points enter.
-/

namespace SentenceGen.Text.Utf8

/-! ### One byte inside of a sequence -/

/-- A byte in range that is not the last one of its sequence. -/
private theorem decodeFrom_of_more {seq : Open} {b : UInt8} (hlow : seq.low ≤ b.toNat)
    (hhigh : b.toNat ≤ seq.high) (hmissing : 1 < seq.missing) (pos : Nat) (bs : List UInt8) :
    decodeFrom (some seq) pos (b :: bs) =
      decodeFrom (some ⟨seq.start, seq.first, seq.value * 64 + (b.toNat - 0x80), seq.missing - 1,
        0x80, 0xBF⟩) (pos + 1) bs := by
  rw [decodeFrom, if_pos ⟨hlow, hhigh⟩, if_neg (by omega)]

/-- The byte in range that ends its sequence. -/
private theorem decodeFrom_of_last {seq : Open} {b : UInt8} (hlow : seq.low ≤ b.toNat)
    (hhigh : b.toNat ≤ seq.high) (hmissing : seq.missing = 1) (pos : Nat) (bs : List UInt8) :
    decodeFrom (some seq) pos (b :: bs) =
      (Char.ofNat (seq.value * 64 + (b.toNat - 0x80)) :: ·) <$> decodeFrom none (pos + 1) bs := by
  rw [decodeFrom, if_pos ⟨hlow, hhigh⟩, if_pos (by omega)]

/-- The byte that starts a sequence. -/
private theorem decodeFrom_of_open {b : UInt8} {pos : Nat} {seq : Open} (h : open? pos b = some seq)
    (bs : List UInt8) : decodeFrom none pos (b :: bs) = decodeFrom (some seq) (pos + 1) bs := by
  have hascii : ¬ b.toNat < 0x80 := by
    intro hlt
    simp only [open?] at h
    split_ifs at h <;> omega
  rw [decodeFrom, if_neg hascii, h]

/-! ### The sequence of a character -/

variable {n pos : Nat} {bs : List UInt8}

private theorem toNat_ofNat_of_lt (h : n < 256) : (UInt8.ofNat n).toNat = n := by
  rw [UInt8.toNat_ofNat', Nat.mod_eq_of_lt h]

/-- A byte behind the first one holds six bits. -/
private theorem toNat_continuation (n : Nat) :
    (UInt8.ofNat (n % 0x40 + 0x80)).toNat = n % 64 + 128 :=
  toNat_ofNat_of_lt (by omega)

private theorem decodeFrom_two (hlow : 0x80 ≤ n) (hhigh : n < 0x800) :
    decodeFrom none pos
        (UInt8.ofNat (n / 64 % 0x20 + 0xc0) :: UInt8.ofNat (n % 0x40 + 0x80) :: bs) =
      (Char.ofNat n :: ·) <$> decodeFrom none (pos + 2) bs := by
  have h₁ : (UInt8.ofNat (n / 64 % 0x20 + 0xc0)).toNat = n / 64 + 0xC0 := by
    rw [toNat_ofNat_of_lt (by omega)]
    omega
  have h₂ := toNat_continuation n
  generalize UInt8.ofNat (n / 64 % 0x20 + 0xc0) = b₁ at *
  generalize UInt8.ofNat (n % 0x40 + 0x80) = b₂ at *
  have hopen : open? pos b₁ = some ⟨pos, b₁, n / 64, 1, 0x80, 0xBF⟩ := by
    rw [open?, h₁, if_pos ⟨by omega, by omega⟩, Nat.add_sub_cancel]
  have hvalue : n / 64 * 64 + (b₂.toNat - 0x80) = n := by omega
  rw [decodeFrom_of_open hopen, decodeFrom_of_last (by simp only; omega) (by simp only; omega) rfl,
    hvalue]

private theorem decodeFrom_three (hlow : 0x800 ≤ n) (hhigh : n < 0x10000)
    (hvalid : n < 0xD800 ∨ 0xDFFF < n) :
    decodeFrom none pos (UInt8.ofNat (n / 4096 % 0x10 + 0xe0) ::
        UInt8.ofNat (n / 64 % 0x40 + 0x80) :: UInt8.ofNat (n % 0x40 + 0x80) :: bs) =
      (Char.ofNat n :: ·) <$> decodeFrom none (pos + 3) bs := by
  have h₁ : (UInt8.ofNat (n / 4096 % 0x10 + 0xe0)).toNat = n / 4096 + 0xE0 := by
    rw [toNat_ofNat_of_lt (by omega)]
    omega
  have h₂ := toNat_continuation (n / 64)
  have h₃ := toNat_continuation n
  generalize UInt8.ofNat (n / 4096 % 0x10 + 0xe0) = b₁ at *
  generalize UInt8.ofNat (n / 64 % 0x40 + 0x80) = b₂ at *
  generalize UInt8.ofNat (n % 0x40 + 0x80) = b₃ at *
  -- the second byte is in the narrowed range: neither overlong nor a surrogate
  obtain ⟨low, high, hopen, hb₂⟩ : ∃ low high,
      open? pos b₁ = some ⟨pos, b₁, n / 4096, 2, low, high⟩ ∧
        low ≤ b₂.toNat ∧ b₂.toNat ≤ high := by
    refine ⟨_, _, by rw [open?, if_neg (by omega), if_pos ⟨by omega, by omega⟩, h₁,
      Nat.add_sub_cancel], ?_⟩
    split_ifs <;> omega
  have hvalue : (n / 4096 * 64 + (b₂.toNat - 0x80)) * 64 + (b₃.toNat - 0x80) = n := by omega
  rw [decodeFrom_of_open hopen, decodeFrom_of_more hb₂.1 hb₂.2 (by simp),
    decodeFrom_of_last (by simp only; omega) (by simp only; omega) rfl, hvalue]

private theorem decodeFrom_four (hlow : 0x10000 ≤ n) (hhigh : n < 0x110000) :
    decodeFrom none pos (UInt8.ofNat (n / 262144 % 0x08 + 0xf0) ::
        UInt8.ofNat (n / 4096 % 0x40 + 0x80) :: UInt8.ofNat (n / 64 % 0x40 + 0x80) ::
        UInt8.ofNat (n % 0x40 + 0x80) :: bs) =
      (Char.ofNat n :: ·) <$> decodeFrom none (pos + 4) bs := by
  have h₁ : (UInt8.ofNat (n / 262144 % 0x08 + 0xf0)).toNat = n / 262144 + 0xF0 := by
    rw [toNat_ofNat_of_lt (by omega)]
    omega
  have h₂ := toNat_continuation (n / 4096)
  have h₃ := toNat_continuation (n / 64)
  have h₄ := toNat_continuation n
  generalize UInt8.ofNat (n / 262144 % 0x08 + 0xf0) = b₁ at *
  generalize UInt8.ofNat (n / 4096 % 0x40 + 0x80) = b₂ at *
  generalize UInt8.ofNat (n / 64 % 0x40 + 0x80) = b₃ at *
  generalize UInt8.ofNat (n % 0x40 + 0x80) = b₄ at *
  -- the second byte is in the narrowed range: neither overlong nor too large
  obtain ⟨low, high, hopen, hb₂⟩ : ∃ low high,
      open? pos b₁ = some ⟨pos, b₁, n / 262144, 3, low, high⟩ ∧
        low ≤ b₂.toNat ∧ b₂.toNat ≤ high := by
    refine ⟨_, _, by rw [open?, if_neg (by omega), if_neg (by omega), if_pos ⟨by omega, by omega⟩,
      h₁, Nat.add_sub_cancel], ?_⟩
    split_ifs <;> omega
  have hvalue : ((n / 262144 * 64 + (b₂.toNat - 0x80)) * 64 + (b₃.toNat - 0x80)) * 64 +
      (b₄.toNat - 0x80) = n := by omega
  rw [decodeFrom_of_open hopen, decodeFrom_of_more hb₂.1 hb₂.2 (by simp),
    decodeFrom_of_more (by simp only; omega) (by simp only; omega) (by simp),
    decodeFrom_of_last (by simp only; omega) (by simp only; omega) rfl, hvalue]

/-- **A character is read back** from the start of the bytes. -/
theorem decodeFrom_utf8EncodeChar (c : Char) (pos : Nat) (bs : List UInt8) :
    decodeFrom none pos (String.utf8EncodeChar c ++ bs) =
      (c :: ·) <$> decodeFrom none (pos + (String.utf8EncodeChar c).length) bs := by
  have hvalid : c.val.toNat < 0xD800 ∨ 0xDFFF < c.val.toNat ∧ c.val.toNat < 0x110000 := c.valid
  have hchar : Char.ofNat c.val.toNat = c := Char.ofNat_toNat c
  rw [String.utf8EncodeChar]
  split_ifs with h₁ h₂ h₃
  · have hb : (UInt8.ofNat c.val.toNat).toNat = c.val.toNat := toNat_ofNat_of_lt (by omega)
    rw [List.singleton_append, decodeFrom, hb, if_pos (by omega), hchar]
    rfl
  · exact (decodeFrom_two (by omega) (by omega)).trans (by rw [hchar]; rfl)
  · exact (decodeFrom_three (by omega) (by omega) (by omega)).trans (by rw [hchar]; rfl)
  · exact (decodeFrom_four (by omega) (by omega)).trans (by rw [hchar]; rfl)

private theorem decodeFrom_encode (s : List Char) (pos : Nat) :
    decodeFrom none pos (encode s) = .ok s := by
  induction s generalizing pos with
  | nil => rfl
  | cons c s ih =>
    rw [encode, List.flatMap_cons, decodeFrom_utf8EncodeChar, ← encode, ih]
    rfl

/-- **Every text is read back** from the bytes that write it. -/
theorem decode_encode (s : List Char) : decode (encode s) = .ok s :=
  decodeFrom_encode s 0

end SentenceGen.Text.Utf8
