import Mathlib.Algebra.Order.Ring.Nat
import SentenceGen.Text.Hex

/-!
# Hexadecimal numerals

The digits that `hex` writes are read by `hexNumber?` as the number, as far as there are enough of
them (`hexNumber?_hex`). They are **plain**, that is, printable ASCII.
-/

namespace SentenceGen.Text

/-- Printable ASCII. -/
def IsPlain (c : Char) : Prop :=
  0x20 ≤ c.toNat ∧ c.toNat ≤ 0x7E

instance : DecidablePred IsPlain :=
  fun c => inferInstanceAs (Decidable (0x20 ≤ c.toNat ∧ c.toNat ≤ 0x7E))

/-- **Hexadecimal digits are read as the number that they write**, as far as they write it. -/
theorem hexNumber?_hex (width n : Nat) : hexNumber? (hex width n) = some (n % 16 ^ width) := by
  induction width generalizing n with
  | zero => simp [hex, hexNumber?, Nat.mod_one]
  | succ width ih =>
    have hfront : (hex width (n / 16)).foldlM (fun n c => (hexValue? c).map (16 * n + ·)) 0 =
        some (n / 16 % 16 ^ width) := ih (n / 16)
    have hlast : hexValue? (hexDigit (n % 16)) = some (n % 16) :=
      hexValue?_hexDigit (Nat.mod_lt n (by decide))
    have hvalue : n % 16 ^ (width + 1) = 16 * (n / 16 % 16 ^ width) + n % 16 := by
      rw [Nat.pow_succ', Nat.mod_mul, Nat.add_comm]
    rw [hex, hexNumber?, List.foldlM_append, hfront, hvalue]
    simp [hlast]

theorem isPlain_hexDigit {d : Nat} (h : d < 16) : IsPlain (hexDigit d) := by
  have hall : ∀ d : Fin 16, IsPlain (hexDigit d) := by decide
  exact hall ⟨d, h⟩

theorem isPlain_of_mem_hex {width n : Nat} {c : Char} (h : c ∈ hex width n) : IsPlain c := by
  induction width generalizing n with
  | zero => cases h
  | succ width ih =>
    rw [hex, List.mem_append, List.mem_singleton] at h
    rcases h with hfront | rfl
    · exact ih hfront
    · exact isPlain_hexDigit (Nat.mod_lt n (by decide))

end SentenceGen.Text
