import Mathlib.Algebra.Group.Nat.Defs
import SentenceGen.Proofs.Lookup
import SentenceGen.Proofs.Text.Pieces
import SentenceGen.Text.Numeral

/-!
# Decimal numerals

Integers are read in many spellings. The one in which they are written is among them: the decimal
digits of a number, with a hyphen in front if it is negative, are read as this number, as long as
there are not too many of them (`integer?_toString`). The same bound holds for writing
(`isWritable_iff`), so that whatever was read can be written (`isWritable_of_integer?`).
-/

namespace SentenceGen.Text

/-! ### Digits -/

theorem digitValue?_of_isDigit {c : Char} (h : c.isDigit = true) :
    digitValue? c = some (c.toNat - '0'.toNat) := by
  have hrange : 0x30 ≤ c.toNat ∧ c.toNat < 0x30 + 10 := by
    simp only [Char.isDigit, Bool.and_eq_true, decide_eq_true_eq, UInt32.le_iff_toNat_le] at h
    exact ⟨h.1, Nat.lt_succ_of_le h.2⟩
  have hfirst : digitZeros.find? (fun z => z ≤ c.toNat && c.toNat < z + 10) = some 0x30 := by
    rw [digitZeros, List.find?_cons_of_pos]
    simpa using hrange
  rw [digitValue?, hfirst]
  rfl

theorem isBlank_of_isDigit {c : Char} (h : c.isDigit = true) : isBlank c = false := by
  have hrange : 0x30 ≤ c.toNat ∧ c.toNat ≤ 0x39 := by
    simpa [Char.isDigit, UInt32.le_iff_toNat_le] using h
  rw [Bool.eq_false_iff]
  intro hblank
  simp only [isBlank, Bool.or_eq_true, Bool.and_eq_true, decide_eq_true_eq, beq_iff_eq] at hblank
  omega

theorem isPadding_of_isDigit {c : Char} (h : c.isDigit = true) : isPadding c = false := by
  rw [isPadding, isBlank_of_isDigit h, Bool.false_and]

/-- Digits write the number that their values make. -/
theorem natural?_of_isDigit {s : List Char} (hne : s ≠ []) (h : ∀ c ∈ s, c.isDigit = true) :
    natural? s = if s.length ≤ maxDigits then some (Nat.ofDigitChars 10 s 0) else none := by
  have hgroups : cut (· == '_') s = [s] := by
    refine cut_eq_singleton fun c hc => ?_
    rw [beq_eq_false_iff_ne]
    rintro rfl
    exact absurd (h _ hc) (by decide)
  have hvalues : s.mapM digitValue? = some (s.map fun c => c.toNat - '0'.toNat) := by
    clear hne hgroups
    induction s with
    | nil => rfl
    | cons c s ih =>
      obtain ⟨hc, hs⟩ := List.forall_mem_cons.mp h
      rw [List.mapM_cons, digitValue?_of_isDigit hc, ih hs]
      rfl
  have hdigits : numeralDigits? s = some (s.map fun c => c.toNat - '0'.toNat) := by
    rw [numeralDigits?, hgroups, List.mapM_cons, hvalues]
    simp [hne]
  have hnumber : ofDigits (s.map fun c => c.toNat - '0'.toNat) = Nat.ofDigitChars 10 s 0 := by
    rw [ofDigits, List.foldl_map, Nat.ofDigitChars]
  rw [natural?, hdigits]
  simp only [bind, Option.bind, List.length_map, hnumber]

/-! ### Padding -/

/-- Nothing is taken off a text without padding. -/
private theorem integer?_of_solid {s : String} (h : ∀ c ∈ s.toList, isPadding c = false) :
    integer? s = signed? s.toList := by
  have hdrop : ∀ t : List Char, (∀ c ∈ t, isPadding c = false) → t.dropWhile isPadding = t := by
    intro t ht
    cases t with
    | nil => rfl
    | cons c t => rw [List.dropWhile_cons, ht c List.mem_cons_self, if_neg (by simp)]
  rw [integer?, hdrop _ h, hdrop _ fun c hc => h c (List.mem_reverse.mp hc), List.reverse_reverse]

/-! ### Numbers -/

private theorem isDigit_of_mem_toString {n : Nat} {c : Char} (h : c ∈ (toString n).toList) :
    c.isDigit = true := by
  rw [Nat.toString_eq_repr, Nat.toList_repr] at h
  exact Nat.isDigit_of_mem_toDigits (by decide) (by decide) h

/-- **The decimal digits of a number are read as this number**, unless there are too many. -/
theorem natural?_toString (n : Nat) :
    natural? (toString n).toList = if (toString n).length ≤ maxDigits then some n else none := by
  have hne : (toString n).toList ≠ [] := by
    rw [Nat.toString_eq_repr, Nat.toList_repr]
    exact Nat.toDigits_ne_nil
  have hnumber : Nat.ofDigitChars 10 (toString n).toList 0 = n := by
    rw [Nat.toString_eq_repr, Nat.toList_repr]
    exact Nat.ofDigitChars_toDigits (by decide) (by decide)
  rw [natural?_of_isDigit hne fun c hc => isDigit_of_mem_toString hc, hnumber, String.length_toList]

/-- The decimal digits of a number are one word. -/
theorem isWord_toString (n : Nat) : IsWord (toString n).toList := by
  refine ⟨?_, fun c hc => isBlank_of_isDigit (isDigit_of_mem_toString hc)⟩
  rw [Nat.toString_eq_repr, Nat.toList_repr]
  exact Nat.toDigits_ne_nil

/-- A negative number is written as a hyphen and the digits of its absolute value. -/
theorem toList_toString_negSucc (m : Nat) :
    (toString (Int.negSucc m)).toList = '-' :: (toString (m + 1)).toList := by
  rw [Int.toString_eq_repr, Int.repr, String.toList_append]
  rfl

/-- No blank stands in a number. -/
theorem isBlank_of_mem_toString {n : Int} {c : Char} (h : c ∈ (toString n).toList) :
    isBlank c = false := by
  cases n with
  | ofNat m => exact (isWord_toString m).solid c h
  | negSucc m =>
    rw [toList_toString_negSucc] at h
    rcases List.mem_cons.mp h with rfl | hdigit
    · decide
    · exact (isWord_toString (m + 1)).solid c hdigit

theorem integer?_toString_natCast (n : Nat) :
    integer? (toString n) = if (toString n).length ≤ maxDigits then some (n : Int) else none := by
  have hdigit : ∀ c ∈ (toString n).toList, c.isDigit = true := fun c hc =>
    isDigit_of_mem_toString hc
  have hsigned : signed? (toString n).toList =
      (natural? (toString n).toList).map fun m : Nat => (m : Int) := by
    rw [signed?]
    · cases natural? (toString n).toList <;> rfl
    · rintro s hs
      exact absurd (hdigit '-' (by rw [hs]; exact List.mem_cons_self)) (by decide)
    · rintro s hs
      exact absurd (hdigit '+' (by rw [hs]; exact List.mem_cons_self)) (by decide)
  rw [integer?_of_solid fun c hc => isPadding_of_isDigit (hdigit c hc), hsigned, natural?_toString]
  split <;> rfl

/-- **A number is read from the text that writes it**, unless it has too many digits. -/
theorem integer?_toString (n : Int) :
    integer? (toString n) = if (toString n.natAbs).length ≤ maxDigits then some n else none := by
  cases n with
  | ofNat m => exact integer?_toString_natCast m
  | negSucc m =>
    have hsolid : ∀ c ∈ (toString (Int.negSucc m)).toList, isPadding c = false := by
      rw [toList_toString_negSucc, List.forall_mem_cons]
      exact ⟨by decide, fun c hc => isPadding_of_isDigit (isDigit_of_mem_toString hc)⟩
    rw [integer?_of_solid hsolid, toList_toString_negSucc, signed?, natural?_toString,
      Int.natAbs_negSucc]
    split <;> rfl

/-! ### What can be written -/

/-- An integer is written if its absolute value has at most `maxDigits` digits. -/
theorem isWritable_iff {n : Int} : isWritable n = true ↔ n.natAbs < 10 ^ maxDigits := by
  rw [isWritable, decide_eq_true_iff,
    Nat.length_toDigits_le_iff (by decide : 1 < 10) (by decide : 0 < maxDigits)]

theorem decimal?_eq_none_iff {n : Int} : decimal? n = none ↔ isWritable n = false := by
  rw [decimal?]
  split <;> simp [*]

theorem lt_ten_of_mem_numeralDigits? {s : List Char} {digits : List Nat}
    (h : numeralDigits? s = some digits) : ∀ d ∈ digits, d < 10 := by
  obtain ⟨groups, hgroups, h⟩ := Option.bind_eq_some_iff.mp h
  split at h
  · cases h
  · obtain rfl := Option.some.inj h
    intro d hd
    obtain ⟨group, hgroup, hd⟩ := List.mem_flatten.mp hd
    obtain ⟨_, -, hread⟩ := exists_of_mem_mapM hgroups group hgroup
    obtain ⟨c, -, hc⟩ := exists_of_mem_mapM hread d hd
    exact digitValue?_lt hc

/-- As many digits write a number below this power of ten. -/
theorem ofDigits_lt_pow {digits : List Nat} (h : ∀ d ∈ digits, d < 10) :
    ofDigits digits < 10 ^ digits.length := by
  have hfrom : ∀ (digits : List Nat) (start : Nat), (∀ d ∈ digits, d < 10) →
      digits.foldl (10 * · + ·) start < (start + 1) * 10 ^ digits.length := by
    intro digits
    induction digits with
    | nil => intro start _; simp
    | cons d digits ih =>
      intro start h
      obtain ⟨hd, hdigits⟩ := List.forall_mem_cons.mp h
      have hrest := ih (10 * start + d) hdigits
      calc (d :: digits).foldl (10 * · + ·) start
          < (10 * start + d + 1) * 10 ^ digits.length := hrest
        _ ≤ ((start + 1) * 10) * 10 ^ digits.length := Nat.mul_le_mul_right _ (by omega)
        _ = (start + 1) * 10 ^ (d :: digits).length := by
          rw [List.length_cons, Nat.pow_succ, Nat.mul_assoc, Nat.mul_comm 10]
  simpa [ofDigits] using hfrom digits 0 h

theorem natural?_lt_pow {s : List Char} {n : Nat} (h : natural? s = some n) :
    n < 10 ^ maxDigits := by
  obtain ⟨digits, hdigits, h⟩ := Option.bind_eq_some_iff.mp h
  split at h
  · rename_i hlength
    obtain rfl := Option.some.inj h
    calc ofDigits digits
        < 10 ^ digits.length := ofDigits_lt_pow (lt_ten_of_mem_numeralDigits? hdigits)
      _ ≤ 10 ^ maxDigits := Nat.pow_le_pow_right (by decide) hlength
  · cases h

/-- **What was read can be written.** -/
theorem isWritable_of_integer? {s : String} {n : Int} (h : integer? s = some n) :
    isWritable n = true := by
  rw [isWritable_iff]
  rw [integer?] at h
  unfold signed? at h
  split at h
  all_goals
    simp only [bind_pure_comp, Option.map_eq_map, Option.map_map, Option.map_eq_some_iff] at h
    obtain ⟨m, hm, rfl⟩ := h
    simpa using natural?_lt_pow hm

end SentenceGen.Text
