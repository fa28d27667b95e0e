import Mathlib.Data.List.Basic
import SentenceGen.Proofs.Text.Hex
import SentenceGen.Proofs.Text.Pieces
import SentenceGen.Text.Unquoted

/-!
# Quoted texts read back

A quoted text is read as the text, whatever stands behind it (`readQuoted_quoted`), and a list of
quoted texts as the list (`unquoteList?_quoteList`). Two cases of a character matter
(`quoteChar_cases`): it stands for itself, and is then neither the mark in use nor a backslash nor
the end of a line; or it is an escape, and then the code points of two, four and eight digits are
told apart by the letter in front of them. The mark is chosen by what the text holds, and any choice
would do.
-/

namespace SentenceGen.Text

variable {c mark : Char} {s rest : List Char} {fuel : Nat}

/-! ### Characters -/

/-- A code point is read from as many digits as it fits in. -/
theorem readCodePoint_hex {width : Nat} (h : c.toNat < 16 ^ width) (rest : List Char) :
    readCodePoint width (hex width c.toNat ++ rest) = some (c, rest) := by
  have hlong : ¬ (hex width c.toNat ++ rest).length < width := by
    rw [List.length_append, length_hex]
    omega
  have hvalid : c.toNat.isValidChar := c.valid
  rw [readCodePoint, if_neg hlong, List.take_left' (length_hex width _),
    List.drop_left' (length_hex width _), hexNumber?_hex, Nat.mod_eq_of_lt h, Option.bind_some,
    if_pos hvalid, Char.ofNat_toNat]

/-- What ends a quoted text is not printable. -/
theorem endsQuoted_eq_false (h : isPrintable c = true) : endsQuoted c = false := by
  rw [Bool.eq_false_iff]
  intro hends
  simp only [endsQuoted, Bool.or_eq_true, beq_iff_eq] at hends
  rcases hends with (rfl | rfl) | rfl <;> exact absurd h (by decide)

/-- **What a character is quoted as**: itself, if it can stand for itself, or a backslash and what
is read as this character. -/
theorem quoteChar_cases (hmark : mark ∈ ['\x27', '\x22']) (c : Char) :
    (quoteChar mark c = [c] ∧ c ≠ mark ∧ c ≠ '\x5c' ∧ endsQuoted c = false) ∨
      ∃ body, quoteChar mark c = '\x5c' :: body ∧
        ∀ rest, readEscape (body ++ rest) = some (c, rest) := by
  generalize hquoted : quoteChar mark c = written
  rw [quoteChar] at hquoted
  split_ifs at hquoted with hself hn hr ht hprintable hbyte hplane <;> subst hquoted
  · rw [Bool.or_eq_true, beq_iff_eq, beq_iff_eq] at hself
    refine Or.inr ⟨[c], rfl, fun rest => ?_⟩
    rcases hself with rfl | rfl
    · rcases List.mem_pair.mp hmark with rfl | rfl <;> rfl
    · rfl
  · obtain rfl := eq_of_beq hn
    exact Or.inr ⟨['n'], rfl, fun rest => rfl⟩
  · obtain rfl := eq_of_beq hr
    exact Or.inr ⟨['r'], rfl, fun rest => rfl⟩
  · obtain rfl := eq_of_beq ht
    exact Or.inr ⟨['t'], rfl, fun rest => rfl⟩
  · rw [Bool.or_eq_true, beq_iff_eq, beq_iff_eq, not_or] at hself
    exact Or.inl ⟨rfl, hself.1, hself.2, endsQuoted_eq_false hprintable⟩
  · exact Or.inr ⟨'x' :: hex 2 c.toNat, rfl, readCodePoint_hex (by omega)⟩
  · exact Or.inr ⟨'u' :: hex 4 c.toNat, rfl, readCodePoint_hex (by omega)⟩
  · have hvalid : c.toNat < 0xD800 ∨ 0xDFFF < c.toNat ∧ c.toNat < 0x110000 := c.valid
    exact Or.inr ⟨'U' :: hex 8 c.toNat, rfl, readCodePoint_hex (by omega)⟩

/-! ### Texts -/

/-- A character is read from what it is quoted as. -/
theorem readUntil_quoteChar (hmark : mark ∈ ['\x27', '\x22']) (fuel : Nat) (c : Char)
    (rest : List Char) :
    readUntil mark (fuel + 1) (quoteChar mark c ++ rest) =
      (readUntil mark fuel rest).map fun read => (c :: read.1, read.2) := by
  rcases quoteChar_cases hmark c with ⟨hquoted, hne, hbackslash, hends⟩ | ⟨body, hquoted, hread⟩
  · rw [hquoted, List.singleton_append, readUntil]
    simp only [beq_iff_eq, hne, hbackslash, hends, Bool.false_eq_true, if_false]
    cases readUntil mark fuel rest <;> rfl
  · have hne : ('\x5c' == mark) = false := by
      rcases List.mem_pair.mp hmark with rfl | rfl <;> rfl
    rw [hquoted, List.cons_append, readUntil]
    simp only [hread, hne, beq_self_eq_true, Bool.false_eq_true, if_false, if_true, bind,
      Option.bind]
    cases readUntil mark fuel rest <;> rfl

/-- A text is read up to the closing mark. -/
theorem readUntil_flatMap_quoteChar (hmark : mark ∈ ['\x27', '\x22']) (h : s.length < fuel)
    (rest : List Char) :
    readUntil mark fuel (s.flatMap (quoteChar mark) ++ mark :: rest) = some (s, rest) := by
  induction s generalizing fuel with
  | nil =>
    cases fuel with
    | zero => cases h
    | succ fuel =>
      rw [List.flatMap_nil, List.nil_append, readUntil, beq_self_eq_true]
      rfl
  | cons c s ih =>
    cases fuel with
    | zero => cases h
    | succ fuel =>
      rw [List.flatMap_cons, List.append_assoc, readUntil_quoteChar hmark,
        ih (Nat.lt_of_succ_lt_succ h)]
      rfl

theorem quotationMark_mem (s : List Char) : quotationMark s ∈ ['\x27', '\x22'] := by
  rw [quotationMark]
  split <;> decide

/-- **A quoted text is read back**, whatever stands behind it. -/
theorem readQuoted_quoted (s rest : List Char) :
    readQuoted (quoted s ++ rest) = some (s, rest) := by
  have hmark := quotationMark_mem s
  have hne : ∀ c, quoteChar (quotationMark s) c ≠ [] := by
    intro c
    rcases quoteChar_cases hmark c with ⟨hquoted, -⟩ | ⟨body, hquoted, -⟩ <;> simp [hquoted]
  have hopens : (quotationMark s == '\x27' || quotationMark s == '\x22') = true := by
    simpa using hmark
  rw [quoted, List.cons_append, List.append_assoc, List.singleton_append, readQuoted, if_pos hopens]
  refine readUntil_flatMap_quoteChar hmark ?_ rest
  have hlength := length_le_flatMap hne s
  rw [List.length_append]
  omega

/-! ### Lists -/

/-- The texts of a list behind its first one are read up to the closing bracket. -/
theorem readListRest_quoted {items : List String} (h : items.length < fuel) :
    readListRest fuel (items.flatMap (fun item => ',' :: ' ' :: quoted item.toList) ++ [']']) =
      some items := by
  induction items generalizing fuel with
  | nil =>
    cases fuel with
    | zero => cases h
    | succ fuel => rfl
  | cons item items ih =>
    cases fuel with
    | zero => cases h
    | succ fuel =>
      rw [List.flatMap_cons, List.append_assoc, List.cons_append, List.cons_append, readListRest]
      simp only [readQuoted_quoted, ih (Nat.lt_of_succ_lt_succ h), bind, Option.bind,
        String.ofList_toList]
      rfl

/-- **A list of quoted texts is read back.** -/
theorem unquoteList?_quoteList (items : List String) :
    unquoteList? (quoteList items) = some items := by
  cases items with
  | nil => rfl
  | cons item items =>
    have htext : (quoteList (item :: items)).toList = '[' :: (quoted item.toList ++
        (items.flatMap (fun item => ',' :: ' ' :: quoted item.toList) ++ [']'])) := by
      simp [quoteList, quote, intercalate_cons_eq_append_flatMap, List.flatMap_map]
    have hlong : items.length <
        (items.flatMap (fun item => ',' :: ' ' :: quoted item.toList) ++ [']']).length + 1 := by
      have hlength := length_le_flatMap
        (fun item => List.cons_ne_nil ',' (' ' :: quoted item.toList)) items
      rw [List.length_append]
      omega
    rw [unquoteList?, htext]
    split
    · rename_i heq
      simp [quoted] at heq
    · rename_i heq
      obtain rfl := (List.cons.inj heq).2
      simp only [readQuoted_quoted, readListRest_quoted hlong, bind, Option.bind,
        String.ofList_toList]
      rfl
    · rename_i hother
      exact absurd rfl (hother _)

end SentenceGen.Text
