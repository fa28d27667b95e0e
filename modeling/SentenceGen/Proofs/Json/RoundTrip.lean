import SentenceGen.Json.Reader
import SentenceGen.Proofs.Text.Hex
import SentenceGen.Proofs.Text.Pieces

/-!
# JSON texts read back

What is written as JSON is read as the same value, in either layout. Reading goes by fuel, and the
length of the text is enough of it: every value and every element takes at least one character.

* A character in a string is plain and stands for itself, or it is an escape behind a backslash,
  which is plain and read as this character (`escape_cases`). Both the round trip of strings
  (`readChars_flatMap_escape`) and the form of the text (`allows_writeBefore`) go by these cases.
* A value is read from the start of a text, whatever stands behind it and whatever blanks stand
  in front (`readValue_writeBefore`).
-/

namespace SentenceGen.Json

/-! ### Escapes -/

variable {c : Char} {n high low fuel : Nat} {s t rest : List Char}

theorem readUnit_hex (h : n < 0x10000) (t : List Char) :
    readUnit (Text.hex 4 n ++ t) = some (n, t) := by
  have hlong : ¬ (Text.hex 4 n ++ t).length < 4 := by
    rw [List.length_append, Text.length_hex]
    omega
  have hnumber : Text.hexNumber? (Text.hex 4 n) = some n := by
    rw [Text.hexNumber?_hex, Nat.mod_eq_of_lt (by omega)]
  rw [readUnit, if_neg hlong, List.take_left' (Text.length_hex 4 n),
    List.drop_left' (Text.length_hex 4 n), hnumber]
  rfl

/-- No character is a surrogate. -/
theorem toNat_not_surrogate (c : Char) :
    (c.toNat < 0xD800 ∨ 0xDFFF < c.toNat) ∧ c.toNat < 0x110000 := by
  have hvalid : c.toNat < 0xD800 ∨ 0xDFFF < c.toNat ∧ c.toNat < 0x110000 := c.valid
  omega

/-- A unit that is no surrogate stands for a character. -/
theorem readUnits_hex (h : c.toNat < 0x10000) (t : List Char) :
    readUnits (Text.hex 4 c.toNat ++ t) = some (c, t) := by
  have hvalid := (toNat_not_surrogate c).1
  have hchar : c.toNat < 0xD800 ∨ 0xE000 ≤ c.toNat := by omega
  simp only [readUnits, readUnit_hex h, bind, Option.bind, Bool.or_eq_true, decide_eq_true_eq,
    hchar, if_true, Char.ofNat_toNat]
  rfl

/-- Two units that form a surrogate pair stand for a character. -/
theorem readUnits_pair (hhigh : high < 0x400) (hlow : low < 0x400) (t : List Char) :
    readUnits (Text.hex 4 (0xD800 + high) ++ (escapeUnit (0xDC00 + low) ++ t)) =
      some (Char.ofNat (0x10000 + high * 0x400 + low), t) := by
  have hfirst : ¬ (0xD800 + high < 0xD800 ∨ 0xE000 ≤ 0xD800 + high) := by omega
  have hhalf : ¬ 0xDC00 ≤ 0xD800 + high := by omega
  have hsecond : ¬ (0xDC00 + low < 0xDC00 ∨ 0xE000 ≤ 0xDC00 + low) := by omega
  have hread : ∀ t, readUnit (Text.hex 4 (0xD800 + high) ++ t) = some (0xD800 + high, t) :=
    readUnit_hex (by omega)
  have hread' : ∀ t, readUnit (Text.hex 4 (0xDC00 + low) ++ t) = some (0xDC00 + low, t) :=
    readUnit_hex (by omega)
  simp only [readUnits, escapeUnit, List.cons_append, hread, hread', bind, Option.bind,
    Bool.or_eq_true, decide_eq_true_eq, hfirst, hhalf, hsecond, if_false, Nat.add_sub_cancel_left]
  rfl

/-- **What a character is written as**: a plain character other than the quote and the backslash
is written as it is. Any other one is a backslash with plain characters behind it that are read as
this character. -/
theorem escape_cases (c : Char) :
    (escape c = [c] ∧ Text.IsPlain c ∧ c ≠ '\x22' ∧ c ≠ '\x5c') ∨
      ∃ body, escape c = '\x5c' :: body ∧ (∀ d ∈ body, Text.IsPlain d) ∧
        ∀ t, readEscape (body ++ t) = some (c, t) := by
  have hunit : ∀ n, ∀ d ∈ 'u' :: Text.hex 4 n, Text.IsPlain d := fun n =>
    List.forall_mem_cons.mpr ⟨by decide, fun d => Text.isPlain_of_mem_hex⟩
  have hsingle {d : Char} (hd : Text.IsPlain d) : ∀ e ∈ [d], Text.IsPlain e :=
    List.forall_mem_singleton.mpr hd
  have hchar : ∀ n, c.toNat = n → c = Char.ofNat n := fun n hn => by rw [← hn, Char.ofNat_toNat]
  generalize hescape : escape c = written
  rw [escape] at hescape
  split_ifs at hescape with hquoted hn hr ht hf hb hplain hsmall <;> subst hescape
  · rw [Bool.or_eq_true, beq_iff_eq, beq_iff_eq] at hquoted
    right
    rcases hquoted with rfl | rfl
    · exact ⟨['\x22'], rfl, hsingle (by decide), fun t => rfl⟩
    · exact ⟨['\x5c'], rfl, hsingle (by decide), fun t => rfl⟩
  · obtain rfl := eq_of_beq hn
    exact Or.inr ⟨['n'], rfl, hsingle (by decide), fun t => rfl⟩
  · obtain rfl := eq_of_beq hr
    exact Or.inr ⟨['r'], rfl, hsingle (by decide), fun t => rfl⟩
  · obtain rfl := eq_of_beq ht
    exact Or.inr ⟨['t'], rfl, hsingle (by decide), fun t => rfl⟩
  · obtain rfl := hchar _ (eq_of_beq hf)
    exact Or.inr ⟨['f'], rfl, hsingle (by decide), fun t => rfl⟩
  · obtain rfl := hchar _ (eq_of_beq hb)
    exact Or.inr ⟨['b'], rfl, hsingle (by decide), fun t => rfl⟩
  · rw [Bool.or_eq_true, beq_iff_eq, beq_iff_eq, not_or] at hquoted
    rw [Bool.and_eq_true, decide_eq_true_eq, decide_eq_true_eq] at hplain
    exact Or.inl ⟨rfl, hplain, hquoted⟩
  · exact Or.inr ⟨'u' :: Text.hex 4 c.toNat, rfl, hunit _, readUnits_hex hsmall⟩
  · -- beyond the first plane: a surrogate pair, of which the second half is an escape of its own
    have hvalid := (toNat_not_surrogate c).2
    have hvalue : c.toNat = 0x10000 + (c.toNat - 0x10000) / 0x400 * 0x400 +
        (c.toNat - 0x10000) % 0x400 := by omega
    refine Or.inr ⟨'u' :: (Text.hex 4 (0xD800 + (c.toNat - 0x10000) / 0x400) ++
      escapeUnit (0xDC00 + (c.toNat - 0x10000) % 0x400)), rfl, ?_, fun t => ?_⟩
    · rw [← List.cons_append, escapeUnit]
      exact List.forall_mem_append.mpr ⟨hunit _, List.forall_mem_cons.mpr ⟨by decide, hunit _⟩⟩
    · rw [List.cons_append, List.append_assoc, readEscape,
        readUnits_pair (by omega) (Nat.mod_lt _ (by decide)), ← hvalue, Char.ofNat_toNat]

/-! ### Strings -/

/-- A character is read from what it is written as. -/
theorem readChars_escape (fuel : Nat) (c : Char) (t : List Char) :
    readChars (fuel + 1) (escape c ++ t) =
      (readChars fuel t).map fun read => (c :: read.1, read.2) := by
  rcases escape_cases c with ⟨hescape, hplain, hquote, hbackslash⟩ | ⟨body, hescape, -, hread⟩
  · have hprintable : ¬ c.toNat < 0x20 := Nat.not_lt.mpr hplain.1
    rw [hescape, List.singleton_append, readChars]
    simp only [beq_iff_eq, hquote, hbackslash, hprintable, if_false]
    cases readChars fuel t <;> rfl
  · rw [hescape, List.cons_append, readChars]
    simp only [hread, show ('\x5c' == '\x22') = false by decide, beq_self_eq_true, if_true,
      Bool.false_eq_true, if_false, bind, Option.bind]
    cases readChars fuel t <;> rfl

/-- **A string is read up to its closing quote.** -/
theorem readChars_flatMap_escape (h : s.length < fuel) (rest : List Char) :
    readChars fuel (s.flatMap escape ++ '\x22' :: rest) = some (s, rest) := by
  induction s generalizing fuel with
  | nil =>
    cases fuel with
    | zero => cases h
    | succ fuel => rfl
  | cons c s ih =>
    cases fuel with
    | zero => cases h
    | succ fuel =>
      rw [List.flatMap_cons, List.append_assoc, readChars_escape, ih (Nat.lt_of_succ_lt_succ h)]
      rfl

theorem length_le_flatMap_escape (s : List Char) : s.length ≤ (s.flatMap escape).length := by
  refine Text.length_le_flatMap (fun c => ?_) s
  rcases escape_cases c with ⟨hescape, -⟩ | ⟨body, hescape, -⟩ <;> simp [hescape]

/-! ### Blanks between tokens -/

variable {layout : Layout} {level : Nat}

/-- The end of a line with its indentation is blank. -/
theorem skipSpaces_lineBreak (level : Nat) (rest : List Char) :
    skipSpaces (lineBreak level rest) = skipSpaces rest := by
  have hspaces : ∀ c ∈ '\n' :: List.replicate (4 * level) ' ', isSpace c = true :=
    List.forall_mem_cons.mpr ⟨rfl, fun c hc => by rw [List.eq_of_mem_replicate hc]; rfl⟩
  rw [lineBreak, ← List.cons_append]
  exact List.dropWhile_append_of_pos hspaces

theorem skipSpaces_opening (layout : Layout) (level : Nat) (rest : List Char) :
    skipSpaces (layout.opening level rest) = skipSpaces rest := by
  cases layout with
  | compact => rfl
  | indented => exact skipSpaces_lineBreak (level + 1) rest

theorem skipSpaces_closing (layout : Layout) (level : Nat) (rest : List Char) :
    skipSpaces (layout.closing level (']' :: rest)) = ']' :: rest := by
  cases layout with
  | compact => rfl
  | indented => exact skipSpaces_lineBreak level (']' :: rest)

/-- Between two elements stands a comma, with nothing but blanks behind it. -/
theorem exists_skipSpaces_between (layout : Layout) (level : Nat) (rest : List Char) :
    ∃ s, skipSpaces (layout.between level rest) = ',' :: s ∧ skipSpaces s = skipSpaces rest ∧
      rest.length ≤ s.length ∧ s.length < (layout.between level rest).length := by
  cases layout with
  | compact => exact ⟨' ' :: rest, rfl, rfl, by simp, by simp [Layout.between]⟩
  | indented =>
    exact ⟨lineBreak (level + 1) rest, rfl, skipSpaces_lineBreak (level + 1) rest,
      by simp [lineBreak]; omega, by simp [Layout.between]⟩

theorem length_le_opening (layout : Layout) (level : Nat) (rest : List Char) :
    rest.length ≤ (layout.opening level rest).length := by
  cases layout <;> simp [Layout.opening, lineBreak]; omega

theorem length_le_closing (layout : Layout) (level : Nat) (rest : List Char) :
    rest.length ≤ (layout.closing level rest).length := by
  cases layout <;> simp [Layout.closing, lineBreak]; omega

/-! ### Values -/

/-- A value starts with a character that is neither blank nor a closing bracket. -/
theorem exists_cons_writeBefore (layout : Layout) (level : Nat) (v : Json) (rest : List Char) :
    ∃ c s, writeBefore layout level v rest = c :: s ∧ isSpace c = false ∧ c ≠ ']' := by
  match v with
  | .null => exact ⟨'n', _, rfl, by decide, by decide⟩
  | .text s => exact ⟨'\x22', _, rfl, by decide, by decide⟩
  | .list [] => exact ⟨'[', _, rfl, by decide, by decide⟩
  | .list (item :: items) => exact ⟨'[', _, rfl, by decide, by decide⟩

mutual
/-- A value takes at least one character. -/
theorem length_lt_writeBefore (layout : Layout) :
    ∀ (v : Json) (level : Nat) (rest : List Char),
      rest.length < (writeBefore layout level v rest).length
  | .null, _, rest => by simp only [writeBefore, List.length_cons]; omega
  | .text s, _, rest => by
    simp only [writeBefore, writeString, List.length_cons, List.length_append]
    omega
  | .list [], _, rest => by simp only [writeBefore, List.length_cons]; omega
  | .list (item :: items), level, rest => by
    have hitem := length_lt_writeBefore layout item (level + 1) (writeRest layout level items rest)
    have hitems := length_lt_writeRest layout items level rest
    have hopening := length_le_opening layout level
      (writeBefore layout (level + 1) item (writeRest layout level items rest))
    rw [writeBefore, List.length_cons]
    omega

/-- The closing bracket behind the elements of an array takes one, too. -/
theorem length_lt_writeRest (layout : Layout) :
    ∀ (items : List Json) (level : Nat) (rest : List Char),
      rest.length < (writeRest layout level items rest).length
  | [], level, rest => length_le_closing layout level (']' :: rest)
  | item :: items, level, rest => by
    have hitem := length_lt_writeBefore layout item (level + 1) (writeRest layout level items rest)
    have hitems := length_lt_writeRest layout items level rest
    obtain ⟨s, -, -, hrest, hs⟩ := exists_skipSpaces_between layout level
      (writeBefore layout (level + 1) item (writeRest layout level items rest))
    rw [writeRest]
    omega
end

/-- What a value is read from does not depend on the blanks in front. -/
theorem readValue_congr (h : skipSpaces s = skipSpaces t) (fuel : Nat) :
    readValue fuel s = readValue fuel t := by
  cases fuel with
  | zero => rfl
  | succ fuel => rw [readValue, readValue, h]

/-- An array with elements is read element by element. -/
theorem readValue_of_items {item : Json} {items : List Json}
    (hne : ∃ c cs, skipSpaces s = c :: cs ∧ c ≠ ']') (hitem : readValue fuel s = some (item, t))
    (hitems : readItems fuel t = some (items, rest)) :
    readValue (fuel + 1) ('[' :: s) = some (list (item :: items), rest) := by
  obtain ⟨c, cs, hskip, hc⟩ := hne
  rw [readValue, show skipSpaces ('[' :: s) = '[' :: s from rfl]
  simp only [hskip, hitem, hitems, bind, Option.bind]
  split
  · rename_i heq
    exact absurd (List.cons.inj heq).1 hc
  · rfl

/-- The elements of an array are read up to the closing bracket. -/
theorem readItems_of_comma {item : Json} {items : List Json} {u : List Char}
    (hskip : skipSpaces s = ',' :: u) (hitem : readValue fuel u = some (item, t))
    (hitems : readItems fuel t = some (items, rest)) :
    readItems (fuel + 1) s = some (item :: items, rest) := by
  simp only [readItems, hskip, hitem, hitems, bind, Option.bind]
  rfl

mutual
/-- **A value is read back**, whatever stands behind it, with as much fuel as there are
characters. -/
theorem readValue_writeBefore (layout : Layout) :
    ∀ (v : Json) (level fuel : Nat) (rest : List Char),
      (writeBefore layout level v rest).length ≤ fuel →
        readValue fuel (writeBefore layout level v rest) = some (v, rest)
  | v, level, 0, rest, hfuel => by
    have hpos := length_lt_writeBefore layout v level rest
    omega
  | .null, _, fuel + 1, rest, _ => rfl
  | .list [], _, fuel + 1, rest, _ => rfl
  | .text s, _, fuel + 1, rest, _ => by
    have hlong : s.length < (s.flatMap escape ++ '\x22' :: rest).length + 1 := by
      have hs := length_le_flatMap_escape s
      rw [List.length_append]
      omega
    rw [writeBefore, writeString, readValue]
    simp only [show skipSpaces ('\x22' :: (s.flatMap escape ++ '\x22' :: rest)) =
      '\x22' :: (s.flatMap escape ++ '\x22' :: rest) from rfl, readChars_flatMap_escape hlong]
    rfl
  | .list (item :: items), level, fuel + 1, rest, hfuel => by
    obtain ⟨c, s, hstart, hspace, hc⟩ := exists_cons_writeBefore layout (level + 1) item
      (writeRest layout level items rest)
    have hopening := length_le_opening layout level
      (writeBefore layout (level + 1) item (writeRest layout level items rest))
    have hshorter := length_lt_writeBefore layout item (level + 1)
      (writeRest layout level items rest)
    rw [writeBefore, List.length_cons] at hfuel
    have hitem := readValue_writeBefore layout item (level + 1) fuel
      (writeRest layout level items rest) (by omega)
    have hitems := readRest_writeRest layout items level fuel rest (by omega)
    rw [writeBefore]
    refine readValue_of_items ⟨c, s, ?_, hc⟩ ?_ hitems
    · rw [skipSpaces_opening, hstart, skipSpaces, List.dropWhile_cons, hspace]
      rfl
    · rw [readValue_congr (skipSpaces_opening layout level _), hitem]

/-- The elements of an array are read back. -/
theorem readRest_writeRest (layout : Layout) :
    ∀ (items : List Json) (level fuel : Nat) (rest : List Char),
      (writeRest layout level items rest).length ≤ fuel →
        readItems fuel (writeRest layout level items rest) = some (items, rest)
  | items, level, 0, rest, hfuel => by
    have hpos := length_lt_writeRest layout items level rest
    omega
  | [], level, fuel + 1, rest, _ => by
    simp only [writeRest, readItems, skipSpaces_closing]
  | item :: items, level, fuel + 1, rest, hfuel => by
    obtain ⟨s, hskip, hsame, hlong, hs⟩ := exists_skipSpaces_between layout level
      (writeBefore layout (level + 1) item (writeRest layout level items rest))
    have hshorter := length_lt_writeBefore layout item (level + 1)
      (writeRest layout level items rest)
    rw [writeRest] at hfuel ⊢
    have hitem := readValue_writeBefore layout item (level + 1) fuel
      (writeRest layout level items rest) (by omega)
    have hitems := readRest_writeRest layout items level fuel rest (by omega)
    exact readItems_of_comma hskip ((readValue_congr hsame fuel).trans hitem) hitems
end

/-- **Every value is read back from the text that writes it.** -/
theorem parse?_write (layout : Layout) (v : Json) : parse? (v.write layout) = some v := by
  have hlength : (v.write layout).length = (writeBefore layout 0 v []).length := by
    rw [write, String.length_ofList]
  rw [parse?, write, String.toList_ofList, ← write, hlength,
    readValue_writeBefore layout v 0 _ [] (Nat.le_succ _)]
  rfl

/-! ### The characters of a text -/

/-- The characters that a text in a layout is made of: plain ones, and line feeds only if it is
indented. -/
def Layout.Allows (layout : Layout) (c : Char) : Prop :=
  Text.IsPlain c ∨ layout = .indented ∧ c = '\n'

theorem Layout.allows_lineBreak (h : ∀ c ∈ rest, indented.Allows c) :
    ∀ c ∈ lineBreak level rest, indented.Allows c := by
  have hindent : ∀ c ∈ List.replicate (4 * level) ' ', indented.Allows c := by
    intro c hc
    rw [List.eq_of_mem_replicate hc]
    exact Or.inl (by decide)
  exact List.forall_mem_cons.mpr ⟨Or.inr ⟨rfl, rfl⟩, List.forall_mem_append.mpr ⟨hindent, h⟩⟩

theorem Layout.allows_opening (h : ∀ c ∈ rest, layout.Allows c) :
    ∀ c ∈ layout.opening level rest, layout.Allows c := by
  cases layout with
  | compact => exact h
  | indented => exact allows_lineBreak h

theorem Layout.allows_between (h : ∀ c ∈ rest, layout.Allows c) :
    ∀ c ∈ layout.between level rest, layout.Allows c := by
  have hcomma : layout.Allows ',' := Or.inl (by decide)
  have hspace : layout.Allows ' ' := Or.inl (by decide)
  cases layout with
  | compact => exact List.forall_mem_cons.mpr ⟨hcomma, List.forall_mem_cons.mpr ⟨hspace, h⟩⟩
  | indented => exact List.forall_mem_cons.mpr ⟨hcomma, allows_lineBreak h⟩

theorem Layout.allows_closing (h : ∀ c ∈ rest, layout.Allows c) :
    ∀ c ∈ layout.closing level rest, layout.Allows c := by
  cases layout with
  | compact => exact h
  | indented => exact allows_lineBreak h

/-- What a string is written as is plain. -/
theorem isPlain_flatMap_escape (s : List Char) : ∀ d ∈ s.flatMap escape, Text.IsPlain d := by
  intro d hd
  obtain ⟨c, -, hdc⟩ := List.mem_flatMap.mp hd
  rcases escape_cases c with ⟨hescape, hplain, -⟩ | ⟨body, hescape, hbody, -⟩
  · rw [hescape, List.mem_singleton] at hdc
    rwa [hdc]
  · rw [hescape] at hdc
    rcases List.mem_cons.mp hdc with rfl | hmem
    · decide
    · exact hbody d hmem

mutual
/-- **The characters of a text are those that its layout allows.** -/
theorem allows_writeBefore (layout : Layout) :
    ∀ (v : Json) (level : Nat) (rest : List Char), (∀ c ∈ rest, layout.Allows c) →
      ∀ c ∈ writeBefore layout level v rest, layout.Allows c
  | .null, _, rest, hrest => by
    rw [writeBefore]
    simp only [List.forall_mem_cons]
    exact ⟨Or.inl (by decide), Or.inl (by decide), Or.inl (by decide), Or.inl (by decide), hrest⟩
  | .text s, _, rest, hrest => by
    have hquote : layout.Allows '\x22' := Or.inl (by decide)
    rw [writeBefore, writeString, List.forall_mem_cons, List.forall_mem_append,
      List.forall_mem_cons]
    exact ⟨hquote, fun c hc => Or.inl (isPlain_flatMap_escape s c hc), hquote, hrest⟩
  | .list [], _, rest, hrest => by
    rw [writeBefore, List.forall_mem_cons, List.forall_mem_cons]
    exact ⟨Or.inl (by decide), Or.inl (by decide), hrest⟩
  | .list (item :: items), level, rest, hrest => by
    have hitems := allows_writeRest layout items level rest hrest
    have hitem := allows_writeBefore layout item (level + 1) _ hitems
    rw [writeBefore, List.forall_mem_cons]
    exact ⟨Or.inl (by decide), Layout.allows_opening hitem⟩

theorem allows_writeRest (layout : Layout) :
    ∀ (items : List Json) (level : Nat) (rest : List Char), (∀ c ∈ rest, layout.Allows c) →
      ∀ c ∈ writeRest layout level items rest, layout.Allows c
  | [], level, rest, hrest => by
    rw [writeRest]
    exact Layout.allows_closing (List.forall_mem_cons.mpr ⟨Or.inl (by decide), hrest⟩)
  | item :: items, level, rest, hrest => by
    have hitems := allows_writeRest layout items level rest hrest
    have hitem := allows_writeBefore layout item (level + 1) _ hitems
    rw [writeRest]
    exact Layout.allows_between hitem
end

theorem allows_of_mem_write {v : Json} (h : c ∈ (v.write layout).toList) : layout.Allows c := by
  rw [write, String.toList_ofList] at h
  exact allows_writeBefore layout v 0 [] (by simp) c h

end SentenceGen.Json
