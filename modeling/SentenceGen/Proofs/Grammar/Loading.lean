import SentenceGen.Proofs.Files.ReadBack
import SentenceGen.Proofs.Grammar.Reload

/-!
# Loading a text

A text that is written to a file as UTF-8 is loaded as if it were read where it stands, and is
refused for the same reason. Three things happen to it on the way: its bytes are decoded, its line
ends are unified, and it is cut into lines. The second step does not know all terminators of the
third one, and may bring two of them together, but neither that nor any other choice of terminators
is seen in the lines that are left (`ruleLines_respell`).
-/

namespace SentenceGen

/-- The rule lines of a text do not depend on its terminators. -/
theorem ruleLines_respell {spelling : Nat → String}
    (h : ∀ n, spelling n ∈ Text.lineTerminators) (text : String) :
    ruleLines (Text.respell spelling text) = ruleLines text := by
  rw [ruleLines, Text.respell, String.toList_ofList, Text.trimmedLines_respellFrom h, ← ruleLines]

namespace Grammar

/-- A file is loaded by what its bytes write. -/
theorem load_eq_ofBytes {store : Store} {path : String} {bytes : List UInt8}
    (hnul : Path.hasNul path = false) (hread : store.read (Path.tidy path) = .ok bytes) :
    load store path = ofBytes bytes := by
  rw [load, hnul, hread]
  rfl

/-- **Loading a file is reading the text in it, whatever its terminators are.** For every text, and
every text that differs from it in its terminators only:

* both are read as the same grammar, or refused for the same reason;
* when one of them is written to a file as UTF-8 and loaded from there, the grammar is the same
  again, or the reason. -/
theorem load_respelled {spelling : Nat → String}
    (hspelling : ∀ n, spelling n ∈ Text.lineTerminators) (text : String) :
    ofText (Text.respell spelling text) = ofText text ∧
      ∀ written ∈ [text, Text.respell spelling text], ∀ (store store' : Store) (path : String),
        Path.hasNul path = false →
        store.write (Path.tidy path) (Text.Utf8.encode written.toList) = .ok store' →
          load store' path = (ofText text).mapError .malformed := by
  have hsame : ofText (Text.respell spelling text) = ofText text := by
    rw [ofText, ruleLines_respell hspelling, ← ofText]
  refine ⟨hsame, fun written hwritten store store' path hnul hwrite => ?_⟩
  have htext : ofText written = ofText text := by
    rcases List.mem_pair.mp hwritten with rfl | rfl
    · rfl
    · exact hsame
  rw [load_eq_ofBytes hnul (Store.read_of_write hwrite), ofBytes_encode, htext]

/-- Lines that end in `\r\r\n` and `\n\r` are saved over another file with other terminators, and
refused for the second rule of a symbol. -/
theorem load_respelled_mixed :
    ∃ (spelling : Nat → String) (store store' : Store),
      (∀ n, spelling n ∈ Text.lineTerminators) ∧
        Text.respell spelling "s::=a\r\r\nt::=\n\r s::=b" = "s::=a\r\u0085t::=\r\u0085 s::=b" ∧
        Path.hasNul "./g" = false ∧
        store.write (Path.tidy "./g")
          (Text.Utf8.encode (Text.respell spelling "s::=a\r\r\nt::=\n\r s::=b").toList) =
            .ok store' ∧
        load store' "./g" = .error (.malformed (.duplicateNonterminal "s")) := by
  have hspelling : ∀ n, (fun n => if n % 2 = 0 then "\r" else "\u0085") n ∈
      Text.lineTerminators := by
    intro n
    dsimp only
    split <;> decide
  have hwritten : Text.respell (fun n => if n % 2 = 0 then "\r" else "\u0085")
      "s::=a\r\r\nt::=\n\r s::=b" = "s::=a\r\u0085t::=\r\u0085 s::=b" := by
    decide +kernel
  have hnul : Path.hasNul "./g" = false := by decide +kernel
  have hwrite : Store.write ⟨[(["w", "g"], [0x61])], [], ["w"], ["h"]⟩ (Path.tidy "./g")
      (Text.Utf8.encode (Text.respell (fun n => if n % 2 = 0 then "\r" else "\u0085")
        "s::=a\r\r\nt::=\n\r s::=b").toList) =
      .ok ⟨[(["w", "g"], Text.Utf8.encode "s::=a\r\u0085t::=\r\u0085 s::=b".toList)], [], ["w"],
        ["h"]⟩ := by
    rw [hwritten]
    decide +kernel
  have hrefused : (ofText "s::=a\r\r\nt::=\n\r s::=b").mapError LoadError.malformed =
      .error (.malformed (.duplicateNonterminal "s")) := by decide +kernel
  have hload := (load_respelled hspelling _).2 _ (List.mem_pair.mpr (Or.inr rfl)) _ _ _ hnul hwrite
  exact ⟨_, _, _, hspelling, hwritten, hnul, hwrite, hload.trans hrefused⟩

end Grammar

end SentenceGen
