import SentenceGen.Config.Sources
import SentenceGen.Toml.Reader

/-!
# The bundled configuration

The bundled text is a document with three sections. That a loader finds them in it is
`ReadsBundled`; the reader of this library does (`readsBundled_loads`).
-/

namespace SentenceGen.Config

/-- The sections that the bundled text writes. -/
def bundledSections : Sections :=
  [("default", [("--log-level", .text "WARNING")]),
    ("generate", [("--symbol", .text "<s>"), ("--num-sentences", .whole 1)]),
    ("interactive", [("--log-level", .text "ERROR")])]

/-- The loader reads the bundled text and finds its sections. -/
def ReadsBundled (loads : Toml.Loader) : Prop :=
  ∃ document, loads bundledText = .ok document ∧ sectionsOf? document = some bundledSections

/-- A text is read as the list of its characters. -/
theorem parse?_ofList (l : List Char) :
    Toml.parse? (String.ofList l) = Toml.lines? (l.length + 1) [] [] l := by
  rw [Toml.parse?, String.toList_ofList]

theorem exists_loads_of_lines {text : String} {l : List Char} {sections : Sections}
    (htext : text = String.ofList l)
    (hread : (Toml.lines? (l.length + 1) [] [] l).bind sectionsOf? = some sections) :
    ∃ document, Toml.loads text = .ok document ∧ sectionsOf? document = some sections := by
  obtain ⟨document, hdocument, hsections⟩ := Option.bind_eq_some_iff.mp hread
  refine ⟨document, ?_, hsections⟩
  rw [Toml.loads, htext, parse?_ofList, hdocument]
  rfl

set_option maxRecDepth 100000 in
/-- **The bundled text is a document** with these sections. -/
theorem readsBundled_loads : ReadsBundled Toml.loads := by
  -- the characters of the literal, as the literal itself unfolds to them
  obtain ⟨l, htext, hread⟩ : ∃ l, bundledText = String.ofList l ∧
      (Toml.lines? (l.length + 1) [] [] l).bind sectionsOf? = some bundledSections :=
    ⟨_, rfl, by decide +kernel⟩
  exact exists_loads_of_lines htext hread

end SentenceGen.Config
