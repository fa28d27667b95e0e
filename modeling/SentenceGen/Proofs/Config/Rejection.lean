import SentenceGen.Proofs.Config.Merge

/-!
# Which configurations are refused

All sources are read as TOML before the form of any of them is looked at. So a source that is no
TOML is what is reported, whichever it is and whatever the others look like, and the form of the
sources decides only where all of them are documents. It is looked at under `defaults` alone.

* `ofTexts_eq_invalidToml_iff` and `ofTexts_eq_unexpectedFormat_iff` say when texts are refused for
  either reason.
* `ofTexts_congr`: texts that the loader refuses with the same words, or documents with the same
  value under `defaults`, may be exchanged for each other.
* `read_refuses_iff` puts these together for the four sources.
-/

namespace SentenceGen

namespace Config

variable {loads : Toml.Loader} {texts texts' : List String}

/-! ### The two reasons -/

/-- Where all texts are documents, the loader gives these one by one. -/
theorem map_loads_eq {documents : List Toml.Entries}
    (h : documentsOf loads texts = .ok documents) : texts.map loads = documents.map .ok := by
  have heq : List.Forall₂ (· = ·) (texts.map loads) (documents.map .ok) :=
    List.forall₂_map_left_iff.mpr (List.forall₂_map_right_iff.mpr (documentsOf_eq_ok_iff.mp h))
  rwa [List.forall₂_eq_eq_eq] at heq

theorem mem_documents_iff {documents : List Toml.Entries} {document : Toml.Entries}
    (h : documentsOf loads texts = .ok documents) :
    document ∈ documents ↔ ∃ text ∈ texts, loads text = .ok document := by
  have hinjective : Function.Injective (Except.ok : Toml.Entries → Except String Toml.Entries) :=
    fun _ _ => Except.ok.inj
  rw [← List.mem_map_of_injective hinjective, ← map_loads_eq h, List.mem_map]

theorem exists_document_of_mem {documents : List Toml.Entries} {text : String}
    (h : documentsOf loads texts = .ok documents) (hmem : text ∈ texts) :
    ∃ document, loads text = .ok document := by
  obtain ⟨document, hdocument⟩ := exists_of_mem_of_mapM_ok h text hmem
  exact ⟨document, mapError_eq_ok_iff.mp hdocument⟩

/-- Texts are no documents from the first one on that the loader refuses. -/
theorem documentsOf_eq_error_iff {e : ConfigError} :
    documentsOf loads texts = .error e ↔ ∃ before text after detail,
      texts = before ++ text :: after ∧
        (∀ earlier ∈ before, ∃ document, loads earlier = .ok document) ∧
        loads text = .error detail ∧ .invalidToml detail = e := by
  rw [documentsOf, mapM_eq_error_iff]
  simp only [mapError_eq_ok_iff]
  constructor
  · rintro ⟨before, text, after, rfl, hbefore, htext⟩
    obtain ⟨detail, hdetail, rfl⟩ := exists_of_mapError_eq_error htext
    exact ⟨before, text, after, detail, rfl, hbefore, hdetail, rfl⟩
  · rintro ⟨before, text, after, detail, rfl, hbefore, hdetail, rfl⟩
    refine ⟨before, text, after, rfl, hbefore, ?_⟩
    rw [hdetail]
    rfl

/-- Reading comes first, then the form, then merging. -/
theorem ofTexts_eq_bind (loads : Toml.Loader) (texts : List String) :
    ofTexts loads texts = (documentsOf loads texts).bind fun documents =>
      (documents.mapM sectionsOf?).elim (.error .unexpectedFormat) fun sources =>
        .ok ⟨sources.foldl mergeSections []⟩ := by
  rw [ofTexts]
  cases documentsOf loads texts with
  | error e => rfl
  | ok documents =>
    change ((documents.mapM sectionsOf?).elim (Except.error ConfigError.unexpectedFormat)
      Except.ok).bind _ = _
    dsimp only [Except.bind]
    cases documents.mapM sectionsOf? <;> rfl

/-- **A text that is no TOML is reported**, whatever the other texts are, and of several the first
one. -/
theorem ofTexts_eq_invalidToml_iff {detail : String} :
    ofTexts loads texts = .error (.invalidToml detail) ↔ ∃ before text after,
      texts = before ++ text :: after ∧
        (∀ earlier ∈ before, ∃ document, loads earlier = .ok document) ∧
        loads text = .error detail := by
  have hread : ofTexts loads texts = .error (.invalidToml detail) ↔
      documentsOf loads texts = .error (.invalidToml detail) := by
    rw [ofTexts_eq_bind]
    cases documentsOf loads texts with
    | error e => simp only [Except.bind, Except.error.injEq]
    | ok documents =>
      dsimp only [Except.bind]
      cases documents.mapM sectionsOf? <;> simp
  rw [hread, documentsOf_eq_error_iff]
  constructor
  · rintro ⟨before, text, after, _, heq, hbefore, htext, hsame⟩
    exact ⟨before, text, after, heq, hbefore, ConfigError.invalidToml.inj hsame ▸ htext⟩
  · rintro ⟨before, text, after, heq, hbefore, htext⟩
    exact ⟨before, text, after, detail, heq, hbefore, htext, rfl⟩

/-- Either all texts are documents, or the first one that is none is reported. -/
theorem documents_or_invalidToml (loads : Toml.Loader) (texts : List String) :
    (∃ documents, documentsOf loads texts = .ok documents) ∨
      ∃ detail, ofTexts loads texts = .error (.invalidToml detail) := by
  cases hdocuments : documentsOf loads texts with
  | ok documents => exact Or.inl ⟨documents, rfl⟩
  | error e =>
    obtain ⟨before, text, after, detail, heq, hbefore, htext, -⟩ :=
      documentsOf_eq_error_iff.mp hdocuments
    exact Or.inr ⟨detail, ofTexts_eq_invalidToml_iff.mpr ⟨before, text, after, heq, hbefore, htext⟩⟩

/-- A text that is refused by the loader is in the way of all texts. -/
theorem exists_ofTexts_eq_invalidToml_iff :
    (∃ detail, ofTexts loads texts = .error (.invalidToml detail)) ↔
      ∃ text ∈ texts, ∃ detail, loads text = .error detail := by
  constructor
  · rintro ⟨detail, h⟩
    obtain ⟨before, text, after, rfl, -, htext⟩ := ofTexts_eq_invalidToml_iff.mp h
    exact ⟨text, List.mem_append_right before List.mem_cons_self, detail, htext⟩
  · rintro ⟨text, hmem, detail, htext⟩
    rcases documents_or_invalidToml loads texts with ⟨documents, hdocuments⟩ | h
    · obtain ⟨document, hdocument⟩ := exists_document_of_mem hdocuments hmem
      rw [htext] at hdocument
      cases hdocument
    · exact h

/-- A document is read as sections exactly if it is a configuration. -/
theorem sectionsOf?_eq_none_iff (hunique : loads.Unique) {text : String} {document : Toml.Entries}
    (hdocument : loads text = .ok document) :
    sectionsOf? document = none ↔ ¬ IsConfiguration document := by
  constructor
  · intro hnone hconfiguration
    obtain ⟨sections, hsections, -⟩ :=
      exists_sectionsOf? (hunique text document hdocument) hconfiguration
    rw [hnone] at hsections
    cases hsections
  · intro hnot
    cases hsections : sectionsOf? document with
    | none => rfl
    | some sections => exact absurd (isConfiguration_of_sectionsOf? hsections) hnot

/-- **The form is reported where all texts are documents** and one of them is no configuration. -/
theorem ofTexts_eq_unexpectedFormat_iff (hunique : loads.Unique) :
    ofTexts loads texts = .error .unexpectedFormat ↔
      (∀ text ∈ texts, ∃ document, loads text = .ok document) ∧
        ∃ text ∈ texts, ∃ document, loads text = .ok document ∧ ¬ IsConfiguration document := by
  rcases documents_or_invalidToml loads texts with ⟨documents, hdocuments⟩ | ⟨detail, hinvalid⟩
  · have hall : ∀ text ∈ texts, ∃ document, loads text = .ok document :=
      fun _ => exists_document_of_mem hdocuments
    have hsections : documents.mapM sectionsOf? = none ↔ ∃ text ∈ texts, ∃ document,
        loads text = .ok document ∧ ¬ IsConfiguration document := by
      rw [mapM_eq_none_iff]
      constructor
      · rintro ⟨document, hmem, hnone⟩
        obtain ⟨text, htext, hdocument⟩ := (mem_documents_iff hdocuments).mp hmem
        exact ⟨text, htext, document, hdocument,
          (sectionsOf?_eq_none_iff hunique hdocument).mp hnone⟩
      · rintro ⟨text, htext, document, hdocument, hnot⟩
        exact ⟨document, (mem_documents_iff hdocuments).mpr ⟨text, htext, hdocument⟩,
          (sectionsOf?_eq_none_iff hunique hdocument).mpr hnot⟩
    rw [← hsections, ofTexts_eq_bind, hdocuments]
    dsimp only [Except.bind]
    cases documents.mapM sectionsOf? with
    | none => exact iff_of_true rfl ⟨hall, rfl⟩
    | some sources => exact iff_of_false (by simp) fun h => absurd h.2 (Option.some_ne_none sources)
  · obtain ⟨text, hmem, detail', htext⟩ :=
      exists_ofTexts_eq_invalidToml_iff.mp ⟨detail, hinvalid⟩
    refine iff_of_false (by simp [hinvalid]) fun h => ?_
    obtain ⟨document, hdocument⟩ := h.1 text hmem
    rw [htext] at hdocument
    cases hdocument

/-- Where the characters of a text are read as lines, but not as sections, it is a document and no
configuration. -/
theorem exists_not_isConfiguration_of_lines {text : String}
    (h : ∃ l, text = String.ofList l ∧
      (Toml.lines? (l.length + 1) [] [] l).map sectionsOf? = some none) :
    ∃ document, Toml.loads text = .ok document ∧ ¬ IsConfiguration document := by
  obtain ⟨l, rfl, hlines⟩ := h
  obtain ⟨document, hdocument, hnone⟩ := Option.map_eq_some_iff.mp hlines
  have hread : Toml.loads (String.ofList l) = .ok document := by
    rw [Toml.loads, parse?_ofList, hdocument]
    rfl
  exact ⟨document, hread, (sectionsOf?_eq_none_iff Toml.unique_loads hread).mp hnone⟩

/-! ### What does not matter -/

/-- The texts are documents with the same value under `defaults`, or the loader refuses them with
the same words. -/
def SameDefaults (loads : Toml.Loader) (text text' : String) : Prop :=
  (loads text).map (·.lookup "defaults") = (loads text').map (·.lookup "defaults")

/-- Sections are read from what stands under `defaults`. -/
theorem sectionsOf?_congr {document document' : Toml.Entries}
    (h : document.lookup "defaults" = document'.lookup "defaults") :
    sectionsOf? document = sectionsOf? document' := by
  rw [sectionsOf?, sectionsOf?, h]

/-- What texts are read as, up to what does not stand under `defaults`. -/
theorem documentsOf_congr (h : List.Forall₂ (SameDefaults loads) texts texts') :
    (documentsOf loads texts).map (List.map sectionsOf?) =
      (documentsOf loads texts').map (List.map sectionsOf?) := by
  induction h with
  | nil => rfl
  | @cons text text' texts texts' hsame _ ih =>
    rw [SameDefaults] at hsame
    rw [documentsOf_cons, documentsOf_cons]
    cases htext : loads text with
    | error detail =>
      cases htext' : loads text' with
      | error detail' =>
        rw [htext, htext'] at hsame
        rw [Except.error.inj hsame]
        rfl
      | ok document' =>
        rw [htext, htext'] at hsame
        cases hsame
    | ok document =>
      cases htext' : loads text' with
      | error detail' =>
        rw [htext, htext'] at hsame
        cases hsame
      | ok document' =>
        rw [htext, htext'] at hsame
        have hfirst : sectionsOf? document = sectionsOf? document' :=
          sectionsOf?_congr (Except.ok.inj hsame)
        have hcons : ∀ document texts,
            ((documentsOf loads texts).map (document :: ·)).map (List.map sectionsOf?) =
              ((documentsOf loads texts).map (List.map sectionsOf?)).map
                (sectionsOf? document :: ·) := by
          intro document texts
          cases documentsOf loads texts <;> rfl
        exact (hcons document texts).trans (by rw [ih, hfirst, ← hcons document' texts']; rfl)

/-- **Nothing outside `defaults` matters.** -/
theorem ofTexts_congr (h : List.Forall₂ (SameDefaults loads) texts texts') :
    ofTexts loads texts = ofTexts loads texts' := by
  -- what the texts are read as decides, whether these are sections or not
  have hverdict : ∀ texts : List String, ofTexts loads texts =
      ((documentsOf loads texts).map (List.map sectionsOf?)).bind fun sections? =>
        (sections?.mapM id).elim (.error .unexpectedFormat) fun sources =>
          .ok ⟨sources.foldl mergeSections []⟩ := by
    intro texts
    rw [ofTexts_eq_bind]
    cases documentsOf loads texts with
    | error e => rfl
    | ok documents =>
      dsimp only [Except.map, Except.bind]
      rw [List.mapM_map, Function.id_comp]
  rw [hverdict, hverdict, documentsOf_congr h]

/-! ### The four sources -/

/-- Texts that each write a configuration, with what they write. -/
theorem exists_forall₂_writes (h : ∀ text ∈ texts, ∃ document, Writes loads text document) :
    ∃ documents, List.Forall₂ (Writes loads) texts documents := by
  induction texts with
  | nil => exact ⟨[], .nil⟩
  | cons text texts ih =>
    obtain ⟨⟨document, hfirst⟩, hrest⟩ := List.forall_mem_cons.mp h
    obtain ⟨documents, hdocuments⟩ := ih hrest
    exact ⟨document :: documents, .cons hfirst hdocuments⟩

/-- **A configuration is refused exactly for a bad source.** Let the documents of the loader define
no key twice, and let the files be readable.

* The configuration is refused as no TOML exactly if the loader refuses some source, whatever the
  others are, and what is told is what the loader says about the first such source.
* It is refused for its form exactly if all sources are documents, and in one of them what stands
  under `defaults` is not a table of arrays which hold one table of scalars each.
* Otherwise there is a configuration, and it is the merge of all sources: it has each option from
  the first source that defines it, and nothing else.
* What stands outside `defaults` has no influence: sources which have the same under `defaults`, or
  are refused with the same words in the same places, are read or refused alike. -/
theorem read_refuses_iff (hunique : loads.Unique) {files : Files} {given work home : Option String}
    (hwork : Option.Rel Reads files.work work) (hhome : Option.Rel Reads files.home home) :
    ((∃ detail, read loads files given = .error (.invalidToml detail)) ↔
        ∃ text ∈ presentTexts given work home, ∃ detail, loads text = .error detail) ∧
      (∀ detail, read loads files given = .error (.invalidToml detail) ↔
        ∃ before text after, presentTexts given work home = before ++ text :: after ∧
          (∀ earlier ∈ before, ∃ document, loads earlier = .ok document) ∧
          loads text = .error detail) ∧
      (read loads files given = .error .unexpectedFormat ↔
        (∀ text ∈ presentTexts given work home, ∃ document, loads text = .ok document) ∧
          ∃ text ∈ presentTexts given work home, ∃ document,
            loads text = .ok document ∧ ¬ IsConfiguration document) ∧
      ((∀ text ∈ presentTexts given work home, ∃ document, Writes loads text document) →
        ∃ documents config,
          List.Forall₂ (Writes loads) (presentTexts given work home) documents ∧
          read loads files given = .ok config ∧ IsDictionary config.sections ∧
          ∀ command option, config.get? command option =
            documents.findSome? (definition? · command option)) ∧
      (∀ {files' : Files} {given' work' home' : Option String},
        Option.Rel Reads files'.work work' → Option.Rel Reads files'.home home' →
        List.Forall₂ (SameDefaults loads) (presentTexts given work home)
          (presentTexts given' work' home') →
        read loads files' given' = read loads files given) ∧
      (∀ detail,
        (ConfigError.invalidToml detail).message = "Invalid TOML in .grammargenrc: " ++ detail) ∧
      ConfigError.unexpectedFormat.message =
        "Unexpected .grammargenrc format: defaults should be a non-nested array of tables" := by
  have hread : read loads files given = ofTexts loads (presentTexts given work home) :=
    read_of_reads hwork hhome
  refine ⟨?_, fun detail => ?_, ?_, fun hall => ?_, fun hwork' hhome' hsame => ?_, fun _ => rfl,
    rfl⟩
  · rw [hread, exists_ofTexts_eq_invalidToml_iff]
  · rw [hread, ofTexts_eq_invalidToml_iff]
  · rw [hread, ofTexts_eq_unexpectedFormat_iff hunique]
  · obtain ⟨documents, hdocuments⟩ := exists_forall₂_writes hall
    obtain ⟨config, hconfig⟩ := exists_config_of_writes hunique hwork hhome hdocuments
    exact ⟨documents, config, hdocuments, hconfig⟩
  · rw [hread, read_of_reads hwork' hhome', ofTexts_congr hsame]

set_option maxRecDepth 100000 in
/-- A file in the home directory that is no TOML is reported, although the form of the given text is
bad and that text comes first. A date is no value of an option, whatever stands in other tables. -/
theorem read_refuses_iff_either_reason :
    let detail := "Empty value is invalid (line 1 column 1 char 0)"
    let loads := Toml.loads.refusing "x =\n" detail
    ∃ broken sound : Found, loads.Unique ∧ Reads broken "x =\n" ∧ Reads sound "[other]\nx = [2]" ∧
      read loads ⟨none, some broken⟩ (some "defaults = 5") = .error (.invalidToml detail) ∧
      read loads ⟨some sound, none⟩ (some "[[defaults.generate]]\n--symbol = 1979-05-27") =
        .error .unexpectedFormat := by
  intro detail loads
  let dated : String := "[[defaults.generate]]\n--symbol = 1979-05-27"
  have hunique : loads.Unique := Toml.unique_loads.refusing _ _
  have hbroken : Reads (.bytes (Text.Utf8.encode "x =\n".toList)) "x =\n" :=
    reads_encode (by decide)
  have hsound : Reads (.bytes (Text.Utf8.encode "[other]\nx = [2]".toList)) "[other]\nx = [2]" :=
    reads_encode (by decide)
  have hkept : ∀ {text document}, text ≠ "x =\n" → Toml.loads text = .ok document →
      loads text = .ok document := fun hne h => (if_neg hne).trans h
  obtain ⟨document, hdated, hnot⟩ : ∃ document, Toml.loads dated = .ok document ∧
      ¬ IsConfiguration document :=
    exists_not_isConfiguration_of_lines ⟨_, rfl, by decide +kernel⟩
  obtain ⟨other, hother, -⟩ := exists_writes "[other]\nx = [2]" [] ⟨_, rfl, by decide +kernel⟩
  obtain ⟨bundled, hbundled, -⟩ := readsBundled_loads
  obtain ⟨number, hnumber, -⟩ : ∃ document, Toml.loads "defaults = 5" = .ok document ∧
      ¬ IsConfiguration document :=
    exists_not_isConfiguration_of_lines ⟨_, rfl, by decide +kernel⟩
  refine ⟨_, _, hunique, hbroken, hsound, ?_, ?_⟩
  · let files : Files := ⟨none, some (.bytes (Text.Utf8.encode "x =\n".toList))⟩
    have hhome : Option.Rel Reads files.home (some "x =\n") := .some hbroken
    have hfirst : ∀ earlier ∈ ["defaults = 5"], ∃ document, loads earlier = .ok document := by
      rw [List.forall_mem_singleton]
      exact ⟨number, hkept (by decide) hnumber⟩
    exact ((read_refuses_iff hunique .none hhome).2.1 detail).mpr
      ⟨["defaults = 5"], "x =\n", [bundledText], rfl, hfirst, if_pos rfl⟩
  · let files : Files := ⟨some (.bytes (Text.Utf8.encode "[other]\nx = [2]".toList)), none⟩
    have hwork : Option.Rel Reads files.work (some "[other]\nx = [2]") := .some hsound
    have hall : ∀ text ∈ presentTexts (some dated) (some "[other]\nx = [2]") none,
        ∃ document, loads text = .ok document := by
      change ∀ text ∈ [dated, "[other]\nx = [2]", bundledText], _
      simp only [List.forall_mem_cons]
      exact ⟨⟨document, hkept (by decide) hdated⟩, ⟨other, hkept (by decide) hother.1⟩,
        ⟨bundled, hkept (by decide) hbundled⟩, fun _ h => absurd h List.not_mem_nil⟩
    have hmem : dated ∈ presentTexts (some dated) (some "[other]\nx = [2]") none := by
      simp [presentTexts]
    exact (read_refuses_iff hunique hwork .none).2.2.1.mpr
      ⟨hall, dated, hmem, document, hkept (by decide) hdated, hnot⟩

end Config

end SentenceGen
