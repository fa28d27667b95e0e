import SentenceGen.Proofs.Config.Rejection

/-!
# A source that is read twice

What is merged in changes nothing where there is a value already. So a document that comes a second
time, with whatever in between, is absorbed: it gives no option a value
(`get?_of_bundled_work`), and directly behind itself it leaves the configuration as it is, down to
the order of its options (`mergeSections_self`, `ofTexts_bundled_twice`).

This holds of the bundled text when it is written to a configuration file: it comes once for this
file and once as the last of all sources.
-/

namespace SentenceGen.Config

variable {loads : Toml.Loader} {command option : String} {value : OptionValue} {c o : String}

/-! ### Merging what is there -/

/-- An option that is there is not added. -/
theorem addOption_eq_self {options : List (String × OptionValue)}
    (h : options.lookup option ≠ none) (value : OptionValue) :
    addOption option value options = options := by
  induction options with
  | nil => exact absurd rfl h
  | cons e options ih =>
    rw [addOption]
    split
    · rfl
    · rename_i hne
      rw [lookup_cons_of_ne (Ne.symm hne)] at h
      rw [ih h]

theorem addDefault_eq_self {sections : Sections} (h : valueIn sections command option ≠ none)
    (value : OptionValue) : addDefault command option value sections = sections := by
  induction sections with
  | nil => exact absurd rfl h
  | cons e sections ih =>
    rw [addDefault]
    split
    · rename_i heq
      rw [valueIn, ← heq, List.lookup_cons_self] at h
      rw [addOption_eq_self h]
    · rename_i hne
      rw [valueIn, lookup_cons_of_ne (Ne.symm hne)] at h
      rw [ih h]

theorem addDefaults_eq_self {options : List (String × OptionValue)} {merged : Sections}
    (h : ∀ e ∈ options, valueIn merged command e.1 ≠ none) :
    addDefaults command options merged = merged := by
  induction options with
  | nil => rfl
  | cons e options ih =>
    obtain ⟨hfirst, hrest⟩ := List.forall_mem_cons.mp h
    have hstep : addDefaults command (e :: options) merged =
        addDefaults command options (addDefault command e.1 e.2 merged) := rfl
    rw [hstep, addDefault_eq_self hfirst, ih hrest]

/-- Where every option has a value, there is nothing to merge in. -/
theorem mergeSections_eq_self {merged added : Sections}
    (h : ∀ e ∈ added, ∀ e' ∈ e.2, valueIn merged e.1 e'.1 ≠ none) :
    mergeSections merged added = merged := by
  induction added with
  | nil => rfl
  | cons e added ih =>
    obtain ⟨hfirst, hrest⟩ := List.forall_mem_cons.mp h
    rw [mergeSections_cons, addDefaults_eq_self hfirst, ih hrest]

/-- **Merging the same sections in again changes nothing.** -/
theorem mergeSections_self {added : Sections} (h : (added.map Prod.fst).Nodup)
    (merged : Sections) :
    mergeSections (mergeSections merged added) added = mergeSections merged added := by
  refine mergeSections_eq_self fun e he e' he' hnone => ?_
  rw [valueIn_mergeSections h, Option.or_eq_none_iff] at hnone
  obtain ⟨-, hadded⟩ := hnone
  rw [valueIn, (lookup_eq_some_iff_mem h).mpr he] at hadded
  exact lookup_eq_none_iff_not_mem.mp hadded (List.mem_map_of_mem he')

/-! ### Reading the bundled text twice -/

theorem documentsOf_append (texts : List String) {more : List String}
    {documents : List Toml.Entries} (h : documentsOf loads more = .ok documents) :
    documentsOf loads (texts ++ more) = (documentsOf loads texts).map (· ++ documents) := by
  rw [documentsOf, List.mapM_append, ← documentsOf, ← documentsOf, h]
  cases documentsOf loads texts <;> rfl

/-- **The bundled text behind itself makes no difference**, neither to a configuration nor to the
reason for which there is none. -/
theorem ofTexts_bundled_twice (hunique : loads.Unique)
    (hbundled : ∃ document, Writes loads bundledText document) (texts : List String) :
    ofTexts loads (texts ++ [bundledText, bundledText]) =
      ofTexts loads (texts ++ [bundledText]) := by
  obtain ⟨bundled, hread, hconfiguration⟩ := hbundled
  obtain ⟨sections, hsections, hnodup, -⟩ :=
    exists_sectionsOf? (hunique bundledText bundled hread) hconfiguration
  have honce : documentsOf loads [bundledText] = .ok [bundled] :=
    documentsOf_eq_ok_iff.mpr (.cons hread .nil)
  have htwice : documentsOf loads [bundledText, bundledText] = .ok [bundled, bundled] :=
    documentsOf_eq_ok_iff.mpr (.cons hread (.cons hread .nil))
  rw [ofTexts_eq_bind, ofTexts_eq_bind, documentsOf_append texts honce,
    documentsOf_append texts htwice]
  cases documentsOf loads texts with
  | error e => rfl
  | ok documents =>
    simp only [Except.map, Except.bind, List.mapM_append, List.mapM_cons, List.mapM_nil, hsections]
    cases documents.mapM sectionsOf? with
    | none => rfl
    | some sources =>
      have hsame := mergeSections_self hnodup (sources.foldl mergeSections [])
      simpa using hsame

/-! ### What the texts define -/

/-- The value that a text defines for an option of a command, if it is a document. -/
def valueFrom (loads : Toml.Loader) (c o : String) (text : String) : Option OptionValue :=
  (loads text).toOption.bind (definition? · c o)

theorem Writes.valueFrom_eq {text : String} {document : Toml.Entries}
    (h : Writes loads text document) (c o : String) :
    valueFrom loads c o text = definition? document c o := by
  rw [valueFrom, h.1]
  rfl

/-- The bundled values are those of the bundled sections. -/
theorem valueFrom_bundledText (hunique : loads.Unique) (hbundled : ReadsBundled loads)
    (c o : String) : valueFrom loads c o bundledText = valueIn bundledSections c o := by
  obtain ⟨document, hread, hsections⟩ := hbundled
  have hconfiguration := isConfiguration_of_sectionsOf? hsections
  obtain ⟨sections, hsections', -, hvalues⟩ :=
    exists_sectionsOf? (hunique bundledText document hread) hconfiguration
  obtain rfl := Option.some.inj (hsections.symm.trans hsections')
  rw [Writes.valueFrom_eq ⟨hread, hconfiguration⟩, hvalues]

theorem findSome?_definition? {texts : List String} {documents : List Toml.Entries}
    (h : List.Forall₂ (Writes loads) texts documents) (c o : String) :
    documents.findSome? (definition? · c o) = texts.findSome? (valueFrom loads c o) := by
  induction h with
  | nil => rfl
  | cons hfirst _ ih =>
    rw [List.findSome?_cons, List.findSome?_cons, hfirst.valueFrom_eq, ih]

/-- A text that stands alone, or none. -/
theorem findSome?_toList {α β : Type} (a? : Option α) (f : α → Option β) :
    a?.toList.findSome? f = a?.bind f := by
  cases a? with
  | none => rfl
  | some a =>
    rw [Option.toList_some, List.findSome?_cons, Option.bind_some]
    cases f a <;> rfl

theorem mem_presentTexts {given work home : Option String} {text : String} :
    text ∈ presentTexts given work home ↔
      text ∈ given ∨ text ∈ work ∨ text ∈ home ∨ text = bundledText := by
  simp [presentTexts]

/-- **Where there is a configuration, every source writes one.** -/
theorem exists_writes_of_ofTexts (hunique : loads.Unique) {texts : List String} {config : Config}
    (h : ofTexts loads texts = .ok config) :
    ∀ text ∈ texts, ∃ document, Writes loads text document := by
  have hread : ∀ text ∈ texts, ∃ document, loads text = .ok document := by
    rcases documents_or_invalidToml loads texts with ⟨documents, hdocuments⟩ | ⟨detail, hinvalid⟩
    · exact fun _ => exists_document_of_mem hdocuments
    · rw [hinvalid] at h
      cases h
  intro text hmem
  obtain ⟨document, hdocument⟩ := hread text hmem
  by_contra hnot
  have hbad : ¬ IsConfiguration document := fun hgood => hnot ⟨document, hdocument, hgood⟩
  rw [(ofTexts_eq_unexpectedFormat_iff hunique).mpr
    ⟨hread, text, hmem, document, hdocument, hbad⟩] at h
  cases h

theorem exists_rel_reads {found? : Option Found}
    (h : ∀ found ∈ found?, ∃ text, Reads found text) : ∃ text?, Option.Rel Reads found? text? := by
  cases found? with
  | none => exact ⟨none, .none⟩
  | some found =>
    obtain ⟨text, htext⟩ := h found rfl
    exact ⟨some text, .some htext⟩

/-- Where there is a configuration, the files can be read. -/
theorem exists_reads_of_read {files : Files} {given : Option String} {config : Config}
    (h : read loads files given = .ok config) :
    ∃ work home, Option.Rel Reads files.work work ∧ Option.Rel Reads files.home home := by
  obtain ⟨texts, hsources, -⟩ := exists_of_bind_eq_ok h
  obtain ⟨present, hpresent, -⟩ := exists_of_bind_eq_ok hsources
  have hreads : ∀ found, some found ∈ [files.work, files.home] → ∃ text, Reads found text :=
    fun found hmem => exists_of_mem_of_mapM_ok hpresent found
      (List.mem_filterMap.mpr ⟨some found, hmem, rfl⟩)
  obtain ⟨work, hwork⟩ := exists_rel_reads fun found (hfound : files.work = some found) =>
    hreads found (by simp [hfound])
  obtain ⟨home, hhome⟩ := exists_rel_reads fun found (hfound : files.home = some found) =>
    hreads found (by simp [hfound])
  exact ⟨work, home, hwork, hhome⟩

/-! ### The bundled text in the working directory -/

variable {files : Files} {given home : Option String}

set_option maxRecDepth 100000 in
/-- The bundled text can be written to a file and read from there. -/
theorem reads_bundledText : Reads (.bytes (Text.Utf8.encode bundledText.toList)) bundledText := by
  obtain ⟨l, htext, hreturn⟩ : ∃ l, bundledText = String.ofList l ∧ '\r' ∉ l :=
    ⟨_, rfl, by decide +kernel⟩
  exact reads_encode (by rwa [htext, String.toList_ofList])

/-- **With the bundled text in the working directory**, an option has the value from the text that
is given, or else the bundled one, or else the one from the home directory. -/
theorem get?_of_bundled_work (hunique : loads.Unique) {found : Found}
    (hfound : Reads found bundledText) (hwork : files.work = some found)
    (hhome : Option.Rel Reads files.home home) {config : Config}
    (h : read loads files given = .ok config) (command option : String) :
    config.get? command option =
      ((given.bind (valueFrom loads command option)).or
        (valueFrom loads command option bundledText)).or
          (home.bind (valueFrom loads command option)) := by
  have hreads : Option.Rel Reads files.work (some bundledText) := hwork ▸ .some hfound
  rw [read_of_reads hreads hhome] at h
  obtain ⟨documents, hdocuments⟩ := exists_forall₂_writes (exists_writes_of_ofTexts hunique h)
  obtain ⟨config', hread, -, hget⟩ := exists_config_of_writes hunique hreads hhome hdocuments
  rw [read_of_reads hreads hhome, h] at hread
  rw [Except.ok.inj hread, hget, findSome?_definition? hdocuments, presentTexts,
    List.findSome?_append, List.findSome?_append, List.findSome?_append, findSome?_toList,
    findSome?_toList, findSome?_toList, Option.bind_some]
  -- the bundled text that comes last gives no value that it does not give before
  rw [List.findSome?_cons, List.findSome?_nil]
  cases valueFrom loads command option bundledText with
  | none => rw [Option.or_none]
  | some value => cases given.bind (valueFrom loads command option) <;> rfl

/-- A text that writes a configuration is accepted then, if the home directory has one or none. -/
theorem exists_read_of_bundled_work (hunique : loads.Unique)
    (hbundled : ∃ document, Writes loads bundledText document) {found : Found}
    (hfound : Reads found bundledText) (hwork : files.work = some found)
    (hhome : Option.Rel Reads files.home home)
    (hhomeWrites : ∀ text ∈ home, ∃ document, Writes loads text document)
    (hgiven : ∀ text ∈ given, ∃ document, Writes loads text document) :
    ∃ config, read loads files given = .ok config := by
  have hreads : Option.Rel Reads files.work (some bundledText) := hwork ▸ .some hfound
  have hall : ∀ text ∈ presentTexts given (some bundledText) home,
      ∃ document, Writes loads text document := by
    intro text hmem
    rcases mem_presentTexts.mp hmem with hmem | hmem | hmem | rfl
    · exact hgiven text hmem
    · obtain rfl := Option.some.inj hmem
      exact hbundled
    · exact hhomeWrites text hmem
    · exact hbundled
  obtain ⟨documents, hdocuments⟩ := exists_forall₂_writes hall
  obtain ⟨config, hread, -⟩ := exists_config_of_writes hunique hreads hhome hdocuments
  exact ⟨config, hread⟩

/-- **Where there was no file, the bundled text in the working directory changes nothing.** -/
theorem read_of_bundled_work (hunique : loads.Unique)
    (hbundled : ∃ document, Writes loads bundledText document) (given : Option String)
    {found : Found} (hfound : Reads found bundledText) :
    read loads ⟨some found, none⟩ given = read loads ⟨none, none⟩ given := by
  have hafter : read loads ⟨some found, none⟩ given =
      ofTexts loads (presentTexts given (some bundledText) none) :=
    read_of_reads (.some hfound) .none
  have hbefore : read loads ⟨none, none⟩ given =
      ofTexts loads (presentTexts given none none) :=
    read_of_reads .none .none
  rw [hafter, hbefore]
  simpa [presentTexts] using ofTexts_bundled_twice hunique hbundled given.toList

end SentenceGen.Config
