import SentenceGen.Proofs.Config.Bundled
import SentenceGen.Proofs.Lookup
import SentenceGen.Proofs.Results
import SentenceGen.Proofs.Text.Lines
import SentenceGen.Proofs.Text.Utf8
import SentenceGen.Proofs.Toml.UniqueKeys

/-!
# Merging configurations

A document **defines** options of commands: `definition?` is the value that stands in it under
`defaults`, a command and an option. A document is a **configuration** if everything that stands
under `defaults` has the form that this takes.

* Where all sources are configurations, there is a merged configuration. It has the value of an
  option of a command from the first source that defines it, and a section for a command exactly
  if some source defines an option of it (`read_first_wins`).
* Merging is per option: adding an option gives it a value where it had none, and changes nothing
  else (`valueIn_addDefault`, `valueIn_mergeSections`).
-/

namespace SentenceGen.Config

variable {command option : String} {value : OptionValue}

/-! ### What a document defines -/

/-- The value that the table in an array gives an option. -/
def optionIn? (section? : Toml.Value) (option : String) : Option OptionValue :=
  match section? with
  | .array _ [.table _ options] => (options.lookup option).bind optionValue?
  | _ => none

/-- The value that a document defines for an option of a command. -/
def definition? (document : Toml.Entries) (command option : String) : Option OptionValue :=
  match document.lookup "defaults" with
  | some (.table _ sections) => (sections.lookup command).bind (optionIn? · option)
  | _ => none

/-- An array that holds one table, in which all values are scalars. -/
def IsSection (v : Toml.Value) : Prop :=
  ∃ growing origin options, v = .array growing [.table origin options] ∧
    ∀ e ∈ options, (optionValue? e.2).isSome

/-- What stands under `defaults`, if anything does, is a table of sections. -/
def IsConfiguration (document : Toml.Entries) : Prop :=
  ∀ v, document.lookup "defaults" = some v →
    ∃ origin sections, v = .table origin sections ∧ ∀ e ∈ sections, IsSection e.2

/-! ### Sections as a dictionary -/

/-- The value that sections give an option of a command. -/
def valueIn (sections : Sections) (command option : String) : Option OptionValue :=
  (sections.lookup command).bind (·.lookup option)

/-- Sections in which no command and no option of a command stands twice, and no section is
empty. -/
structure IsDictionary (sections : Sections) : Prop where
  nodup : (sections.map Prod.fst).Nodup
  options : ∀ e ∈ sections, e.2 ≠ [] ∧ (e.2.map Prod.fst).Nodup

theorem isDictionary_nil : IsDictionary [] :=
  ⟨List.nodup_nil, fun _ h => absurd h List.not_mem_nil⟩

/-- The commands of a dictionary are those that an option is defined for. -/
theorem IsDictionary.mem_iff {sections : Sections} (h : IsDictionary sections) :
    command ∈ sections.map Prod.fst ↔
      ∃ option value, valueIn sections command option = some value := by
  constructor
  · intro hmem
    obtain ⟨⟨_, options⟩, he, rfl⟩ := List.mem_map.mp hmem
    obtain ⟨hne, hnodup⟩ := h.options _ he
    obtain ⟨⟨option, value⟩, hoption⟩ := List.exists_mem_of_ne_nil _ hne
    refine ⟨option, value, ?_⟩
    rw [valueIn, (lookup_eq_some_iff_mem h.nodup).mpr he]
    exact (lookup_eq_some_iff_mem hnodup).mpr hoption
  · rintro ⟨option, value, hvalue⟩
    obtain ⟨options, hlookup, -⟩ := Option.bind_eq_some_iff.mp hvalue
    exact List.mem_map_of_mem (mem_of_lookup_eq_some hlookup)

/-! ### Adding options -/

/-- An option that is added is found as if it stood behind the others. -/
theorem lookup_addOption (options : List (String × OptionValue)) (other : String) :
    (addOption option value options).lookup other =
      (options.lookup other).or (List.lookup other [(option, value)]) := by
  induction options with
  | nil => rfl
  | cons e options ih =>
    obtain ⟨o, v⟩ := e
    rw [addOption]
    by_cases hother : other = o
    · rw [hother]
      split <;> simp
    · rw [lookup_cons_of_ne hother]
      split
      · rename_i heq
        rw [lookup_cons_of_ne hother, ← heq, lookup_cons_of_ne hother, List.lookup_nil,
          Option.or_none]
      · rw [lookup_cons_of_ne hother, ih]

theorem addOption_ne_nil (options : List (String × OptionValue)) :
    addOption option value options ≠ [] := by
  cases options with
  | nil => exact List.cons_ne_nil _ _
  | cons e options =>
    rw [addOption]
    split <;> exact List.cons_ne_nil _ _

theorem mem_keys_addOption {options : List (String × OptionValue)} {other : String} :
    other ∈ (addOption option value options).map Prod.fst ↔
      other ∈ options.map Prod.fst ∨ other = option := by
  induction options with
  | nil => simp [addOption]
  | cons e options ih =>
    rw [addOption]
    split
    · rename_i heq
      rw [← heq, List.map_cons, List.mem_cons]
      tauto
    · rw [List.map_cons, List.mem_cons, ih, List.map_cons, List.mem_cons, or_assoc]

theorem nodup_addOption {options : List (String × OptionValue)}
    (h : (options.map Prod.fst).Nodup) :
    ((addOption option value options).map Prod.fst).Nodup := by
  induction options with
  | nil => exact List.nodup_singleton option
  | cons e options ih =>
    obtain ⟨hfirst, hrest⟩ := List.nodup_cons.mp h
    rw [addOption]
    split
    · exact h
    · rename_i hne
      refine List.nodup_cons.mpr ⟨?_, ih hrest⟩
      rw [mem_keys_addOption, not_or]
      exact ⟨hfirst, hne⟩

/-- **Adding a default changes one option of one command**, and that only if it had no value. -/
theorem valueIn_addDefault (sections : Sections) (c o : String) :
    valueIn (addDefault command option value sections) c o =
      (valueIn sections c o).or (valueIn [(command, [(option, value)])] c o) := by
  induction sections with
  | nil => rfl
  | cons e sections ih =>
    obtain ⟨first, options⟩ := e
    rw [addDefault]
    simp only [valueIn] at ih ⊢
    by_cases hc : c = first
    · rw [hc]
      split
      · rename_i heq
        simp [heq, lookup_addOption]
      · rename_i hne
        rw [lookup_cons_of_ne hne]
        simp
    · rw [lookup_cons_of_ne hc]
      split
      · rename_i heq
        rw [lookup_cons_of_ne hc, ← heq, lookup_cons_of_ne hc]
        simp
      · rw [lookup_cons_of_ne hc, ih]

theorem mem_keys_addDefault {sections : Sections} {c : String} :
    c ∈ (addDefault command option value sections).map Prod.fst ↔
      c ∈ sections.map Prod.fst ∨ c = command := by
  induction sections with
  | nil => simp [addDefault]
  | cons e sections ih =>
    rw [addDefault]
    split
    · rename_i heq
      rw [← heq, List.map_cons, List.map_cons, List.mem_cons]
      tauto
    · rw [List.map_cons, List.mem_cons, ih, List.map_cons, List.mem_cons, or_assoc]

/-- A dictionary stays one. -/
theorem IsDictionary.addDefault {sections : Sections} (h : IsDictionary sections) :
    IsDictionary (addDefault command option value sections) := by
  induction sections with
  | nil =>
    refine ⟨List.nodup_singleton command, fun e he => ?_⟩
    rw [List.mem_singleton.mp he]
    exact ⟨List.cons_ne_nil _ _, List.nodup_singleton option⟩
  | cons e sections ih =>
    obtain ⟨hfirst, hrest⟩ := List.nodup_cons.mp h.nodup
    obtain ⟨hoptions, hothers⟩ := List.forall_mem_cons.mp h.options
    rw [SentenceGen.addDefault]
    split
    · exact ⟨h.nodup, List.forall_mem_cons.mpr
        ⟨⟨addOption_ne_nil _, nodup_addOption hoptions.2⟩, hothers⟩⟩
    · rename_i hne
      obtain ⟨hnodup, hadded⟩ := ih ⟨hrest, hothers⟩
      refine ⟨List.nodup_cons.mpr ⟨?_, hnodup⟩, List.forall_mem_cons.mpr ⟨hoptions, hadded⟩⟩
      rw [mem_keys_addDefault, not_or]
      exact ⟨hfirst, hne⟩

/-! ### Merging documents -/

/-- Adds options of a command one after the other. -/
def addDefaults (command : String) (options : List (String × OptionValue)) (merged : Sections) :
    Sections :=
  options.foldl (fun merged (option, value) => addDefault command option value merged) merged

theorem valueIn_addDefaults (options : List (String × OptionValue)) (merged : Sections)
    (c o : String) :
    valueIn (addDefaults command options merged) c o =
      (valueIn merged c o).or (valueIn [(command, options)] c o) := by
  induction options generalizing merged with
  | nil =>
    by_cases hc : c = command <;> simp [addDefaults, valueIn, hc, lookup_cons_of_ne]
  | cons e options ih =>
    obtain ⟨option, value⟩ := e
    have hstep : addDefaults command ((option, value) :: options) merged =
        addDefaults command options (addDefault command option value merged) := rfl
    rw [hstep, ih, valueIn_addDefault, Option.or_assoc]
    congr 1
    by_cases hc : c = command
    · by_cases ho : o = option <;> simp [valueIn, hc, ho, lookup_cons_of_ne]
    · simp [valueIn, lookup_cons_of_ne hc]

theorem mergeSections_cons (merged : Sections) (e : String × List (String × OptionValue))
    (added : Sections) :
    mergeSections merged (e :: added) = mergeSections (addDefaults e.1 e.2 merged) added :=
  rfl

/-- **What is merged in counts where there was no value.** -/
theorem valueIn_mergeSections {added : Sections} (h : (added.map Prod.fst).Nodup)
    (merged : Sections) (c o : String) :
    valueIn (mergeSections merged added) c o = (valueIn merged c o).or (valueIn added c o) := by
  induction added generalizing merged with
  | nil => rw [show valueIn [] c o = none from rfl, Option.or_none]; rfl
  | cons e added ih =>
    obtain ⟨command, options⟩ := e
    obtain ⟨hfirst, hrest⟩ := List.nodup_cons.mp h
    rw [mergeSections_cons, ih hrest, valueIn_addDefaults, Option.or_assoc]
    congr 1
    by_cases hc : c = command
    · -- there is no second section of this command
      have hnone : added.lookup command = none := lookup_eq_none_iff_not_mem.mpr hfirst
      simp [valueIn, hc, hnone]
    · simp [valueIn, lookup_cons_of_ne hc]

theorem IsDictionary.mergeSections {merged : Sections} (h : IsDictionary merged)
    (added : Sections) : IsDictionary (mergeSections merged added) := by
  have hoptions : ∀ (command : String) (options : List (String × OptionValue)) (merged : Sections),
      IsDictionary merged → IsDictionary (addDefaults command options merged) := by
    intro command options
    induction options with
    | nil => exact fun _ => id
    | cons e options ih => exact fun merged h => ih _ h.addDefault
  induction added generalizing merged with
  | nil => exact h
  | cons e added ih => exact ih (hoptions e.1 e.2 merged h)

/-- **The first of several sources that has a value wins.** -/
theorem valueIn_foldl_mergeSections {sources : List Sections}
    (h : ∀ sections ∈ sources, (sections.map Prod.fst).Nodup) (merged : Sections) (c o : String) :
    valueIn (sources.foldl mergeSections merged) c o =
      (valueIn merged c o).or (sources.findSome? (valueIn · c o)) := by
  induction sources generalizing merged with
  | nil => rw [List.findSome?_nil, Option.or_none]; rfl
  | cons sections sources ih =>
    obtain ⟨hfirst, hrest⟩ := List.forall_mem_cons.mp h
    rw [List.foldl_cons, ih hrest, valueIn_mergeSections hfirst, Option.or_assoc,
      List.findSome?_cons]
    cases valueIn sections c o <;> rfl

theorem IsDictionary.foldl_mergeSections {merged : Sections} (h : IsDictionary merged)
    (sources : List Sections) : IsDictionary (sources.foldl SentenceGen.mergeSections merged) := by
  induction sources generalizing merged with
  | nil => exact h
  | cons sections sources ih => exact ih (h.mergeSections sections)

/-! ### Reading documents -/

theorem isSection_of_optionsOf? {v : Toml.Value} {options : List (String × OptionValue)}
    (h : optionsOf? v = some options) : IsSection v := by
  unfold optionsOf? at h
  split at h
  · exact ⟨_, _, _, rfl, isSome_of_mapM (f := optionValue?) h⟩
  · cases h

/-- Only configurations are read as sections. -/
theorem isConfiguration_of_sectionsOf? {document : Toml.Entries} {sections : Sections}
    (h : sectionsOf? document = some sections) : IsConfiguration document := by
  intro v hlookup
  unfold sectionsOf? at h
  split at h
  · rename_i hnone
    rw [hnone] at hlookup
    cases hlookup
  · rename_i origin entries htable
    refine ⟨origin, entries, Option.some.inj (hlookup.symm.trans htable), fun e he => ?_⟩
    obtain ⟨options, hoptions⟩ :=
      Option.isSome_iff_exists.mp (isSome_of_mapM (f := optionsOf?) h e he)
    exact isSection_of_optionsOf? hoptions
  · cases h

/-- The options of a section are read as they stand in it. -/
theorem exists_optionsOf? {v : Toml.Value} (h : IsSection v) :
    ∃ options, optionsOf? v = some options ∧ ∀ o, options.lookup o = optionIn? v o := by
  obtain ⟨growing, origin, entries, rfl, hscalar⟩ := h
  obtain ⟨options, hoptions⟩ := exists_mapM_of_forall (f := optionValue?) hscalar
  exact ⟨options, hoptions, (lookup_of_mapM hoptions).2⟩

/-- **The sections of a configuration** say what the document defines, each command once. -/
theorem exists_sectionsOf? {document : Toml.Entries} (hunique : document.UniqueKeys)
    (h : IsConfiguration document) :
    ∃ sections, sectionsOf? document = some sections ∧ (sections.map Prod.fst).Nodup ∧
      ∀ c o, valueIn sections c o = definition? document c o := by
  cases hlookup : document.lookup "defaults" with
  | none =>
    refine ⟨[], ?_, List.nodup_nil, fun c o => ?_⟩
    · rw [sectionsOf?, hlookup]
    · rw [definition?, hlookup]
      rfl
  | some v =>
    obtain ⟨origin, entries, rfl, hsections⟩ := h v hlookup
    have hnodup : (entries.map Prod.fst).Nodup :=
      (Toml.Value.uniqueKeys_table_iff.mp (hunique.of_lookup hlookup)).nodup
    have hread : ∀ e ∈ entries, (optionsOf? e.2).isSome := by
      intro e he
      obtain ⟨options, hoptions, -⟩ := exists_optionsOf? (hsections e he)
      exact Option.isSome_iff_exists.mpr ⟨options, hoptions⟩
    obtain ⟨sections, hresult⟩ := exists_mapM_of_forall hread
    obtain ⟨hkeys, hvalues⟩ := lookup_of_mapM hresult
    refine ⟨sections, ?_, ?_, fun c o => ?_⟩
    · rw [sectionsOf?, hlookup]
      exact hresult
    · rwa [hkeys]
    · have hdefined : definition? document c o = (entries.lookup c).bind (optionIn? · o) := by
        rw [definition?, hlookup]
      rw [valueIn, hvalues, hdefined]
      cases hentry : entries.lookup c with
      | none => rfl
      | some v =>
        obtain ⟨options, hoptions, hoption⟩ :=
          exists_optionsOf? (hsections _ (mem_of_lookup_eq_some hentry))
        exact (congrArg (·.bind (·.lookup o)) hoptions).trans (hoption o)

/-! ### Reading all sources -/

/-- What is found is the bytes of a text. -/
def Reads (found : Found) (text : String) : Prop :=
  textOf found = .ok text

/-- A text that ends its lines with `\n` is read from the bytes that write it. -/
theorem reads_encode {text : String} (h : '\r' ∉ text.toList) :
    Reads (.bytes (Text.Utf8.encode text.toList)) text := by
  rw [Reads, textOf, textOfBytes, Text.Utf8.decode_encode, Except.map, Text.unifyLineEnds_eq_self h,
    String.ofList_toList]
  rfl

variable {loads : Toml.Loader}

/-- A text writes a document that is a configuration. -/
def Writes (loads : Toml.Loader) (text : String) (document : Toml.Entries) : Prop :=
  loads text = .ok document ∧ IsConfiguration document

/-- The texts that are there, the first one first: the one that is given, those of the files in the
working directory and in the home directory, and the bundled one. -/
def presentTexts (given work home : Option String) : List String :=
  given.toList ++ work.toList ++ home.toList ++ [bundledText]

/-- The texts of the sources, where the files can be read. -/
theorem sourceTexts_of_reads {files : Files} {given work home : Option String}
    (hwork : Option.Rel Reads files.work work) (hhome : Option.Rel Reads files.home home) :
    sourceTexts files given = .ok (presentTexts given work home) := by
  have htexts : ([files.work, files.home].filterMap id).mapM textOf =
      .ok (work.toList ++ home.toList) := by
    rw [mapM_eq_ok_iff]
    obtain ⟨fileWork, fileHome⟩ := files
    cases hwork with
    | none =>
      cases hhome with
      | none => exact .nil
      | some hhome => exact .cons hhome .nil
    | some hwork =>
      cases hhome with
      | none => exact .cons hwork .nil
      | some hhome => exact .cons hwork (.cons hhome .nil)
  rw [sourceTexts, htexts, presentTexts, List.append_assoc given.toList]
  rfl

theorem read_of_reads {files : Files} {given work home : Option String}
    (hwork : Option.Rel Reads files.work work) (hhome : Option.Rel Reads files.home home) :
    read loads files given = ofTexts loads (presentTexts given work home) := by
  rw [read, sourceTexts_of_reads hwork hhome]
  rfl

theorem documentsOf_cons (loads : Toml.Loader) (text : String) (texts : List String) :
    documentsOf loads (text :: texts) = ((loads text).mapError .invalidToml).bind fun document =>
      (documentsOf loads texts).map (document :: ·) := by
  rw [documentsOf, List.mapM_cons]
  rfl

/-- Texts that are all documents are read as these. -/
theorem documentsOf_eq_ok_iff {texts : List String} {documents : List Toml.Entries} :
    documentsOf loads texts = .ok documents ↔
      List.Forall₂ (fun text document => loads text = .ok document) texts documents := by
  rw [documentsOf, mapM_eq_ok_iff]
  simp only [mapError_eq_ok_iff]

theorem ofTexts_of_mapM {texts : List String} {documents : List Toml.Entries}
    {sources : List Sections} (hdocuments : documentsOf loads texts = .ok documents)
    (hsources : documents.mapM sectionsOf? = some sources) :
    ofTexts loads texts = .ok ⟨sources.foldl mergeSections []⟩ := by
  rw [ofTexts, hdocuments]
  change ((documents.mapM sectionsOf?).elim (Except.error ConfigError.unexpectedFormat)
    Except.ok).bind _ = _
  rw [hsources]
  rfl

/-- **Where there are no files, the bundled sections are the configuration.** -/
theorem read_bundled (hbundled : ReadsBundled loads) :
    read loads ⟨none, none⟩ none = .ok ⟨bundledSections⟩ := by
  obtain ⟨document, hdocument, hsections⟩ := hbundled
  have hdocuments : documentsOf loads (presentTexts none none none) = .ok [document] :=
    documentsOf_eq_ok_iff.mpr (.cons hdocument .nil)
  have hall : [document].mapM sectionsOf? = some [bundledSections] := by
    simp [List.mapM_cons, hsections]
  have hmerge : [bundledSections].foldl mergeSections [] = bundledSections := by decide
  rw [read_of_reads .none .none, ofTexts_of_mapM hdocuments hall, hmerge]

/-- A file in the working directory, whose characters are read as sections, goes before the bundled
text. -/
theorem read_of_work {text : String} {sections : Sections}
    (h : ∃ l, text = String.ofList l ∧ '\r' ∉ l ∧
      (Toml.lines? (l.length + 1) [] [] l).bind sectionsOf? = some sections) :
    read Toml.loads ⟨some (.bytes (Text.Utf8.encode text.toList)), none⟩ none =
      .ok ⟨[sections, bundledSections].foldl mergeSections []⟩ := by
  obtain ⟨l, htext, hreturn, hread⟩ := h
  obtain ⟨document, hdocument, hsections⟩ := exists_loads_of_lines htext hread
  obtain ⟨bundled, hbundled, hsections'⟩ := readsBundled_loads
  let files : Files := ⟨some (.bytes (Text.Utf8.encode text.toList)), none⟩
  have hreads : Reads (.bytes (Text.Utf8.encode text.toList)) text :=
    reads_encode (by rwa [htext, String.toList_ofList])
  have hwork : Option.Rel Reads files.work (some text) := .some hreads
  have hhome : Option.Rel Reads files.home none := .none
  have hdocuments : documentsOf Toml.loads (presentTexts none (some text) none) =
      .ok [document, bundled] :=
    documentsOf_eq_ok_iff.mpr (.cons hdocument (.cons hbundled .nil))
  have hall : [document, bundled].mapM sectionsOf? = some [sections, bundledSections] := by
    simp [List.mapM_cons, hsections, hsections']
  rw [read_of_reads hwork hhome]
  exact ofTexts_of_mapM hdocuments hall

/-- Documents that are configurations are read as sections, one by one. -/
theorem exists_sections_of_writes (hunique : loads.Unique) {texts : List String}
    {documents : List Toml.Entries} (h : List.Forall₂ (Writes loads) texts documents) :
    documentsOf loads texts = .ok documents ∧
      ∃ sources, documents.mapM sectionsOf? = some sources ∧
        (∀ sections ∈ sources, (sections.map Prod.fst).Nodup) ∧
        ∀ c o, sources.findSome? (valueIn · c o) = documents.findSome? (definition? · c o) := by
  induction h with
  | nil => exact ⟨rfl, [], rfl, fun _ h => absurd h List.not_mem_nil, fun _ _ => rfl⟩
  | @cons text document texts documents hfirst _ ih =>
    obtain ⟨hdocument, hconfiguration⟩ := hfirst
    obtain ⟨hdocuments, sources, hsources, hnodup, hvalues⟩ := ih
    obtain ⟨sections, hsections, hcommands, hvalue⟩ :=
      exists_sectionsOf? (hunique text document hdocument) hconfiguration
    refine ⟨?_, sections :: sources, ?_, ?_, ?_⟩
    · exact documentsOf_eq_ok_iff.mpr (.cons hdocument (documentsOf_eq_ok_iff.mp hdocuments))
    · simp [List.mapM_cons, hsections, hsources]
    · exact List.forall_mem_cons.mpr ⟨hcommands, hnodup⟩
    · intro c o
      rw [List.findSome?_cons, List.findSome?_cons, hvalue, hvalues]

/-- Sources that are configurations, as sections, are merged. -/
theorem exists_read_of_writes (hunique : loads.Unique) {files : Files}
    {given work home : Option String} (hwork : Option.Rel Reads files.work work)
    (hhome : Option.Rel Reads files.home home) {documents : List Toml.Entries}
    (hdocuments : List.Forall₂ (Writes loads) (presentTexts given work home) documents) :
    ∃ sources : List Sections, read loads files given = .ok ⟨sources.foldl mergeSections []⟩ ∧
      (∀ sections ∈ sources, (sections.map Prod.fst).Nodup) ∧
      ∀ c o, sources.findSome? (valueIn · c o) = documents.findSome? (definition? · c o) := by
  obtain ⟨hread, sources, hsources, hnodup, hvalues⟩ := exists_sections_of_writes hunique hdocuments
  refine ⟨sources, ?_, hnodup, hvalues⟩
  rw [read_of_reads hwork hhome]
  exact ofTexts_of_mapM hread hsources

/-- The merged configuration has the value from the first document that defines an option. -/
theorem exists_config_of_writes (hunique : loads.Unique) {files : Files}
    {given work home : Option String} (hwork : Option.Rel Reads files.work work)
    (hhome : Option.Rel Reads files.home home) {documents : List Toml.Entries}
    (hdocuments : List.Forall₂ (Writes loads) (presentTexts given work home) documents) :
    ∃ config, read loads files given = .ok config ∧ IsDictionary config.sections ∧
      ∀ command option, config.get? command option =
        documents.findSome? (definition? · command option) := by
  obtain ⟨sources, hread, hnodup, hvalues⟩ :=
    exists_read_of_writes hunique hwork hhome hdocuments
  refine ⟨_, hread, isDictionary_nil.foldl_mergeSections sources, fun command option => ?_⟩
  rw [← hvalues]
  exact valueIn_foldl_mergeSections hnodup [] command option

/-- **The first source that defines an option wins.** Let the documents of the loader define no key
twice, let the files be readable, and let all sources be configurations: the text that is given, the
file in the working directory, that in the home directory, of each if there is one, and the bundled
text. Then they have a merged configuration. It is a dictionary, in which

* the value of an option of a command is that from the first source in this order which defines this
  option of this command, whatever else the sources define, and there is none if no source does;
* a command stands exactly if some source defines some option of it. -/
theorem read_first_wins (hunique : loads.Unique) {files : Files}
    {given work home : Option String} (hwork : Option.Rel Reads files.work work)
    (hhome : Option.Rel Reads files.home home) {documents : List Toml.Entries}
    (hdocuments : List.Forall₂ (Writes loads) (presentTexts given work home) documents) :
    ∃ config, read loads files given = .ok config ∧ IsDictionary config.sections ∧
      (∀ command option, config.get? command option =
        documents.findSome? (definition? · command option)) ∧
      ∀ command, command ∈ config.sections.map Prod.fst ↔
        ∃ document ∈ documents, ∃ option value,
          definition? document command option = some value := by
  obtain ⟨sources, hread, hnodup, hvalues⟩ :=
    exists_read_of_writes hunique hwork hhome hdocuments
  let config : Config := ⟨sources.foldl mergeSections []⟩
  have hdictionary : IsDictionary config.sections :=
    isDictionary_nil.foldl_mergeSections sources
  have hget : ∀ command option, config.get? command option =
      documents.findSome? (definition? · command option) := by
    intro command option
    rw [← hvalues]
    exact valueIn_foldl_mergeSections hnodup [] command option
  refine ⟨config, hread, hdictionary, hget, fun command => ?_⟩
  rw [hdictionary.mem_iff]
  constructor
  · rintro ⟨option, value, hvalue⟩
    obtain ⟨document, hmem, hdefined⟩ :=
      List.exists_of_findSome?_eq_some ((hget command option).symm.trans hvalue)
    exact ⟨document, hmem, option, value, hdefined⟩
  · rintro ⟨document, hmem, option, value, hdefined⟩
    have hsome : (documents.findSome? (definition? · command option)).isSome :=
      List.findSome?_isSome_iff.mpr ⟨document, hmem, Option.isSome_iff_exists.mpr ⟨value, hdefined⟩⟩
    obtain ⟨found, hfound⟩ := Option.isSome_iff_exists.mp hsome
    exact ⟨option, found, (hget command option).trans hfound⟩

/-- Where the characters of a text are read as sections, these are what its document defines. -/
theorem exists_writes (text : String) (sections : Sections)
    (h : ∃ l, text = String.ofList l ∧
      (Toml.lines? (l.length + 1) [] [] l).bind sectionsOf? = some sections) :
    ∃ document, Writes Toml.loads text document ∧
      ∀ c o, definition? document c o = valueIn sections c o := by
  obtain ⟨l, htext, hread⟩ := h
  obtain ⟨document, hdocument, hsections⟩ := exists_loads_of_lines htext hread
  have hconfiguration := isConfiguration_of_sectionsOf? hsections
  obtain ⟨sections', hsections', -, hvalues⟩ :=
    exists_sectionsOf? (Toml.unique_loads text document hdocument) hconfiguration
  obtain rfl := Option.some.inj (hsections.symm.trans hsections')
  exact ⟨document, ⟨hdocument, hconfiguration⟩, fun c o => (hvalues c o).symm⟩

set_option maxRecDepth 100000 in
/-- Three sources for one command. The text that is given defines the number, and names another
command without an option; the file in the working directory, written in another way, defines both
the number and the symbol; the bundled text is left with what none of these defines. -/
theorem read_first_wins_overlap :
    ∃ (found : Found) (config : Config),
      Reads found "defaults.generate = [\x7b\"--num-sentences\" = 6, \"--symbol\" = \"n\"\x7d]\n" ∧
      read Toml.loads ⟨some found, none⟩
          (some "[[defaults.generate]]\n--num-sentences = false\n[[defaults.symbols]]") =
        .ok config ∧
      config.get? "generate" "--num-sentences" = some (.flag false) ∧
      config.get? "generate" "--symbol" = some (.text "n") ∧
      config.get? "default" "--log-level" = some (.text "WARNING") ∧
      config.get? "generate" "--log-level" = none ∧
      "interactive" ∈ config.sections.map Prod.fst ∧
      "symbols" ∉ config.sections.map Prod.fst := by
  let given : String := "[[defaults.generate]]\n--num-sentences = false\n[[defaults.symbols]]"
  let work : String :=
    "defaults.generate = [\x7b\"--num-sentences\" = 6, \"--symbol\" = \"n\"\x7d]\n"
  obtain ⟨document₁, hwrites₁, hvalues₁⟩ := exists_writes given
    [("generate", [("--num-sentences", .flag false)]), ("symbols", [])]
    ⟨_, rfl, by decide +kernel⟩
  obtain ⟨document₂, hwrites₂, hvalues₂⟩ := exists_writes work
    [("generate", [("--num-sentences", .whole 6), ("--symbol", .text "n")])]
    ⟨_, rfl, by decide +kernel⟩
  obtain ⟨document₃, hwrites₃, hvalues₃⟩ := exists_writes bundledText
    bundledSections ⟨_, rfl, by decide +kernel⟩
  have hreads : Reads (.bytes (Text.Utf8.encode work.toList)) work := reads_encode (by decide)
  let files : Files := ⟨some (.bytes (Text.Utf8.encode work.toList)), none⟩
  have hwork : Option.Rel Reads files.work (some work) := .some hreads
  have hdocuments : List.Forall₂ (Writes Toml.loads) (presentTexts (some given) (some work) none)
      [document₁, document₂, document₃] :=
    .cons hwrites₁ (.cons hwrites₂ (.cons hwrites₃ .nil))
  obtain ⟨config, hread, -, hget, hcommands⟩ :=
    read_first_wins Toml.unique_loads hwork .none hdocuments
  simp only [List.findSome?_cons, hvalues₁, hvalues₂, hvalues₃] at hget
  refine ⟨_, config, hreads, hread, ?_, ?_, ?_, ?_, ?_, ?_⟩
  · exact hget "generate" "--num-sentences"
  · exact hget "generate" "--symbol"
  · exact hget "default" "--log-level"
  · exact hget "generate" "--log-level"
  · rw [hcommands]
    exact ⟨document₃, by simp, "--log-level", .text "ERROR", hvalues₃ _ _⟩
  · rw [hcommands]
    rintro ⟨document, hmem, option, value, hdefined⟩
    simp only [List.mem_cons, List.not_mem_nil, or_false] at hmem
    have hnone : definition? document "symbols" option = none := by
      rcases hmem with rfl | rfl | rfl
      · exact hvalues₁ "symbols" option
      · exact hvalues₂ "symbols" option
      · exact hvalues₃ "symbols" option
    rw [hnone] at hdefined
    cases hdefined

end SentenceGen.Config
