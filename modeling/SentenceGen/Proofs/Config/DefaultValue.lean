import SentenceGen.Config.History
import SentenceGen.Proofs.Config.Merge

/-!
# Default values of options

The default value of an option for a command is looked for at up to eight **places**: in the
section of the command, in one source after the other, and then in the section `default`, in the
same sources again (`places`). So the section of the command decides even where it stands in the
last source and the section `default` in the first one.

What counts is that an option is there, and not what its value is: the first place that has the
option gives the default value, be it false, zero or the empty text (`default_from_first_place`).
-/

namespace SentenceGen.Config

variable {loads : Toml.Loader} {document : Toml.Entries} {command option : String}

/-! ### Places -/

/-- The section of a document for a command. -/
structure Place where
  document : Toml.Entries
  command : String

/-- The entries of the table in an array. -/
def tableIn : Toml.Value → Toml.Entries
  | .array _ [.table _ options] => options
  | _ => []

/-- The options in the section, with the values that the document gives them. -/
def Place.options (place : Place) : Toml.Entries :=
  match place.document.lookup "defaults" with
  | some (.table _ sections) => ((sections.lookup place.command).map tableIn).getD []
  | _ => []

/-- The option stands in the section. -/
def Place.Defines (place : Place) (option : String) : Prop :=
  option ∈ place.options.map Prod.fst

/-- The places where a default value for a command is looked for, the first one first. -/
def places (documents : List Toml.Entries) (command : String) : List Place :=
  documents.map (⟨·, command⟩) ++ documents.map (⟨·, "default"⟩)

theorem tableIn_eq_nil {v : Toml.Value}
    (h : ∀ growing origin options, v ≠ .array growing [.table origin options]) :
    tableIn v = [] := by
  unfold tableIn
  split
  · exact absurd rfl (h _ _ _)
  · rfl

theorem optionIn?_eq_bind (v : Toml.Value) (option : String) :
    optionIn? v option = ((tableIn v).lookup option).bind optionValue? := by
  fun_cases optionIn? v option with
  | case1 => rfl
  | case2 _ hother =>
    rw [tableIn_eq_nil hother]
    rfl

/-- What a document defines is the value in its section. -/
theorem definition?_eq_bind (place : Place) (option : String) :
    definition? place.document place.command option =
      (place.options.lookup option).bind optionValue? := by
  rw [definition?, Place.options]
  cases place.document.lookup "defaults" with
  | none => rfl
  | some v =>
    cases v with
    | table origin sections =>
      dsimp only
      cases sections.lookup place.command with
      | none => rfl
      | some v => exact optionIn?_eq_bind v option
    | _ => rfl

theorem IsSection.exists_optionValue? {v entry : Toml.Value} (h : IsSection v)
    (hlookup : (tableIn v).lookup option = some entry) :
    ∃ value, optionValue? entry = some value := by
  obtain ⟨growing, origin, options, rfl, hscalar⟩ := h
  exact Option.isSome_iff_exists.mp (hscalar _ (mem_of_lookup_eq_some hlookup))

/-- In a configuration, whatever stands in a section is the value of an option. -/
theorem IsConfiguration.exists_optionValue? {place : Place} (h : IsConfiguration place.document)
    {entry : Toml.Value} (hlookup : place.options.lookup option = some entry) :
    ∃ value, optionValue? entry = some value := by
  rw [Place.options] at hlookup
  split at hlookup
  · rename_i origin sections hdefaults
    obtain ⟨_, _, htable, hsections⟩ := h _ hdefaults
    obtain ⟨rfl, rfl⟩ := Toml.Value.table.inj htable
    cases hsection : sections.lookup place.command with
    | none =>
      rw [hsection] at hlookup
      cases hlookup
    | some v =>
      rw [hsection] at hlookup
      exact (hsections _ (mem_of_lookup_eq_some hsection)).exists_optionValue? hlookup
  · cases hlookup

/-- A configuration defines an option where the option stands, whatever its value is. -/
theorem IsConfiguration.definition?_eq_none_iff {place : Place}
    (h : IsConfiguration place.document) (option : String) :
    definition? place.document place.command option = none ↔ ¬ place.Defines option := by
  rw [definition?_eq_bind, Place.Defines, ← lookup_eq_none_iff_not_mem]
  constructor
  · intro hnone
    cases hlookup : place.options.lookup option with
    | none => rfl
    | some v =>
      obtain ⟨value, hvalue⟩ := h.exists_optionValue? hlookup
      rw [hlookup, Option.bind_some, hvalue] at hnone
      cases hnone
  · intro hnone
    rw [hnone, Option.bind_none]

/-! ### The search -/

/-- A default value is searched for at all places in turn. -/
theorem default?_eq_findSome? {config : Config} {documents : List Toml.Entries}
    (hget : ∀ command option, config.get? command option =
      documents.findSome? (definition? · command option)) (command option : String) :
    config.default? command option =
      (places documents command).findSome? fun place =>
        definition? place.document place.command option := by
  rw [default?, hget, hget, places, List.findSome?_append, List.findSome?_map, List.findSome?_map]
  rfl

theorem isConfiguration_of_mem_places {texts : List String} {documents : List Toml.Entries}
    (h : List.Forall₂ (Writes loads) texts documents) {place : Place}
    (hplace : place ∈ places documents command) : IsConfiguration place.document := by
  have hall : ∀ document ∈ documents, IsConfiguration document := by
    clear hplace
    induction h with
    | nil => exact fun _ hmem => absurd hmem List.not_mem_nil
    | cons hfirst _ ih => exact List.forall_mem_cons.mpr ⟨hfirst.2, ih⟩
  rcases List.mem_append.mp hplace with hmem | hmem
  · obtain ⟨document, hdocument, rfl⟩ := List.mem_map.mp hmem
    exact hall document hdocument
  · obtain ⟨document, hdocument, rfl⟩ := List.mem_map.mp hmem
    exact hall document hdocument

/-- A configuration that is asked for the first time is read. -/
theorem run_default_of_not_known {files : Files} {given : Option String} {cache : ConfigCache}
    {config : Config} (hcache : cache.known.lookup given = none)
    (hread : read loads files given = .ok config) (command option : String) :
    ((Step.default command option given).run loads ⟨files, cache⟩).1 =
      .default (.ok (config.default? command option)) := by
  simp only [Step.run, ConfigCache.read, hcache, hread, Except.map]

/-- **Default values are looked for in one fixed order.** Let the documents of the loader define no
key twice, let the files be readable, and let all sources be configurations: the text that is given,
the file in the working directory, that in the home directory, of each if there is one, and the
bundled text. For every command and every option, the section of the command is searched in the
sources in this order, and then the section `default` in the same order.

* There is no default value exactly if the option stands at none of these places.
* Otherwise the first place where it stands gives the default value, whatever value this is.

This is what is answered when the default value is asked for, unless the configuration for the given
text is known from earlier. -/
theorem default_from_first_place (hunique : loads.Unique) {files : Files}
    {given work home : Option String} (hwork : Option.Rel Reads files.work work)
    (hhome : Option.Rel Reads files.home home) {documents : List Toml.Entries}
    (hdocuments : List.Forall₂ (Writes loads) (presentTexts given work home) documents) :
    ∃ config, read loads files given = .ok config ∧ ∀ command option,
      (config.default? command option = none ↔
        ∀ place ∈ places documents command, ¬ place.Defines option) ∧
      (∀ before place after v, places documents command = before ++ place :: after →
        (∀ earlier ∈ before, ¬ earlier.Defines option) →
        place.options.lookup option = some v →
        ∃ value, optionValue? v = some value ∧ config.default? command option = some value) ∧
      ∀ cache : ConfigCache, cache.known.lookup given = none →
        ((Step.default command option given).run loads ⟨files, cache⟩).1 =
          .default (.ok (config.default? command option)) := by
  obtain ⟨config, hread, -, hget⟩ := exists_config_of_writes hunique hwork hhome hdocuments
  refine ⟨config, hread, fun command option => ?_⟩
  have hsearch := default?_eq_findSome? hget command option
  have hconfiguration : ∀ place ∈ places documents command, IsConfiguration place.document :=
    fun _ => isConfiguration_of_mem_places hdocuments
  refine ⟨?_, ?_, fun cache hcache => run_default_of_not_known hcache hread command option⟩
  · rw [hsearch, List.findSome?_eq_none_iff]
    exact forall₂_congr fun place hplace =>
      (hconfiguration place hplace).definition?_eq_none_iff option
  · intro before place after v hsplit hbefore hlookup
    have hplace : ∀ p ∈ before ++ place :: after, IsConfiguration p.document :=
      hsplit ▸ hconfiguration
    obtain ⟨value, hvalue⟩ := (hplace place (by simp)).exists_optionValue? hlookup
    refine ⟨value, hvalue, ?_⟩
    rw [hsearch, List.findSome?_eq_some_iff]
    refine ⟨before, place, after, hsplit, ?_, fun earlier hearlier => ?_⟩
    · rw [definition?_eq_bind, hlookup, Option.bind_some, hvalue]
    · have hmem : earlier ∈ before ++ place :: after := List.mem_append_left _ hearlier
      exact ((hplace earlier hmem).definition?_eq_none_iff option).mpr (hbefore earlier hearlier)

set_option maxRecDepth 100000 in
/-- Zero in the section of the command and the empty text in the section `default` are default
values. The section of the command in the bundled text goes before the section `default` in the text
that is given. -/
theorem default_from_first_place_falsy :
    ∃ (found : Found) (config : Config),
      Reads found "[[defaults.default]]\n--log-level = ''\n[[defaults.generate]]\n--tree = true" ∧
      read Toml.loads ⟨some found, none⟩
        (some "[[defaults.generate]]\n--num-sentences = 0\n[[defaults.default]]\n--symbol = 't'") =
        .ok config ∧
      config.default? "generate" "--num-sentences" = some (.whole 0) ∧
      config.default? "symbols" "--log-level" = some (.text "") ∧
      config.default? "generate" "--symbol" = some (.text "<s>") := by
  let given : String :=
    "[[defaults.generate]]\n--num-sentences = 0\n[[defaults.default]]\n--symbol = 't'"
  let work : String :=
    "[[defaults.default]]\n--log-level = ''\n[[defaults.generate]]\n--tree = true"
  obtain ⟨document₁, hwrites₁, hvalues₁⟩ := exists_writes given
    [("generate", [("--num-sentences", .whole 0)]), ("default", [("--symbol", .text "t")])]
    ⟨_, rfl, by decide +kernel⟩
  obtain ⟨document₂, hwrites₂, hvalues₂⟩ := exists_writes work
    [("default", [("--log-level", .text "")]), ("generate", [("--tree", .flag true)])]
    ⟨_, rfl, by decide +kernel⟩
  obtain ⟨document₃, hwrites₃, hvalues₃⟩ := exists_writes bundledText
    bundledSections ⟨_, rfl, by decide +kernel⟩
  have hreads : Reads (.bytes (Text.Utf8.encode work.toList)) work := reads_encode (by decide)
  let files : Files := ⟨some (.bytes (Text.Utf8.encode work.toList)), none⟩
  have hwork : Option.Rel Reads files.work (some work) := .some hreads
  have hdocuments : List.Forall₂ (Writes Toml.loads) (presentTexts (some given) (some work) none)
      [document₁, document₂, document₃] :=
    .cons hwrites₁ (.cons hwrites₂ (.cons hwrites₃ .nil))
  obtain ⟨config, hread, hsearch⟩ :=
    default_from_first_place Toml.unique_loads hwork .none hdocuments
  -- what the places define is known by value, and so is whether they have the option
  have hfirst : ∀ {command option} before place after {value},
      places [document₁, document₂, document₃] command = before ++ place :: after →
      (∀ earlier ∈ before, definition? earlier.document earlier.command option = none) →
      definition? place.document place.command option = some value →
      config.default? command option = some value := by
    intro command option before place after value hsplit hbefore hdefined
    have hundefined : ∀ earlier ∈ before, ¬ earlier.Defines option := by
      intro earlier hearlier
      have hplace : earlier ∈ places [document₁, document₂, document₃] command :=
        hsplit ▸ List.mem_append_left _ hearlier
      have hconfiguration := isConfiguration_of_mem_places hdocuments hplace
      exact (hconfiguration.definition?_eq_none_iff option).mp (hbefore earlier hearlier)
    rw [definition?_eq_bind] at hdefined
    obtain ⟨v, hlookup, hvalue⟩ := Option.bind_eq_some_iff.mp hdefined
    obtain ⟨value', hvalue', hdefault⟩ :=
      (hsearch command option).2.1 before place after v hsplit hundefined hlookup
    rw [hdefault, ← hvalue', hvalue]
  refine ⟨_, config, hreads, hread, ?_, ?_, ?_⟩
  · exact hfirst [] ⟨document₁, "generate"⟩ _ rfl (by simp) (hvalues₁ _ _)
  · refine hfirst [⟨document₁, "symbols"⟩, ⟨document₂, "symbols"⟩, ⟨document₃, "symbols"⟩,
      ⟨document₁, "default"⟩] ⟨document₂, "default"⟩ _ rfl ?_ (hvalues₂ _ _)
    simp only [List.forall_mem_cons, hvalues₁, hvalues₂, hvalues₃]
    exact ⟨rfl, rfl, rfl, rfl, fun _ h => absurd h List.not_mem_nil⟩
  · refine hfirst [⟨document₁, "generate"⟩, ⟨document₂, "generate"⟩] ⟨document₃, "generate"⟩ _ rfl
      ?_ (hvalues₃ _ _)
    simp only [List.forall_mem_cons, hvalues₁, hvalues₂]
    exact ⟨rfl, rfl, fun _ h => absurd h List.not_mem_nil⟩

end SentenceGen.Config
