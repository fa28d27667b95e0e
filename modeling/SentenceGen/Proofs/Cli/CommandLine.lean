import SentenceGen.Cli.Run
import SentenceGen.Proofs.Results
import SentenceGen.Proofs.Text.Numeral

/-!
# Command lines that are written out

A command line is **written out** when the command comes first, then the file and then options, each
in one of its spellings and with its argument as the word behind it. Such a command line may still
be refused, as the file or an argument may look like an option. If it is not, then it means what it
says: the request is made of that file and of those arguments (`exists_takeAll_of_request`).
-/

namespace SentenceGen.Cli

/-! ### Options that are written out -/

/-- An option in one of its spellings, with the argument behind it. -/
structure WrittenOption where
  option : OptionSpec
  spelling : String
  value : Option String

namespace WrittenOption

/-- The words on the command line. -/
def words (w : WrittenOption) : List String :=
  w.spelling :: w.value.toList

/-- The option is among those that are taken, other than that for help, and has an argument if it
takes one. -/
structure Fits (options : List OptionSpec) (w : WrittenOption) : Prop where
  known : findOption options w.spelling = some w.option
  hyphen : w.spelling.toList.head? = some '-'
  ne_dashes : w.spelling ≠ "--"
  not_help : w.option.role ≠ .help
  isSome_value : w.value.isSome = w.option.takesArgument

theorem Fits.of_argument {options : List OptionSpec} {o : OptionSpec} {spelling : String}
    (known : findOption options spelling = some o) (hyphen : spelling.toList.head? = some '-')
    (ne_dashes : spelling ≠ "--") (not_help : o.role ≠ .help) (takes : o.takesArgument = true)
    (value : String) : Fits options ⟨o, spelling, some value⟩ :=
  ⟨known, hyphen, ne_dashes, not_help, takes.symm⟩

end WrittenOption

/-- The words of several options. -/
def wordsOf (ws : List WrittenOption) : List String :=
  ws.flatMap WrittenOption.words

/-- Takes options one after the other. -/
def Given.takeAll (g : Given) (ws : List WrittenOption) : Except UsageError Given :=
  ws.foldlM (fun g w => g.take w.option w.spelling (w.value.getD "")) g

theorem wordsOf_cons (w : WrittenOption) (ws : List WrittenOption) :
    wordsOf (w :: ws) = w.spelling :: (w.value.toList ++ wordsOf ws) := by
  rw [wordsOf, List.flatMap_cons]
  rfl

theorem Given.takeAll_cons_of_ok {g g' : Given} {w : WrittenOption}
    (h : g.take w.option w.spelling (w.value.getD "") = .ok g') (ws : List WrittenOption) :
    g.takeAll (w :: ws) = g'.takeAll ws := by
  rw [takeAll, List.foldlM_cons, h]
  rfl

theorem Given.exists_of_takeAll_cons {g g' : Given} {w : WrittenOption} {ws : List WrittenOption}
    (h : g.takeAll (w :: ws) = .ok g') :
    ∃ g₁, g.take w.option w.spelling (w.value.getD "") = .ok g₁ ∧ g₁.takeAll ws = .ok g' := by
  rw [takeAll, List.foldlM_cons] at h
  exact exists_of_bind_eq_ok h

/-! ### What options leave alone -/

variable {i : Interface} {help? : Option String} {g g' : Given}

/-- An option gives no file, and nothing is left over of it. -/
theorem Given.take_eq_ok {o : OptionSpec} {spelling value : String}
    (h : g.take o spelling value = .ok g') : g'.file = g.file ∧ g'.extras = g.extras := by
  unfold Given.take at h
  split at h
  case h_2 | h_5 =>
    obtain ⟨n, -, rfl⟩ := exists_of_map_eq_ok h
    exact ⟨rfl, rfl⟩
  case h_6 =>
    split at h
    · obtain rfl := Except.ok.inj h
      exact ⟨rfl, rfl⟩
    · cases h
  all_goals
    obtain rfl := Except.ok.inj h
    exact ⟨rfl, rfl⟩

/-- What every finding keeps is kept by all of them together. -/
theorem of_collect {P : Given → Prop} {findings : List Finding}
    (htake : ∀ (g g' : Given) o spelling value, g.take o spelling value = .ok g' → P g → P g')
    (hoperands : ∀ (g : Given) texts, .operands texts ∈ findings → P g →
      P { g with file := texts.head? })
    (hextra : ∀ (g : Given) text, P g → P { g with extras := g.extras ++ [text] })
    (hg : P g) (h : collect i help? g findings = .ok g') : P g' := by
  induction findings generalizing g with
  | nil =>
    obtain rfl := Except.ok.inj h
    exact hg
  | cons f findings ih =>
    have ih {g : Given} := ih (g := g) fun g texts hmem => hoperands g texts (.tail _ hmem)
    cases f with
    | given o spelling value =>
      rw [collect] at h
      split at h
      · cases h
      · split at h
        · rename_i g₁ htaken
          exact ih (htake g g₁ _ _ _ htaken hg) h
        · cases h
    | operands texts => exact ih (hoperands g texts (.head _) hg) h
    | extra text => exact ih (hextra g text hg) h
    | wrong e => cases h

/-- What is left over stays so. -/
theorem extras_ne_nil_of_collect {findings : List Finding} (hg : g.extras ≠ [])
    (h : collect i help? g findings = .ok g') : g'.extras ≠ [] := by
  refine of_collect (P := fun g => g.extras ≠ []) ?_ (fun _ _ _ => id) ?_ hg h
  · intro g g' o spelling value htake hne
    rwa [(Given.take_eq_ok htake).2]
  · intro g text _
    exact List.append_ne_nil_of_right_ne_nil _ (List.cons_ne_nil _ _)

/-- Without an operand there is no file. -/
theorem file_of_collect {findings : List Finding} (hfree : ∀ texts, .operands texts ∉ findings)
    (h : collect i help? g findings = .ok g') : g'.file = g.file := by
  refine of_collect (P := fun g₁ => g₁.file = g.file) ?_ ?_ (fun _ _ => id) rfl h
  · intro g₁ g₂ o spelling value htake hg
    rw [(Given.take_eq_ok htake).1, hg]
  · intro g₁ texts hmem
    exact absurd hmem (hfree texts)

/-- A file that is given is an operand. -/
theorem exists_operands_of_collect {findings : List Finding}
    (h : collect i help? .empty findings = .ok g') :
    ∀ file, g'.file = some file → ∃ texts, .operands texts ∈ findings ∧ file ∈ texts := by
  refine of_collect (P := fun g => ∀ file, g.file = some file →
    ∃ texts, .operands texts ∈ findings ∧ file ∈ texts) ?_ ?_ (fun _ _ => id) ?_ h
  · intro g g' o spelling value htake hg
    rwa [(Given.take_eq_ok htake).1]
  · intro g texts hmem _ file hfile
    exact ⟨texts, hmem, List.mem_of_mem_head? hfile⟩
  · rintro file ⟨⟩

/-- An option gives no log level, or one that there is. -/
theorem Given.level_of_take {o : OptionSpec} {spelling value : String}
    (h : g.take o spelling value = .ok g') :
    g'.level = g.level ∨ ∃ level ∈ logLevels, g'.level = some level := by
  unfold Given.take at h
  split at h
  case h_2 | h_5 =>
    obtain ⟨n, -, rfl⟩ := exists_of_map_eq_ok h
    exact Or.inl rfl
  case h_6 =>
    split at h
    · rename_i hlevel
      obtain rfl := Except.ok.inj h
      exact Or.inr ⟨value, List.contains_iff_mem.mp hlevel, rfl⟩
    · cases h
  all_goals
    obtain rfl := Except.ok.inj h
    exact Or.inl rfl

/-- A number that was read can be written. -/
theorem isWritable_of_readInteger {o : OptionSpec} {text : String} {n : Int}
    (h : readInteger o text = .ok n) : Text.isWritable n = true := by
  unfold readInteger at h
  cases hread : Text.integer? text with
  | none =>
    rw [hread] at h
    cases h
  | some m =>
    rw [hread] at h
    obtain rfl := Except.ok.inj h
    exact Text.isWritable_of_integer? hread

/-- An option gives no number, or one that can be written. -/
theorem Given.count_of_take {o : OptionSpec} {spelling value : String}
    (h : g.take o spelling value = .ok g') :
    g'.count = g.count ∨ ∃ n, Text.isWritable n = true ∧ g'.count = some n := by
  unfold Given.take at h
  split at h
  case h_2 =>
    obtain ⟨n, hread, rfl⟩ := exists_of_map_eq_ok h
    exact Or.inr ⟨n, isWritable_of_readInteger hread, rfl⟩
  case h_5 =>
    obtain ⟨n, -, rfl⟩ := exists_of_map_eq_ok h
    exact Or.inl rfl
  case h_6 =>
    split at h
    · obtain rfl := Except.ok.inj h
      exact Or.inl rfl
    · cases h
  all_goals
    obtain rfl := Except.ok.inj h
    exact Or.inl rfl

/-- **A number that is given can be written.** -/
theorem isWritable_of_collect {findings : List Finding}
    (h : collect i help? .empty findings = .ok g') :
    ∀ n, g'.count = some n → Text.isWritable n = true := by
  refine of_collect (P := fun g => ∀ n, g.count = some n → Text.isWritable n = true) ?_
    (fun _ _ _ => id) (fun _ _ => id) ?_ h
  · intro g g' o spelling value htake hg n hn
    rcases Given.count_of_take htake with hsame | ⟨m, hwritable, hnew⟩
    · exact hg n (hsame ▸ hn)
    · rw [hnew] at hn
      rwa [← Option.some.inj hn]
  · rintro n ⟨⟩

/-- **A log level that is given is one that there is.** -/
theorem level_of_collect {findings : List Finding}
    (h : collect i help? .empty findings = .ok g') :
    ∀ level, g'.level = some level → level ∈ logLevels := by
  refine of_collect (P := fun g => ∀ level, g.level = some level → level ∈ logLevels) ?_
    (fun _ _ _ => id) (fun _ _ => id) ?_ h
  · intro g g' o spelling value htake hg level hlevel
    rcases Given.level_of_take htake with hsame | ⟨level', hmem, hnew⟩
    · exact hg level (hsame ▸ hlevel)
    · rw [hnew] at hlevel
      rwa [← Option.some.inj hlevel]
  · rintro level ⟨⟩

theorem collect_append {findings more : List Finding} :
    collect i help? g (findings ++ more) =
      (collect i help? g findings).bind fun g => collect i help? g more := by
  induction findings generalizing g with
  | nil => rfl
  | cons f findings ih =>
    cases f with
    | given o spelling value =>
      rw [List.cons_append, collect, collect]
      split
      · rfl
      · split
        · exact ih
        · rfl
    | operands texts => exact ih
    | extra text => exact ih
    | wrong e => rfl

/-! ### Reading options -/

variable {options : List OptionSpec}

theorem classify_spelling {w : WrittenOption} (h : w.Fits options) :
    classify options w.spelling = .ok (.option w.option w.spelling .nothing) := by
  simp only [classify, h.hyphen, h.known]
  rfl

/-- Words fall into the first one and those behind it. -/
theorem exists_of_classifyAll {text : String} {rest : List String} {arguments : List Argument}
    (hne : text ≠ "--") (h : classifyAll options (text :: rest) = .ok arguments) :
    ∃ word words, classify options text = .ok word ∧ classifyAll options rest = .ok words ∧
      arguments = ⟨text, word⟩ :: words := by
  rw [classifyAll, if_neg (by simpa using hne)] at h
  obtain ⟨word, hword, h⟩ := exists_of_bind_eq_ok h
  obtain ⟨words, hwords, h⟩ := exists_of_bind_eq_ok h
  exact ⟨word, words, hword, hwords, (Except.ok.inj h).symm⟩

/-- An option that is written out is found, unless what stands behind it is no argument. -/
theorem scan_written {w : WrittenOption} (hw : w.Fits options) {rest : List String}
    {arguments : List Argument} (h : classifyAll options (w.words ++ rest) = .ok arguments)
    (operands : Operands) :
    (∃ e, scan options operands arguments = [.wrong e]) ∨
      ∃ words, classifyAll options rest = .ok words ∧
        scan options operands arguments =
          .given w.option w.spelling w.value :: scan options operands words := by
  rw [WrittenOption.words, List.cons_append] at h
  obtain ⟨word, words, hword, hwords, rfl⟩ := exists_of_classifyAll hw.ne_dashes h
  obtain rfl := Except.ok.inj ((classify_spelling hw).symm.trans hword)
  have htakes := hw.isSome_value
  cases hvalue : w.value with
  | none =>
    rw [hvalue] at htakes hwords
    refine Or.inr ⟨words, hwords, ?_⟩
    rw [scan, expandOption, ← htakes]
    rfl
  | some value =>
    rw [hvalue, Option.toList_some, List.singleton_append] at hwords
    rw [hvalue] at htakes
    have hexpand : expandOption options w.option w.spelling .nothing =
        .ok ([], some (w.option, w.spelling)) := by
      rw [expandOption, ← htakes]
      rfl
    by_cases hdashes : value = "--"
    · rw [hdashes, classifyAll] at hwords
      obtain rfl := Except.ok.inj hwords
      exact Or.inl ⟨_, by rw [scan, hexpand]⟩
    · obtain ⟨word, words, -, hrest, rfl⟩ := exists_of_classifyAll hdashes hwords
      cases word with
      | operand =>
        refine Or.inr ⟨words, hrest, ?_⟩
        rw [scan, hexpand]
        rfl
      | dashes | option | unknownOption => exact Or.inl ⟨_, by rw [scan, hexpand]⟩

/-- **Options that are written out are taken one after the other**, unless they are refused. -/
theorem takeAll_of_collect (operands : Operands) {ws : List WrittenOption}
    (hws : ∀ w ∈ ws, w.Fits options) {arguments : List Argument}
    (harguments : classifyAll options (wordsOf ws) = .ok arguments)
    (h : collect i help? g (scan options operands arguments) = .ok g') :
    g.takeAll ws = .ok g' := by
  induction ws generalizing g arguments with
  | nil =>
    obtain rfl := Except.ok.inj harguments
    rw [scan, collect] at h
    obtain rfl := Except.ok.inj h
    rfl
  | cons w ws ih =>
    obtain ⟨hw, hws⟩ := List.forall_mem_cons.mp hws
    rw [wordsOf, List.flatMap_cons] at harguments
    rcases scan_written hw harguments operands with ⟨e, hscan⟩ | ⟨words, hwords, hscan⟩
    · rw [hscan] at h
      cases h
    · rw [hscan, collect, if_neg hw.not_help] at h
      split at h
      · rename_i g₁ htake
        rw [Given.takeAll_cons_of_ok htake]
        exact ih hws hwords h
      · cases h

/-! ### A file in front of options -/

theorem Given.takeAll_eq_ok {ws : List WrittenOption} (h : g.takeAll ws = .ok g') :
    g'.file = g.file ∧ g'.extras = g.extras := by
  induction ws generalizing g with
  | nil =>
    obtain rfl := Except.ok.inj h
    exact ⟨rfl, rfl⟩
  | cons w ws ih =>
    obtain ⟨g₁, htake, h⟩ := exists_of_takeAll_cons h
    obtain ⟨hfile, hextras⟩ := ih h
    obtain ⟨hfile₁, hextras₁⟩ := take_eq_ok htake
    exact ⟨hfile.trans hfile₁, hextras.trans hextras₁⟩

private theorem exists_of_cons_eq_ok {f : Finding} {r : Cluster} {findings : List Finding}
    {waiting : Option (OptionSpec × String)} (h : Cluster.cons f r = .ok (findings, waiting)) :
    ∃ findings', r = .ok (findings', waiting) ∧ findings = f :: findings' := by
  rcases r with e | ⟨findings', waiting'⟩
  · cases h
  · obtain ⟨rfl, rfl⟩ := Prod.mk.inj (Except.ok.inj h)
    exact ⟨findings', rfl, rfl⟩

/-- Letters that are joined in one word hold no operand. -/
private theorem operands_not_mem_cluster {o : OptionSpec} {spelling : String} {behindEquals : Bool}
    {s : List Char} {findings : List Finding} {waiting : Option (OptionSpec × String)}
    (h : cluster options o spelling behindEquals s = .ok (findings, waiting))
    (texts : List String) : .operands texts ∉ findings := by
  fun_induction cluster options o spelling behindEquals s generalizing findings waiting with
  | case1 | case3 | case5 =>
    obtain ⟨rfl, -⟩ := Prod.mk.inj (Except.ok.inj h)
    simp
  | case2 | case4 => cases h
  | case6 =>
    rename_i ih
    -- the findings of the letters that follow stand behind the one of this letter
    obtain ⟨behind, hrest, rfl⟩ := exists_of_cons_eq_ok h
    rw [List.mem_cons, not_or]
    refine ⟨Finding.noConfusion, ?_⟩
    split at hrest
    · split at hrest
      all_goals
        obtain ⟨rfl, -⟩ := Prod.mk.inj (Except.ok.inj hrest)
        simp
    · exact ih hrest
    · rename_i d more hne
      split at ih
      next heq => cases heq
      next heq => exact absurd (List.cons.inj heq).1 hne
      next heq =>
        rw [heq] at hrest
        exact ih hrest

private theorem operands_not_mem_expandOption {o : OptionSpec} {spelling : String}
    {attached : Attachment} {findings : List Finding} {waiting : Option (OptionSpec × String)}
    (h : expandOption options o spelling attached = .ok (findings, waiting))
    (texts : List String) : .operands texts ∉ findings := by
  cases attached with
  | nothing =>
    rw [expandOption] at h
    split at h
    all_goals
      obtain ⟨rfl, -⟩ := Prod.mk.inj (Except.ok.inj h)
      simp
  | glued s => exact operands_not_mem_cluster h texts
  | equals s => exact operands_not_mem_cluster h texts

/-- **A file in front of options that are written out is the file that is given**, and the options
are taken one after the other. Otherwise something is left over, or there is no file. -/
theorem takeAll_of_collect_file {file : String} {ws : List WrittenOption}
    (hws : ∀ w ∈ ws, w.Fits options) (hlong : 2 ≤ (wordsOf ws).length) {arguments : List Argument}
    (harguments : classifyAll options (file :: wordsOf ws) = .ok arguments)
    (h : collect i help? .empty (scan options .file arguments) = .ok g')
    (hextras : g'.extras = []) (hfile : g'.file ≠ none) :
    { Given.empty with file := some file }.takeAll ws = .ok g' := by
  -- a word that is left over in front contradicts the rest
  have hleft : ∀ (g : Given) text findings,
      collect i help? g (.extra text :: findings) ≠ .ok g' := by
    intro g text findings hcollect
    rw [collect] at hcollect
    refine extras_ne_nil_of_collect ?_ hcollect hextras
    exact List.append_ne_nil_of_right_ne_nil _ (List.cons_ne_nil _ _)
  by_cases hdashes : file = "--"
  · obtain ⟨first, second, more, hwords⟩ : ∃ first second more,
        wordsOf ws = first :: second :: more := by
      match wordsOf ws, hlong with
      | first :: second :: more, _ => exact ⟨first, second, more, rfl⟩
    rw [hdashes, classifyAll, hwords] at harguments
    obtain rfl := Except.ok.inj harguments
    exact absurd h (hleft _ _ _)
  · obtain ⟨word, words, -, hwords, rfl⟩ := exists_of_classifyAll hdashes harguments
    obtain ⟨o, spelling, more, hhead⟩ : ∃ o spelling more,
        words = ⟨spelling, .option o spelling .nothing⟩ :: more := by
      match ws, hws, hlong with
      | w :: ws, hws, _ =>
        have hw := hws w List.mem_cons_self
        rw [wordsOf_cons] at hwords
        obtain ⟨word, more, hword, -, rfl⟩ := exists_of_classifyAll hw.ne_dashes hwords
        obtain rfl := Except.ok.inj ((classify_spelling hw).symm.trans hword)
        exact ⟨_, _, more, rfl⟩
    cases word with
    | operand =>
      have hscan : scan options .file (⟨file, .operand⟩ :: words) =
          .operands [file] :: scan options .nothing words := by
        rw [hhead]
        rfl
      rw [hscan, collect] at h
      exact takeAll_of_collect .nothing hws hwords h
    | dashes =>
      have hscan : scan options .file (⟨file, .dashes⟩ :: words) =
          .extra file :: scan options .file words := by
        rw [hhead]
        rfl
      rw [hscan] at h
      exact absurd h (hleft _ _ _)
    | unknownOption =>
      rw [scan] at h
      exact absurd h (hleft _ _ _)
    | option o' spelling' attached =>
      rw [scan] at h
      split at h
      · cases h
      · rename_i findings hexpand
        rw [collect_append] at h
        obtain ⟨g₁, hfirst, hrest⟩ := exists_of_bind_eq_ok h
        have hnone := file_of_collect (operands_not_mem_expandOption hexpand) hfirst
        obtain ⟨hsame, -⟩ := Given.takeAll_eq_ok (takeAll_of_collect .file hws hwords hrest)
        exact absurd (hsame.trans hnone) hfile
      · rw [hhead] at h
        cases h

/-! ### Command lines -/

/-- A command line that is written out. -/
def Command.line (c : Command) (file : String) (ws : List WrittenOption) : List String :=
  c.name :: file :: wordsOf ws

theorem map_text_of_classifyAll {texts : List String} {arguments : List Argument}
    (h : classifyAll options texts = .ok arguments) : arguments.map (·.text) = texts := by
  induction texts generalizing arguments with
  | nil =>
    obtain rfl := Except.ok.inj h
    rfl
  | cons text rest ih =>
    by_cases hdashes : text = "--"
    · rw [classifyAll, if_pos (by simpa using hdashes)] at h
      obtain rfl := Except.ok.inj h
      simp [Function.comp_def]
    · obtain ⟨word, words, -, hwords, rfl⟩ := exists_of_classifyAll hdashes h
      rw [List.map_cons, ih hwords]

/-- Operands are arguments. -/
theorem subset_of_operands_mem_scan {operands : Operands} {arguments : List Argument}
    {texts : List String} (h : .operands texts ∈ scan options operands arguments) :
    texts ⊆ arguments.map (·.text) := by
  fun_induction scan options operands arguments with
  | case1 | case2 | case5 | case8 => simp at h
  | case3 operands text o spelling attached rest findings hexpand ih =>
    rcases List.mem_append.mp h with hmem | hmem
    · exact absurd hmem (operands_not_mem_expandOption hexpand texts)
    · exact List.subset_cons_of_subset _ (ih hmem)
  | case4 operands text o spelling attached findings waiting letter hexpand value rest ih =>
    rcases List.mem_append.mp h with hmem | hmem
    · exact absurd hmem (operands_not_mem_expandOption hexpand texts)
    · exact List.subset_cons_of_subset _
        (List.subset_cons_of_subset _ (ih (List.mem_of_ne_of_mem Finding.noConfusion hmem)))
  | case6 | case13 =>
    rename_i ih
    exact List.subset_cons_of_subset _ (ih (List.mem_of_ne_of_mem Finding.noConfusion h))
  | case7 | case9 =>
    obtain rfl := Finding.operands.inj (List.mem_singleton.mp h)
    exact List.Subset.refl _
  | case10 | case11 | case12 =>
    rename_i ih
    rcases List.mem_cons.mp h with heq | hmem
    · obtain rfl := Finding.operands.inj heq
      simp
    · intro text htext
      have hrest := ih hmem htext
      simp only [List.map_cons, List.mem_cons, hrest, or_true]

/-- **The name of a command takes all that stands behind it**, if the program can tell it apart. -/
theorem findings_name_eq (c : Command) (args : List String) :
    mainInterface.findings (c.name :: args) =
      match classifyAll mainInterface.options args with
      | .error e => [.wrong e]
      | .ok _ => [.operands (c.name :: args)] := by
  obtain ⟨hne, hoperand⟩ :
      c.name ≠ "--" ∧ classify mainInterface.options c.name = .ok .operand := by
    cases c <;> exact ⟨by decide, rfl⟩
  have hcons : classifyAll mainInterface.options (c.name :: args) =
      (classifyAll mainInterface.options args).map (⟨c.name, .operand⟩ :: ·) := by
    rw [classifyAll, if_neg (by simpa using hne), hoperand]
    rfl
  rw [Interface.findings, hcons]
  cases hwords : classifyAll mainInterface.options args with
  | error e => rfl
  | ok words =>
    change [Finding.operands (c.name :: words.map (·.text))] = _
    rw [map_text_of_classifyAll hwords]

/-- Either something there is ambiguous, or the name of a command takes all of it. -/
theorem findings_name (c : Command) (args : List String) :
    (∃ e, mainInterface.findings (c.name :: args) = [.wrong e]) ∨
      mainInterface.findings (c.name :: args) = [.operands (c.name :: args)] := by
  rw [findings_name_eq]
  cases classifyAll mainInterface.options args with
  | error e => exact Or.inl ⟨e, rfl⟩
  | ok words => exact Or.inr rfl

theorem Command.ofName?_name (c : Command) : Command.ofName? c.name = some c := by
  cases c <;> decide

/-- **What stands behind the name of a command is read by the command**, and nothing is left over if
it is not refused. -/
theorem read_of_request {config : Config} {c : Command} {args : List String} {inv : Invocation}
    (h : request config (c.name :: args) = .ok inv) : c.read config args = .ok (inv, []) := by
  obtain ⟨g, hg, h⟩ := exists_of_bind_eq_ok h
  rcases findings_name c args with ⟨e, hfindings⟩ | hfindings
  · rw [hfindings] at hg
    cases hg
  · rw [hfindings, collectMain, List.headD_cons, List.drop_succ_cons, List.drop_zero] at hg
    simp only [Command.ofName?_name] at hg
    split at hg
    · cases hg
    · rename_i invocation left hread
      obtain rfl := Except.ok.inj hg
      cases left with
      | nil =>
        obtain rfl : invocation = inv := Except.ok.inj h
        exact hread
      | cons text left => cases h

/-- Operands of the program are arguments of it. -/
theorem subset_of_operands_mem_findings {args texts : List String}
    (h : .operands texts ∈ i.findings args) : texts ⊆ args := by
  rw [Interface.findings] at h
  split at h
  · cases List.mem_singleton.mp h
  · rename_i arguments harguments
    rw [← map_text_of_classifyAll harguments]
    exact subset_of_operands_mem_scan h

/-- Operands that name a command stand behind its name. -/
theorem Command.exists_of_ofName? {c : Command} {texts : List String}
    (h : Command.ofName? (texts.headD "") = some c) : ∃ words, texts = c.name :: words := by
  have hname : c.name = texts.headD "" := by simpa using List.find?_some h
  cases texts with
  | nil => cases c <;> exact absurd hname (by decide)
  | cons name words =>
    obtain rfl : c.name = name := hname
    exact ⟨words, rfl⟩

theorem exists_read_of_collectMain {config : Config} {findings : List Finding}
    {g g' : MainGiven} (h : collectMain config g findings = .ok g') :
    g'.invocation = g.invocation ∨
      ∃ (c : Command) (texts left : List String) (inv : Invocation),
        .operands texts ∈ findings ∧ Command.ofName? (texts.headD "") = some c ∧
        c.read config (texts.drop 1) = .ok (inv, left) ∧ g'.invocation = some inv := by
  induction findings generalizing g with
  | nil =>
    obtain rfl := Except.ok.inj h
    exact Or.inl rfl
  | cons f findings ih =>
    -- what the other findings ask for, in the place of what was asked for before
    have hrest : ∀ {g₁ : MainGiven}, collectMain config g₁ findings = .ok g' →
        g'.invocation = g₁.invocation ∨
          ∃ (c : Command) (texts left : List String) (inv : Invocation),
            .operands texts ∈ f :: findings ∧ Command.ofName? (texts.headD "") = some c ∧
            c.read config (texts.drop 1) = .ok (inv, left) ∧ g'.invocation = some inv := by
      intro g₁ h
      rcases ih h with hsame | ⟨c, texts, left, inv, hmem, hread⟩
      · exact Or.inl hsame
      · exact Or.inr ⟨c, texts, left, inv, List.mem_cons_of_mem _ hmem, hread⟩
    cases f with
    | given o spelling value =>
      rw [collectMain] at h
      split at h
      · cases h
      · exact (hrest h :)
    | operands texts =>
      rw [collectMain] at h
      split at h
      · cases h
      · rename_i c hc
        split at h
        · cases h
        · rename_i inv left hread
          rcases hrest h with hsame | hlater
          · exact Or.inr ⟨c, texts, left, inv, List.mem_cons_self, hc, hread, hsame⟩
          · exact Or.inr hlater
    | extra text =>
      rw [collectMain] at h
      exact (hrest h :)
    | wrong e => cases h

/-- **What is asked for is asked by a command**, from the arguments behind its name. -/
theorem exists_read_of_request {config : Config} {args : List String} {inv : Invocation}
    (h : request config args = .ok inv) :
    ∃ (c : Command) (words left : List String), c.name :: words ⊆ args ∧
      c.read config words = .ok (inv, left) := by
  obtain ⟨⟨version, invocation, extras⟩, hcollect, h⟩ := exists_of_bind_eq_ok h
  obtain rfl : invocation = some inv := by
    cases extras with
    | cons text extras => cases h
    | nil =>
      cases version with
      | true => cases h
      | false =>
        cases invocation with
        | none => cases h
        | some inv' => rw [show inv' = inv from Except.ok.inj h]
  rcases exists_read_of_collectMain hcollect with
    hnone | ⟨c, texts, left, inv', hmem, hc, hread, hinv⟩
  · cases hnone
  · obtain rfl := Option.some.inj hinv
    obtain ⟨words, rfl⟩ := Command.exists_of_ofName? hc
    exact ⟨c, words, left, subset_of_operands_mem_findings hmem, hread⟩

/-- **The configuration counts for nothing but what the command reads.** -/
theorem request_congr {config config' : Config} {c : Command} {args : List String}
    (h : c.read config args = c.read config' args) :
    request config (c.name :: args) = request config' (c.name :: args) := by
  have hcollect : collectMain config ⟨false, none, []⟩ (mainInterface.findings (c.name :: args)) =
      collectMain config' ⟨false, none, []⟩ (mainInterface.findings (c.name :: args)) := by
    rcases findings_name c args with ⟨e, hfindings⟩ | hfindings
    · rw [hfindings]
      rfl
    · simp only [hfindings, collectMain, List.headD_cons, List.drop_succ_cons, List.drop_zero,
        Command.ofName?_name, h]
  rw [request, hcollect, request]

/-- A request of a file has one. -/
theorem Command.file_ne_none_of_request {c : Command} {d : Defaults} {r : Request}
    (hc : c.interface.operands = .file) (h : c.request d g = .ok r) : g.file ≠ none := by
  intro hnone
  have hrequire : ∀ {α : Type} (next : String → Except UsageError α) a,
      (requireFile g.file).bind next ≠ .ok a := by
    intro α next a hok
    rw [hnone] at hok
    cases hok
  cases c with
  | generate =>
    obtain ⟨count, -, h⟩ := exists_of_bind_eq_ok h
    obtain ⟨seed, -, h⟩ := exists_of_bind_eq_ok h
    exact hrequire _ _ h
  | symbols => exact hrequire _ _ h
  | interactive =>
    obtain ⟨seed, -, h⟩ := exists_of_bind_eq_ok h
    exact hrequire _ _ h
  | config => cases hc

/-- **A command line that is written out means what it says**, unless it is refused. -/
theorem exists_takeAll_of_request {config : Config} {c : Command}
    (hc : c.interface.operands = .file) {file : String} {ws : List WrittenOption}
    (hws : ∀ w ∈ ws, w.Fits c.interface.options) (hlong : 2 ≤ (wordsOf ws).length)
    {inv : Invocation} (h : request config (c.line file ws) = .ok inv) :
    ∃ g, { Given.empty with file := some file }.takeAll ws = .ok g ∧
      c.request (.ofConfig config c) g = .ok inv.request := by
  have hread := read_of_request h
  obtain ⟨g, hcollect, hread⟩ := exists_of_bind_eq_ok hread
  obtain ⟨r, hrequest, hread⟩ := exists_of_bind_eq_ok hread
  obtain ⟨rfl, hextras⟩ := Prod.mk.inj (Except.ok.inj hread)
  have hrequest := eq_ok_of_mapError hrequest
  have hfile := Command.file_ne_none_of_request hc hrequest
  refine ⟨g, ?_, hrequest⟩
  rw [Interface.findings, hc] at hcollect
  split at hcollect
  · cases hcollect
  · exact takeAll_of_collect_file hws hlong ‹_› hcollect hextras hfile

end SentenceGen.Cli
