import Mathlib.Data.List.Basic
import SentenceGen.Proofs.Cli.CommandLine

/-!
# Log levels on a command line

A log level can be given in many ways: as a word behind the option or within the word of the option,
in any of its spellings, shortened or joined with other letters, and anywhere among the arguments.
`GivesLevel` says of words that depend on a level that they give it, whichever way.

Where such words stand for the last level that is given, the level decides about nothing else.
Whatever stands in front of them and behind them, either the arguments are refused at every level in
the same way, or they make the same request at every level, with this level beside it. Both are said
at once by a result to which the level is put (`request_of_givesLevel`).
-/

namespace SentenceGen.Cli

variable {options : List OptionSpec} {words : String → List String} {front back : List String}
  {level : String}

/-! ### Arguments one after the other -/

theorem classifyAll_cons {text : String} (hne : text ≠ "--") (rest : List String) :
    classifyAll options (text :: rest) = (classify options text).bind fun word =>
      (classifyAll options rest).map (⟨text, word⟩ :: ·) := by
  rw [classifyAll, if_neg (by simpa using hne)]
  rfl

/-- In front of a `--` every argument is told apart by itself. -/
theorem classifyAll_append (hfront : "--" ∉ front) (back : List String) :
    classifyAll options (front ++ back) = (classifyAll options front).bind fun arguments =>
      (classifyAll options back).map (arguments ++ ·) := by
  induction front with
  | nil =>
    rw [List.nil_append, classifyAll]
    cases classifyAll options back <;> rfl
  | cons text front ih =>
    rw [List.mem_cons, not_or] at hfront
    rw [List.cons_append, classifyAll_cons (Ne.symm hfront.1), ih hfront.2,
      classifyAll_cons (Ne.symm hfront.1)]
    cases classify options text with
    | error e => rfl
    | ok word =>
      cases classifyAll options front with
      | error e => rfl
      | ok arguments => cases classifyAll options back <;> rfl

/-- Arguments that are told apart by themselves are told apart between others. -/
theorem classifyAll_middle {middle : List String} {arguments : List Argument}
    (hfront : "--" ∉ front) (hmiddle : "--" ∉ middle)
    (h : classifyAll options middle = .ok arguments) (back : List String) :
    classifyAll options (front ++ middle ++ back) =
      (classifyAll options front).bind fun before =>
        (classifyAll options back).map fun after => before ++ (arguments ++ after) := by
  rw [List.append_assoc, classifyAll_append hfront, classifyAll_append hmiddle, h]
  cases classifyAll options front with
  | error e => rfl
  | ok before => cases classifyAll options back <;> rfl

theorem ne_dashes_of_classify {text : String} {word : Word}
    (h : classify options text = .ok word) : word ≠ .dashes := by
  rintro rfl
  unfold classify at h
  grind

theorem ne_dashes_of_classifyAll {arguments : List Argument} (hfront : "--" ∉ front)
    (h : classifyAll options front = .ok arguments) : ∀ a ∈ arguments, a.word ≠ .dashes := by
  induction front generalizing arguments with
  | nil =>
    obtain rfl := Except.ok.inj h
    simp
  | cons text front ih =>
    rw [List.mem_cons, not_or] at hfront
    obtain ⟨word, words, hword, hwords, rfl⟩ := exists_of_classifyAll (Ne.symm hfront.1) h
    exact List.forall_mem_cons.mpr ⟨ne_dashes_of_classify hword, ih hfront.2 hwords⟩

/-! ### Findings in front of an option -/

/-- The argument is an option. -/
def Argument.IsOption (a : Argument) : Prop :=
  ∃ o spelling attached, a.word = .option o spelling attached

/-- This is found in arguments that stand in front of an option: either something is wrong there, so
that the option is not looked at, or the option and what stands behind it are found as they are by
themselves, where some operands are still expected. -/
def FoundBefore (options : List OptionSpec) (operands : Operands) (arguments : List Argument)
    (findings : List Finding) : Prop :=
  (∃ e, ∀ a : Argument, a.IsOption → ∀ back,
    scan options operands (arguments ++ a :: back) = findings ++ [.wrong e]) ∨
  ∃ operands', operands' ≠ .command ∧ ∀ a : Argument, a.IsOption → ∀ back,
    scan options operands (arguments ++ a :: back) =
      findings ++ scan options operands' (a :: back)

/-- What is found first stands in front. -/
theorem FoundBefore.cons {operands operands' : Operands} {arguments rest : List Argument}
    {first findings : List Finding} (h : FoundBefore options operands' rest findings)
    (hfirst : ∀ a : Argument, a.IsOption → ∀ back,
      scan options operands (arguments ++ a :: back) =
        first ++ scan options operands' (rest ++ a :: back)) :
    FoundBefore options operands arguments (first ++ findings) := by
  rcases h with ⟨e, hwrong⟩ | ⟨left, hleft, hrest⟩
  · refine .inl ⟨e, fun a ha back => ?_⟩
    rw [hfirst a ha, hwrong a ha, List.append_assoc]
  · refine .inr ⟨left, hleft, fun a ha back => ?_⟩
    rw [hfirst a ha, hrest a ha, List.append_assoc]

/-- **What stands in front of an option is found by itself**, as long as there is no `--`. -/
theorem exists_foundBefore (options : List OptionSpec) {operands : Operands}
    (hoperands : operands ≠ .command) {arguments : List Argument}
    (hdashes : ∀ a ∈ arguments, a.word ≠ .dashes) :
    ∃ findings, FoundBefore options operands arguments findings := by
  fun_induction scan options operands arguments with
  | case1 operands => exact ⟨[], .inr ⟨operands, hoperands, fun _ _ _ => rfl⟩⟩
  | case2 operands text o spelling attached rest e hexpand =>
    refine ⟨[], .inl ⟨e, fun a _ back => ?_⟩⟩
    rw [List.cons_append, scan, hexpand]
    rfl
  | case3 operands text o spelling attached rest findings hexpand ih =>
    obtain ⟨more, hmore⟩ := ih hoperands (List.forall_mem_cons.mp hdashes).2
    refine ⟨findings ++ more, hmore.cons fun a _ back => ?_⟩
    rw [List.cons_append, scan, hexpand]
  | case4 operands text o spelling attached findings waiting letter hexpand value rest ih =>
    obtain ⟨-, -, hrest⟩ := List.forall_mem_cons.mp hdashes |>.imp id List.forall_mem_cons.mp
    obtain ⟨more, hmore⟩ := ih hoperands hrest
    refine ⟨findings ++ [.given waiting letter (some value)] ++ more, hmore.cons fun a _ back => ?_⟩
    rw [List.cons_append, List.cons_append, scan, hexpand, List.append_assoc]
    rfl
  | case5 operands text o spelling attached rest findings waiting letter hexpand hvalue =>
    -- the argument that it waits for is not there, as an option is none
    refine ⟨[], .inl ⟨.argumentExpected waiting, fun a ha back => ?_⟩⟩
    rw [List.cons_append, scan, hexpand]
    obtain ⟨o', spelling', attached', hword⟩ := ha
    cases rest with
    | nil =>
      obtain ⟨text', word'⟩ := a
      obtain rfl : word' = .option o' spelling' attached' := hword
      rfl
    | cons b rest =>
      obtain ⟨text', word'⟩ := b
      cases word' with
      | operand => exact absurd rfl (hvalue text' rest)
      | dashes | option | unknownOption => rfl
  | case6 operands text rest ih =>
    obtain ⟨more, hmore⟩ := ih hoperands (List.forall_mem_cons.mp hdashes).2
    refine ⟨[.extra text] ++ more, hmore.cons fun a _ back => ?_⟩
    rw [List.cons_append, scan]
    rfl
  | case7 | case8 | case9 => exact absurd rfl hoperands
  | case10 text text' rest ih => exact absurd rfl (hdashes ⟨text', .dashes⟩ (by simp))
  | case11 text rest hrest ih =>
    obtain ⟨more, hmore⟩ := ih Operands.noConfusion (List.forall_mem_cons.mp hdashes).2
    refine ⟨[.operands [text]] ++ more, hmore.cons fun a ha back => ?_⟩
    have hnext : ∀ text' later, rest ++ a :: back = ⟨text', .dashes⟩ :: later → False := by
      rintro text' later heq
      obtain ⟨o, spelling, attached, hword⟩ := ha
      cases rest with
      | nil => simp [(List.cons.inj heq).1] at hword
      | cons b rest => exact hrest text' rest (by rw [(List.cons.inj heq).1])
    rw [List.cons_append, scan]
    · rfl
    · exact hnext
  | case12 text file rest ih => exact absurd rfl (hdashes ⟨text, .dashes⟩ (by simp))
  | case13 operands text word rest hoption hunknown _ _ _ hfile _ ih =>
    obtain ⟨hword, hrest⟩ := List.forall_mem_cons.mp hdashes
    obtain ⟨more, hmore⟩ := ih hoperands hrest
    refine ⟨[.extra text] ++ more, hmore.cons fun a _ back => ?_⟩
    -- an operand where none is expected
    cases word with
    | operand =>
      cases operands with
      | nothing => rfl
      | file => exact (hfile rfl rfl).elim
      | command => exact absurd rfl hoperands
    | dashes => exact absurd rfl hword
    | option o spelling attached => exact (hoption o spelling attached rfl).elim
    | unknownOption => exact (hunknown rfl).elim

/-! ### Words that give a level -/

/-- The words give the level that they depend on: as the word behind an option that waits for it, or
within the word of the option, behind which nothing is waited for. Other options may be joined with
it in front. -/
inductive GivesLevel (options : List OptionSpec) : (words : String → List String) → Prop
  | behind {word spelling letter : String} {o : OptionSpec} {attached : Attachment}
      {findings : List Finding} (hword : classify options word = .ok (.option o spelling attached))
      (hexpand : expandOption options o spelling attached =
        .ok (findings, some (logLevelOption, letter))) :
      GivesLevel options fun level => [word, level]
  | within {word : String → String} {letter : String} {findings : List Finding}
      (h : ∀ level ∈ logLevels, ∃ o spelling attached,
        classify options (word level) = .ok (.option o spelling attached) ∧
          expandOption options o spelling attached =
            .ok (findings ++ [.given logLevelOption letter (some level)], none)) :
      GivesLevel options fun level => [word level]

/-- A level that is attached to the option itself. -/
theorem GivesLevel.of_attached {word : String → String} (spelling : String)
    (attached : String → Attachment)
    (hword : ∀ level ∈ logLevels,
      classify options (word level) = .ok (.option logLevelOption spelling (attached level)))
    (hattached : ∀ level ∈ logLevels, expandOption options logLevelOption spelling
      (attached level) = .ok ([.given logLevelOption spelling (some level)], none)) :
    GivesLevel options fun level => [word level] :=
  @within options word spelling [] fun level hlevel =>
    ⟨_, _, _, hword level hlevel, hattached level hlevel⟩

/-- **The usual ways to give a level**, in either spelling. -/
theorem Command.givesLevel {c : Command} (hc : c.interface.operands = .file) :
    GivesLevel c.interface.options (fun level => ["-l", level]) ∧
      GivesLevel c.interface.options (fun level => ["-l" ++ level]) ∧
      GivesLevel c.interface.options (fun level => ["--log-level", level]) ∧
      GivesLevel c.interface.options (fun level => ["--log-level=" ++ level]) := by
  cases c with
  | config => cases hc
  | generate | symbols | interactive =>
    refine ⟨.behind rfl rfl, .of_attached "-l" (fun level => .glued level.toList) ?_ ?_,
      .behind rfl rfl, .of_attached "--log-level" (fun level => .equals level.toList) ?_ ?_⟩
    all_goals decide +kernel

/-- A level is no option, and no `--`. -/
theorem classify_of_mem_logLevels (options : List OptionSpec) (h : level ∈ logLevels) :
    classify options level = .ok .operand ∧ level ≠ "--" := by
  simp only [logLevels, List.mem_cons, List.not_mem_nil, or_false] at h
  rcases h with rfl | rfl | rfl | rfl <;> exact ⟨rfl, by decide⟩

/-- Two hyphens may be short for several options of a command with a file. -/
theorem exists_classify_dashes {c : Command} (hc : c.interface.operands = .file) :
    ∃ e, classify c.interface.options "--" = .error e := by
  cases c with
  | config => cases hc
  | generate | symbols | interactive => exact ⟨_, rfl⟩

/-- **What words that give a level are read as**, whatever stands behind them: an option comes
first, the level is found once, and nothing else that is found depends on it. -/
theorem GivesLevel.exists_scan_eq (h : GivesLevel options words) {e : UsageError}
    (hdashes : classify options "--" = .error e) :
    ∃ findings letter, ∀ level ∈ logLevels, "--" ∉ words level ∧ ∃ a rest,
      a.IsOption ∧ classifyAll options (words level) = .ok (a :: rest) ∧
        ∀ operands back, scan options operands (a :: (rest ++ back)) =
          findings ++ .given logLevelOption letter (some level) :: scan options operands back := by
  -- an option is read, so it is no `--`
  have hne : ∀ {text : String} {word : Word}, classify options text = .ok word → text ≠ "--" := by
    rintro text word hword rfl
    rw [hdashes] at hword
    cases hword
  cases h with
  | @behind word spelling letter o attached findings hword hexpand =>
    refine ⟨findings, letter, fun level hlevel => ?_⟩
    obtain ⟨hoperand, hlevelne⟩ := classify_of_mem_logLevels options hlevel
    refine ⟨by simp [Ne.symm (hne hword), Ne.symm hlevelne], ⟨word, .option o spelling attached⟩,
      [⟨level, .operand⟩], ⟨_, _, _, rfl⟩, ?_, fun operands back => ?_⟩
    · rw [classifyAll_cons (hne hword), classifyAll_cons hlevelne, hword, hoperand]
      rfl
    · rw [List.singleton_append, scan, hexpand]
  | @within word letter findings h =>
    refine ⟨findings, letter, fun level hlevel => ?_⟩
    obtain ⟨o, spelling, attached, hword, hexpand⟩ := h level hlevel
    refine ⟨by simp [Ne.symm (hne hword)], ⟨word level, .option o spelling attached⟩, [],
      ⟨_, _, _, rfl⟩, ?_, fun operands back => ?_⟩
    · rw [classifyAll_cons (hne hword), hword]
      rfl
    · rw [List.nil_append, scan, hexpand]
      exact List.append_assoc findings [_] _

/-! ### What the program tells apart -/

/-- Only an argument that several spellings may be meant by is not told apart. -/
theorem two_le_of_classify_eq_error {text : String} {e : UsageError}
    (h : classify options text = .error e) : 2 ≤ (candidates options text.toList).length := by
  rcases hseveral : candidates options text.toList with
    _ | ⟨⟨o, spelling, attached⟩, _ | ⟨second, more⟩⟩
  · unfold classify at h
    grind
  · unfold classify at h
    grind
  · simp

/-- How many candidates there are: the spellings that start with what is in front of `=`, or those
that are the letter. -/
theorem length_candidates (a b : Char) (s : List Char) :
    (candidates options (a :: b :: s)).length = (spellingsOf options).countP fun p =>
      if a = '-' ∧ b = '-' then (cutAtEquals (a :: b :: s)).1.isPrefixOf p.2.toList
      else p.2.toList == [a, b] := by
  by_cases hhyphens : a = '-' ∧ b = '-'
  · obtain ⟨rfl, rfl⟩ := hhyphens
    rw [candidates, List.length_filterMap_eq_countP]
    refine List.countP_congr fun p _ => ?_
    by_cases hp : (cutAtEquals ('-' :: '-' :: s)).1.isPrefixOf p.2.toList = true <;> simp [hp]
  · rw [candidates, List.length_filterMap_eq_countP]
    · refine List.countP_congr fun p _ => ?_
      by_cases hp : p.2.toList = [a, b] <;> simp [hhyphens, hp]
    · exact fun ha hb => hhyphens ⟨ha, hb⟩

theorem cutAtEquals_hyphens (s : List Char) :
    (cutAtEquals ('-' :: '-' :: s)).1 = '-' :: '-' :: s.takeWhile (· != '=') :=
  rfl

/-- The spellings of the program have no more in common than two hyphens. -/
theorem cutAtEquals_of_candidates_main {s : List Char}
    (h : 2 ≤ (candidates mainInterface.options s).length) :
    ∃ rest, s = '-' :: '-' :: rest ∧ (cutAtEquals s).1 = ['-', '-'] := by
  have hspellings : spellingsOf mainInterface.options = [(helpOption, "-h"), (helpOption, "--help"),
      (versionOption, "-v"), (versionOption, "--version")] := rfl
  rcases s with _ | ⟨a, _ | ⟨b, rest⟩⟩
  · simp [candidates] at h
  · simp [candidates] at h
  · rw [length_candidates, hspellings] at h
    by_cases hhyphens : a = '-' ∧ b = '-'
    · obtain ⟨rfl, rfl⟩ := hhyphens
      refine ⟨rest, rfl, ?_⟩
      rw [cutAtEquals_hyphens] at h ⊢
      cases hrest : rest.takeWhile (· != '=') with
      | nil => rfl
      | cons x more =>
        -- the next character would have to start both `help` and `version`
        have hnext : 2 ≤ (if x = 'v' ∧ more <+: ['e', 'r', 's', 'i', 'o', 'n'] then 1 else 0) +
            if x = 'h' ∧ more <+: ['e', 'l', 'p'] then 1 else 0 := by
          simpa [List.countP_cons, hrest] using h
        split_ifs at hnext with hversion hhelp
        · exact absurd (hversion.1.symm.trans hhelp.1) (by decide)
        all_goals omega
    · have hletter : 2 ≤ (if '-' = a ∧ 'v' = b then 1 else 0) +
          if '-' = a ∧ 'h' = b then 1 else 0 := by
        simpa [List.countP_cons, hhyphens] using h
      split_ifs at hletter with hversion hhelp
      · exact absurd (hversion.2.trans hhelp.2.symm) (by decide)
      all_goals omega

/-- An argument is not told apart if several spellings may be meant, and it is none itself. -/
theorem exists_classify_eq_error {text : String} {rest : List Char}
    (htext : text.toList = '-' :: '-' :: rest) (hwhole : findOption options text = none)
    (hfront : findOption options (String.ofList (cutAtEquals text.toList).1) = none)
    (hseveral : 2 ≤ (candidates options text.toList).length) :
    ∃ e, classify options text = .error e := by
  obtain ⟨first, second, more, hcandidates⟩ : ∃ first second more,
      candidates options text.toList = first :: second :: more := by
    match candidates options text.toList, hseveral with
    | first :: second :: more, _ => exact ⟨first, second, more, rfl⟩
  have hhead : text.toList.head? = some '-' := by rw [htext, List.head?_cons]
  have hlength : text.toList.length ≠ 1 := by simp [htext]
  refine ⟨.ambiguousOption text ((first :: second :: more).map (·.2.1)), ?_⟩
  simp only [classify, hhead, hwhole, hfront, hcandidates, bne_self_eq_false, Bool.false_eq_true,
    if_false, beq_iff_eq, hlength]
  cases (cutAtEquals text.toList).2 <;> rfl

theorem findOption_eq_none {text : String}
    (h : ∀ p ∈ spellingsOf options, (cutAtEquals p.2.toList).1 ≠ (cutAtEquals text.toList).1) :
    findOption options text = none := by
  refine List.find?_eq_none.mpr fun o ho hcontains => ?_
  refine h (o, text) ?_ rfl
  exact List.mem_flatMap.mpr ⟨o, ho, List.mem_map.mpr ⟨text, by simpa using hcontains, rfl⟩⟩

/-- **What a command tells apart, the program tells apart**, as each command with a file has several
spellings that start with two hyphens. -/
theorem exists_classify_main {c : Command} (hc : c.interface.operands = .file) {text : String}
    {word : Word} (h : classify c.interface.options text = .ok word) :
    ∃ word', classify mainInterface.options text = .ok word' := by
  cases hmain : classify mainInterface.options text with
  | ok word' => exact ⟨word', rfl⟩
  | error e =>
    obtain ⟨rest, htext, hfront⟩ :=
      cutAtEquals_of_candidates_main (two_le_of_classify_eq_error hmain)
    have hspellings : ∀ p ∈ spellingsOf c.interface.options,
        (cutAtEquals p.2.toList).1 ≠ ['-', '-'] := by
      cases c <;> decide +kernel
    have hseveral : 2 ≤ (candidates c.interface.options text.toList).length := by
      rw [htext] at hfront ⊢
      rw [length_candidates]
      simp only [hfront]
      cases c with
      | config => cases hc
      | generate | symbols | interactive => decide +kernel
    obtain ⟨e', herror⟩ := exists_classify_eq_error htext
      (findOption_eq_none fun p hp => hfront ▸ hspellings p hp)
      (findOption_eq_none fun p hp => by
        rw [hfront]
        exact hspellings p hp) hseveral
    rw [herror] at h
    cases h

/-- So words that give a level to a command are told apart by the program. -/
theorem GivesLevel.exists_classifyAll_main {c : Command} (hc : c.interface.operands = .file)
    (h : GivesLevel c.interface.options words) (hlevel : level ∈ logLevels) :
    ∃ arguments, classifyAll mainInterface.options (words level) = .ok arguments := by
  have hsingle : ∀ {text : String} {word : Word},
      classify c.interface.options text = .ok word → ∀ rest arguments,
        classifyAll mainInterface.options rest = .ok arguments →
        ∃ arguments, classifyAll mainInterface.options (text :: rest) = .ok arguments := by
    intro text word hword rest arguments hrest
    by_cases hdashes : text = "--"
    · exact ⟨_, by rw [classifyAll, if_pos (by simpa using hdashes)]⟩
    · obtain ⟨word', hmain⟩ := exists_classify_main hc hword
      exact ⟨_, by rw [classifyAll_cons hdashes, hmain, hrest]; rfl⟩
  cases h with
  | @behind word spelling letter o attached findings hword hexpand =>
    obtain ⟨hoperand, -⟩ := classify_of_mem_logLevels c.interface.options hlevel
    obtain ⟨arguments, hrest⟩ := hsingle hoperand [] [] rfl
    exact hsingle hword [level] arguments hrest
  | @within word letter findings h =>
    obtain ⟨o, spelling, attached, hword, -⟩ := h level hlevel
    exact hsingle hword [] [] rfl

/-! ### What is found -/

/-- No level is given. -/
def LevelFree (findings : List Finding) : Prop :=
  ∀ o spelling value, .given o spelling value ∈ findings → o.role ≠ .logLevel

/-- What options give does not depend on the operands that are expected. -/
theorem given_mem_scan_iff {operands : Operands} (hoperands : operands ≠ .command)
    {arguments : List Argument} {o : OptionSpec} {spelling : String} {value : Option String} :
    .given o spelling value ∈ scan options operands arguments ↔
      .given o spelling value ∈ scan options .nothing arguments := by
  have hextra : ∀ (text : String) (word : Word) (rest : List Argument),
      word = .operand ∨ word = .dashes →
      (.given o spelling value ∈ scan options .nothing (⟨text, word⟩ :: rest) ↔
        .given o spelling value ∈ scan options .nothing rest) := by
    rintro text word rest (rfl | rfl) <;> simp [scan]
  fun_induction scan options operands arguments with
  | case1 => simp [scan]
  | case2 operands text o' spelling' attached rest e hexpand => simp [scan, hexpand]
  | case3 operands text o' spelling' attached rest findings hexpand ih =>
    simp only [scan, hexpand, List.mem_append, ih hoperands]
  | case4 operands text o' spelling' attached findings waiting letter hexpand value' rest ih =>
    simp only [scan, hexpand, List.mem_append, List.mem_cons, ih hoperands]
  | case5 operands text o' spelling' attached rest findings waiting letter hexpand hvalue =>
    simp only [scan, hexpand]
  | case6 operands text rest ih => simp only [scan, List.mem_cons, ih hoperands]
  | case7 | case8 | case9 => exact absurd rfl hoperands
  | case10 text text' rest ih =>
    rw [hextra _ _ _ (.inl rfl), hextra _ _ _ (.inr rfl)]
    simp
  | case11 text rest hrest ih =>
    rw [hextra _ _ _ (.inl rfl)]
    simp
  | case12 text file rest ih =>
    rw [hextra _ _ _ (.inr rfl), hextra _ _ _ (.inl rfl)]
    simp
  | case13 operands text word rest hoption hunknown _ _ _ hfile _ ih =>
    have hword : word = .operand ∨ word = .dashes := by
      cases word with
      | operand => exact .inl rfl
      | dashes => exact .inr rfl
      | option o spelling attached => exact (hoption o spelling attached rfl).elim
      | unknownOption => exact (hunknown rfl).elim
    rw [hextra _ _ _ hword]
    exact Iff.trans (by simp) (ih hoperands)

theorem levelFree_scan {operands : Operands} (hoperands : operands ≠ .command)
    {arguments : List Argument} (h : LevelFree (scan options .file arguments)) :
    LevelFree (scan options operands arguments) := by
  intro o spelling value hmem
  refine h o spelling value ?_
  rw [given_mem_scan_iff Operands.noConfusion]
  exact (given_mem_scan_iff hoperands).mp hmem

/-- **What is found** where words give a level. Either something is wrong in front of it, or the
level is found, with the same in front of it at every level and the same behind it. -/
theorem findings_of_givesLevel {c : Command} (hc : c.interface.operands = .file)
    (hwords : GivesLevel c.interface.options words) (hfront : "--" ∉ front)
    (hback : LevelFree (c.interface.findings back)) :
    (∃ findings e, ∀ level ∈ logLevels,
      c.interface.findings (front ++ words level ++ back) = findings ++ [.wrong e]) ∨
    ∃ before letter after, LevelFree after ∧ ∀ level ∈ logLevels,
      c.interface.findings (front ++ words level ++ back) =
        before ++ .given logLevelOption letter (some level) :: after := by
  obtain ⟨e, hdashes⟩ := exists_classify_dashes hc
  obtain ⟨found, letter, hfound⟩ := hwords.exists_scan_eq hdashes
  simp only [Interface.findings, hc] at hback ⊢
  cases hbefore : classifyAll c.interface.options front with
  | error e =>
    refine .inl ⟨[], e, fun level hlevel => ?_⟩
    obtain ⟨hwords, a, rest, -, harguments, -⟩ := hfound level hlevel
    simp only [classifyAll_middle hfront hwords harguments, hbefore]
    rfl
  | ok before =>
    cases hafter : classifyAll c.interface.options back with
    | error e =>
      refine .inl ⟨[], e, fun level hlevel => ?_⟩
      obtain ⟨hwords, a, rest, -, harguments, -⟩ := hfound level hlevel
      simp only [classifyAll_middle hfront hwords harguments, hbefore, hafter]
      rfl
    | ok after =>
      have harguments : ∀ level ∈ logLevels, ∃ a rest, a.IsOption ∧
          classifyAll c.interface.options (front ++ words level ++ back) =
            .ok (before ++ a :: (rest ++ after)) ∧
          ∀ operands, scan c.interface.options operands (a :: (rest ++ after)) =
            found ++ .given logLevelOption letter (some level) ::
              scan c.interface.options operands after := by
        intro level hlevel
        obtain ⟨hwords, a, rest, ha, harguments, hscan⟩ := hfound level hlevel
        refine ⟨a, rest, ha, ?_, fun operands => hscan operands after⟩
        rw [classifyAll_middle hfront hwords harguments, hbefore, hafter]
        rfl
      rw [hafter] at hback
      obtain ⟨findings, hwrong | ⟨operands, hoperands, hrest⟩⟩ := exists_foundBefore
        c.interface.options (Operands.noConfusion : Operands.file ≠ .command)
        (ne_dashes_of_classifyAll hfront hbefore)
      · obtain ⟨e, hwrong⟩ := hwrong
        refine .inl ⟨findings, e, fun level hlevel => ?_⟩
        obtain ⟨a, rest, ha, harguments, -⟩ := harguments level hlevel
        simp only [harguments, hwrong a ha]
      · refine .inr ⟨findings ++ found, letter, scan c.interface.options operands after,
          levelFree_scan hoperands hback, fun level hlevel => ?_⟩
        obtain ⟨a, rest, ha, harguments, hscan⟩ := harguments level hlevel
        simp only [harguments]
        rw [hrest a ha, hscan operands, List.append_assoc]

/-! ### What is read -/

section Reading

variable {i : Interface} {help? : Option String} {g : Given} {findings : List Finding}

/-- Where something is wrong, nothing is given. -/
theorem exists_collect_wrong (i : Interface) (help? : Option String) (g : Given)
    (findings : List Finding) (e : UsageError) :
    ∃ refusal, collect i help? g (findings ++ [.wrong e]) = .error refusal := by
  rw [collect_append]
  cases collect i help? g findings with
  | error refusal => exact ⟨refusal, rfl⟩
  | ok g' => exact ⟨_, rfl⟩

/-- An option other than that for the level leaves the level alone, and does not look at it. -/
theorem Given.take_of_role_ne {o : OptionSpec} (ho : o.role ≠ .logLevel) (g : Given)
    (spelling value : String) (level : Option String) :
    { g with level := level }.take o spelling value =
      (g.take o spelling value).map fun g => { g with level := level } := by
  unfold take
  cases hrole : o.role with
  | count | seed => cases readInteger o value <;> rfl
  | logLevel => exact absurd hrole ho
  | symbol | tree | pretty | output | help | version => rfl

/-- So it goes for findings that give no level. -/
theorem collect_of_levelFree (h : LevelFree findings) (g : Given) (level : Option String) :
    collect i help? { g with level := level } findings =
      (collect i help? g findings).map fun g => { g with level := level } := by
  induction findings generalizing g with
  | nil => rfl
  | cons f findings ih =>
    have ih := ih fun o spelling value hmem => h o spelling value (.tail _ hmem)
    cases f with
    | given o spelling value =>
      rw [collect, collect, Given.take_of_role_ne (h o spelling value (.head _))]
      split
      · rfl
      · cases g.take o spelling (value.getD "") with
        | error e => rfl
        | ok g' => exact ih g'
    | operands texts => exact ih { g with file := texts.head? }
    | extra text => exact ih { g with extras := g.extras ++ [text] }
    | wrong e => rfl

/-- **What is given besides the level does not depend on it.** -/
theorem collect_level (i : Interface) (help? : Option String) (g : Given) (before : List Finding)
    {after : List Finding} (hafter : LevelFree after) (letter : String) :
    ∃ r : Except Refusal Given, ∀ level ∈ logLevels,
      collect i help? g (before ++ .given logLevelOption letter (some level) :: after) =
        r.map fun g => { g with level := some level } := by
  refine ⟨(collect i help? g before).bind fun g => collect i help? g after, fun level hlevel => ?_⟩
  rw [collect_append]
  cases collect i help? g before with
  | error refusal => rfl
  | ok g' =>
    have htake : g'.take logLevelOption letter level = .ok { g' with level := some level } :=
      if_pos (List.contains_iff_mem.mpr hlevel)
    change collect i help? g' _ = (collect i help? g' after).map _
    rw [← collect_of_levelFree hafter, collect, if_neg (by decide), Option.getD_some, htake]

end Reading

section Requests

variable {c : Command}

/-- A request does not depend on the level. -/
theorem Command.request_level (c : Command) (d : Defaults) (g : Given) (level : Option String) :
    c.request d { g with level := level } = c.request d g := by
  cases c <;> rfl

/-- **What a command reads** where words give a level is the same at every level, with this level
beside it: the arguments are refused, or there is a request, and something may be left over. -/
theorem read_of_givesLevel (config : Config) (hc : c.interface.operands = .file)
    (hwords : GivesLevel c.interface.options words) (hfront : "--" ∉ front)
    (hback : LevelFree (c.interface.findings back)) :
    ∃ read : Except Refusal (Request × List String), ∀ level ∈ logLevels,
      c.read config (front ++ words level ++ back) =
        read.map fun (r, left) => (⟨r, .text level⟩, left) := by
  let d := Defaults.ofConfig config c
  let help? := c.help? d
  have hread : ∀ args, c.read config args =
      (collect c.interface help? .empty (c.interface.findings args)).bind fun g =>
        ((c.request d g).mapError c.interface.refuse).bind fun r =>
          .ok (⟨r, (g.level.map OptionValue.text).getD d.level⟩, g.extras) := fun _ => rfl
  rcases findings_of_givesLevel hc hwords hfront hback with
    ⟨findings, e, hwrong⟩ | ⟨before, letter, after, hafter, hfindings⟩
  · obtain ⟨refusal, hrefusal⟩ := exists_collect_wrong c.interface help? .empty findings e
    refine ⟨.error refusal, fun level hlevel => ?_⟩
    rw [hread, hwrong level hlevel, hrefusal]
    rfl
  · obtain ⟨given, hgiven⟩ := collect_level c.interface help? .empty before hafter letter
    refine ⟨given.bind fun g => ((c.request d g).mapError c.interface.refuse).map (·, g.extras),
      fun level hlevel => ?_⟩
    rw [hread, hfindings level hlevel, hgiven level hlevel]
    cases given with
    | error refusal => rfl
    | ok g =>
      change ((c.request d { g with level := some level }).mapError _).bind _ =
        (((c.request d g).mapError _).map _).map _
      rw [Command.request_level]
      cases c.request d g <;> rfl

/-- **What the program reads** behind the name of a command is what the command reads, unless the
program cannot tell it apart or something is left over. -/
theorem request_name (config : Config) (c : Command) (args : List String) :
    request config (c.name :: args) =
      ((classifyAll mainInterface.options args).mapError mainInterface.refuse).bind fun _ =>
        (c.read config args).bind fun (inv, left) =>
          if left.isEmpty then .ok inv else .error (mainInterface.refuse (.unrecognized left)) := by
  rw [request, findings_name_eq]
  cases classifyAll mainInterface.options args with
  | error e => rfl
  | ok arguments =>
    simp only [collectMain, List.headD_cons, List.drop_succ_cons, List.drop_zero,
      Command.ofName?_name]
    cases c.read config args with
    | error refusal => rfl
    | ok read =>
      obtain ⟨inv, left⟩ := read
      cases left <;> rfl

/-- **A level decides about nothing but the level.** Where words give one, and no other is given
behind them, what the arguments ask for is the same at every level, with this level beside it, be it
a refusal or a request. -/
theorem request_of_givesLevel (config : Config) (hc : c.interface.operands = .file)
    (hwords : GivesLevel c.interface.options words) (hfront : "--" ∉ front)
    (hback : LevelFree (c.interface.findings back)) :
    ∃ asked : Except Refusal Request, ∀ level ∈ logLevels,
      request config (c.name :: (front ++ words level ++ back)) =
        asked.map (⟨·, .text level⟩) := by
  obtain ⟨e, hdashes⟩ := exists_classify_dashes hc
  obtain ⟨_, _, hwordsne⟩ := hwords.exists_scan_eq hdashes
  obtain ⟨read, hread⟩ := read_of_givesLevel config hc hwords hfront hback
  -- the program tells the words apart at every level
  have hmain : ∀ level ∈ logLevels, ∃ arguments,
      classifyAll mainInterface.options (front ++ words level ++ back) =
        (classifyAll mainInterface.options front).bind fun before =>
          (classifyAll mainInterface.options back).map fun after =>
            before ++ (arguments ++ after) := by
    intro level hlevel
    obtain ⟨arguments, harguments⟩ := hwords.exists_classifyAll_main hc hlevel
    exact ⟨arguments, classifyAll_middle hfront (hwordsne level hlevel).1 harguments back⟩
  refine ⟨((classifyAll mainInterface.options front).bind fun _ =>
      classifyAll mainInterface.options back).mapError mainInterface.refuse |>.bind fun _ =>
      read.bind fun (r, left) =>
        if left.isEmpty then .ok r else .error (mainInterface.refuse (.unrecognized left)),
    fun level hlevel => ?_⟩
  obtain ⟨arguments, harguments⟩ := hmain level hlevel
  rw [request_name, harguments, hread level hlevel]
  cases classifyAll mainInterface.options front with
  | error e => rfl
  | ok before =>
    cases classifyAll mainInterface.options back with
    | error e => rfl
    | ok after =>
      rcases read with refusal | ⟨r, left⟩
      · rfl
      · cases left <;> rfl

end Requests

end SentenceGen.Cli
