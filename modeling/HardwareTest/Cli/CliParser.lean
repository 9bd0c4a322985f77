import HardwareTest.Validation.Listing

/-!
# The command line: `cli/cli-parser.c`

`cli_parse` tests the arguments by position and number; `cli_print_usage` prints what it should
accept.

* `cliParse`: the cascade of tests, one equation for each number of arguments (`cliParse_two` and
  so on).
* `CommandLine`: the printed grammar, with the options that a command line denotes.
* `conforms_iff`: the parser agrees with the grammar, and clears the action whenever it fails, iff
  a list command does not carry a further argument that `parse_list_filter` refuses. The printed
  spelling `-R` is such an argument.
-/

namespace HardwareTest

/-! ## The parser -/

/-- Source: `cli/cli-parser.h`, `cli_action_t` -/
inductive CliAction
  | invalid | list | run | runAll
deriving DecidableEq

/-- A path or a name may be NULL. Source: `cli/cli-parser.h`, `cli_options_t` -/
structure CliOptions where
  action : CliAction
  configPath : Option CString
  testName : Option CString
  listFilter : CliListFilter
deriving DecidableEq

/-- Source: `cli/cli-parser.c`, `DEFAULT_CONFIG_PATH` -/
def defaultConfigPath : CString := cstr "config/json"

/-- The options before the arguments are looked at. Source: `cli/cli-parser.c`, `cli_parse` -/
def CliOptions.cleared : CliOptions := ⟨.invalid, none, none, .all⟩

/-- The filter of an argument, `none` for the return code `-1`.
Source: `cli/cli-parser.c`, `parse_list_filter` -/
def parseListFilter (argument : CString) : Option CliListFilter :=
  if argument = cstr "--runnable-test" ∨ argument = cstr "-r" ∨
      argument = cstr "--runable-test" then some .runnable
  else if argument = cstr "--unimplemented-test" ∨ argument = cstr "-n" then some .unimplemented
  else if argument = cstr "--unsupported-list" ∨ argument = cstr "-u" ∨
      argument = cstr "--unavailable-test" then some .unavailable
  else none

/-- Source: `cli/cli-parser.c`, `cli_parse` -/
def isListWord (argument : CString) : Bool :=
  decide (argument = cstr "--list" ∨ argument = cstr "-l")

/-- Source: `cli/cli-parser.c`, `cli_parse` -/
def isRunAllWord (argument : CString) : Bool :=
  decide (argument = cstr "--run-all" ∨ argument = cstr "-a")

/-- Source: `cli/cli-parser.c`, `cli_parse` -/
def isRunWord (argument : CString) : Bool :=
  decide (argument = cstr "--run" ∨ argument = cstr "-r")

/-- The end of both list branches: without a further argument, or with a filter.
Source: `cli/cli-parser.c`, `cli_parse` -/
def finishList (options : CliOptions) : Option CString → ℤ × CliOptions
  | none => (0, options)
  | some argument =>
      match parseListFilter argument with
      | some listFilter => (0, { options with listFilter })
      | none => (-1, options)

/-- The return code and the options; `argv` has the program first. Source: `cli/cli-parser.c`,
`cli_parse` -/
def cliParse (argv : List CString) : ℤ × CliOptions :=
  let argc := argv.length
  let arg := fun i => argv.getD i []
  let options := CliOptions.cleared
  if argc ≥ 2 ∧ isListWord (arg 1) = true ∧ argc ≤ 3 then
    finishList { options with configPath := some defaultConfigPath, action := .list } argv[2]?
  else if argc ≥ 3 ∧ isListWord (arg 2) = true ∧ argc ≤ 4 then
    finishList { options with configPath := some (arg 1), action := .list } argv[3]?
  else if argc = 3 ∧ isRunAllWord (arg 2) = true then
    (0, { options with configPath := some (arg 1), action := .runAll })
  else if argc = 4 ∧ isRunWord (arg 2) = true then
    (0, { options with
      configPath := some (arg 1), testName := some (arg 3), action := .run })
  else (-1, options)

/-! ## The grammar -/

/-- The spellings of `--list|-l`. Source: `cli/cli-parser.c`, `cli_print_usage` -/
def listSpellings : List CString := [cstr "--list", cstr "-l"]

/-- The spellings of the filters. Source: `cli/cli-parser.c`, `cli_print_usage` -/
def filterSpellings : List (CString × CliListFilter) :=
  [(cstr "--runnable-test", .runnable), (cstr "-R", .runnable),
    (cstr "--unimplemented-test", .unimplemented), (cstr "-n", .unimplemented),
    (cstr "--unsupported-list", .unavailable), (cstr "-u", .unavailable)]

/-- The spellings of `--run|-r`. Source: `cli/cli-parser.c`, `cli_print_usage` -/
def runSpellings : List CString := [cstr "--run", cstr "-r"]

/-- The spellings of `--run-all|-a`. Source: `cli/cli-parser.c`, `cli_print_usage` -/
def runAllSpellings : List CString := [cstr "--run-all", cstr "-a"]

/-- A configuration path or a test name: it does not start with `-`. -/
def NotAnOption (argument : CString) : Prop := argument.head? ≠ (cstr "-").head?

/-- The optional path of a list command: the arguments it takes, and the path it denotes. -/
inductive ListPath : List CString → CString → Prop
  | omitted : ListPath [] defaultConfigPath
  | given {path : CString} (h : NotAnOption path) : ListPath [path] path

/-- The optional filter of a list command. -/
inductive ListFilter : List CString → CliListFilter → Prop
  | omitted : ListFilter [] .all
  | given {spelling : CString} {listFilter : CliListFilter}
      (h : (spelling, listFilter) ∈ filterSpellings) : ListFilter [spelling] listFilter

/-- **The printed grammar**: a command line and the options it denotes.
Source: `cli/cli-parser.c`, `cli_print_usage` -/
inductive CommandLine (program : CString) : List CString → CliOptions → Prop
  | list {pathArguments filterArguments : List CString} {path word : CString}
      {listFilter : CliListFilter} (hpath : ListPath pathArguments path)
      (hword : word ∈ listSpellings) (hfilter : ListFilter filterArguments listFilter) :
      CommandLine program (program :: pathArguments ++ word :: filterArguments)
        ⟨.list, some path, none, listFilter⟩
  | run {path word testName : CString} (hpath : NotAnOption path) (hword : word ∈ runSpellings)
      (htest : NotAnOption testName) :
      CommandLine program [program, path, word, testName] ⟨.run, some path, some testName, .all⟩
  | runAll {path word : CString} (hpath : NotAnOption path) (hword : word ∈ runAllSpellings) :
      CommandLine program [program, path, word] ⟨.runAll, some path, none, .all⟩

/-- **The parser conforms to the grammar** on an argument vector: a command line gets the options it
denotes, and a failure leaves the action invalid. -/
structure Conforms (argv : List CString) : Prop where
  accepts : ∀ program options, CommandLine program argv options → cliParse argv = (0, options)
  clears : (cliParse argv).1 ≠ 0 → (cliParse argv).2.action = .invalid

/-- A list command with a further argument that `parse_list_filter` refuses. -/
def RefusedFilter (argv : List CString) : Prop :=
  ∃ program word argument, isListWord word = true ∧ parseListFilter argument = none ∧
    (argv = [program, word, argument] ∨ ∃ path, argv = [program, path, word, argument])

/-! ## The cascade -/

section cascade

variable (program a b c : CString)

lemma cliParse_two : cliParse [program, a] =
    if isListWord a then (0, ⟨.list, some defaultConfigPath, none, .all⟩)
    else (-1, .cleared) := by
  simp [cliParse, finishList, CliOptions.cleared]

lemma cliParse_three : cliParse [program, a, b] =
    if isListWord a then finishList ⟨.list, some defaultConfigPath, none, .all⟩ (some b)
    else if isListWord b then (0, ⟨.list, some a, none, .all⟩)
    else if isRunAllWord b then (0, ⟨.runAll, some a, none, .all⟩)
    else (-1, .cleared) := by
  simp [cliParse, finishList, CliOptions.cleared]

lemma cliParse_four : cliParse [program, a, b, c] =
    if isListWord b then finishList ⟨.list, some a, none, .all⟩ (some c)
    else if isRunWord b then (0, ⟨.run, some a, some c, .all⟩)
    else (-1, .cleared) := by
  simp [cliParse, finishList, CliOptions.cleared]

/-- No other number of arguments is accepted. -/
lemma cliParse_other {argv : List CString} (h : argv.length < 2 ∨ 4 < argv.length) :
    cliParse argv = (-1, .cleared) := by
  unfold cliParse
  simp only
  rw [if_neg (by omega), if_neg (by omega), if_neg (by omega), if_neg (by omega)]

/-- A list command with a filter. -/
lemma finishList_some {argument : CString} {listFilter : CliListFilter}
    (h : parseListFilter argument = some listFilter) (options : CliOptions) :
    finishList options (some argument) = (0, { options with listFilter }) := by
  simp only [finishList, h]

/-- A list command with an argument that is no filter. -/
lemma finishList_none {argument : CString} (h : parseListFilter argument = none)
    (options : CliOptions) : finishList options (some argument) = (-1, options) := by
  simp only [finishList, h]

/-- The end of a list branch fails only on an argument that is no filter. -/
lemma parseListFilter_of_finishList {argument : CString} {options : CliOptions}
    (h : (finishList options (some argument)).1 ≠ 0) : parseListFilter argument = none := by
  rcases hparse : parseListFilter argument with _ | listFilter
  · rfl
  · rw [finishList_some hparse] at h
    exact absurd rfl h

end cascade

/-! ## Failures -/

/-- A list command with a refused argument fails and leaves its action behind. -/
lemma cliParse_of_refusedFilter {argv : List CString} (h : RefusedFilter argv) :
    (cliParse argv).1 ≠ 0 ∧ (cliParse argv).2.action = .list := by
  obtain ⟨program, word, argument, hword, hrefused, rfl | ⟨path, rfl⟩⟩ := h
  · rw [cliParse_three, if_pos hword, finishList_none hrefused]
    exact ⟨by simp, rfl⟩
  · rw [cliParse_four, if_pos hword, finishList_none hrefused]
    exact ⟨by simp, rfl⟩

/-- Any other failure clears the action. -/
lemma action_of_not_refusedFilter {argv : List CString} (h : ¬ RefusedFilter argv)
    (hfails : (cliParse argv).1 ≠ 0) : (cliParse argv).2.action = .invalid := by
  rcases argv with _ | ⟨program, _ | ⟨a, _ | ⟨b, _ | ⟨c, _ | ⟨d, rest⟩⟩⟩⟩⟩
  · rw [cliParse_other (by simp)]
    rfl
  · rw [cliParse_other (by simp)]
    rfl
  · rw [cliParse_two] at hfails ⊢
    split_ifs at hfails ⊢ with hlist
    · exact absurd rfl hfails
    · rfl
  · rw [cliParse_three] at hfails ⊢
    split_ifs at hfails ⊢ with hlist hlist' hrunAll
    · exact absurd ⟨program, a, b, hlist, parseListFilter_of_finishList hfails, .inl rfl⟩ h
    · exact absurd rfl hfails
    · exact absurd rfl hfails
    · rfl
  · rw [cliParse_four] at hfails ⊢
    split_ifs at hfails ⊢ with hlist hrun
    · exact absurd ⟨program, b, c, hlist, parseListFilter_of_finishList hfails, .inr ⟨a, rfl⟩⟩ h
    · exact absurd rfl hfails
    · rfl
  · rw [cliParse_other (by simp)]
    rfl

/-! ## Command lines -/

/-- A path is not taken for `--list` or `-l`. -/
lemma NotAnOption.not_isListWord {argument : CString} (h : NotAnOption argument) :
    ¬ isListWord argument = true := by
  intro hlist
  rcases of_decide_eq_true hlist with rfl | rfl
  · exact h (by decide)
  · exact h (by decide)

lemma isListWord_of_mem {word : CString} (h : word ∈ listSpellings) : isListWord word = true := by
  have hall : ∀ w ∈ listSpellings, isListWord w = true := by decide
  exact hall word h

lemma isRunWord_of_mem {word : CString} (h : word ∈ runSpellings) :
    ¬ isListWord word = true ∧ isRunWord word = true := by
  have hall : ∀ w ∈ runSpellings, ¬ isListWord w = true ∧ isRunWord w = true := by decide
  exact hall word h

lemma isRunAllWord_of_mem {word : CString} (h : word ∈ runAllSpellings) :
    ¬ isListWord word = true ∧ isRunAllWord word = true := by
  have hall : ∀ w ∈ runAllSpellings, ¬ isListWord w = true ∧ isRunAllWord w = true := by decide
  exact hall word h

/-- A printed spelling of a filter is read as that filter, or refused. -/
lemma parseListFilter_of_mem {spelling : CString} {listFilter : CliListFilter}
    (h : (spelling, listFilter) ∈ filterSpellings) :
    parseListFilter spelling = some listFilter ∨ parseListFilter spelling = none := by
  have hall : ∀ entry ∈ filterSpellings,
      parseListFilter entry.1 = some entry.2 ∨ parseListFilter entry.1 = none := by decide
  exact hall _ h

/-- Without a refused filter every command line gets the options that it denotes. -/
lemma CommandLine.accepted {program : CString} {argv : List CString} {options : CliOptions}
    (h : CommandLine program argv options) (hnot : ¬ RefusedFilter argv) :
    cliParse argv = (0, options) := by
  rcases h with ⟨hpath, hword, hfilter⟩ | ⟨hpath, hword, -⟩ | ⟨hpath, hword⟩
  case list word _ =>
    have hlist := isListWord_of_mem hword
    rcases hpath with _ | ⟨hpath⟩
    · rcases hfilter with _ | ⟨hfilter⟩
      · exact (cliParse_two _ _).trans (if_pos hlist)
      · rcases parseListFilter_of_mem hfilter with hparse | hrefused
        · refine (cliParse_three _ _ _).trans ?_
          rw [if_pos hlist, finishList_some hparse]
        · exact absurd ⟨program, word, _, hlist, hrefused, .inl rfl⟩ hnot
    · rcases hfilter with _ | ⟨hfilter⟩
      · refine (cliParse_three _ _ _).trans ?_
        rw [if_neg hpath.not_isListWord, if_pos hlist]
      · rcases parseListFilter_of_mem hfilter with hparse | hrefused
        · refine (cliParse_four _ _ _ _).trans ?_
          rw [if_pos hlist, finishList_some hparse]
        · exact absurd ⟨program, word, _, hlist, hrefused, .inr ⟨_, rfl⟩⟩ hnot
  case run =>
    obtain ⟨hlist, hrun⟩ := isRunWord_of_mem hword
    rw [cliParse_four, if_neg hlist, if_pos hrun]
  case runAll =>
    obtain ⟨hlist, hrunAll⟩ := isRunAllWord_of_mem hword
    rw [cliParse_three, if_neg hpath.not_isListWord, if_neg hlist, if_pos hrunAll]

/-- **The parser conforms to the printed grammar exactly** on the argument vectors that are not a
list command with a further argument that `parse_list_filter` refuses.
Source: `cli/cli-parser.c`, `cli_parse`, `parse_list_filter`, `cli_print_usage` -/
theorem conforms_iff (argv : List CString) : Conforms argv ↔ ¬ RefusedFilter argv := by
  constructor
  · intro h hrefused
    obtain ⟨hfails, haction⟩ := cliParse_of_refusedFilter hrefused
    rw [h.clears hfails] at haction
    cases haction
  · intro h
    exact ⟨fun program options hline => hline.accepted h, action_of_not_refusedFilter h⟩

/-- The printed spelling `-R` is refused, and the action of the failed command is not cleared. -/
theorem runnableShort_refused :
    CommandLine (cstr "validator") [cstr "validator", cstr "--list", cstr "-R"]
        ⟨.list, some defaultConfigPath, none, .runnable⟩ ∧
      cliParse [cstr "validator", cstr "--list", cstr "-R"] =
        (-1, ⟨.list, some defaultConfigPath, none, .all⟩) ∧
      ¬ Conforms [cstr "validator", cstr "--list", cstr "-R"] := by
  refine ⟨.list .omitted (by decide) (.given (by decide)), by decide, fun h => ?_⟩
  exact absurd (h.clears (by decide)) (by decide)

end HardwareTest
