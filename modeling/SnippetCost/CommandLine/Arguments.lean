import SnippetCost.Analysis.Matrix
import SnippetCost.CommandLine.Options
import SnippetCost.Number.Literal
import SnippetCost.Result.Sorting

/-!
# The commands and their arguments

What a command line asks for: one of three commands with its settings, or no command at all, because it
asks for help, for the version, or for something there is not.  Options take effect in the order in which
they stand, and a problem is met when its turn comes; what is missing is noticed only at the end, and what
is left over last of all.
-/

namespace SnippetCost

/-- The name of the program. -/
def programName : String := "simdmca"

/-- The version of the program. -/
def programVersion : String := "0.1.0"

/-- The commands. -/
inductive CommandName where
  | targets
  | tools
  | analyze
  deriving DecidableEq, Repr

namespace CommandName

/-- All commands, in the order in which they are offered. -/
def all : List CommandName := [.targets, .tools, .analyze]

/-- A command as it is typed. -/
def text : CommandName → String
  | .targets => "targets"
  | .tools => "tools"
  | .analyze => "analyze"

/-- The command with a name. -/
def ofText? (name : String) : Option CommandName :=
  all.find? (·.text == name)

end CommandName

/-- Why a command line leads to no command. -/
inductive Detour where
  /-- Help on the program or on one command is asked for. -/
  | help (command : Option CommandName)
  | version
  /-- The words of the program, or those behind a command, make no sense. -/
  | misuse (command : Option CommandName) (problem : UsageProblem)
  deriving DecidableEq, Repr

namespace Detour

/-- What the version is told as. -/
def versionText : String :=
  programName ++ " " ++ programVersion ++ "\n"

/-- The message about a misuse, which begins with the words up to the command. -/
def misuseText (command : Option CommandName) (problem : UsageProblem) : String :=
  let caller := match command with
    | none => programName
    | some c => programName ++ " " ++ c.text
  caller ++ ": error: " ++ problem.message

/-- The exit code of a command line without a command. -/
def exitCode : Detour → Nat
  | .help _ | .version => 0
  | .misuse _ _ => 2

end Detour

/-! ## Settings -/

/-- The settings of the command that lists targets. -/
structure TargetsSettings where
  /-- List the whole catalog, whatever the host is. -/
  everything : Bool := false
  /-- The name of a machine to list for instead of the host; it can be empty. -/
  machine : Option String := none
  deriving DecidableEq, Repr

/-- The settings of the command that analyses, apart from its input. -/
structure AnalyzeSettings where
  /-- The ids of the targets asked for; an id can be left out. -/
  targetIds : List (Option String) := []
  asJson : Bool := false
  output : Option String := none
  sortColumn : Option SortColumn := none
  descending : Bool := false
  showAssembly : Bool := false
  showReport : Bool := false
  /-- Analyse also for targets that do not fit the host. -/
  force : Bool := false
  /-- The number of analyses at the same time; it can be left out, too. -/
  workers : Option Int := some defaultWorkers
  deriving DecidableEq, Repr

/-- A command to be carried out. -/
inductive Command where
  | targets (settings : TargetsSettings)
  | tools
  | analyze (input : String) (settings : AnalyzeSettings)
  deriving DecidableEq, Repr

/-- A command, and how much is to be logged about it. -/
structure Invocation where
  verbosity : Nat
  command : Command
  deriving DecidableEq, Repr

/-! ## Options in use -/

/-- The value of an option as it counts: two dashes glued to an option mean that the value is left
out. -/
def OptionUse.given {κ : Type} (u : OptionUse κ) : Option String :=
  u.value.filter (· != "--")

/-- An option that takes no value. -/
def OptionSpec.flag {κ : Type} (key : κ) (names : List String) : OptionSpec κ :=
  ⟨key, names, false⟩

/-- An option that takes one value. -/
def OptionSpec.valued {κ : Type} (key : κ) (names : List String) : OptionSpec κ :=
  ⟨key, names, true⟩

/-- The names of the option for help. -/
def helpNames : List String := ["-h", "--help"]

/-- The settings after all options of a scan have taken effect, unless one of them, or what the scan was
stopped at, leads astray. -/
def Scan.settle {κ σ : Type} (s : Scan κ) (command : Option CommandName)
    (apply : σ → OptionUse κ → Except Detour σ) (start : σ) : Except Detour σ := do
  let settings ← s.uses.foldlM apply start
  match s.problem with
  | some problem => throw (.misuse command problem)
  | none => return settings

/-! ## The command that lists targets -/

/-- Its options. -/
inductive TargetsOption where
  | help
  | everything
  | machine
  deriving DecidableEq, Repr

/-- The names of its options. -/
def targetsOptions : List (OptionSpec TargetsOption) :=
  [.flag .help helpNames, .flag .everything ["--all"], .valued .machine ["--machine"]]

/-- What one of its options does. -/
def TargetsSettings.apply (s : TargetsSettings) (u : OptionUse TargetsOption) :
    Except Detour TargetsSettings :=
  match u.spec.key with
  | .help => .error (.help (some .targets))
  | .everything => .ok { s with everything := true }
  | .machine => .ok { s with machine := some (u.given.getD "") }

/-- The command, and the words it has no use for. -/
def readTargets (words : List String) : Except Detour (Command × List String) := do
  let s := scan targetsOptions .none words
  let settings ← s.settle (some .targets) TargetsSettings.apply {}
  return (.targets settings, s.extras)

/-! ## The command that shows tools -/

/-- Its options. -/
inductive ToolsOption where
  | help
  deriving DecidableEq, Repr

/-- The names of its options. -/
def toolsOptions : List (OptionSpec ToolsOption) :=
  [.flag .help helpNames]

/-- What one of its options does. -/
def applyToolsOption (_ : Unit) (u : OptionUse ToolsOption) : Except Detour Unit :=
  match u.spec.key with
  | .help => .error (.help (some .tools))

/-- The command, and the words it has no use for. -/
def readTools (words : List String) : Except Detour (Command × List String) := do
  let s := scan toolsOptions .none words
  s.settle (some .tools) applyToolsOption ()
  return (.tools, s.extras)

/-! ## The command that analyses -/

/-- Its options. -/
inductive AnalyzeOption where
  | help
  | target
  | json
  | output
  | sort
  | descending
  | showAssembly
  | showReport
  | force
  | workers
  deriving DecidableEq, Repr

/-- The names of its options. -/
def analyzeOptions : List (OptionSpec AnalyzeOption) :=
  [.flag .help helpNames,
   .valued .target ["-t", "--target"],
   .flag .json ["--json"],
   .valued .output ["-o", "--output"],
   .valued .sort ["--sort"],
   .flag .descending ["--desc"],
   .flag .showAssembly ["--show-asm"],
   .flag .showReport ["--show-report"],
   .flag .force ["--force"],
   .valued .workers ["-j", "--jobs"]]

/-- The column with a name, or why there is none. -/
def chooseColumn (argument name : String) : Except Detour SortColumn :=
  match SortColumn.ofName? name with
  | some column => .ok column
  | none =>
    .error (.misuse (some .analyze)
      (.invalidChoice argument name (SortColumn.all.map SortColumn.name)))

/-- The number a text stands for, or why it is none. -/
def chooseNumber (argument text : String) : Except Detour Int :=
  match Number.readInt? text with
  | some n => .ok n
  | none => .error (.misuse (some .analyze) (.notAnInteger argument text))

/-- What one of its options does. -/
def AnalyzeSettings.apply (s : AnalyzeSettings) (u : OptionUse AnalyzeOption) :
    Except Detour AnalyzeSettings := do
  match u.spec.key with
  | .help => throw (.help (some .analyze))
  | .target => return { s with targetIds := s.targetIds ++ [u.given] }
  | .json => return { s with asJson := true }
  | .output => return { s with output := u.given }
  | .sort => return { s with sortColumn := ← u.given.mapM (chooseColumn u.spec.title) }
  | .descending => return { s with descending := true }
  | .showAssembly => return { s with showAssembly := true }
  | .showReport => return { s with showReport := true }
  | .force => return { s with force := true }
  | .workers => return { s with workers := ← u.given.mapM (chooseNumber u.spec.title) }

/-- The command, and the words it has no use for. -/
def readAnalyze (words : List String) : Except Detour (Command × List String) := do
  let s := scan analyzeOptions .one words
  let settings ← s.settle (some .analyze) AnalyzeSettings.apply {}
  match s.operands with
  | [] => throw (.misuse (some .analyze) (.required "input"))
  | input :: _ => return (.analyze input settings, s.extras)

/-! ## The program -/

/-- The options in front of the command. -/
inductive ProgramOption where
  | help
  | version
  | verbose
  deriving DecidableEq, Repr

/-- The names of these options. -/
def programOptions : List (OptionSpec ProgramOption) :=
  [.flag .help helpNames, .flag .version ["--version"], .flag .verbose ["-v", "--verbose"]]

/-- What one of these options does to the verbosity. -/
def applyProgramOption (verbosity : Nat) (u : OptionUse ProgramOption) : Except Detour Nat :=
  match u.spec.key with
  | .help => .error (.help none)
  | .version => .error .version
  | .verbose => .ok (verbosity + 1)

/-- The command with a name and the words behind it. -/
def readCommand (name : String) (words : List String) : Except Detour (Command × List String) :=
  match CommandName.ofText? name with
  | some .targets => readTargets words
  | some .tools => readTools words
  | some .analyze => readAnalyze words
  | none =>
    .error (.misuse none (.invalidChoice "command" name (CommandName.all.map CommandName.text)))

/-- What a command line asks for. -/
def readCommandLine (words : List String) : Except Detour Invocation := do
  let s := scan programOptions .command words
  let verbosity ← s.settle none applyProgramOption 0
  match s.operands with
  | [] => throw (.misuse none (.required "command"))
  | name :: words =>
    let (command, extras) ← readCommand name words
    match s.extras ++ extras with
    | [] => return ⟨verbosity, command⟩
    | extras => throw (.misuse none (.unrecognized extras))

end SnippetCost
