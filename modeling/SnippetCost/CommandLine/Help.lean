import SnippetCost.CommandLine.Arguments

/-!
# Help

What is shown to those who ask for help: how a command line is made up, and what options there are.
-/

namespace SnippetCost

/-- An option with its names and the place of its value. -/
def OptionSpec.helpLine {κ : Type} (o : OptionSpec κ) : String :=
  "  " ++ ", ".intercalate o.names ++ (if o.takesValue then " VALUE" else "")

/-- The lines of help on the program or on a command. -/
def helpLines : Option CommandName → List String
  | none =>
    ("usage: " ++ programName ++ " [options] command [arguments]") ::
      programOptions.map OptionSpec.helpLine ++ CommandName.all.map fun c => "  " ++ c.text
  | some .targets =>
    ("usage: " ++ programName ++ " " ++ CommandName.targets.text ++ " [options]") ::
      targetsOptions.map OptionSpec.helpLine
  | some .tools =>
    ("usage: " ++ programName ++ " " ++ CommandName.tools.text ++ " [options]") ::
      toolsOptions.map OptionSpec.helpLine
  | some .analyze =>
    ("usage: " ++ programName ++ " " ++ CommandName.analyze.text ++ " [options] input") ::
      analyzeOptions.map OptionSpec.helpLine

/-- What is told on a detour: the lines for results and the lines for errors. -/
def Detour.lines : Detour → List String × List String
  | .help command => (helpLines command, [])
  | .version => ([programName ++ " " ++ programVersion], [])
  | .misuse command problem =>
    ([], (helpLines command).take 1 ++ [Detour.misuseText command problem])

end SnippetCost
