import SnippetCost.Number.Literal
import SnippetCost.Number.Shortest
import SnippetCost.Target.Basic
import SnippetCost.Text.PathName
import SnippetCost.Text.Quoted

/-!
# Tools and their configuration

The two external tools, the names they go by, and the configuration of a run: which executables, which
optimisation, how long they may take.  A configuration is read off the environment; a tool the
environment does not name is looked up by its candidate names.
-/

namespace SnippetCost

/-- The external tools. -/
inductive Tool where
  | compiler
  | simulator
  deriving DecidableEq, Repr

namespace Tool

/-- Both tools, in the order in which they are listed. -/
def all : List Tool := [.compiler, .simulator]

/-- The plain name of the executable. -/
def name : Tool → String
  | .compiler => "clang"
  | .simulator => "llvm-mca"

/-- The versions by which an executable may be suffixed, the newest first. -/
def versionSuffixes : List Nat :=
  [21, 20, 19, 18, 17, 16, 15, 14, 13, 12, 11]

/-- The names an executable may go by, the preferred first. -/
def candidates (t : Tool) : List String :=
  t.name :: versionSuffixes.map fun v => t.name ++ "-" ++ toString v

/-- The executable of a tool: where the first of its candidates is that the lookup knows, in normal
form.  An empty answer of the lookup is none. -/
def locate (lookUp : String → Option String) (t : Tool) : Option String :=
  (t.candidates.findSome? fun name => (lookUp name).filter (· != "")).map Text.normalPath

/-- The tools that are found, and where. -/
def detectAll (lookUp : String → Option String) : List (Tool × String) :=
  all.filterMap fun t => (t.locate lookUp).map (t, ·)

end Tool

/-- How much the compiler optimises. -/
inductive Optimization where
  | debug
  | basic
  | moderate
  | aggressive
  | size
  deriving DecidableEq, Repr

/-- The compiler's option for a level. -/
def Optimization.flag : Optimization → String
  | .debug => "-O0"
  | .basic => "-O1"
  | .moderate => "-O2"
  | .aggressive => "-O3"
  | .size => "-Os"

/-- Thirty, as a number of seconds. -/
def thirtySeconds : Number.Binary64 := .ofInt 30

/-- The configuration of a run. -/
structure Config where
  compiler : String := Tool.compiler.name
  simulator : String := Tool.simulator.name
  optimization : Optimization := .moderate
  /-- How many seconds each tool may take. -/
  timeLimit : Number.Binary64 := thirtySeconds
  /-- How the names of workspaces start. -/
  workspaceStem : String := "simdmca-"
  deriving DecidableEq, Repr

/-- The environment's time limit is not a number. -/
structure BadTimeLimit where
  text : String
  deriving DecidableEq, Repr

/-- The message about a time limit that is not a number. -/
def BadTimeLimit.message (e : BadTimeLimit) : String :=
  "SIMDMCA_TIMEOUT must be a number of seconds, got " ++ Text.quoted e.text

namespace Config

/-- The executable of a tool: the one the environment names, or the one that is found, or the plain
name. -/
def executable (named : Option String) (lookUp : String → Option String) (t : Tool) : String :=
  (named.filter (· != "")).getD ((t.locate lookUp).getD t.name)

/-- The configuration an environment asks for.  A variable that is empty counts as not set. -/
def ofEnvironment (environment lookUp : String → Option String) : Except BadTimeLimit Config :=
  let config : Config :=
    { compiler := executable (environment "SIMDMCA_CLANG") lookUp .compiler
      simulator := executable (environment "SIMDMCA_LLVM_MCA") lookUp .simulator }
  match (environment "SIMDMCA_TIMEOUT").filter (· != "") with
  | none => .ok config
  | some text =>
    match Number.readDecimal? text with
    | some seconds => .ok { config with timeLimit := seconds }
    | none => .error ⟨text⟩

/-- The command line of the compiler. -/
def compileCommand (c : Config) (source output : String) (flags : List String) : List String :=
  [c.compiler, "-S", c.optimization.flag] ++ flags ++ ["-o", output, source]

/-- The command line of the simulator. -/
def simulateCommand (c : Config) (assembly : String) (cpu : Option String) : List String :=
  [c.simulator, "-mcpu=" ++ cpuText cpu, assembly]

end Config

end SnippetCost
