/-!
# Targets

A target is one CPU that a snippet can be analysed for: how users name it, which architecture it
belongs to, and what the two tools have to be told to reach it.
-/

namespace SnippetCost

/-- Architecture families a host or a target can belong to. -/
inductive ArchFamily where
  | x86
  | arm
  | powerpc
  | unknown
  deriving DecidableEq, Repr

/-- The name of a family, as tools and reports spell it. -/
def ArchFamily.name : ArchFamily → String
  | .x86 => "x86_64"
  | .arm => "aarch64"
  | .powerpc => "ppc64"
  | .unknown => "unknown"

/-- An optional text that is there and not empty. -/
def given? (text : Option String) : Option String :=
  text.filter (· != "")

/-- What stands for a processor that is not named. -/
def cpuText (cpu : Option String) : String :=
  cpu.getD "None"

/-- One CPU that snippets can be analysed for. -/
structure Target where
  id : String
  label : String
  family : String
  arch : ArchFamily
  /-- The platform to cross-compile for, if it is not the host's own. -/
  crossTriple : Option String := none
  /-- The CPU by the compiler's architecture option. -/
  compileArch : Option String := none
  /-- The CPU by the simulator's processor option. -/
  simulatorCpu : Option String := none
  /-- Stands for whatever CPU the tools find themselves on. -/
  nativeAuto : Bool := false
  deriving DecidableEq, Repr

namespace Target

/-- Is the snippet compiled for another platform than the host's? -/
def isCross (t : Target) : Bool :=
  (given? t.crossTriple).isSome

/-- The name under which results are shown. -/
def displayName (t : Target) : String :=
  t.family ++ " - " ++ t.label

/-- Does the target name a CPU to either tool? -/
def namesCpu (t : Target) : Bool :=
  (given? t.compileArch).isSome || (given? t.simulatorCpu).isSome

end Target

end SnippetCost
