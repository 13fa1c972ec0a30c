import SnippetCost.Target.Basic

/-!
# From a snippet to a compilation unit

What stands in front of a snippet so that it compiles on its own, and what the two tools are told about
the target: the headers, the type names, the flags of the compiler and the processor of the simulator.
-/

namespace SnippetCost

/-- The name both tools give to the CPU they run on. -/
def nativeCpu : String := "native"

namespace Target

/-- The architecture code is emitted for: the host's, for the native target. -/
def effectiveArch (t : Target) (host : ArchFamily) : ArchFamily :=
  if t.nativeAuto then host else t.arch

/-- The compiler's option that chooses the architecture. -/
def archFlag (t : Target) (host : ArchFamily) : String :=
  if t.nativeAuto then (if host = .x86 then "-march=" else "-mcpu=") ++ nativeCpu
  else
    match given? t.compileArch with
    | some arch => "-march=" ++ arch
    | none => "-mcpu=" ++ cpuText t.simulatorCpu

/-- The flags for a snippet that is compiled without the platform's own headers. -/
def freestandingFlags : List String :=
  ["-ffreestanding", "-nostdlibinc"]

/-- The compiler's options for the target, in order. -/
def compileFlags (t : Target) (host : ArchFamily) : List String :=
  match given? t.crossTriple with
  | some triple => ("--target=" ++ triple) :: t.archFlag host :: freestandingFlags
  | none => [t.archFlag host]

/-- The processor the simulator is told; that of the compiler, if it has none of its own. -/
def simulatedCpu (t : Target) : Option String :=
  if t.nativeAuto then some nativeCpu
  else
    match given? t.simulatorCpu with
    | some cpu => some cpu
    | none => t.compileArch

end Target

/-! ## The text in front of a snippet -/

/-- The headers of a snippet that is compiled for the host's platform. -/
def hostedHeaders : List String :=
  ["stddef.h", "stdint.h"]

/-- The header with the vector functions of an architecture. -/
def intrinsicsHeader : ArchFamily → String
  | .arm => "arm_neon.h"
  | .powerpc => "altivec.h"
  | .x86 | .unknown => "immintrin.h"

/-- Short type names, and what they stand for. -/
def typeAliases : List (String × String) :=
  [("uchar", "unsigned char"), ("uint", "unsigned int"), ("ushort", "unsigned short")]

/-- The line that includes a header. -/
def includeLine (header : String) : String :=
  "#include <" ++ header ++ ">"

/-- The lines that make a type name, unless something of that name is there. -/
def aliasLines (entry : String × String) : List String :=
  ["#ifndef " ++ entry.1, "typedef " ++ entry.2 ++ " " ++ entry.1 ++ ";", "#endif"]

/-- The lines in front of a snippet. -/
def preambleLines (isCross : Bool) (arch : ArchFamily) : List String :=
  (if isCross then [] else hostedHeaders.map includeLine) ++
    includeLine (intrinsicsHeader arch) :: "" :: typeAliases.flatMap aliasLines

/-- The text in front of a snippet: its lines, each with its line break. -/
def preamble (isCross : Bool) (arch : ArchFamily) : String :=
  String.join ((preambleLines isCross arch).map (· ++ "\n"))

/-- The compilation unit of a snippet: the preamble, then the snippet as it is. -/
def Target.compose (t : Target) (host : ArchFamily) (code : String) : String :=
  preamble t.isCross (t.effectiveArch host) ++ code

end SnippetCost
