import SnippetCost.Target.Catalog

/-!
# The curated catalog

The CPUs that are offered when no other catalog is given: the native one first, then the CPUs of each
architecture by category.  An x86 CPU has one name for both tools; the others are compiled for by a
platform triple and known to both tools by their processor name.
-/

namespace SnippetCost

/-- The id of the target that stands for the CPU of the host. -/
def nativeId : String := "native"

/-- The x86 CPUs by the widest vectors they have. -/
def x86Cpus : List (String × List String) :=
  [("AVX512",
    ["cascadelake", "cannonlake", "cooperlake", "icelake-server", "icelake-client", "tigerlake",
     "rocketlake", "sapphirerapids", "emeraldrapids", "graniterapids", "graniterapids-d",
     "diamondrapids", "znver4", "znver5", "znver6"]),
   ("AVX2",
    ["haswell", "core-avx2", "broadwell", "skylake", "alderlake", "raptorlake", "meteorlake",
     "gracemont", "arrowlake", "arrowlake-s", "lunarlake", "pantherlake", "wildcatlake",
     "novalake", "sierraforest", "grandridge", "clearwaterforest", "bdver4", "znver1", "znver2",
     "znver3"]),
   ("AVX",
    ["sandybridge", "corei7-avx", "ivybridge", "core-avx-i", "bdver1", "bdver2", "bdver3",
     "lujiazui"]),
   ("SSE",
    ["x86-64", "x86-64-v2", "x86-64-v3", "x86-64-v4", "pentium3m", "pentium-m", "pentium4",
     "pentium4m", "prescott", "nocona", "core2", "nehalem", "corei7", "westmere", "bonnell",
     "atom", "silvermont", "slm", "goldmont", "goldmont-plus", "tremont", "athlon",
     "athlon-tbird", "athlon-4", "athlon-xp", "athlon-mp", "k8", "opteron", "athlon64",
     "athlon-fx", "k8-sse3", "opteron-sse3", "athlon64-sse3", "amdfam10", "barcelona", "btver1",
     "btver2", "c3-2", "c7", "nehemiah", "esther", "eden-x2", "nano", "nano-1000", "nano-2000",
     "nano-3000", "nano-x2", "nano-x4"])]

/-- The ARM CPUs by instruction set. -/
def armCpus : List (String × List String) :=
  [("A32",
    ["cortex-a17", "cortex-a53"]),
   ("A64",
    ["cortex-a55", "cortex-a72", "cortex-a73", "cortex-a75", "cortex-a76", "cortex-a77",
     "cortex-a78", "cortex-x1", "cortex-x2", "cortex-x3", "cortex-a710", "cortex-a715",
     "neoverse-n1", "neoverse-n2", "neoverse-v1", "neoverse-v2", "ampere1", "ampere1a",
     "ampere1b"]),
   ("v7",
    ["cortex-a9", "cortex-a15"])]

/-- The PowerPC CPUs. -/
def powerCpus : List String :=
  ["pwr8", "pwr9", "pwr10"]

/-- The native CPU, whatever it is. -/
def nativeTarget : Target where
  id := nativeId
  label := "Native (Auto-detect)"
  family := "Native"
  arch := .unknown
  nativeAuto := true

/-- An x86 CPU of a category. -/
def x86Target (category cpu : String) : Target where
  id := "x86-" ++ cpu
  label := cpu
  family := "x86-64 " ++ category
  arch := .x86
  compileArch := some cpu
  simulatorCpu := some cpu

/-- An ARM CPU of a category. -/
def armTarget (category cpu : String) : Target where
  id := "arm-" ++ cpu
  label := cpu
  family := "ARM " ++ category
  arch := .arm
  crossTriple := some "aarch64-linux-gnu"
  simulatorCpu := some cpu

/-- A PowerPC CPU. -/
def powerTarget (cpu : String) : Target where
  id := "power-" ++ cpu
  label := cpu
  family := "PowerPC"
  arch := .powerpc
  crossTriple := some "powerpc64le-linux-gnu"
  simulatorCpu := some cpu

/-- All targets on offer, in the order of the catalog. -/
def curatedTargets : List Target :=
  nativeTarget ::
    (x86Cpus.flatMap fun (category, cpus) => cpus.map (x86Target category)) ++
    (armCpus.flatMap fun (category, cpus) => cpus.map (armTarget category)) ++
    powerCpus.map powerTarget

/-- The catalog on offer. -/
def Catalog.curated : Catalog where
  targets := curatedTargets
  admitted := by decide +kernel

end SnippetCost
