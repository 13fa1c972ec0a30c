import SnippetCost.Target.Basic
import SnippetCost.Order.Stable
import SnippetCost.Text.Blank
import SnippetCost.World.Trace

/-!
# The host

The machine the analysis runs on: how its architecture family is read off the name it reports, which
targets can be analysed from it, and in which order targets are listed.
-/

namespace SnippetCost

/-- The lower case form of a text; ASCII letters only, which is all that the names of machines and
platforms are matched for. -/
def lowerCase (s : String) : List Char :=
  s.toList.map Char.toLower

/-- Does the text occur somewhere in the other one? -/
def occursIn (needle : List Char) : List Char → Bool
  | [] => needle.isEmpty
  | c :: cs => needle.isPrefixOf (c :: cs) || occursIn needle cs

/-! ## Families by name -/

/-- The texts by which a machine's name shows its family, tried in order. -/
def machinePatterns : List (List String × ArchFamily) :=
  [(["x86_64", "amd64"], .x86), (["aarch64", "arm64"], .arm), (["ppc64", "powerpc"], .powerpc)]

/-- The first words of a platform triple that show its family, tried in order. -/
def triplePatterns : List (List String × ArchFamily) :=
  [(["aarch64", "arm"], .arm), (["powerpc", "ppc"], .powerpc),
   (["x86_64", "i386", "i486", "i586", "i686"], .x86)]

/-- The family of the first entry one of whose texts is a match. -/
def familyBy (isMatch : List Char → Bool) (patterns : List (List String × ArchFamily)) :
    ArchFamily :=
  ((patterns.find? fun (texts, _) => texts.any fun t => isMatch t.toList).map (·.2)).getD .unknown

/-- The family of a machine by the name it reports. -/
def classifyMachine (machine : String) : ArchFamily :=
  familyBy (fun needle => occursIn needle (lowerCase machine)) machinePatterns

/-- The family of a platform triple. -/
def tripleFamily (triple : String) : ArchFamily :=
  familyBy (fun start => start.isPrefixOf (lowerCase triple)) triplePatterns

/-! ## The host's profile -/

/-- What is known of the host. -/
structure Host where
  family : ArchFamily
  machine : String := ""
  deriving DecidableEq, Repr

namespace Host

/-- Is the host's family known? -/
def isKnown (h : Host) : Bool :=
  h.family != .unknown

/-- The profile of a machine that reports a name. -/
def ofMachine (machine : String) : Traced Host := do
  let machine := Text.trimmed machine
  let host : Host := ⟨classifyMachine machine, machine⟩
  Traced.log .debug ("Host architecture: " ++ (if machine = "" then "<unknown>" else machine) ++
    " -> " ++ host.family.name)
  return host

/-- The profile of the host, from the system's answer to who it is; no answer gives an unknown host. -/
def detect (answer : Except OsError String) : Traced Host := do
  match answer with
  | .ok machine => ofMachine machine
  | .error e =>
    Traced.log .warning ("Could not determine host architecture: " ++ e.text)
    ofMachine ""

/-! ## Targets and hosts -/

/-- Can the target be analysed from the host?  The native one always; another one if its family, that of
the platform it is cross-compiled for if there is one, is the host's known one. -/
def isCompatible (h : Host) (t : Target) : Bool :=
  if t.nativeAuto then true
  else if !h.isKnown then false
  else
    match given? t.crossTriple with
    | some triple => tripleFamily triple == h.family
    | none => t.arch == h.family

/-- The targets that can be analysed from the host, in order. -/
def compatible (h : Host) (ts : List Target) : List Target :=
  ts.filter h.isCompatible

end Host

/-- The order of targets on display: by family, then by label, by code points. -/
def Target.displayBefore (s t : Target) : Bool :=
  s.family < t.family || (s.family == t.family && s.label < t.label)

/-- The targets in display order; those that agree in family and label stay as they are. -/
def sortForDisplay (ts : List Target) : List Target :=
  sortBy Target.displayBefore ts

/-- Why targets cannot be put into display order. -/
inductive CollationFault where
  /-- There is a NUL character in a family or a label; texts like that have no place in any order. -/
  | nulInText
  deriving DecidableEq, Repr

/-- The message about targets that cannot be put into display order. -/
def CollationFault.message : CollationFault → String
  | .nulInText => "embedded null character"

/-- Have the family and the label of the target a place in the order? -/
def Target.hasPlace (t : Target) : Bool :=
  !t.family.toList.contains '\x00' && !t.label.toList.contains '\x00'

/-- The targets in display order, if all of them have a place in it. -/
def displayOrder (ts : List Target) : Except CollationFault (List Target) :=
  if ts.all Target.hasPlace then .ok (sortForDisplay ts) else .error .nulInText

end SnippetCost
