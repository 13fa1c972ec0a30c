import SnippetCost.CommandLine.Arguments
import SnippetCost.Display.Console
import SnippetCost.Text.Line
import SnippetCost.World.FileSystem
import SnippetCost.World.Surroundings

/-!
# Sessions

What a run of the program works on besides its command line, and how it ends.  A session has files, which
the run may change, and a standard input; how analyses get on that run at the same time is part of it, too.

The consoles are there and take what is sent to them, with one exception: a table may hold markup that makes
no sense.
-/

namespace SnippetCost

/-- Why there is nothing to read on the standard input. -/
inductive InputFault where
  | refused (error : OsError)
  /-- The run has no standard input. -/
  | closed
  deriving DecidableEq, Repr

/-- What a run of the program is given besides its command line. -/
structure Session where
  surroundings : Surroundings
  files : FileSystem
  /-- The bytes on the standard input. -/
  standardInput : Except InputFault (List UInt8)
  /-- Has the standard input to be valid text?  In some languages of the user it has. -/
  strictInput : Bool := false
  /-- The refusal to sort texts as the user's language does, if the system refuses. -/
  collationFault : Option String := none
  /-- What the analysis with a number meets. -/
  worlds : Nat → World := fun _ => surroundings.world
  /-- The order in which analyses that run at the same time get done. -/
  schedule : List Nat := []
  /-- How many of them are taken up by the time the others are given up, if one breaks off. -/
  takenUp : Nat := 0
  /-- What the console says of a table whose markup makes no sense to it. -/
  markupFault : Table → Option String := fun _ => none

/-- Does the session ask for a minimal display? -/
def Session.minimal (s : Session) : Bool :=
  asksForMinimal (s.surroundings.environment "SIMDMCA_MINIMAL_UI")

/-! ## Reading the source -/

/-- Why the source cannot be read. -/
inductive ReadFault where
  | unreadable (fault : PathFault)
  | malformed (error : Text.DecodeError)
  /-- It should be on the standard input, and there is none. -/
  | inputClosed
  deriving DecidableEq, Repr

/-- The text on the standard input: bad bytes stay, as lone surrogates. -/
def sourceOfInput (bytes : List UInt8) : SourceText :=
  Text.normalizeBreaks (.scalar '\r') (.scalar '\n') (Text.decodeEscaping bytes)

/-- The text of a file, or of a standard input, that has to be valid. -/
def sourceOfFile (bytes : List UInt8) : Except Text.DecodeError SourceText := do
  let chars ← Text.decodeStrict bytes
  return (Text.normalizeNewlines chars).map .scalar

/-- The source on the standard input. -/
def Session.readInput (s : Session) : Except ReadFault SourceText :=
  match s.standardInput with
  | .error (.refused e) => .error (.unreadable (.refused e))
  | .error .closed => .error .inputClosed
  | .ok bytes =>
    if s.strictInput then (sourceOfFile bytes).mapError .malformed else .ok (sourceOfInput bytes)

/-- The source an argument names: that of a file, or for a dash the standard input. -/
def Session.readSource (s : Session) (input : String) : Except ReadFault SourceText :=
  if input = "-" then s.readInput
  else
    match s.files.read (.ofString input) with
    | .error fault => .error (.unreadable fault)
    | .ok bytes => (sourceOfFile bytes).mapError .malformed

/-! ## Endings -/

/-- What no command has an answer to. -/
inductive Breakdown where
  /-- A file cannot be written, or its name is none. -/
  | file (fault : PathFault)
  /-- There is no standard input to read. -/
  | inputClosed
  /-- A call of a tool, or for a workspace, is none. -/
  | call (fault : CallFault)
  /-- What a tool says of itself is no valid text. -/
  | malformedText (error : Text.DecodeError)
  /-- The numbers of a report cannot be sorted or shown. -/
  | unshowable (fault : ValueFault)
  /-- A target is asked for without an id. -/
  | idLeftOut
  /-- A number of workers is asked for without a number. -/
  | workersLeftOut
  /-- The console cannot make out the markup in a table. -/
  | markup (message : String)
  deriving DecidableEq, Repr

/-- The message about a breakdown. -/
def Breakdown.message : Breakdown → String
  | .file fault => fault.message
  | .inputClosed => "'NoneType' object has no attribute 'read'"
  | .call fault => fault.message
  | .malformedText e => e.message
  | .unshowable fault => fault.message
  | .idLeftOut => "unhashable type: 'list'"
  | .workersLeftOut => "'<' not supported between instances of 'int' and 'list'"
  | .markup message => message

/-- How a run of the program ends. -/
inductive SessionEnd where
  /-- The command was carried out, with an exit code. -/
  | exited (code : Nat)
  /-- The command line led to no command. -/
  | diverted (detour : Detour)
  | broken (breakdown : Breakdown)
  deriving DecidableEq, Repr

/-- What is left when a run of the program is over. -/
structure Aftermath where
  ending : SessionEnd
  files : FileSystem
  /-- The number of workspaces that are still there. -/
  leftWorkspaces : Nat := 0

namespace Session

/-- The end with an exit code, with nothing changed. -/
def exit (s : Session) (code : Nat) : Aftermath :=
  { ending := .exited code, files := s.files }

/-- The end with a breakdown, with nothing changed. -/
def fail (s : Session) (breakdown : Breakdown) : Aftermath :=
  { ending := .broken breakdown, files := s.files }

end Session

end SnippetCost
