import SnippetCost.Text.Blank
import SnippetCost.Toolchain.Config
import SnippetCost.World.Basic

/-!
# What tools say of themselves

A tool is asked for its version by its command line.  The version is the first line of the answer that is
not blank; a tool that cannot be asked, or says nothing, has none.  Unlike the output of an analysis the
answer has to be valid text; and the question has to be a call.
-/

namespace SnippetCost

/-- How long a tool may take to say its version. -/
def versionLimit : Seconds := .whole 5

/-- The first line that is not blank, trimmed. -/
def firstLine? (text : List Char) : Option String :=
  ((Text.lines text).find? (!Text.allBlank ·)).map fun line => String.ofList (Text.trim line)

/-- The version in what a tool said on its two streams, both of which have to be valid text. -/
def versionIn (out err : List UInt8) : Except Text.DecodeError (Option String) := do
  let said ← Text.decodeStrict out
  let _ ← Text.decodeStrict err
  return firstLine? (Text.normalizeNewlines said)

/-- Why it is not known whether a tool has a version. -/
inductive VersionFault where
  | malformed (error : Text.DecodeError)
  | refused (fault : CallFault)
  deriving DecidableEq, Repr

/-- Asks an executable for its version. -/
def World.toolVersion (w : World) (path : String) :
    Traced (Except VersionFault (Option String)) := do
  let (ending, _) ← w.start [path, "--version"] versionLimit none
  match ending with
  | .refused fault => return .error (.refused fault)
  | .unstarted _ | .expired _ _ => return .ok none
  | .exited _ out err => return (versionIn out err).mapError .malformed

end SnippetCost
