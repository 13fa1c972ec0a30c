import SnippetCost.CommandLine.Help
import SnippetCost.CommandLine.Run
import SnippetCost.Display.Plain

/-!
# The program

The outer layer of the program: it collects what a session works on, runs the command line in it, and then
does what the trace of the run says.  It starts no processes of its own, so here every start of a tool is
refused; whoever can start processes gives the session another world.
-/

namespace SnippetCost

/-- The variables of the environment that a run looks at. -/
def relevantVariables : List String :=
  ["SIMDMCA_CLANG", "SIMDMCA_LLVM_MCA", "SIMDMCA_TIMEOUT", "SIMDMCA_MINIMAL_UI"]

/-- The world in which no tool can be started. -/
def refusingWorld : World where
  location := fun stem => stem ++ "workspace"
  creation := .ok Workspace.fresh
  run := fun _ ws => (.unstarted (.plain "processes cannot be started from here"), ws)
  removalFault := none

/-- The bytes of a file, if it can be read. -/
def fileBytes? (name : String) : IO (Option (List UInt8)) := do
  try
    let bytes ← IO.FS.readBinFile name
    return some bytes.toList
  catch _ => return none

/-- Is there a file that can be opened? -/
def canOpen (name : String) : IO Bool := do
  try
    let _ ← IO.FS.Handle.mk name .read
    return true
  catch _ => return false

/-- The files that words of the command line name. -/
def namedFiles (words : List String) : IO FileSystem := do
  let here ← IO.currentDir
  let mut files : FileSystem := ⟨.empty, (Text.PathName.ofString here.toString).parts⟩
  for word in words do
    match ← fileBytes? word with
    | some bytes => files := (files.writeWithFolders (.ofString word) bytes).1
    | none => pure ()
  return files

/-- The values of the variables that a run looks at. -/
def variableValues : IO (List (String × String)) := do
  let values ← relevantVariables.mapM fun name => do
    return (← IO.getEnv name).map (name, ·)
  return values.filterMap id

/-- The executables that are found for the tools, by name. -/
def executables : IO (List (String × String)) := do
  let folders := ((← IO.getEnv "PATH").getD "").splitOn ":"
  let mut found := []
  for name in Tool.all.flatMap Tool.candidates do
    for folder in folders do
      if (found.lookup name).isNone then
        if ← canOpen (folder ++ "/" ++ name) then
          found := found ++ [(name, folder ++ "/" ++ name)]
  return found

/-- The machine as the system names it. -/
def machineName : IO (Except OsError String) := do
  match ← fileBytes? "/proc/sys/kernel/arch" with
  | some bytes => return .ok (capturedText bytes)
  | none => return .error (.notFound "/proc/sys/kernel/arch")

/-- The bytes on the standard input, if it can be read. -/
def inputBytes : IO (Except InputFault (List UInt8)) := do
  try
    let text ← (← IO.getStdin).readToEnd
    return .ok (Text.encode text.toList)
  catch e => return .error (.refused (.plain (toString e)))

/-- The session of a command line. -/
def currentSession (words : List String) : IO Session := do
  let values ← variableValues
  let found ← executables
  let machine ← machineName
  let files ← namedFiles words
  let input ← if words.contains "-" then inputBytes else pure (.ok [])
  return { surroundings :=
             { world := refusingWorld
               machine := machine
               environment := fun name => values.lookup name
               lookUp := fun name => found.lookup name }
           files := files
           standardInput := input }

/-- Shows lines on one of the consoles. -/
def showLines (stream : Stream) (lines : List String) : IO Unit := do
  for line in lines do
    match stream with
    | .out => IO.println line
    | .err => IO.eprintln line

/-- Does what an event says; the answer is the least level that is logged from then on. -/
def enact (least : LogLevel) : Event → IO LogLevel
  | .levelChosen level => return level
  | .logged level message => do
    if least.rank ≤ level.rank then showLines .err [message]
    return least
  | .shown stream output => do
    showLines stream output.lines
    return least
  | .fileWritten name content => do
    IO.FS.createDirAll (Text.PathName.ofString name).parent.text
    IO.FS.writeBinFile name (ByteArray.mk content.toArray)
    return least
  | .started _ | .workspaceCreated _ | .removalAttempted _ | .collationRequested => return least

/-- Does what events say. -/
def enactAll (least : LogLevel) : List Event → IO Unit
  | [] => return ()
  | event :: events => do
    let least ← enact least event
    enactAll least events

end SnippetCost

open SnippetCost in
/-- Runs the program on its command line. -/
def main (words : List String) : IO UInt32 := do
  let session ← currentSession words
  let run := session.run words
  enactAll .warning run.events
  match run.value.ending with
  | .exited code => return code.toUInt32
  | .diverted detour =>
    showLines .out detour.lines.1
    showLines .err detour.lines.2
    return detour.exitCode.toUInt32
  | .broken breakdown =>
    showLines .err [breakdown.message]
    return 1
