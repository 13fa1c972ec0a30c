import SnippetCost.Number.Shortest
import SnippetCost.Text.Line
import SnippetCost.Text.Utf8
import SnippetCost.World.OsError

/-!
# Processes

What a run of an external tool looks like from outside: it cannot be started, it runs past its time
limit, or it exits with a status and two captured streams of bytes.  Before any of that the call itself may
be none: no word of a command line holds a NUL character, and a time limit has to be a number of
milliseconds that can be waited for.
-/

namespace SnippetCost

/-- A time limit. -/
inductive Seconds where
  | whole (n : Int)
  | real (x : Number.Binary64)
  deriving DecidableEq, Repr

/-- The limit in words, without the unit. -/
def Seconds.text : Seconds → String
  | .whole n => toString n
  | .real x => x.text

/-- The limit as a number of seconds. -/
def Seconds.number : Seconds → Number.Binary64
  | .whole n => .ofInt n
  | .real x => x

/-! ## Calls that are none -/

/-- Why a call is refused whatever the system is ready to do: something that is handed over with it is not what
such calls take. -/
inductive CallFault where
  /-- A NUL character in a word of the command line, or in a name. -/
  | nulInside
  /-- A time limit that is no number. -/
  | undefinedLimit
  | endlessLimit
  /-- A time limit of more milliseconds than can be waited for at once. -/
  | limitTooLong
  /-- A time limit of more nanoseconds than the clock counts. -/
  | limitBeyondClock
  deriving DecidableEq, Repr

/-- The message about a call that is refused. -/
def CallFault.message : CallFault → String
  | .nulInside => "embedded null byte"
  | .undefinedLimit => "cannot convert float NaN to integer"
  | .endlessLimit => "cannot convert float infinity to integer"
  | .limitTooLong => "timeout is too large"
  | .limitBeyondClock => "timestamp too large to convert to C _PyTime_t"

/-- How many milliseconds can be waited for at once. -/
def longestWait : Number.Binary64 := .ofInt 2147483647

/-- How many milliseconds a clock counts whose ticks are nanoseconds. -/
def clockRange : Number.Binary64 := .ofInt 9223372036854

/-- What is wrong with a time limit.  One that is over from the start is none the worse for it. -/
def Seconds.fault? (limit : Seconds) : Option CallFault :=
  match limit.number.mul (.ofInt 1000) with
  | .nan => some .undefinedLimit
  | .infinite false => some .endlessLimit
  | milliseconds =>
    if clockRange.lt milliseconds then some .limitBeyondClock
    else if longestWait.lt milliseconds then some .limitTooLong
    else none

/-- What is wrong with a command line and a time limit.  The command line comes first. -/
def CallFault.of? (argv : List String) (limit : Seconds) : Option CallFault :=
  if argv.any (·.toList.contains '\x00') then some .nulInside else limit.fault?

/-! ## Runs -/

/-- How a run of a tool ended.  A run that is stopped at its limit may have left no stream behind at
all. -/
inductive Ending where
  /-- There is no such call. -/
  | refused (fault : CallFault)
  | unstarted (error : OsError)
  | expired (out err : Option (List UInt8))
  | exited (status : Int) (out err : List UInt8)
  deriving DecidableEq, Repr

/-- The text of a captured stream: bad bytes are shown by replacement characters. -/
def capturedText (bytes : List UInt8) : String :=
  String.ofList (Text.normalizeNewlines (Text.decodeReplacing bytes))

/-- What a finished run of a tool left behind. -/
structure ToolOutput where
  argv : List String
  status : Int
  out : String
  err : String
  deriving DecidableEq, Repr

/-- Did the tool report success? -/
def ToolOutput.succeeded (o : ToolOutput) : Bool :=
  o.status == 0

end SnippetCost
