import SnippetCost.Display.Output
import SnippetCost.World.Process
import SnippetCost.World.Workspace

/-!
# Traces

Everything a computation does to the outside, as a list of events in the order in which they happen,
beside its value.  `Traced` computations compose: the events of the second follow those of the first.
-/

namespace SnippetCost

/-- How important a log message is. -/
inductive LogLevel where
  | debug
  | info
  | warning
  | error
  deriving DecidableEq, Repr

namespace LogLevel

/-- The name of a level. -/
def name : LogLevel → String
  | .debug => "DEBUG"
  | .info => "INFO"
  | .warning => "WARNING"
  | .error => "ERROR"

/-- The rank of a level, the least important first. -/
def rank : LogLevel → Nat
  | .debug => 0
  | .info => 1
  | .warning => 2
  | .error => 3

end LogLevel

/-- The start of a process: its command line, its time limit, and the workspace it was started in, as
that was at this moment. -/
structure Call where
  argv : List String
  limit : Seconds
  workspace : Workspace
  deriving DecidableEq, Repr

/-- Something that is seen from outside. -/
inductive Event where
  | logged (level : LogLevel) (message : String)
  /-- The start of a process was attempted. -/
  | started (call : Call)
  /-- A workspace directory was created. -/
  | workspaceCreated (location : String)
  /-- The recursive removal of a directory was attempted. -/
  | removalAttempted (location : String)
  | shown (stream : Stream) (output : Output)
  /-- Messages below this level are dropped from here on. -/
  | levelChosen (level : LogLevel)
  /-- Texts are to be sorted as the user's language sorts them. -/
  | collationRequested
  /-- A file was written. -/
  | fileWritten (name : String) (content : List UInt8)
  deriving DecidableEq, Repr

/-- A value and what happened on the way to it. -/
structure Traced (α : Type) where
  value : α
  events : List Event

namespace Traced

/-- Carries on with the value; the events of both follow each other. -/
def andThen {α β : Type} (first : Traced α) (next : α → Traced β) : Traced β :=
  let second := next first.value
  ⟨second.value, first.events ++ second.events⟩

instance : Monad Traced where
  pure value := ⟨value, []⟩
  bind := andThen

/-- One event. -/
def event (e : Event) : Traced Unit :=
  ⟨(), [e]⟩

/-- One log message. -/
def log (level : LogLevel) (message : String) : Traced Unit :=
  event (.logged level message)

/-- Log messages of one level, in order. -/
def logAll (level : LogLevel) (messages : List String) : Traced Unit :=
  ⟨(), messages.map (.logged level)⟩

/-- Sends something to a console. -/
def display (stream : Stream) (output : Output) : Traced Unit :=
  event (.shown stream output)

/-- The values of a list of computations, run one after the other. -/
def mapList {α β : Type} (f : α → Traced β) : List α → Traced (List β)
  | [] => pure []
  | x :: xs => do
    let y ← f x
    let ys ← mapList f xs
    return y :: ys

/-! ### Values and events of a composition -/

variable {α β : Type}

@[simp] theorem value_pure (x : α) : (pure x : Traced α).value = x := rfl

@[simp] theorem events_pure (x : α) : (pure x : Traced α).events = [] := rfl

@[simp] theorem value_bind (x : Traced α) (f : α → Traced β) :
    (x >>= f).value = (f x.value).value := rfl

@[simp] theorem events_bind (x : Traced α) (f : α → Traced β) :
    (x >>= f).events = x.events ++ (f x.value).events := rfl

@[simp] theorem events_event (e : Event) : (event e).events = [e] := rfl

@[simp] theorem events_log (level : LogLevel) (message : String) :
    (log level message).events = [.logged level message] := rfl

@[simp] theorem events_logAll (level : LogLevel) (messages : List String) :
    (logAll level messages).events = messages.map (.logged level) := rfl

end Traced

/-! ## Views of a trace -/

namespace Event

/-- The process starts of a trace. -/
def calls (events : List Event) : List Call :=
  events.filterMap fun
    | .started call => some call
    | _ => none

/-- The locations whose removal is attempted in a trace. -/
def removals (events : List Event) : List String :=
  events.filterMap fun
    | .removalAttempted location => some location
    | _ => none

/-- The log messages of a trace, with their levels. -/
def messages (events : List Event) : List (LogLevel × String) :=
  events.filterMap fun
    | .logged level message => some (level, message)
    | _ => none

/-- The log messages of a trace that are not dropped, `least` being the level chosen before it. -/
def messagesFrom (least : LogLevel) : List Event → List (LogLevel × String)
  | [] => []
  | .levelChosen level :: events => messagesFrom level events
  | .logged level message :: events =>
    if level.rank < least.rank then messagesFrom least events
    else (level, message) :: messagesFrom least events
  | _ :: events => messagesFrom least events

/-- What a trace sends to the consoles. -/
def outputs (events : List Event) : List (Stream × Output) :=
  events.filterMap fun
    | .shown stream output => some (stream, output)
    | _ => none

/-- The levels a trace chooses for its log. -/
def levels (events : List Event) : List LogLevel :=
  events.filterMap fun
    | .levelChosen level => some level
    | _ => none

/-- The number of workspaces created in a trace. -/
def workspaceCount (events : List Event) : Nat :=
  (events.filter fun
    | .workspaceCreated _ => true
    | _ => false).length

@[simp] theorem calls_append (xs ys : List Event) : calls (xs ++ ys) = calls xs ++ calls ys :=
  List.filterMap_append

@[simp] theorem removals_append (xs ys : List Event) :
    removals (xs ++ ys) = removals xs ++ removals ys :=
  List.filterMap_append

section Cons

variable (events : List Event)

@[simp] theorem calls_logged_cons (level : LogLevel) (message : String) :
    calls (.logged level message :: events) = calls events := rfl

@[simp] theorem calls_started_cons (call : Call) :
    calls (.started call :: events) = call :: calls events := rfl

@[simp] theorem calls_workspaceCreated_cons (location : String) :
    calls (.workspaceCreated location :: events) = calls events := rfl

@[simp] theorem calls_removalAttempted_cons (location : String) :
    calls (.removalAttempted location :: events) = calls events := rfl

@[simp] theorem removals_logged_cons (level : LogLevel) (message : String) :
    removals (.logged level message :: events) = removals events := rfl

@[simp] theorem removals_started_cons (call : Call) :
    removals (.started call :: events) = removals events := rfl

@[simp] theorem removals_workspaceCreated_cons (location : String) :
    removals (.workspaceCreated location :: events) = removals events := rfl

@[simp] theorem removals_removalAttempted_cons (location : String) :
    removals (.removalAttempted location :: events) = location :: removals events := rfl

end Cons

/-- Is the event a log message? -/
def isRemark : Event → Bool
  | .logged _ _ => true
  | _ => false

theorem calls_of_remarks {events : List Event} (h : ∀ e ∈ events, e.isRemark) :
    calls events = [] := by
  rw [calls, List.filterMap_eq_nil_iff]
  intro e he
  cases e with
  | logged => rfl
  | _ => cases h _ he

theorem removals_of_remarks {events : List Event} (h : ∀ e ∈ events, e.isRemark) :
    removals events = [] := by
  rw [removals, List.filterMap_eq_nil_iff]
  intro e he
  cases e with
  | logged => rfl
  | _ => cases h _ he

end Event

end SnippetCost
