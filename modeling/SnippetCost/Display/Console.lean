import SnippetCost.Text.Blank
import SnippetCost.Text.Markup
import SnippetCost.World.Trace

/-!
# Messages on the consoles

The kinds of message a run sends to its consoles, each in two forms: with colours, and plain for those
who ask for a minimal display.  Only success messages and blocks go to the console for results.
-/

namespace SnippetCost

/-- Does the value of the variable for it ask for a minimal display? -/
def asksForMinimal (value : Option String) : Bool :=
  match value with
  | none => false
  | some v => ["1", "true", "yes", "on"].contains
      (String.ofList ((Text.trim v.toList).map Char.toLower))

namespace Console

/-- A text in which markup is obeyed. -/
def marked (content : String) : Output := .text content true true

/-- A text in which markup is not obeyed. -/
def plain (content : String) : Output := .text content false true

/-- A text that is shown exactly as it is. -/
def verbatim (content : String) : Output := .text content false false

/-- A message behind a tag: the tag in brackets in the plain form, in its colour else. -/
def tagged (minimal : Bool) (stream : Stream) (plainTag colouredTag message : String) :
    Traced Unit :=
  Traced.display stream
    (if minimal then plain ("[" ++ plainTag ++ "] " ++ message)
     else marked (colouredTag ++ " " ++ Text.escapeMarkup message))

/-- A step of so many has begun. -/
def stage (minimal : Bool) (step total : Int) (message : String) : Traced Unit :=
  let progress := toString step ++ "/" ++ toString total
  tagged minimal .err progress ("[cyan]●[/cyan] [bold]" ++ progress ++ "[/bold]") message

/-- Something that may be good to know; not shown on a minimal display. -/
def info (minimal : Bool) (message : String) : Traced Unit :=
  if minimal then pure () else tagged minimal .err "" "[yellow]Info:[/yellow]" message

/-- The run cannot go on. -/
def error (minimal : Bool) (message : String) : Traced Unit :=
  tagged minimal .err "ERROR" "[red]Error:[/red]" message

/-- The run goes on, but something is unusual. -/
def warning (minimal : Bool) (message : String) : Traced Unit :=
  tagged minimal .err "WARN" "[#9b59b6]Warning:[/#9b59b6]" message

/-- Something was achieved. -/
def success (minimal : Bool) (message : String) : Traced Unit :=
  tagged minimal .out "OK" "[green]Success:[/green]" message

/-- A text of several lines as it is, under a title. -/
def block (minimal : Bool) (title text : String) : Traced Unit := do
  Traced.display .out
    (if minimal then plain ("--- " ++ title ++ " ---")
     else .rule ("[bold]" ++ Text.escapeMarkup title ++ "[/bold]"))
  Traced.display .out (verbatim text)

end Console

end SnippetCost
