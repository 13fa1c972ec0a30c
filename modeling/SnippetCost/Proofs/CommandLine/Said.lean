import SnippetCost.CommandLine.Analyze
import SnippetCost.Proofs.World.Only

/-!
# What is only said

A command that goes no further than to say something leaves no trace in the outside world: all that happens
(`Traced.Only`) is log messages and what is sent to a console, which is `Event.IsSaid`; with
`Event.IsDelivery` files may be written, too.  What is said on the way is meant for people, so it is
no document (`Event.IsTalk`).

One section for each kind of function: the consoles, what comes before an analysis, and what comes after it.
-/

namespace SnippetCost

/-! ## Events that are allowed -/

namespace Event

/-- A log message, or something on a console. -/
def IsSaid : Event → Prop
  | .logged _ _ | .shown _ _ => True
  | _ => False

/-- A log message, or something on a console that is no document. -/
def IsTalk : Event → Prop
  | .shown _ (.json _) => False
  | .logged _ _ | .shown _ _ => True
  | _ => False

/-- Talk is said. -/
theorem IsTalk.isSaid {e : Event} (h : e.IsTalk) : e.IsSaid := by
  cases e with
  | logged => trivial
  | shown => trivial
  | _ => exact h.elim

/-- A log message, or a text on the console for messages. -/
def IsAside : Event → Prop
  | .logged _ _ | .shown .err (.text _ _ _) => True
  | _ => False

/-- What is said aside is talk. -/
theorem IsAside.isTalk {e : Event} (h : e.IsAside) : e.IsTalk := by
  cases e with
  | logged => trivial
  | shown stream output =>
      cases stream with
      | out => exact h.elim
      | err =>
          cases output with
          | text => trivial
          | _ => exact h.elim
  | _ => exact h.elim

/-- Something that is said, or a file that is written. -/
def IsDelivery (e : Event) : Prop :=
  e.IsSaid ∨ ∃ name content, e = .fileWritten name content

/-- What is said may be part of a delivery. -/
theorem IsSaid.isDelivery {e : Event} (h : e.IsSaid) : e.IsDelivery :=
  .inl h

/-- A process that is started is none. -/
theorem not_isDelivery_started (call : Call) : ¬(started call).IsDelivery := by
  rintro (h | ⟨name, content, h⟩)
  · exact h
  · cases h

/-- So a trace of deliveries has no processes. -/
theorem calls_of_isDelivery {events : List Event} (h : ∀ e ∈ events, e.IsDelivery) :
    calls events = [] := by
  rw [calls, List.filterMap_eq_nil_iff]
  intro e he
  cases e with
  | started call => exact absurd (h _ he) (not_isDelivery_started call)
  | _ => rfl

end Event

namespace Traced

variable {α β : Type}

/-- The events of three parts follow each other, however they are put together. -/
theorem bind_bind {γ : Type} (x : Traced α) (f : α → Traced β) (g : β → Traced γ) :
    x >>= f >>= g = x >>= fun a => f a >>= g := by
  change Traced.mk _ _ = Traced.mk _ _
  rw [Traced.mk.injEq]
  exact ⟨rfl, List.append_assoc ..⟩

/-- Two ways to go on are the same if they are for the value that there is. -/
theorem bind_eq_of_value {x : Traced α} {f g : α → Traced β} (h : f x.value = g x.value) : x >>= f = x >>= g := by
  change Traced.mk _ _ = Traced.mk _ _
  rw [h]

/-- What is said aside is talk. -/
theorem Only.talk {x : Traced α} (h : x.Only Event.IsAside) : x.Only Event.IsTalk :=
  h.mono fun _ => Event.IsAside.isTalk

/-- What is talk is said. -/
theorem Only.said {x : Traced α} (h : x.Only Event.IsTalk) : x.Only Event.IsSaid :=
  h.mono fun _ => Event.IsTalk.isSaid

/-- And it may be part of a delivery. -/
theorem Only.delivery {x : Traced α} (h : x.Only Event.IsTalk) : x.Only Event.IsDelivery :=
  h.mono fun _ he => he.isSaid.isDelivery

/-- A text on a console is talk. -/
theorem only_display_text (stream : Stream) (content : String) (markup highlight : Bool) :
    (display stream (.text content markup highlight)).Only Event.IsTalk :=
  only_event trivial

/-- So is a table. -/
theorem only_display_table (stream : Stream) (table : Table) :
    (display stream (.table table)).Only Event.IsTalk :=
  only_event trivial

end Traced

open Traced Event

/-! ## The consoles -/

namespace Console

variable (minimal : Bool)

/-- A message is talk, with its tag in plain letters or in colours. -/
theorem only_tagged (stream : Stream) (plainTag colouredTag message : String) :
    (tagged minimal stream plainTag colouredTag message).Only IsTalk := by
  unfold tagged
  split
  · exact only_display_text ..
  · exact only_display_text ..

/-- On the console for messages it is said aside. -/
theorem aside_tagged (plainTag colouredTag message : String) :
    (tagged minimal .err plainTag colouredTag message).Only IsAside := by
  unfold tagged
  split
  · exact only_event trivial
  · exact only_event trivial

/-- What is told of the progress is said aside, if at all. -/
theorem aside_info (message : String) : (info minimal message).Only IsAside := by
  unfold info
  split
  · exact only_pure ()
  · exact aside_tagged ..

/-- So it is talk. -/
theorem only_info (message : String) : (info minimal message).Only IsTalk :=
  (aside_info minimal message).talk

/-- So is a text under a title. -/
theorem only_block (title text : String) : (block minimal title text).Only IsTalk := by
  refine Only.bind ?_ (only_display_text ..)
  split
  · exact only_display_text ..
  · exact only_event trivial

end Console

/-! ## Before an analysis -/

/-- That a machine cannot tell what it is, is said aside. -/
theorem Host.aside_detect (answer : Except OsError String) : (Host.detect answer).Only IsAside :=
  Host.only_detect (fun _ _ => trivial) answer

namespace Session

variable (s : Session)

/-- Admission says why it refuses, and which targets it lets through all the same. -/
theorem aside_admits (catalog : Catalog) (host : Host) (force : Bool) (ids : List (Option String)) :
    (s.admits catalog host force ids).Only IsAside := by
  induction ids with
  | nil => exact only_pure _
  | cons id ids ih =>
      cases id with
      | none => exact only_pure _
      | some id =>
          unfold admits
          split
          · exact ih.bind (only_pure _)
          · split
            · exact (Console.aside_tagged ..).bind (ih.bind (only_pure _))
            · exact (Console.aside_tagged ..).bind (only_pure _)

/-- Of a source that cannot be read it is said so. -/
theorem only_tellUnread (input reason : String) : (s.tellUnread input reason).Only IsTalk :=
  (Console.only_tagged ..).bind (only_pure _)

/-! ## After an analysis -/

/-- A failure is told of, with what the tool left behind. -/
theorem only_tell (error : AnalysisError) : (s.tell error).Only IsTalk := by
  refine (Console.only_tagged ..).bind ?_
  split
  · exact only_pure ()
  · split
    · exact only_pure ()
    · refine (Console.only_block ..).bindIf ?_
      dsimp only
      split
      · exact Console.only_block ..
      · exact only_pure ()

/-- A rejection is told of and nothing else. -/
theorem only_reject (rejection : Rejection) : (s.reject rejection).Only IsTalk :=
  (s.only_tell _).bind (only_pure _)

/-- Saving writes at most a file, and says so. -/
theorem only_save (output : Option String) (document : String) :
    (s.save output document).Only IsDelivery := by
  unfold save
  split
  · exact only_pure _
  · dsimp only
    split
    · exact only_pure _
    · refine Only.bind (only_event ?_) ?_
      · exact .inr ⟨_, _, rfl⟩
      · exact (Console.only_tagged ..).delivery.bind (only_pure _)

/-- A result that is shown is talk: its tables, its texts, and a line about it. -/
theorem only_showResult (settings : AnalyzeSettings) (r : AnalysisResult) :
    (s.showResult settings r).Only IsTalk := by
  refine (only_display_table ..).bind ?_
  split
  · exact only_pure _
  · refine (only_display_table ..).bind ?_
    refine (Console.only_block ..).bindIf ?_
    refine (Console.only_block ..).bindIf ?_
    exact (Console.only_tagged ..).bind (only_pure _)

/-- Delivering a result is a delivery. -/
theorem only_deliver (settings : AnalyzeSettings) (r : AnalysisResult) (left : Nat) :
    (s.deliver settings r left).Only IsDelivery := by
  refine (s.only_save _ _).bind ?_
  dsimp only
  split
  · exact only_pure _
  · split
    · exact Only.bind (only_event (.inl trivial)) (only_pure _)
    · refine (s.only_showResult settings r).delivery.bind ?_
      split
      · exact only_pure _
      · exact only_pure _

/-- So is delivering several outcomes. -/
theorem only_deliverAll (settings : AnalyzeSettings) (label? : String → Option String)
    (run : MatrixRun) : (s.deliverAll settings label? run).Only IsDelivery := by
  unfold deliverAll
  dsimp only
  split
  · refine (s.only_save _ _).bind ?_
    split
    · exact only_pure _
    · exact Only.bindIf (only_event (.inl trivial)) (only_pure _)
  · exact Only.bind (only_event (.inl trivial)) (only_pure _)

/-! ## The processes of a command -/

/-- What is only said before an analysis starts nothing. -/
theorem calls_bind_of_only_left {α β : Type} {x : Traced α} {f : α → Traced β} (hx : x.Only IsTalk) :
    calls (x >>= f).events = calls (f x.value).events := by
  rw [events_bind, calls_append, calls_of_isDelivery hx.delivery.of_mem, List.nil_append]

/-- What is only delivered behind an analysis starts nothing. -/
theorem calls_bind_of_only_right {α β : Type} {x : Traced α} {f : α → Traced β}
    (hf : (f x.value).Only IsDelivery) : calls (x >>= f).events = calls x.events := by
  rw [events_bind, calls_append, calls_of_isDelivery hf.of_mem, List.append_nil]

/-- The command starts what the analysis of its only target starts. -/
theorem calls_analyzeOne (a : Analyzer) (source : SourceText) (id : String)
    (settings : AnalyzeSettings) : calls (s.analyzeOne a source id settings).events =
      calls (a.analyze (s.worlds 0) source id).events := by
  unfold analyzeOne announceAnalysis Console.stage
  rw [calls_bind_of_only_left (Console.only_tagged ..), calls_bind_of_only_right]
  split
  · exact only_pure _
  · exact (s.only_tell _).delivery.bind (only_pure _)
  · exact (Console.only_tagged ..).delivery.bind (s.only_deliver ..)

/-- The command starts what the matrix run of its targets starts; without a number of workers it starts
nothing. -/
theorem calls_analyzeSeveral (a : Analyzer) (source : SourceText) (ids : List String)
    (settings : AnalyzeSettings) : calls (s.analyzeSeveral a source ids settings).events =
      match settings.workers with
      | none => []
      | some workers =>
        calls (a.analyzeMatrixAmid s.worlds source ids workers s.schedule s.takenUp).events := by
  unfold analyzeSeveral announceAnalysis Console.stage
  rw [calls_bind_of_only_left (Console.only_tagged ..)]
  cases settings.workers with
  | none =>
      dsimp only
      split
      · exact calls_of_isDelivery (s.only_reject _).delivery.of_mem
      · rfl
  | some workers =>
      dsimp only
      rw [calls_bind_of_only_right]
      split
      · exact (s.only_reject _).delivery
      · exact only_pure _
      · exact (Console.only_tagged ..).delivery.bind (s.only_deliverAll ..)

end Session

end SnippetCost
