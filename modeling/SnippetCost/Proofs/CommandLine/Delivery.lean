import SnippetCost.Proofs.CommandLine.ExitCode
import SnippetCost.Proofs.CommandLine.Said

/-!
# How the delivery of an analysis ends

Behind the checks of the command there is an analysis and its delivery.  A request that is rejected there ends
the command with nothing done (`Session.Stopped`).  Any other one ends in one of the ways of
`Session.Delivered`: with the code of success or that of a stage that failed, because an analysis breaks off, or
because something cannot be written or shown.

Main statements: **`stopped_analyzeWith`** and **`delivered_analyzeWith`**.
-/

namespace SnippetCost

open Traced Event

namespace Session

/-! ## Ways to end -/

variable (s : Session)

/-- The command ends in a way, and all it did was to say something. -/
structure Stopped (ending : SessionEnd) (x : Traced Aftermath) : Prop where
  only : x.Only IsSaid
  value_eq : x.value = { ending := ending, files := s.files }

/-- The file for the output cannot be written, for a reason. -/
def Unwritable (settings : AnalyzeSettings) (fault : PathFault) : Prop :=
  ∃ name content, given? settings.output = some name ∧
    (s.files.writeWithFolders (.ofString name) content).2 = .error fault

/-- How a command ends whose request was let through, by what its analyses come to. -/
inductive Delivered (settings : AnalyzeSettings) (singles : List (String × Outcome)) : SessionEnd → Prop where
  | exited {code : Nat} (code_mem : code ∈ [0, 3, 4, 5]) : Delivered settings singles (.exited code)
  | unwritten {fault : PathFault} (unwritable : s.Unwritable settings fault) :
      Delivered settings singles (.broken (.file fault))
  /-- The only result cannot be shown. -/
  | unshowable {id : String} {r : AnalysisResult} {fault : ValueFault} (only : singles = [(id, .ok r)])
      (tables : settings.asJson = false)
      (failure : settings.records r >>= instructionsTable = .error fault) :
      Delivered settings singles (.broken (.unshowable fault))
  | workersLeftOut (left : settings.workers = none) : Delivered settings singles (.broken .workersLeftOut)
  | brokenOff {fault : CallFault} (first : BrokenFirst singles fault) :
      Delivered settings singles (.broken (.call fault))

section Delivery

variable {s} {settings : AnalyzeSettings} {singles : List (String × Outcome)}

/-- Saving is writing to the file that is named, if one is. -/
theorem value_save (output : Option String) (document : String) : (s.save output document).value =
    match given? output with
    | none => (s.files, .ok ())
    | some name => s.files.writeWithFolders (.ofString name) (Text.encode document.toList) := by
  unfold save
  cases given? output with
  | none => rfl
  | some name =>
      dsimp only
      rcases s.files.writeWithFolders (.ofString name) (Text.encode document.toList) with ⟨files, fault | ⟨⟩⟩
      · rfl
      · rfl

/-- A result is shown if there is a table of its records. -/
theorem value_showResult (r : AnalysisResult) : (s.showResult settings r).value =
    (settings.records r >>= instructionsTable).map fun _ => () := by
  unfold showResult
  rw [value_bind]
  dsimp only
  cases settings.records r >>= instructionsTable with
  | error fault => rfl
  | ok table =>
      rw [value_bind]
      split
      · rw [value_bind]
        split
        · rfl
        · rfl
      · split
        · rfl
        · rfl

/-- A document that is not saved is one for a file that cannot be written. -/
theorem unwritable_of_save {document : String} {files : FileSystem} {fault : PathFault}
    (h : (s.save settings.output document).value = (files, .error fault)) : s.Unwritable settings fault := by
  rw [value_save] at h
  cases hname : given? settings.output with
  | none =>
      rw [hname] at h
      cases h
  | some name =>
      rw [hname] at h
      exact ⟨name, _, hname, congrArg Prod.snd h⟩

/-- Delivering is saving first, and then showing. -/
theorem ending_deliver (r : AnalysisResult) (left : Nat) : (s.deliver settings r left).value.ending =
    match (s.save settings.output (r.jsonText jsonIndent)).value.2 with
    | .error fault => .broken (.file fault)
    | .ok () =>
      if settings.asJson then .exited successCode
      else
        match settings.records r >>= instructionsTable with
        | .error fault => .broken (.unshowable fault)
        | .ok _ => .exited successCode := by
  unfold deliver
  rw [value_bind]
  rcases (s.save settings.output (r.jsonText jsonIndent)).value with ⟨files, fault | ⟨⟩⟩
  · rfl
  · dsimp only
    cases settings.asJson with
    | true => rfl
    | false =>
        rw [if_neg Bool.false_ne_true, if_neg Bool.false_ne_true, value_bind, value_showResult]
        cases settings.records r >>= instructionsTable with
        | error fault => rfl
        | ok table => rfl

/-- A result of one target is delivered in one of the ways. -/
theorem delivered_deliver {id : String} {r : AnalysisResult} (only : singles = [(id, .ok r)]) (left : Nat) :
    s.Delivered settings singles (s.deliver settings r left).value.ending := by
  rw [ending_deliver]
  rcases hsave : (s.save settings.output (r.jsonText jsonIndent)).value with ⟨files, fault | ⟨⟩⟩
  · exact .unwritten (unwritable_of_save hsave)
  · dsimp only
    cases tables : settings.asJson with
    | true => exact .exited (by decide)
    | false =>
        rw [if_neg Bool.false_ne_true]
        cases failure : settings.records r >>= instructionsTable with
        | error fault => exact .unshowable only tables failure
        | ok table => exact .exited (by decide)

/-- So are the outcomes of several. -/
theorem delivered_deliverAll (label? : String → Option String) {run : MatrixRun}
    (code_mem : exitCodeOf run.outcomes ∈ [0, 3, 4, 5]) :
    s.Delivered settings singles (s.deliverAll settings label? run).value.ending := by
  unfold deliverAll
  dsimp only
  split
  · rw [value_bind]
    rcases hsave : (s.save settings.output (outcomesText run.outcomes)).value with ⟨files, fault | ⟨⟩⟩
    · exact .unwritten (unwritable_of_save hsave)
    · dsimp only
      split
      · exact .exited code_mem
      · exact .exited code_mem
  · exact .exited code_mem

end Delivery

/-! ## An analysis and its delivery -/

/-- Analyses for targets that were let through, with the tools that were found. -/
def analyzeWith (a : Analyzer) (source : SourceText) (ids : List String) (settings : AnalyzeSettings) :
    Traced Aftermath :=
  match ids with
  | [id] => s.analyzeOne a source id settings
  | ids => s.analyzeSeveral a source ids settings

section With

variable {s} {a : Analyzer} {source : SourceText} {settings : AnalyzeSettings}

/-- A rejection is told, and nothing else is done. -/
theorem stopped_reject (rejection : Rejection) : s.Stopped (.exited rejectedCode) (s.reject rejection) :=
  ⟨(s.only_reject rejection).said, rfl⟩

/-- What is said first does not keep a command from being stopped. -/
theorem Stopped.bind {α : Type} {x : Traced α} {f : α → Traced Aftermath} {ending : SessionEnd}
    (hx : x.Only IsTalk) (hf : s.Stopped ending (f x.value)) : s.Stopped ending (x >>= f) :=
  ⟨hx.said.bind hf.only, hf.value_eq⟩

/-- A request that cannot be made stops the command. -/
theorem stopped_analyzeOne {id : String} {r : Rejection} (h : a.request source id = .error r) :
    s.Stopped (.exited rejectedCode) (s.analyzeOne a source id settings) := by
  refine Stopped.bind (Console.only_tagged ..) ?_
  rw [Analyzer.analyze_of_request_error (s.worlds 0) h]
  exact Stopped.bind (only_pure _) (Stopped.bind (s.only_tell _) ⟨only_pure _, rfl⟩)

/-- One of several does so, too. -/
theorem stopped_analyzeSeveral {ids : List String} {r : Rejection} (h : a.requests source ids = .error r) :
    s.Stopped (.exited rejectedCode) (s.analyzeSeveral a source ids settings) := by
  refine Stopped.bind (Console.only_tagged ..) ?_
  cases settings.workers with
  | none =>
      dsimp only
      rw [h]
      exact stopped_reject r
  | some workers =>
      dsimp only
      rw [Analyzer.analyzeMatrixAmid_of_requests_error h]
      exact Stopped.bind (only_pure _) (stopped_reject r)

/-- **A request that is rejected stops the command.** -/
theorem stopped_analyzeWith {ids : List String} {r : Rejection} (some_id : ids ≠ [])
    (rejected : Rejected a.catalog source ids r) :
    s.Stopped (.exited rejectedCode) (s.analyzeWith a source ids settings) := by
  obtain ⟨id, more, rfl⟩ := List.exists_cons_of_ne_nil some_id
  rw [← Analyzer.requests_eq_error_iff] at rejected
  unfold analyzeWith
  split
  · rename_i heq
    cases heq
    rw [Analyzer.requests_eq_error_iff, ← Analyzer.request_eq_error_iff] at rejected
    exact stopped_analyzeOne rejected
  · exact stopped_analyzeSeveral rejected

/-- A request that is made is delivered in one of the ways. -/
theorem delivered_analyzeOne {id : String} {request : Request} (h : a.request source id = .ok request) :
    s.Delivered settings (a.singles s.worlds source [id]) (s.analyzeOne a source id settings).value.ending := by
  have hsingles : a.singles s.worlds source [id] = [(id, (a.analyze (s.worlds 0) source id).value.outcome)] := rfl
  unfold analyzeOne
  rw [value_bind, value_bind]
  dsimp only
  cases houtcome : (a.analyze (s.worlds 0) source id).value.outcome with
  | broken fault =>
      rw [houtcome] at hsingles
      exact .brokenOff ⟨[], id, [], hsingles, List.forall_mem_nil _⟩
  | error e =>
      have settled : (⟨id, .error e⟩ : MatrixOutcome).Settled := Analyzer.settled_of_request h houtcome
      exact .exited (codeOf_exitCodeOf (List.forall_mem_singleton.mpr settled)).code_mem
  | ok r =>
      rw [houtcome] at hsingles
      exact delivered_deliver hsingles _

/-- So are several. -/
theorem delivered_analyzeSeveral {ids : List String} {requests : List Request}
    (h : a.requests source ids = .ok requests) :
    s.Delivered settings (a.singles s.worlds source ids)
      (s.analyzeSeveral a source ids settings).value.ending := by
  unfold analyzeSeveral
  rw [value_bind]
  cases left : settings.workers with
  | none =>
      dsimp only
      rw [h]
      exact .workersLeftOut left
  | some workers =>
      have several := Analyzer.several_of_requests_made h s.worlds workers s.schedule s.takenUp
      dsimp only
      rw [value_bind]
      generalize (a.analyzeMatrixAmid s.worlds source ids workers s.schedule s.takenUp).value = value at several
      cases several with
      | broken first => exact .brokenOff first
      | @delivered run entries =>
          have settled : ∀ o ∈ run.outcomes, o.Settled := fun o ho =>
            Analyzer.settled_of_mem_singles h (entries ▸ List.mem_map_of_mem ho)
          exact delivered_deliverAll _ (codeOf_exitCodeOf settled).code_mem

/-- **A request that is let through is delivered.** -/
theorem delivered_analyzeWith {ids : List String} (some_id : ids ≠ [])
    (accepted : ¬∃ r, Rejected a.catalog source ids r) :
    s.Delivered settings (a.singles s.worlds source ids) (s.analyzeWith a source ids settings).value.ending := by
  obtain ⟨id, more, rfl⟩ := List.exists_cons_of_ne_nil some_id
  unfold analyzeWith
  split
  · rename_i heq
    cases heq
    cases hrequest : a.request source id with
    | error r => exact absurd ⟨r, Analyzer.request_eq_error_iff.mp hrequest⟩ accepted
    | ok request => exact delivered_analyzeOne hrequest
  · cases hrequests : a.requests source (id :: more) with
    | error r => exact absurd ⟨r, Analyzer.requests_eq_error_iff.mp hrequests⟩ accepted
    | ok requests => exact delivered_analyzeSeveral hrequests

end With

end Session

end SnippetCost
