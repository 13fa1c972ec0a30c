import SnippetCost.Proofs.Analysis.Routine
import SnippetCost.Proofs.CommandLine.Gate

/-!
# What comes before the delivery

Until a command delivers something it has an analysis done, writes log messages, and tells of its progress on the
console for messages.  None of this is for other programs, and none of it stands on the console for results
(`Event.IsOffstage`).  What becomes visible of a command is therefore its delivery (`Traced.LeadsTo`):

* **`leadsTo_analyzeOne`**: with one target that of its result, if there is one;
* **`leadsTo_analyzeSeveral`**: with several targets that of their outcomes;
* **`Passed.leadsTo_analyze`**: what the command checks first comes before.
-/

namespace SnippetCost

open Traced Event

/-- Work of an analysis, or something that is said aside. -/
def Event.IsOffstage : Event → Prop
  | .logged _ _ | .shown .err (.text _ _ _) | .started _ | .workspaceCreated _ | .removalAttempted _ => True
  | _ => False

theorem Event.IsAside.isOffstage {e : Event} (h : e.IsAside) : e.IsOffstage := by
  cases e with
  | logged => trivial
  | shown stream output =>
      cases stream with
      | out => exact h.elim
      | err =>
          cases output with
          | text => trivial
          | _ => exact h.elim
  | _ => exact h.elim

theorem Event.IsRoutine.isOffstage {e : Event} (h : e.IsRoutine) : e.IsOffstage := by
  cases e with
  | logged | started | workspaceCreated => trivial
  | _ => exact h.elim

namespace Traced

variable {α β : Type}

/-- What is said aside is offstage. -/
theorem Only.offstage {x : Traced α} (h : x.Only IsAside) : x.Only IsOffstage :=
  h.mono fun _ => IsAside.isOffstage

/-- A computation comes to another one, with nothing but offstage events before it. -/
structure LeadsTo (x y : Traced α) : Prop where
  value_eq : x.value = y.value
  events_eq : ∃ front, (∀ e ∈ front, e.IsOffstage) ∧ x.events = front ++ y.events

theorem LeadsTo.refl (x : Traced α) : x.LeadsTo x :=
  ⟨rfl, [], List.forall_mem_nil _, rfl⟩

/-- What comes first may be longer. -/
theorem LeadsTo.bind {x : Traced β} {f : β → Traced α} {y : Traced α} (hx : x.Only IsOffstage)
    (h : (f x.value).LeadsTo y) : (x >>= f).LeadsTo y := by
  obtain ⟨front, hfront, hevents⟩ := h.events_eq
  refine ⟨h.value_eq, x.events ++ front, List.forall_mem_append.mpr ⟨hx.of_mem, hfront⟩, ?_⟩
  rw [events_bind, hevents, List.append_assoc]

end Traced

/-! ## An analysis -/

/-- The attempt to remove a workspace is offstage, and so is what is said about it. -/
theorem World.only_remove (w : World) (location : String) (ws : Workspace) :
    (w.remove location ws).Only IsOffstage := by
  obtain ⟨remarks, hremarks, hevents⟩ := Analyzer.exists_events_remove w location ws
  refine ⟨?_⟩
  rw [hevents, List.forall_mem_cons]
  refine ⟨trivial, fun e he => ?_⟩
  cases e with
  | logged => trivial
  | _ => cases hremarks _ he

namespace Analyzer

variable (a : Analyzer) (w : World)

/-- **An analysis is offstage.** -/
theorem only_run (request : Request) : (a.run w request).Only IsOffstage := by
  rcases a.routine_or_cleanup w request with ⟨-, routine⟩ | ⟨left, cleanup⟩
  · exact routine.mono fun _ => IsRoutine.isOffstage
  · obtain ⟨before, after, hevents, hbefore, hafter⟩ := cleanup.events_eq
    refine ⟨?_⟩
    rw [hevents, List.forall_mem_append, List.forall_mem_append]
    exact ⟨fun e he => (hbefore e he).isOffstage, (w.only_remove ..).of_mem,
      fun e he => (hafter e he).isOffstage⟩

theorem only_runLogged (request : Request) : (a.runLogged w request).Only IsOffstage := by
  refine (a.only_run w request).bind ?_
  split
  · exact only_pure _
  · exact only_pure _
  · exact Only.bind (only_event trivial) (only_pure _)

theorem only_analyze (source : SourceText) (id : String) : (a.analyze w source id).Only IsOffstage := by
  unfold analyze
  split
  · exact only_pure _
  · exact a.only_run w _

/-- So is a matrix run, whatever order the pool works in. -/
theorem only_analyzeMatrixAmid (worlds : Nat → World) (source : SourceText) (ids : List String) (wanted : Int)
    (schedule : List Nat) (takenUp : Nat) :
    (a.analyzeMatrixAmid worlds source ids wanted schedule takenUp).Only IsOffstage := by
  refine ⟨?_⟩
  intro e he
  cases hrequests : a.requests source ids with
  | error r =>
      rw [analyzeMatrixAmid_of_requests_error hrequests] at he
      cases he
  | ok requests =>
      obtain ⟨w, request, -, hevent⟩ := exists_runLogged_of_mem_events hrequests he
      exact (a.only_runLogged w request).of_mem e hevent

end Analyzer

/-! ## The command -/

namespace Session

variable {s : Session} {a : Analyzer} {source : SourceText} {settings : AnalyzeSettings} {code : Nat}

/-- One result comes to its delivery. -/
theorem leadsTo_analyzeOne {id : String} {r : AnalysisResult}
    (h : (a.analyze (s.worlds 0) source id).value.outcome = .ok r) :
    ∃ left, (s.analyzeOne a source id settings).LeadsTo (s.deliver settings r left) := by
  refine ⟨(a.analyze (s.worlds 0) source id).value.leavesWorkspace.toNat, ?_⟩
  refine .bind (Console.aside_tagged ..).offstage (.bind (a.only_analyze ..) ?_)
  dsimp only
  rw [h]
  exact .bind (Console.aside_tagged ..).offstage (.refl _)

/-- A failure comes to its being told of. -/
theorem leadsTo_analyzeOne_error {id : String} {e : AnalysisError}
    (h : (a.analyze (s.worlds 0) source id).value.outcome = .error e) :
    ∃ left, (s.analyzeOne a source id settings).LeadsTo
      (s.tell e >>= fun _ => pure ⟨.exited e.exitCode, s.files, left⟩) := by
  refine ⟨(a.analyze (s.worlds 0) source id).value.leavesWorkspace.toNat, ?_⟩
  refine .bind (Console.aside_tagged ..).offstage (.bind (a.only_analyze ..) ?_)
  dsimp only
  rw [h]
  exact .refl _

/-- An analysis that breaks off leaves the command without a code. -/
theorem not_exited_of_broken {id : String} {fault : CallFault}
    (h : (a.analyze (s.worlds 0) source id).value.outcome = .broken fault) :
    (s.analyzeOne a source id settings).value.ending ≠ .exited code := by
  unfold analyzeOne
  rw [value_bind, value_bind]
  dsimp only
  rw [h]
  nofun

/-- Several outcomes come to their delivery, if the command ends with a code. -/
theorem leadsTo_analyzeSeveral {ids : List String} {requests : List Request}
    (h : a.requests source ids = .ok requests)
    (exited : (s.analyzeSeveral a source ids settings).value.ending = .exited code) :
    ∃ (label? : String → Option String) (run : MatrixRun),
      run.outcomes.map MatrixOutcome.entry = a.singles s.worlds source ids ∧
      (s.analyzeSeveral a source ids settings).LeadsTo (s.deliverAll settings label? run) := by
  unfold analyzeSeveral at exited ⊢
  rw [value_bind] at exited
  cases hworkers : settings.workers with
  | none =>
      rw [hworkers] at exited
      dsimp only at exited
      rw [h] at exited
      cases exited
  | some workers =>
      rw [hworkers] at exited
      dsimp only at exited
      rw [value_bind] at exited
      have several := Analyzer.several_of_requests_made h s.worlds workers s.schedule s.takenUp
      generalize hvalue : (a.analyzeMatrixAmid s.worlds source ids workers s.schedule s.takenUp).value = value
        at several exited
      cases several with
      | broken first => cases exited
      | @delivered run entries =>
          refine ⟨fun id => (a.catalog.get? id).map Target.displayName, run, entries, ?_⟩
          refine .bind (Console.aside_tagged ..).offstage ?_
          dsimp only
          refine .bind (a.only_analyzeMatrixAmid ..) ?_
          rw [hvalue]
          exact .bind (Console.aside_tagged ..).offstage (.refl _)

/-- The requests of what is let through can be made. -/
theorem Passed.exists_requests {input : String} {config : Config} {ids : List String}
    (h : s.Passed input settings source config ids) :
    ∃ requests, (⟨.curated, config, s.host⟩ : Analyzer).requests source ids = .ok requests := by
  obtain ⟨id, more, rfl⟩ := List.exists_cons_of_ne_nil (AnalyzeSettings.ids_ne_nil h.ids_eq)
  cases hrequests : (⟨.curated, config, s.host⟩ : Analyzer).requests source (id :: more) with
  | error r => exact absurd ⟨r, Analyzer.requests_eq_error_iff.mp hrequests⟩ h.accepted
  | ok requests => exact ⟨requests, rfl⟩

/-- What is checked before an analysis is offstage. -/
theorem Passed.leadsTo_analyze {input : String} {config : Config} {ids : List String}
    (h : s.Passed input settings source config ids) :
    (s.analyze input settings).LeadsTo (s.analyzeWith ⟨.curated, config, s.host⟩ source ids settings) := by
  rw [h.analyze_eq]
  exact .bind (s.aside_checkTargets settings).offstage (.bind (Console.aside_info ..).offstage (.refl _))

end Session

end SnippetCost
