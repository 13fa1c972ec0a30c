import SnippetCost.Proofs.Analysis.Stages
import SnippetCost.Proofs.World.Only

/-!
# The routine of an analysis

An analysis creates a workspace, starts processes, and logs how it gets on; none of these messages is a warning
(`Event.IsRoutine`).  Whatever else happens in a run happens in the removal of its workspace.

* **`routine_or_cleanup`**: a run is all routine, or routine around one removal.
-/

namespace SnippetCost

open Traced Event

/-- The creation of a workspace, the start of a process, or a log message that is no warning. -/
def Event.IsRoutine : Event → Prop
  | .logged .debug _ | .logged .info _ | .started _ | .workspaceCreated _ => True
  | _ => False

/-- Running a tool is saying so and starting it, however that ends. -/
theorem World.routine_runTool (w : World) (stage : Stage) (argv : List String) (limit : Seconds)
    (ws : Workspace) : (w.runTool stage argv limit ws).Only IsRoutine := by
  refine Only.bind (only_event trivial) (Only.bind ⟨?_⟩ (only_pure _))
  intro e he
  rw [List.mem_singleton.mp he]
  trivial

namespace Analyzer

/-! ## What is done in the workspace -/

section Work

variable (a : Analyzer) (w : World)

/-- Writing the unit is at most remarked on. -/
theorem routine_writeUnit (location text : String) (ws : Workspace) :
    (writeUnit w location text ws).Only IsRoutine := by
  unfold writeUnit
  split
  · exact only_pure _
  · exact Only.bind (only_event trivial) (only_pure _)

/-- Compiling is running the compiler. -/
theorem routine_compile (location : String) (t : Target) (ws : Workspace) :
    (a.compile w location t ws).Only IsRoutine := by
  refine ⟨?_⟩
  rw [events_compile]
  exact (w.routine_runTool ..).of_mem

/-- Simulating is running the simulator. -/
theorem routine_simulate (t : Target) (ws : Workspace) : (a.simulate w t ws).Only IsRoutine := by
  refine ⟨?_⟩
  rw [events_simulate]
  exact (w.routine_runTool ..).of_mem

/-- So the work in a workspace is routine, wherever it comes to a halt. -/
theorem routine_stages (t : Target) (text location : String) (ws : Workspace) :
    (a.stages w t text location ws).Only IsRoutine := by
  refine (routine_writeUnit ..).bind ?_
  rcases (writeUnit w location text ws).value with ⟨halt | ⟨⟩, written⟩
  · exact only_pure _
  · refine (routine_compile ..).bind ?_
    rcases (a.compile w location t written).value with ⟨halt | assembly, compiled⟩
    · exact only_pure _
    · exact (routine_simulate ..).bind (only_pure _)

/-- And so is reading the report, in which all that looks strange is passed over with a remark. -/
theorem routine_settle (t : Target) (answer : Except Halt (String × String)) :
    (settle t answer).Only IsRoutine := by
  rcases answer with halt | ⟨assembly, report⟩
  · exact only_pure _
  · have hread : (readReport report).Only IsRoutine :=
      (only_logAll (fun _ => trivial) _).bind ((only_logAll (fun _ => trivial) _).bind (only_pure _))
    exact Only.bind (hread.bind (Only.bind (only_event trivial) (only_pure _))) (only_pure _)

end Work

/-! ## The removal in a run -/

/-- A run removed its workspace, in which its stages had left something, and all else in it was routine. -/
structure Cleanup (a : Analyzer) (w : World) (left : Workspace) (run : Traced Conclusion) : Prop where
  workspace_eq : run.value.workspace = some (w.remove (a.place w) left).value.2
  events_eq : ∃ before after, run.events = before ++ ((w.remove (a.place w) left).events ++ after) ∧
    (∀ e ∈ before, e.IsRoutine) ∧ ∀ e ∈ after, e.IsRoutine

/-- **Every run is routine, but for the removal of its workspace if it has one.** -/
theorem routine_or_cleanup (a : Analyzer) (w : World) (request : Request) :
    (a.run w request).value.workspace = none ∧ (a.run w request).Only IsRoutine ∨
      ∃ left, a.Cleanup w left (a.run w request) := by
  cases accepted : acceptSource request.source with
  | error rejection =>
      left
      unfold run
      rw [accepted]
      exact ⟨rfl, only_pure _⟩
  | ok code =>
      cases hcreate : w.create a.config.workspaceStem with
      | error halt =>
          left
          rw [run_eq_of_refusal accepted hcreate]
          exact ⟨rfl, ⟨by simp [IsRoutine]⟩⟩
      | ok fresh =>
          right
          -- The stages come before the removal, and reading the report comes behind it.
          rcases hwork : (a.work w request.target code fresh).value with ⟨answer, left⟩
          have hroutine : (a.work w request.target code fresh).Only IsRoutine := a.routine_stages w ..
          rw [run_eq_of_creation accepted hcreate hwork]
          refine ⟨left, rfl, .logged .info ("Analyzing for " ++ request.target.displayName) ::
            .workspaceCreated (a.place w) :: .logged .debug ("Created temp directory: " ++ a.place w) ::
            (a.work w request.target code fresh).events, (settle request.target answer).events, rfl, ?_,
            (routine_settle ..).of_mem⟩
          simp only [List.forall_mem_cons]
          exact ⟨trivial, trivial, trivial, hroutine.of_mem⟩

end Analyzer

end SnippetCost
