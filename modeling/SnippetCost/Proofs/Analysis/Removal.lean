import SnippetCost.Proofs.Analysis.Stages

/-!
# The workspace is removed

An analysis that gets a workspace tries to remove it, whatever comes of its stages, once and behind its last
process; and how that goes changes nothing else.

Main statements:

- **`exists_removal`**: the place of the attempt in the trace of a run;
- **`leavesWorkspace_eq_false`**: if the system does not refuse, no directory is left behind;
- **`run_indifferent_to_removal`**: runs in two worlds that differ in the removal only have the same outcome
  and start the same processes;
- **`run_cleans_up`**: these together, and that nothing is started or removed without a workspace.
-/

namespace SnippetCost

open Event

/-- The same world with another answer to the removal of a workspace. -/
def World.withRemovalFault (w : World) (fault : Option OsError) : World :=
  { w with removalFault := fault }

namespace Analyzer

variable {a : Analyzer} {w : World} {request : Request} {code : String}

/-- The attempt to remove the workspace stands behind its creation and all processes, and it is the only
one. -/
theorem exists_removal (accepted : acceptSource request.source = .ok code) {fresh : Workspace}
    (hcreate : w.create a.config.workspaceStem = .ok fresh) : ∃ before after,
      (a.run w request).events = before ++ .removalAttempted (a.place w) :: after ∧
        .workspaceCreated (a.place w) ∈ before ∧ removals before = [] ∧ removals after = [] ∧
        calls after = [] := by
  rcases hwork : (a.work w request.target code fresh).value with ⟨answer, left⟩
  obtain ⟨remarks, hremarks, hremove⟩ := exists_events_remove w (a.place w) left
  have hsettle := isRemark_of_mem_settle request.target answer
  have hafter : ∀ e ∈ remarks ++ (settle request.target answer).events, e.isRemark := by
    rw [List.forall_mem_append]
    exact ⟨hremarks, hsettle⟩
  rw [run_eq_of_creation accepted hcreate hwork, hremove]
  refine ⟨.logged .info ("Analyzing for " ++ request.target.displayName) ::
    .workspaceCreated (a.place w) :: .logged .debug ("Created temp directory: " ++ a.place w) ::
    (a.work w request.target code fresh).events, remarks ++ (settle request.target answer).events,
    ?_, ?_, ?_, ?_, ?_⟩
  · simp
  · simp
  · simp [work]
  · exact removals_of_remarks hafter
  · exact calls_of_remarks hafter

/-- Where removal is not refused, nothing is left of the workspace. -/
theorem leavesWorkspace_eq_false (accepted : acceptSource request.source = .ok code)
    (h : w.removalFault = none) : (a.run w request).value.leavesWorkspace = false := by
  cases hcreate : w.create a.config.workspaceStem with
  | error halt =>
      rw [run_eq_of_refusal accepted hcreate]
      rfl
  | ok fresh =>
      rcases hwork : (a.work w request.target code fresh).value with ⟨answer, left⟩
      rw [run_eq_of_creation accepted hcreate hwork, remove_of_removalFault_eq_none w _ _ h]
      rfl

/-- The work in a workspace knows nothing of its removal. -/
theorem work_indifferent_to_removal (fault : Option OsError) (t : Target) (fresh : Workspace) :
    a.work (w.withRemovalFault fault) t code fresh = a.work w t code fresh := rfl

/-- How the removal goes changes neither the outcome nor the processes. -/
theorem run_indifferent_to_removal (accepted : acceptSource request.source = .ok code)
    (fault : Option OsError) :
    (a.run (w.withRemovalFault fault) request).value.outcome =
        (a.run w request).value.outcome ∧
      calls (a.run (w.withRemovalFault fault) request).events =
        calls (a.run w request).events := by
  cases hcreate : w.create a.config.workspaceStem with
  | error halt =>
      have hcreate' : (w.withRemovalFault fault).create a.config.workspaceStem = .error halt := hcreate
      rw [run_eq_of_refusal accepted hcreate, run_eq_of_refusal accepted hcreate']
      exact ⟨rfl, rfl⟩
  | ok fresh =>
      have hcreate' : (w.withRemovalFault fault).create a.config.workspaceStem = .ok fresh := hcreate
      rcases hwork : (a.work w request.target code fresh).value with ⟨answer, left⟩
      have hwork' : (a.work (w.withRemovalFault fault) request.target code fresh).value =
          (answer, left) := hwork
      rw [calls_run_of_creation accepted hcreate, calls_run_of_creation accepted hcreate',
        run_eq_of_creation accepted hcreate hwork, run_eq_of_creation accepted hcreate' hwork',
        work_indifferent_to_removal]
      exact ⟨rfl, rfl⟩

/-- Where no workspace is created, nothing is removed and nothing is started. -/
theorem nothing_of_uncreated (accepted : acceptSource request.source = .ok code)
    (uncreated : (∃ e, w.creation = .error e) ∨ '\x00' ∈ a.config.workspaceStem.toList) :
    removals (a.run w request).events = [] ∧ calls (a.run w request).events = [] := by
  cases hcreate : w.create a.config.workspaceStem with
  | error halt =>
      rw [run_eq_of_refusal accepted hcreate]
      exact ⟨rfl, rfl⟩
  | ok fresh =>
      obtain ⟨hcreation, named⟩ := World.create_eq_ok_iff.mp hcreate
      rcases uncreated with ⟨e, he⟩ | nul
      · rw [hcreation] at he
        cases he
      · exact absurd nul named

/-- **Every run cleans up, and cleaning up does not interfere.** -/
theorem run_cleans_up (a : Analyzer) (w : World) {request : Request}
    (accepted : acceptSource request.source = .ok code) :
    (∀ fresh, w.creation = .ok fresh → '\x00' ∉ a.config.workspaceStem.toList → ∃ before after,
      (a.run w request).events = before ++ .removalAttempted (a.place w) :: after ∧
        .workspaceCreated (a.place w) ∈ before ∧ removals before = [] ∧ removals after = [] ∧
        calls after = []) ∧
    (w.removalFault = none → (a.run w request).value.leavesWorkspace = false) ∧
    (∀ fault : Option OsError,
      (a.run (w.withRemovalFault fault) request).value.outcome =
          (a.run w request).value.outcome ∧
        calls (a.run (w.withRemovalFault fault) request).events =
          calls (a.run w request).events) ∧
    ((∃ e, w.creation = .error e) ∨ '\x00' ∈ a.config.workspaceStem.toList →
      removals (a.run w request).events = [] ∧ calls (a.run w request).events = []) :=
  ⟨fun _ hcreation named => exists_removal accepted (World.create_eq_ok_iff.mpr ⟨hcreation, named⟩),
    leavesWorkspace_eq_false accepted, run_indifferent_to_removal accepted, nothing_of_uncreated accepted⟩

/-- The removal in a world that refuses nothing, and one that the same world refuses. -/
theorem run_cleans_up_obliging :
    let run := Analyzer.generic.run .obliging .generic
    let refused := Analyzer.generic.run (World.obliging.withRemovalFault (some (.plain "busy"))) .generic
    acceptSource Request.generic.source = .ok "f();" ∧
    (∃ before after, run.events = before ++ .removalAttempted "simdmca-0" :: after ∧
      .workspaceCreated "simdmca-0" ∈ before ∧ removals before = [] ∧ removals after = [] ∧
      calls after = []) ∧
    run.value.leavesWorkspace = false ∧
    refused.value.outcome = run.value.outcome ∧ calls refused.events = calls run.events :=
  have cleans := run_cleans_up .generic .obliging acceptSource_generic
  ⟨acceptSource_generic, cleans.1 .fresh rfl (by decide), cleans.2.1 rfl, cleans.2.2.1 _⟩

end Analyzer

end SnippetCost
