import SnippetCost.Proofs.Analysis.Removal
import SnippetCost.Proofs.Analysis.Routine

/-!
# Workspaces that are left behind

A run whose workspace is still there when it ends was refused its removal.  Any refusal is told in a warning that names
the workspace, and the removal answers that it failed; but one that says that something was not found passes for
success.  It may be about a file in the workspace, though, with the workspace still there.

A refused removal leaves the workspace as it was; what of it may be gone by then is not looked at.

* **`told_or_passed_over`**: every leftover is told of, or was passed over in this way and nothing warns of it.
* **`passed_over_vanished`**: a leftover that was passed over.
-/

namespace SnippetCost

open Event

/-- Who leaves a workspace behind has had one. -/
theorem Conclusion.workspace_ne_none {c : Conclusion} (leaves : c.leavesWorkspace = true) : c.workspace ≠ none := by
  intro unneeded
  unfold leavesWorkspace at leaves
  rw [unneeded] at leaves
  cases leaves

namespace Analyzer

variable {a : Analyzer} {w : World} {run : Traced Conclusion} {left : Workspace}

/-- Where the removal is not refused, there is no leftover. -/
theorem Cleanup.exists_refusal (cleanup : a.Cleanup w left run) (leaves : run.value.leavesWorkspace = true) :
    ∃ fault, w.removalFault = some fault := by
  cases hfault : w.removalFault with
  | some fault => exact ⟨fault, rfl⟩
  | none =>
      unfold Conclusion.leavesWorkspace at leaves
      rw [cleanup.workspace_eq, remove_of_removalFault_eq_none w _ _ hfault] at leaves
      cases leaves

/-- What warns in a run that cleans up is the removal. -/
theorem Cleanup.mem_of_warning (cleanup : a.Cleanup w left run) {message : String}
    (h : .logged .warning message ∈ run.events) :
    .logged .warning message ∈ (w.remove (a.place w) left).events := by
  obtain ⟨before, after, hevents, hbefore, hafter⟩ := cleanup.events_eq
  rw [hevents, List.mem_append, List.mem_append] at h
  rcases h with h | h | h
  · exact (hbefore _ h).elim
  · exact h
  · exact (hafter _ h).elim

/-- Nothing warns of a refusal that says that something was not found. -/
theorem Cleanup.not_warned (cleanup : a.Cleanup w left run) {fault : OsError} (h : w.removalFault = some fault)
    (missing : fault.isNotFound = true) (message : String) : .logged .warning message ∉ run.events := by
  intro warned
  have hmem := cleanup.mem_of_warning warned
  rw [remove_of_notFound _ _ h missing] at hmem
  simp at hmem

/-- **A leftover is told of, unless the system said that something was not found.**  Where it is told of, the removal
warns of it by its name and answers that it failed; where it is not, nothing in the run warns, and the removal answers
that all is well. -/
theorem told_or_passed_over (a : Analyzer) (w : World) (request : Request) :
    (a.run w request).value.leavesWorkspace = false ∨
      ∃ left fault, a.Cleanup w left (a.run w request) ∧ w.removalFault = some fault ∧
        (fault.isNotFound = false ∧
            .logged .warning ("[cleanup] Could not remove " ++ a.place w ++ ": " ++ fault.text) ∈
              (w.remove (a.place w) left).events ∧
            (w.remove (a.place w) left).value.1 = false ∨
          fault.isNotFound = true ∧
            (∀ message, .logged .warning message ∉ (a.run w request).events) ∧
            (w.remove (a.place w) left).value.1 = true) := by
  cases leaves : (a.run w request).value.leavesWorkspace with
  | false => exact .inl rfl
  | true =>
      right
      rcases a.routine_or_cleanup w request with ⟨unneeded, -⟩ | ⟨left, cleanup⟩
      · exact absurd unneeded (Conclusion.workspace_ne_none leaves)
      · obtain ⟨fault, hfault⟩ := cleanup.exists_refusal leaves
        refine ⟨left, fault, cleanup, hfault, ?_⟩
        cases hfound : fault.isNotFound with
        | false =>
            left
            rw [remove_of_refused _ _ hfault hfound]
            exact ⟨rfl, .tail _ (.head _), rfl⟩
        | true =>
            right
            refine ⟨rfl, cleanup.not_warned hfault hfound, ?_⟩
            rw [remove_of_notFound _ _ hfault hfound]

/-- **A file that vanishes while the workspace is removed leaves it behind**, and nothing warns of it. -/
theorem passed_over_vanished :
    let w := World.obliging.withRemovalFault (some (.notFound "output.s"))
    let run := Analyzer.generic.run w .generic
    run.value.leavesWorkspace = true ∧ (∀ message, .logged .warning message ∉ run.events) ∧
      ∀ left, (w.remove (Analyzer.generic.place w) left).value.1 = true := by
  intro w run
  have hfault : w.removalFault = some (.notFound "output.s") := rfl
  have leaves : run.value.leavesWorkspace = true := by decide +kernel
  refine ⟨leaves, ?_, fun left => rfl⟩
  rcases routine_or_cleanup .generic w .generic with ⟨unneeded, -⟩ | ⟨left, cleanup⟩
  · exact absurd unneeded (Conclusion.workspace_ne_none leaves)
  · exact cleanup.not_warned hfault rfl

end Analyzer

end SnippetCost
