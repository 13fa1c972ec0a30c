import SnippetCost.CommandLine.ExitCode
import SnippetCost.Proofs.Analysis.Served

/-!
# The exit code of a run

The code of several outcomes is read off the first that is no result, in the order of the ids (`CodeOf`).  Only a
rejection, or a failure to clean up, would make it another code than zero or that of one of the three stages, and
neither is among the outcomes of requests that are made (`MatrixOutcome.Settled`).

* **`codeOf_exitCodeOf`**: the code of outcomes that are settled is the one for them;
* **`Analyzer.settled_of_request`**, **`Analyzer.settled_of_mem_singles`**: the outcomes of an analysis and of several
  are settled if their requests can be made.
-/

namespace SnippetCost

/-! ## Codes -/

/-- An outcome of an analysis that was let through: a result, or a failure of one of its three stages. -/
def MatrixOutcome.Settled (o : MatrixOutcome) : Prop :=
  (∃ r, o.outcome = .ok r) ∨ ∃ fault, o.outcome = .error (.failed fault) ∧ fault.failure.stage ≠ .cleanup

/-- The code for some outcomes: zero if all are results, and otherwise that of the stage of the first that is
none. -/
inductive CodeOf : List MatrixOutcome → Nat → Prop where
  | success {outcomes : List MatrixOutcome} (results : ∀ o ∈ outcomes, ∃ r, o.outcome = .ok r) :
      CodeOf outcomes 0
  | failure {before after : List MatrixOutcome} {o : MatrixOutcome} {fault : Fault} {code : Nat}
      (results : ∀ o ∈ before, ∃ r, o.outcome = .ok r) (first : o.outcome = .error (.failed fault))
      (stage : (fault.failure.stage, code) ∈ [(.compile, 3), (.simulate, 4), (.workspaceSetup, 5)]) :
      CodeOf (before ++ o :: after) code

theorem Stage.exitCode_mem_of_ne {stage : Stage} (h : stage ≠ .cleanup) :
    (stage, stage.exitCode) ∈ [(Stage.compile, 3), (.simulate, 4), (.workspaceSetup, 5)] := by
  cases stage with
  | cleanup => exact absurd rfl h
  | _ => decide

/-- One more result in front does not change the code. -/
theorem CodeOf.cons {outcomes : List MatrixOutcome} {code : Nat} (h : CodeOf outcomes code) {o : MatrixOutcome}
    (result : ∃ r, o.outcome = .ok r) : CodeOf (o :: outcomes) code := by
  cases h with
  | success results =>
      refine .success ?_
      rw [List.forall_mem_cons]
      exact ⟨result, results⟩
  | @failure before after o' fault code results first stage =>
      have results' : ∀ x ∈ o :: before, ∃ r, x.outcome = .ok r := by
        rw [List.forall_mem_cons]
        exact ⟨result, results⟩
      exact .failure results' first stage

/-- **The code of several outcomes** is the one for them. -/
theorem codeOf_exitCodeOf {outcomes : List MatrixOutcome} (settled : ∀ o ∈ outcomes, o.Settled) :
    CodeOf outcomes (exitCodeOf outcomes) := by
  induction outcomes with
  | nil => exact .success (List.forall_mem_nil _)
  | cons o os ih =>
      rw [List.forall_mem_cons] at settled
      rcases settled.1 with ⟨r, hr⟩ | ⟨fault, hfault, hstage⟩
      · have hcode : exitCodeOf (o :: os) = exitCodeOf os := by rw [exitCodeOf, hr]
        rw [hcode]
        exact (ih settled.2).cons ⟨r, hr⟩
      · have hcode : exitCodeOf (o :: os) = fault.failure.stage.exitCode := by
          rw [exitCodeOf, hfault]
          rfl
        have hfirst : CodeOf ([] ++ o :: os) fault.failure.stage.exitCode :=
          .failure (List.forall_mem_nil _) hfault (Stage.exitCode_mem_of_ne hstage)
        rw [hcode]
        exact hfirst

/-- It is zero exactly if all are results. -/
theorem CodeOf.eq_zero_iff {outcomes : List MatrixOutcome} {code : Nat} (h : CodeOf outcomes code) :
    code = 0 ↔ ∀ o ∈ outcomes, ∃ r, o.outcome = .ok r := by
  cases h with
  | success results => exact iff_of_true rfl results
  | @failure before after o fault code results first stage =>
      refine iff_of_false ?_ ?_
      · rintro rfl
        simp at stage
      · intro all
        obtain ⟨r, hr⟩ := all o (List.mem_append_right before List.mem_cons_self)
        rw [first] at hr
        cases hr

/-- It is zero, or that of a stage. -/
theorem CodeOf.code_mem {outcomes : List MatrixOutcome} {code : Nat} (h : CodeOf outcomes code) :
    code ∈ [0, 3, 4, 5] := by
  cases h with
  | success => decide
  | failure _ _ stage =>
      have hcode := List.mem_map_of_mem (f := Prod.snd) stage
      exact List.mem_cons_of_mem _ hcode

/-! ## The outcomes of analyses -/

namespace Analyzer

variable {a : Analyzer} {source : SourceText}

/-- An analysis of a request that is made is settled, if it has an outcome. -/
theorem settled_of_request {id : String} {request : Request} (h : a.request source id = .ok request)
    {w : World} {o : MatrixOutcome} (ho : (a.analyze w source id).value.outcome = .of o.outcome) : o.Settled := by
  obtain ⟨⟨code, accepted⟩, -⟩ := parts_of_request h
  have course := course_run (a := a) (w := w) accepted
  rw [analyze_eq_run h] at ho
  rw [ho] at course
  cases houtcome : o.outcome with
  | ok result => exact .inl ⟨result, houtcome⟩
  | error e =>
      rw [houtcome] at course
      rcases course.ends with ⟨result, hend⟩ | ⟨fault, hend⟩ | ⟨fault, hend⟩ <;> cases hend
      refine .inr ⟨fault, houtcome, fun hcleanup => ?_⟩
      have first := course.firstFailure fault rfl
      rw [hcleanup] at first
      cases first

/-- So are all those of a matrix run whose requests are made. -/
theorem settled_of_mem_singles {ids : List String} {requests : List Request}
    (h : a.requests source ids = .ok requests) {worlds : Nat → World} {o : MatrixOutcome}
    (ho : o.entry ∈ a.singles worlds source ids) : o.Settled := by
  obtain ⟨i, hi, hsingle⟩ := List.mem_mapIdx.mp ho
  obtain ⟨hlength, hall⟩ := List.forall₂_iff_get.mp (forall₂_of_requests h)
  exact settled_of_request (hall i hi (hlength ▸ hi)) (congrArg Prod.snd hsingle)

/-- A matrix run whose requests are made comes to what its single runs come to. -/
theorem several_of_requests_made {ids : List String} {requests : List Request}
    (h : a.requests source ids = .ok requests) (worlds : Nat → World) (wanted : Int) (schedule : List Nat)
    (takenUp : Nat) : Several (a.singles worlds source ids)
      (a.analyzeMatrixAmid worlds source ids wanted schedule takenUp).value :=
  several_of_requests ((forall₂_of_requests h).imp fun _ _ made => ⟨made, id_of_request made⟩) worlds h wanted
    schedule takenUp

end Analyzer

end SnippetCost
