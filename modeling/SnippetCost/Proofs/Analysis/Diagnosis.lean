import SnippetCost.Proofs.Analysis.Course

/-!
# What a failed run tells

A run that fails at a tool tells of the last process it started, and everything it tells is read off how that process
ended (`Ending.exitInfo`).  A run that fails before there is a tool tells of no process.

* **`failed_run`**: the three ways to fail, each with what is told.
* **`told_of_failed`**: so the shape of what is told gives the cause away, and the other way round.

What the message says in words is not looked at; the stage, the exit info and the output are.
-/

namespace SnippetCost

open Event

/-! ## Texts with something to see -/

/-- There is a character in the text that is not blank. -/
def Text.IsVisible (s : String) : Prop :=
  ∃ c ∈ s.toList, isBlank c = false

theorem Text.isBlankText_eq_false_iff {s : String} : isBlankText s = false ↔ IsVisible s := by
  simp [isBlankText, allBlank, IsVisible]

theorem Text.isBlankText_iff {s : String} : isBlankText s = true ↔ ¬IsVisible s := by
  rw [← isBlankText_eq_false_iff, Bool.not_eq_false]

/-! ## What is told of a process -/

/-- How the process that is started in a call ends. -/
def World.ending (w : World) (call : Call) : Ending :=
  (w.attempt call.argv call.limit call.workspace).1

namespace Ending

/-- The process was not started, or did not come to its end. -/
def IsUnfinished : Ending → Prop
  | .refused _ | .unstarted _ | .expired _ _ => True
  | .exited _ _ _ => False

/-- What is told of a process that ended in some way. -/
def exitInfo (argv : List String) : Ending → ExitInfo
  | .refused fault => ⟨argv, none, fault.message⟩
  | .unstarted e => ⟨[], none, e.text⟩
  | .expired out err => ⟨argv, none, capturedBeforeExpiry out err⟩
  | .exited status out err => .ofOutput ⟨argv, status, capturedText out, capturedText err⟩

variable {ending : Ending} {stage : Stage} {limit : Seconds} {argv : List String}

theorem status_exitInfo_eq_none_iff : (ending.exitInfo argv).status = none ↔ ending.IsUnfinished := by
  cases ending with
  | refused fault => exact iff_of_true rfl trivial
  | unstarted e => exact iff_of_true rfl trivial
  | expired out err => exact iff_of_true rfl trivial
  | exited status out err => exact iff_of_false (Option.some_ne_none _) id

theorem status_exitInfo_eq_some_iff {status : Int} :
    (ending.exitInfo argv).status = some status ↔ ∃ out err, ending = .exited status out err := by
  cases ending with
  | refused fault => simp [exitInfo]
  | unstarted e => simp [exitInfo]
  | expired out err => simp [exitInfo]
  | exited status' out err => simp [exitInfo, ExitInfo.ofOutput]

/-- The command line is told, unless the process was not started. -/
theorem argv_exitInfo (started : ∀ e, ending ≠ .unstarted e) : (ending.exitInfo argv).argv = argv := by
  cases ending with
  | refused fault => rfl
  | unstarted e => exact absurd rfl (started e)
  | expired out err => rfl
  | exited status out err => rfl

/-- A stage that fails tells of a call that was one. -/
theorem exitInfo_of_output_eq_failed {fault : Fault}
    (h : ending.output stage limit argv = .error (.failed fault)) :
    fault.failure.exitInfo = some (ending.exitInfo argv) ∧ ∀ f, ending ≠ .refused f := by
  cases ending with
  | refused f => cases h
  | unstarted e =>
      cases h
      exact ⟨rfl, nofun⟩
  | expired out err =>
      cases h
      exact ⟨rfl, nofun⟩
  | exited status out err => cases h

end Ending

namespace Analyzer

/-! ## The stages -/

section Stages

variable {a : Analyzer} {w : World} {location text : String} {t : Target} {ws ws' : Workspace} {fault : Fault}

/-- Nothing is told of a process if the unit could not be written. -/
theorem exitInfo_of_writeUnit_eq_failed
    (h : (writeUnit w location text ws).value = (.error (.failed fault), ws')) : fault.failure.exitInfo = none := by
  obtain ⟨e, -, hfault, -⟩ := writeUnit_eq_error_iff.mp h
  cases hfault
  rfl

/-- A failed compilation tells of the compiler, and if that exited with zero, its file could not be read. -/
theorem exitInfo_of_compile_eq_failed (h : (a.compile w location t ws).value = (.error (.failed fault), ws')) :
    let ending := (w.attempt (a.compileCommand t) a.limit ws).1
    (fault.failure.exitInfo = some (ending.exitInfo (a.compileCommand t)) ∧ ∀ f, ending ≠ .refused f) ∧
      ∀ out err after, w.Exits (a.compileCommand t) a.limit ws 0 out err after →
        ∃ e, w.readFile after location assemblyName = .error e := by
  simp only [← World.attempt_exited_iff]
  rcases compile_eq_error_cases h with
    hout | ⟨status, out, err, hending, ⟨hstatus, hfault⟩ | ⟨e, hread, hfault⟩⟩
  · refine ⟨Ending.exitInfo_of_output_eq_failed hout, ?_⟩
    intro out err after hrun
    rw [hrun] at hout
    cases hout
  · cases hfault
    rw [hending]
    refine ⟨⟨rfl, nofun⟩, ?_⟩
    intro out' err' after hrun
    rw [hrun] at hending
    cases hending
    exact absurd rfl hstatus
  · cases hfault
    rw [hending]
    refine ⟨⟨rfl, nofun⟩, ?_⟩
    intro out' err' after hrun
    rw [hrun] at hread
    exact ⟨e, hread⟩

/-- A failed simulation tells of the simulator, which did not exit with zero. -/
theorem exitInfo_of_simulate_eq_failed (h : (a.simulate w t ws).value = (.error (.failed fault), ws')) :
    let ending := (w.attempt (a.simulateCommand t) a.limit ws).1
    (fault.failure.exitInfo = some (ending.exitInfo (a.simulateCommand t)) ∧ ∀ f, ending ≠ .refused f) ∧
      ∀ out err, ending ≠ .exited 0 out err := by
  rcases simulate_eq_error_cases h with hout | ⟨status, out, err, hending, hstatus, hfault⟩
  · refine ⟨Ending.exitInfo_of_output_eq_failed hout, ?_⟩
    intro out err hzero
    rw [hzero] at hout
    cases hout
  · cases hfault
    rw [hending]
    refine ⟨⟨rfl, nofun⟩, ?_⟩
    intro out' err' hzero
    cases hzero
    exact hstatus rfl

end Stages

/-! ## The run -/

section Run

variable (a : Analyzer) (w : World) (t : Target) (code : String)

/-- The compiler exits with zero, and its file cannot be read. -/
def Unread : Prop :=
  ∃ before out err after e, a.Prepared w t code before ∧
    w.Exits (a.compileCommand t) a.limit before 0 out err after ∧
    w.readFile after (a.place w) assemblyName = .error e

/-- What a failed run tells, beside the processes it started: of none, or of the last one. -/
inductive Failed : List Call → StageFailure → Prop where
  | unprepared {failure : StageFailure} (stage : failure.stage = .workspaceSetup)
      (info : failure.exitInfo = none) : Failed [] failure
  | uncompiled {failure : StageFailure} {ws : Workspace} (prepared : a.Prepared w t code ws)
      (stage : failure.stage = .compile)
      (info : failure.exitInfo = some ((w.ending (a.compileCall t ws)).exitInfo (a.compileCommand t)))
      (called : ∀ f, w.ending (a.compileCall t ws) ≠ .refused f)
      (unread : ∀ out err after, w.Exits (a.compileCommand t) a.limit ws 0 out err after →
        ∃ e, w.readFile after (a.place w) assemblyName = .error e) :
      Failed [a.compileCall t ws] failure
  | unsimulated {failure : StageFailure} {ws₁ ws₂ : Workspace} {assembly : List UInt8}
      (compiled : a.Compiled w t code ws₂ assembly) (stage : failure.stage = .simulate)
      (info : failure.exitInfo = some ((w.ending (a.simulateCall t ws₂)).exitInfo (a.simulateCommand t)))
      (called : ∀ f, w.ending (a.simulateCall t ws₂) ≠ .refused f)
      (nonzero : ∀ out err, w.ending (a.simulateCall t ws₂) ≠ .exited 0 out err) :
      Failed [a.compileCall t ws₁, a.simulateCall t ws₂] failure

variable {a w t code}

/-- The work in the workspace fails in one of the three ways. -/
theorem Progress.failed {fresh : Workspace} {started : List Call} {fault : Fault}
    (h : a.Progress w t code fresh started (.error (.failed fault))) :
    a.Failed w t code started fault.failure := by
  cases h with
  | unwritten halted =>
      exact .unprepared (stage_of_writeUnit_eq_failed halted) (exitInfo_of_writeUnit_eq_failed halted)
  | uncompiled prepared halted =>
      obtain ⟨⟨info, called⟩, unread⟩ := exitInfo_of_compile_eq_failed halted
      exact .uncompiled prepared (stage_of_compile_eq_failed halted) info called unread
  | unsimulated _ compiled halted =>
      obtain ⟨⟨info, called⟩, nonzero⟩ := exitInfo_of_simulate_eq_failed halted
      exact .unsimulated compiled (stage_of_simulate_eq_failed halted) info called nonzero

/-- **A run fails in one of the three ways.** -/
theorem failed_run {request : Request} (accepted : acceptSource request.source = .ok code) {fault : Fault}
    (failed : (a.run w request).value.outcome = .error (.failed fault)) :
    a.Failed w request.target code (calls (a.run w request).events) fault.failure := by
  cases hcreate : w.create a.config.workspaceStem with
  | error halt =>
      rw [run_eq_of_refusal accepted hcreate] at failed ⊢
      rcases World.create_eq_error_iff.mp hcreate with ⟨e, -, rfl⟩ | ⟨-, -, rfl⟩
      · cases failed
        exact .unprepared rfl rfl
      · cases failed
  | ok fresh =>
      have progress := progress_work a request.target code hcreate
      rcases hwork : (a.work w request.target code fresh).value with ⟨halt | texts, left⟩
      · rw [run_eq_of_creation accepted hcreate hwork] at failed
        cases halt with
        | broken f => cases failed
        | failed fault' =>
            cases failed
            rw [hwork] at progress
            rw [calls_run_of_creation accepted hcreate]
            exact progress.failed
      · rw [run_eq_of_creation accepted hcreate hwork] at failed
        cases failed

/-- The exit info of a failed run is made from the end of the last process. -/
theorem Failed.exitInfo_eq {started : List Call} {failure : StageFailure} (h : a.Failed w t code started failure)
    {call : Call} (last : started.getLast? = some call) :
    failure.exitInfo = some ((w.ending call).exitInfo call.argv) := by
  cases h with
  | unprepared => cases last
  | uncompiled _ _ info _ _ =>
      cases last
      exact info
  | unsimulated _ _ info _ _ =>
      cases last
      exact info

end Run

/-! ## What gives the cause away -/

section Account

variable (a : Analyzer) (w : World) (t : Target) (code : String)

/-- What a failure and its exit info say of the last process that was started. -/
structure Account (failure : StageFailure) (call : Call) (info : ExitInfo) : Prop where
  /-- The stage is that of the tool. -/
  tool : failure.stage = .compile ∧ call.argv = a.compileCommand t ∨
    failure.stage = .simulate ∧ call.argv = a.simulateCommand t
  /-- The process was called for as it should be. -/
  called : ∀ f, w.ending call ≠ .refused f
  /-- There is no status exactly if the process was not started or did not come to its end. -/
  status_none_iff : info.status = none ↔ (w.ending call).IsUnfinished
  /-- The status is zero exactly if the compiler exited with zero and its file could not be read. -/
  status_zero_iff : info.status = some 0 ↔ a.Unread w t code
  stage_of_zero : info.status = some 0 → failure.stage = .compile
  /-- Any other status is the one the process exited with. -/
  status_iff : ∀ status, status ≠ 0 →
    (info.status = some status ↔ ∃ out err, w.ending call = .exited status out err)
  /-- The command line is that of the process, and empty if it was not started. -/
  argv_of_started : (∀ e, w.ending call ≠ .unstarted e) → info.argv = call.argv
  argv_of_unstarted : ∀ e, w.ending call = .unstarted e → info.argv = []
  /-- The output is what stands on the stream for errors, if there is something to see on it. -/
  output_of_visible : ∀ status out err, status ≠ 0 → w.ending call = .exited status out err →
    Text.IsVisible (capturedText err) → failure.diagnostic = capturedText err
  /-- Else it is what stands on the other one. -/
  output_of_blank : ∀ status out err, status ≠ 0 → w.ending call = .exited status out err →
    ¬Text.IsVisible (capturedText err) → failure.diagnostic = capturedText out

variable {a w t code} {failure : StageFailure} {call : Call}

theorem diagnostic_eq_output {info : ExitInfo} (h : failure.exitInfo = some info) :
    failure.diagnostic = info.output := by
  unfold StageFailure.diagnostic
  rw [h]
  rfl

/-- An exit info that is made from the end of a process gives account of it, if a zero has the one cause. -/
theorem account_of_exitInfo (tool : failure.stage = .compile ∧ call.argv = a.compileCommand t ∨
      failure.stage = .simulate ∧ call.argv = a.simulateCommand t)
    (called : ∀ f, w.ending call ≠ .refused f)
    (info : failure.exitInfo = some ((w.ending call).exitInfo call.argv))
    (zero : (∃ out err, w.ending call = .exited 0 out err) ↔ a.Unread w t code)
    (compiles : a.Unread w t code → failure.stage = .compile) :
    a.Account w t code failure call ((w.ending call).exitInfo call.argv) where
  tool := tool
  called := called
  status_none_iff := Ending.status_exitInfo_eq_none_iff
  status_zero_iff := Ending.status_exitInfo_eq_some_iff.trans zero
  stage_of_zero h := compiles (zero.mp (Ending.status_exitInfo_eq_some_iff.mp h))
  status_iff _ _ := Ending.status_exitInfo_eq_some_iff
  argv_of_started := Ending.argv_exitInfo
  argv_of_unstarted e h := by
    rw [h]
    rfl
  output_of_visible status out err _ h visible := by
    rw [diagnostic_eq_output info, h]
    exact if_neg (Bool.eq_false_iff.mp (Text.isBlankText_eq_false_iff.mpr visible))
  output_of_blank status out err _ h blank := by
    rw [diagnostic_eq_output info, h]
    exact if_pos (Text.isBlankText_iff.mpr blank)

/-- The compiler exited with zero, in the workspace that was prepared for it, if it is to blame for a zero. -/
theorem ending_compileCall_zero_iff {ws : Workspace} (prepared : a.Prepared w t code ws)
    (unread : ∀ out err after, w.Exits (a.compileCommand t) a.limit ws 0 out err after →
      ∃ e, w.readFile after (a.place w) assemblyName = .error e) :
    (∃ out err, w.ending (a.compileCall t ws) = .exited 0 out err) ↔ a.Unread w t code := by
  constructor
  · rintro ⟨out, err, hending⟩
    have hexits : w.Exits (a.compileCommand t) a.limit ws 0 out err (w.attempt (a.compileCommand t) a.limit ws).2 :=
      World.attempt_exited_iff.mp (Prod.ext hending rfl)
    obtain ⟨e, hread⟩ := unread out err _ hexits
    exact ⟨ws, out, err, _, e, prepared, hexits, hread⟩
  · rintro ⟨before, out, err, after, e, prepared', hexits, -⟩
    obtain rfl := prepared.unique prepared'
    exact ⟨out, err, congrArg Prod.fst (World.attempt_exited_iff.mpr hexits)⟩

/-- A file that was read is not unreadable. -/
theorem Compiled.not_unread {ws : Workspace} {assembly : List UInt8} (h : a.Compiled w t code ws assembly) :
    ¬a.Unread w t code := by
  rintro ⟨before', out', err', after', e, prepared', ⟨-, hrun'⟩, hread'⟩
  obtain ⟨before, out, err, prepared, ⟨-, hrun⟩, hread⟩ := h
  obtain rfl := prepared.unique prepared'
  rw [hrun] at hrun'
  cases hrun'
  rw [hread] at hread'
  cases hread'

/-- **A failure tells what happened.**  The stage is the setup of the workspace exactly if no exit info is there, and
exactly if no process was started.  If one was, there is exit info, and it gives account of the last one. -/
theorem told_of_failed {request : Request} (accepted : acceptSource request.source = .ok code) {fault : Fault}
    (failed : (a.run w request).value.outcome = .error (.failed fault)) :
    (fault.failure.stage = .workspaceSetup ↔ fault.failure.exitInfo = none) ∧
    (fault.failure.exitInfo = none ↔ calls (a.run w request).events = []) ∧
    (calls (a.run w request).events ≠ [] → ∃ call info,
      (calls (a.run w request).events).getLast? = some call ∧ fault.failure.exitInfo = some info ∧
      a.Account w request.target code fault.failure call info) := by
  have hfailed := failed_run accepted failed
  generalize calls (a.run w request).events = started at hfailed ⊢
  cases hfailed with
  | unprepared stage info => simp [stage, info]
  | @uncompiled _ ws prepared stage info called unread =>
      refine ⟨by simp [stage, info], by simp [info], fun _ => ⟨_, _, rfl, info, ?_⟩⟩
      exact account_of_exitInfo (.inl ⟨stage, rfl⟩) called info (ending_compileCall_zero_iff prepared unread) fun _ => stage
  | @unsimulated _ ws₁ ws₂ assembly compiled stage info called nonzero =>
      refine ⟨by simp [stage, info], by simp [info], fun _ => ⟨_, _, rfl, info, ?_⟩⟩
      have never : ¬a.Unread w request.target code := compiled.not_unread
      refine account_of_exitInfo (.inr ⟨stage, rfl⟩) called info (iff_of_false ?_ never) fun h => absurd h never
      rintro ⟨out, err, hzero⟩
      exact nonzero out err hzero

/-- What is told of a compiler that exits with one, with an empty line on the stream for errors. -/
theorem told_of_failed_exited :
    let w := World.uniform (.exited 1 (Text.encode "no".toList) (Text.encode "\n".toList))
    acceptSource Request.generic.source = .ok "f();" ∧
      ∃ fault, (Analyzer.generic.run w .generic).value.outcome = .error (.failed fault) ∧
        fault.failure.stage = .compile ∧ ∃ call info,
          (calls (Analyzer.generic.run w .generic).events).getLast? = some call ∧
            fault.failure.exitInfo = some info ∧ info.status = some 1 ∧
            Account .generic w .generic "f();" fault.failure call info := by
  intro w
  have failed : (Analyzer.generic.run w .generic).value.outcome =
      .error (.failed (.compilerFailed Target.generic.displayName
        ⟨Analyzer.generic.compileCommand .generic, 1, "no", "\n"⟩)) := by
    decide +kernel
  refine ⟨acceptSource_generic, _, failed, rfl, ?_⟩
  obtain ⟨-, -, told⟩ := told_of_failed (a := .generic) (w := w) acceptSource_generic failed
  obtain ⟨call, info, hlast, hinfo, account⟩ := told (List.cons_ne_nil _ _)
  refine ⟨call, info, hlast, hinfo, ?_, account⟩
  rw [← Option.some.inj hinfo]
  rfl

end Account

end Analyzer

end SnippetCost
