import SnippetCost.Analysis.Run

/-!
# What the stages of an analysis do

One section for each step of an analysis.  Each says when the step succeeds and with what, what can go wrong
in it and which stage that belongs to, and which processes it starts; none of them removes anything.  What is proved
further on about whole analyses rests on these statements and on `run_eq_of_creation`, which says how a run
is put together from them, and not on how the steps are written.
-/

namespace SnippetCost

open Event

/-! ## Calls and workspaces -/

namespace World

variable (w : World) (argv : List String) (limit : Seconds) (ws : Workspace)

/-- A call that is none: there is something wrong with it, or that is how it ends. -/
def Refuses (fault : CallFault) : Prop :=
  w.callFault argv limit = some fault ∨ w.callFault argv limit = none ∧ (w.run argv ws).1 = .refused fault

/-- A call that ends with a status and two streams, and the workspace behind it. -/
def Exits (status : Int) (out err : List UInt8) (after : Workspace) : Prop :=
  w.callFault argv limit = none ∧ w.run argv ws = (.exited status out err, after)

variable {w argv limit ws}

/-- A call is refused over what is wrong with it, and over nothing else. -/
theorem attempt_refused_iff {fault : CallFault} :
    (w.attempt argv limit ws).1 = .refused fault ↔ w.Refuses argv limit ws fault := by
  unfold attempt Refuses
  cases hfault : w.callFault argv limit with
  | none => simp
  | some fault' => cases fault' <;> simp

/-- A tool exits if the call is one and the tool does. -/
theorem attempt_exited_iff {status : Int} {out err : List UInt8} {after : Workspace} :
    w.attempt argv limit ws = (.exited status out err, after) ↔ w.Exits argv limit ws status out err after := by
  unfold attempt Exits
  cases hfault : w.callFault argv limit with
  | none => simp
  | some fault => cases fault <;> simp

/-- A call that ends is one. -/
theorem Exits.not_refuses {status : Int} {out err : List UInt8} {after : Workspace}
    (h : w.Exits argv limit ws status out err after) {fault : CallFault} : ¬w.Refuses argv limit ws fault := by
  rw [← attempt_refused_iff, attempt_exited_iff.mpr h]
  exact nofun

/-- A call is none for one reason. -/
theorem Refuses.unique {fault fault' : CallFault} (h : w.Refuses argv limit ws fault)
    (h' : w.Refuses argv limit ws fault') : fault = fault' := by
  rw [← attempt_refused_iff] at h h'
  rw [h] at h'
  exact Ending.refused.inj h'

/-- A workspace is created if the system does not refuse and the text for its name holds no NUL character. -/
theorem create_eq_ok_iff {stem : String} {fresh : Workspace} :
    w.create stem = .ok fresh ↔ w.creation = .ok fresh ∧ '\x00' ∉ stem.toList := by
  unfold create
  cases w.creation with
  | error e => simp
  | ok ws => by_cases nul : '\x00' ∈ stem.toList <;> simp [nul]

/-- Why no workspace is created. -/
theorem create_eq_error_iff {stem : String} {halt : Halt} : w.create stem = .error halt ↔
    (∃ e, w.creation = .error e ∧ halt = .failed (.workspaceRefused e)) ∨
      (∃ fresh, w.creation = .ok fresh) ∧ '\x00' ∈ stem.toList ∧ halt = .broken .nulInside := by
  unfold create
  cases w.creation with
  | error e => simp [eq_comm]
  | ok ws => by_cases nul : '\x00' ∈ stem.toList <;> simp [nul, eq_comm]

end World

/-! ## Running a tool -/

section Tool

variable (w : World) (stage : Stage) (argv : List String) (limit : Seconds) (ws : Workspace)

/-- The answer of a stage is what it makes of the way its tool ended. -/
theorem value_runTool : (w.runTool stage argv limit ws).value =
    ((w.attempt argv limit ws).1.output stage limit argv, (w.attempt argv limit ws).2) := rfl

@[simp] theorem calls_runTool :
    calls (w.runTool stage argv limit ws).events = [⟨argv, limit, ws⟩] := rfl

@[simp] theorem removals_runTool : removals (w.runTool stage argv limit ws).events = [] := rfl

/-- A tool that did not finish fails the stage it was started for. -/
theorem stage_of_output_eq_failed {ending : Ending} {fault : Fault}
    (h : ending.output stage limit argv = .error (.failed fault)) : fault.failure.stage = stage := by
  cases ending with
  | refused fault => cases h
  | unstarted e =>
      cases h
      rfl
  | expired out err =>
      cases h
      rfl
  | exited status out err => cases h

/-- The work breaks off over a call that is none. -/
theorem output_eq_broken_iff {ending : Ending} {fault : CallFault} :
    ending.output stage limit argv = .error (.broken fault) ↔ ending = .refused fault := by
  cases ending with
  | refused fault' => simp [Ending.output]
  | unstarted e => simp [Ending.output]
  | expired out err => simp [Ending.output]
  | exited status out err => simp [Ending.output]

end Tool

namespace Analyzer

/-! ## Writing the compilation unit -/

section Write

variable {w : World} {location text : String} {ws ws' : Workspace} {halt : Halt} {fault : Fault}

/-- The unit is written exactly if the file is. -/
theorem writeUnit_eq_ok_iff : (writeUnit w location text ws).value = (.ok (), ws') ↔
    w.writeFile ws location sourceName (Text.encode text.toList) = .ok ws' := by
  unfold writeUnit
  cases w.writeFile ws location sourceName (Text.encode text.toList) <;> simp

/-- Otherwise the refusal is passed on. -/
theorem writeUnit_eq_error_iff : (writeUnit w location text ws).value = (.error halt, ws') ↔ ∃ e,
    w.writeFile ws location sourceName (Text.encode text.toList) = .error e ∧
      halt = .failed (.sourceRefused e) ∧ ws' = ws := by
  unfold writeUnit
  cases w.writeFile ws location sourceName (Text.encode text.toList) <;> simp [eq_comm]

/-- A compilation unit that cannot be written is a failure to set the workspace up. -/
theorem stage_of_writeUnit_eq_failed
    (h : (writeUnit w location text ws).value = (.error (.failed fault), ws')) :
    fault.failure.stage = .workspaceSetup := by
  obtain ⟨e, -, hfault, -⟩ := writeUnit_eq_error_iff.mp h
  cases hfault
  rfl

/-- Writing breaks nothing off. -/
theorem writeUnit_ne_broken {fault : CallFault} :
    (writeUnit w location text ws).value ≠ (.error (.broken fault), ws') := by
  intro h
  obtain ⟨e, -, hfault, -⟩ := writeUnit_eq_error_iff.mp h
  cases hfault

/-- Writing starts nothing and removes nothing. -/
theorem isRemark_of_mem_writeUnit : ∀ e ∈ (writeUnit w location text ws).events, e.isRemark := by
  unfold writeUnit
  cases w.writeFile ws location sourceName (Text.encode text.toList) <;> simp [isRemark]

@[simp] theorem calls_writeUnit : calls (writeUnit w location text ws).events = [] :=
  calls_of_remarks isRemark_of_mem_writeUnit

@[simp] theorem removals_writeUnit : removals (writeUnit w location text ws).events = [] :=
  removals_of_remarks isRemark_of_mem_writeUnit

end Write

/-! ## Compiling -/

section Compile

variable {a : Analyzer} {w : World} {location : String} {t : Target} {ws ws' : Workspace} {halt : Halt}
  {fault : Fault}

/-- Compiling succeeds exactly if the compiler exits with zero and the assembly can be read then. -/
theorem compile_eq_ok_iff {assembly : String} :
    (a.compile w location t ws).value = (.ok assembly, ws') ↔ ∃ out err bytes,
      w.Exits (a.compileCommand t) a.limit ws 0 out err ws' ∧
        w.readFile ws' location assemblyName = .ok bytes ∧ assembly = capturedText bytes := by
  simp only [← World.attempt_exited_iff]
  unfold compile
  simp only [Traced.value_bind, value_runTool]
  obtain ⟨ending, after⟩ := w.attempt (a.compileCommand t) a.limit ws
  cases ending with
  | refused fault => simp [Ending.output]
  | unstarted e => simp [Ending.output]
  | expired out err => simp [Ending.output]
  | exited status out err =>
      by_cases hstatus : status = 0
      · subst hstatus
        cases hread : w.readFile after location assemblyName with
        | error e => grind [Ending.output, ToolOutput.succeeded, Traced.value_pure]
        | ok bytes => grind [Ending.output, ToolOutput.succeeded, Traced.value_pure]
      · simp [Ending.output, ToolOutput.succeeded, hstatus]

/-- What can go wrong with a compilation: the compiler does not come to its end, or it exits with another status than
zero, or the assembly cannot be read then. -/
theorem compile_eq_error_cases (h : (a.compile w location t ws).value = (.error halt, ws')) :
    (w.attempt (a.compileCommand t) a.limit ws).1.output .compile a.limit (a.compileCommand t) = .error halt ∨
      ∃ status out err, (w.attempt (a.compileCommand t) a.limit ws).1 = .exited status out err ∧
        let output := ⟨a.compileCommand t, status, capturedText out, capturedText err⟩
        status ≠ 0 ∧ halt = .failed (.compilerFailed t.displayName output) ∨
          ∃ e, w.readFile (w.attempt (a.compileCommand t) a.limit ws).2 location assemblyName = .error e ∧
            halt = .failed (.assemblyUnreadable e output) := by
  unfold compile at h
  simp only [Traced.value_bind, value_runTool] at h
  cases hending : (w.attempt (a.compileCommand t) a.limit ws).1 with
  | refused fault =>
      rw [hending] at h
      cases h
      exact .inl rfl
  | unstarted e =>
      rw [hending] at h
      cases h
      exact .inl rfl
  | expired out err =>
      rw [hending] at h
      cases h
      exact .inl rfl
  | exited status out err =>
      refine .inr ⟨status, out, err, rfl, ?_⟩
      rw [hending] at h
      simp only [Ending.output, ToolOutput.succeeded] at h
      by_cases hstatus : status = 0
      · right
        cases hread : w.readFile (w.attempt (a.compileCommand t) a.limit ws).2 location assemblyName with
        | error e =>
            simp only [hstatus, hread] at h
            cases h
            exact ⟨e, rfl, by rw [hstatus]⟩
        | ok bytes =>
            simp only [hstatus, hread] at h
            cases h
      · left
        simp only [beq_eq_false_iff_ne.mpr hstatus] at h
        cases h
        exact ⟨hstatus, rfl⟩

/-- All that goes wrong from the compiler to its assembly is told as its own failure. -/
theorem stage_of_compile_eq_failed (h : (a.compile w location t ws).value = (.error (.failed fault), ws')) :
    fault.failure.stage = .compile := by
  rcases compile_eq_error_cases h with hout | ⟨status, out, err, -, ⟨-, hfault⟩ | ⟨e, -, hfault⟩⟩
  · exact stage_of_output_eq_failed _ _ _ hout
  · cases hfault
    rfl
  · cases hfault
    rfl

/-- Compiling breaks off exactly if the call of the compiler is none. -/
theorem compile_eq_broken_iff {fault : CallFault} :
    (∃ after, (a.compile w location t ws).value = (.error (.broken fault), after)) ↔
      w.Refuses (a.compileCommand t) a.limit ws fault := by
  rw [← World.attempt_refused_iff]
  constructor
  · rintro ⟨after, h⟩
    rcases compile_eq_error_cases h with hout | ⟨status, out, err, -, ⟨-, hfault⟩ | ⟨e, -, hfault⟩⟩
    · exact (output_eq_broken_iff ..).mp hout
    · cases hfault
    · cases hfault
  · intro h
    unfold compile
    simp only [Traced.value_bind, value_runTool, h]
    exact ⟨_, rfl⟩

/-- Nothing happens but the run of the compiler. -/
theorem events_compile : (a.compile w location t ws).events =
    (w.runTool .compile (a.compileCommand t) a.limit ws).events := by
  unfold compile
  simp only [Traced.events_bind, List.append_right_eq_self]
  split
  · rfl
  · split
    · rfl
    · split <;> rfl

/-- The stage of the compiler starts it once, with its command line, in the workspace it is given. -/
@[simp] theorem calls_compile : calls (a.compile w location t ws).events =
    [⟨a.compileCommand t, a.limit, ws⟩] := by
  rw [events_compile, calls_runTool]

@[simp] theorem removals_compile : removals (a.compile w location t ws).events = [] := by
  rw [events_compile, removals_runTool]

end Compile

/-! ## Simulating -/

section Simulate

variable {a : Analyzer} {w : World} {t : Target} {ws ws' : Workspace} {halt : Halt} {fault : Fault}

/-- Simulating succeeds exactly if the simulator exits with zero, and its output is the report. -/
theorem simulate_eq_ok_iff {report : String} :
    (a.simulate w t ws).value = (.ok report, ws') ↔ ∃ out err,
      w.Exits (a.simulateCommand t) a.limit ws 0 out err ws' ∧ report = capturedText out := by
  simp only [← World.attempt_exited_iff]
  unfold simulate
  simp only [Traced.value_bind, value_runTool]
  obtain ⟨ending, after⟩ := w.attempt (a.simulateCommand t) a.limit ws
  cases ending with
  | refused fault => simp [Ending.output]
  | unstarted e => simp [Ending.output]
  | expired out err => simp [Ending.output]
  | exited status out err =>
      by_cases hstatus : status = 0
      · subst hstatus
        grind [Ending.output, ToolOutput.succeeded, Traced.value_pure]
      · simp [Ending.output, ToolOutput.succeeded, hstatus]

/-- What can go wrong with a simulation: the simulator does not come to its end, or it exits with another status than
zero. -/
theorem simulate_eq_error_cases (h : (a.simulate w t ws).value = (.error halt, ws')) :
    (w.attempt (a.simulateCommand t) a.limit ws).1.output .simulate a.limit (a.simulateCommand t) = .error halt ∨
      ∃ status out err, (w.attempt (a.simulateCommand t) a.limit ws).1 = .exited status out err ∧ status ≠ 0 ∧
        halt = .failed (.simulatorFailed (cpuText t.simulatedCpu)
          ⟨a.simulateCommand t, status, capturedText out, capturedText err⟩) := by
  unfold simulate at h
  simp only [Traced.value_bind, value_runTool] at h
  cases hending : (w.attempt (a.simulateCommand t) a.limit ws).1 with
  | refused fault =>
      rw [hending] at h
      cases h
      exact .inl rfl
  | unstarted e =>
      rw [hending] at h
      cases h
      exact .inl rfl
  | expired out err =>
      rw [hending] at h
      cases h
      exact .inl rfl
  | exited status out err =>
      refine .inr ⟨status, out, err, rfl, ?_⟩
      rw [hending] at h
      simp only [Ending.output, ToolOutput.succeeded] at h
      by_cases hstatus : status = 0
      · simp only [hstatus] at h
        cases h
      · simp only [beq_eq_false_iff_ne.mpr hstatus] at h
        cases h
        exact ⟨hstatus, rfl⟩

/-- All that goes wrong with the simulator is told as its own failure. -/
theorem stage_of_simulate_eq_failed (h : (a.simulate w t ws).value = (.error (.failed fault), ws')) :
    fault.failure.stage = .simulate := by
  rcases simulate_eq_error_cases h with hout | ⟨status, out, err, -, -, hfault⟩
  · exact stage_of_output_eq_failed _ _ _ hout
  · cases hfault
    rfl

/-- Simulating breaks off exactly if the call of the simulator is none. -/
theorem simulate_eq_broken_iff {fault : CallFault} :
    (∃ after, (a.simulate w t ws).value = (.error (.broken fault), after)) ↔
      w.Refuses (a.simulateCommand t) a.limit ws fault := by
  rw [← World.attempt_refused_iff]
  constructor
  · rintro ⟨after, h⟩
    rcases simulate_eq_error_cases h with hout | ⟨status, out, err, -, -, hfault⟩
    · exact (output_eq_broken_iff ..).mp hout
    · cases hfault
  · intro h
    unfold simulate
    simp only [Traced.value_bind, value_runTool, h]
    exact ⟨_, rfl⟩

/-- Nothing happens but the run of the simulator. -/
theorem events_simulate : (a.simulate w t ws).events =
    (w.runTool .simulate (a.simulateCommand t) a.limit ws).events := by
  unfold simulate
  simp only [Traced.events_bind, List.append_right_eq_self]
  split
  · rfl
  · split <;> rfl

/-- So does the stage of the simulator. -/
@[simp] theorem calls_simulate : calls (a.simulate w t ws).events =
    [⟨a.simulateCommand t, a.limit, ws⟩] := by
  rw [events_simulate, calls_runTool]

@[simp] theorem removals_simulate : removals (a.simulate w t ws).events = [] := by
  rw [events_simulate, removals_runTool]

end Simulate

/-! ## The stages together -/

section Stages

variable {a : Analyzer} {w : World} {t : Target} {text location : String} {ws : Workspace}

/-- Without a compilation unit nothing is started. -/
theorem stages_of_unwritten {halt : Halt} {ws₁ : Workspace}
    (h : (writeUnit w location text ws).value = (.error halt, ws₁)) :
    (a.stages w t text location ws).value.1 = .error halt ∧
      calls (a.stages w t text location ws).events = [] := by
  unfold stages
  simp [h]

/-- Without an assembly the simulator is not started. -/
theorem stages_of_uncompiled {halt : Halt} {ws₁ ws₂ : Workspace}
    (hwrite : (writeUnit w location text ws).value = (.ok (), ws₁))
    (hcompile : (a.compile w location t ws₁).value = (.error halt, ws₂)) :
    (a.stages w t text location ws).value.1 = .error halt ∧
      calls (a.stages w t text location ws).events =
        [⟨a.compileCommand t, a.limit, ws₁⟩] := by
  unfold stages
  simp [hwrite, hcompile]

/-- With an assembly the simulator is started, and its answer is that of the run. -/
theorem stages_of_compiled {assembly : String} {ws₁ ws₂ : Workspace}
    (hwrite : (writeUnit w location text ws).value = (.ok (), ws₁))
    (hcompile : (a.compile w location t ws₁).value = (.ok assembly, ws₂)) :
    (a.stages w t text location ws).value.1 =
        (a.simulate w t ws₂).value.1.map (assembly, ·) ∧
      calls (a.stages w t text location ws).events =
        [⟨a.compileCommand t, a.limit, ws₁⟩,
          ⟨a.simulateCommand t, a.limit, ws₂⟩] := by
  unfold stages
  simp [hwrite, hcompile]

/-- No stage removes anything. -/
@[simp] theorem removals_stages : removals (a.stages w t text location ws).events = [] := by
  unfold stages
  simp only [Traced.events_bind, removals_append, removals_writeUnit, List.nil_append]
  split
  · rfl
  · simp only [Traced.events_bind, removals_append, removals_compile, List.nil_append]
    split
    · rfl
    · simp

end Stages

/-! ## Removing the workspace -/

section Remove

variable (w : World) (location : String) (ws : Workspace)

/-- The warning that a workspace could not be removed. -/
def removalWarning (location : String) (fault : OsError) : Event :=
  .logged .warning ("[" ++ Stage.cleanup.name ++ "] Could not remove " ++ location ++ ": " ++ fault.text)

section Refused

variable {w} {fault : OsError}

/-- A refusal is passed on, with a warning. -/
theorem remove_of_refused (h : w.removalFault = some fault) (found : fault.isNotFound = false) :
    w.remove location ws = ⟨(false, ws), [.removalAttempted location, removalWarning location fault]⟩ := by
  unfold World.remove
  rw [h]
  simp only [found]
  rfl

/-- That there is nothing to remove is taken for success, whether or not it is so. -/
theorem remove_of_notFound (h : w.removalFault = some fault) (missing : fault.isNotFound = true) :
    w.remove location ws = ⟨(true, ws), [.removalAttempted location]⟩ := by
  unfold World.remove
  rw [h]
  simp only [missing]
  rfl

end Refused

/-- The attempt to remove a workspace, and perhaps a remark on it. -/
theorem exists_events_remove : ∃ remarks, (∀ e ∈ remarks, e.isRemark) ∧
    (w.remove location ws).events = .removalAttempted location :: remarks := by
  cases hfault : w.removalFault with
  | none =>
      unfold World.remove
      rw [hfault]
      cases ws with
      | none => exact ⟨[], by simp, rfl⟩
      | some tree => exact ⟨[.logged .debug ("Cleaned up " ++ location)], by simp [isRemark], rfl⟩
  | some fault =>
      cases hfound : fault.isNotFound with
      | true =>
          rw [remove_of_notFound location ws hfault hfound]
          exact ⟨[], by simp, rfl⟩
      | false =>
          rw [remove_of_refused location ws hfault hfound]
          exact ⟨[removalWarning location fault], by simp [isRemark, removalWarning], rfl⟩

/-- Removing a workspace starts nothing. -/
@[simp] theorem calls_remove : calls (w.remove location ws).events = [] := by
  obtain ⟨remarks, hremarks, hevents⟩ := exists_events_remove w location ws
  rw [hevents, calls_removalAttempted_cons]
  exact calls_of_remarks hremarks

/-- What is left of a workspace that is removed is nothing. -/
theorem remove_of_removalFault_eq_none (h : w.removalFault = none) :
    (w.remove location ws).value.2 = none := by
  unfold World.remove
  rw [h]
  cases ws <;> rfl

end Remove

/-! ## The whole -/

/-- What comes of the answer of the stages once the workspace is done with. -/
def settle (t : Target) : Except Halt (String × String) → Traced Outcome
  | .error halt => return halt.outcome
  | .ok (assembly, report) => do
    let result ← conclude t assembly report
    return .ok result

/-- Nor does telling how the work went. -/
theorem isRemark_of_mem_settle (t : Target) (answer : Except Halt (String × String)) :
    ∀ e ∈ (settle t answer).events, e.isRemark := by
  cases answer with
  | error halt => simp [settle]
  | ok texts =>
      intro e he
      simp only [settle, conclude, readReport, Traced.events_bind, Traced.events_logAll,
        Traced.events_log, Traced.events_pure, List.mem_append, List.mem_map, List.mem_singleton] at he
      grind [isRemark]

/-- Where the workspace of a run stands. -/
def place (a : Analyzer) (w : World) : String :=
  w.location a.config.workspaceStem

/-- What is done in the workspace of a run. -/
def work (a : Analyzer) (w : World) (t : Target) (code : String) (fresh : Workspace) :
    Traced (Except Halt (String × String) × Workspace) :=
  a.stages w t (t.compose a.host.family code) (a.place w) fresh

section Run

variable {a : Analyzer} {w : World} {request : Request} {code : String}

/-- Without a workspace there is nothing but that. -/
theorem run_eq_of_refusal (accepted : acceptSource request.source = .ok code) {halt : Halt}
    (h : w.create a.config.workspaceStem = .error halt) :
    a.run w request = ⟨⟨halt.outcome, none⟩,
      [.logged .info ("Analyzing for " ++ request.target.displayName)]⟩ := by
  unfold run World.withWorkspace
  rw [accepted, h]
  rfl

/-- A run with a workspace: the work in it, its removal, and what comes of the answer. -/
theorem run_eq_of_creation (accepted : acceptSource request.source = .ok code) {fresh : Workspace}
    (h : w.create a.config.workspaceStem = .ok fresh) {answer : Except Halt (String × String)} {left : Workspace}
    (hwork : (a.work w request.target code fresh).value = (answer, left)) :
    a.run w request =
      ⟨⟨(settle request.target answer).value, some (w.remove (a.place w) left).value.2⟩,
        .logged .info ("Analyzing for " ++ request.target.displayName) ::
          .workspaceCreated (a.place w) ::
          .logged .debug ("Created temp directory: " ++ a.place w) ::
          ((a.work w request.target code fresh).events ++
            ((w.remove (a.place w) left).events ++ (settle request.target answer).events))⟩ := by
  unfold work place at hwork
  unfold run World.withWorkspace work place
  rw [accepted, h]
  simp only [bind, Traced.andThen, pure, Traced.event, Traced.log, hwork]
  rcases answer with halt | ⟨assembly, report⟩
  · simp [settle, pure]
  · simp [settle, bind, Traced.andThen, pure]

/-- The processes of a run are those of the work in its workspace. -/
theorem calls_run_of_creation (accepted : acceptSource request.source = .ok code) {fresh : Workspace}
    (h : w.create a.config.workspaceStem = .ok fresh) :
    calls (a.run w request).events = calls (a.work w request.target code fresh).events := by
  rcases hwork : (a.work w request.target code fresh).value with ⟨answer, left⟩
  have hsettle := calls_of_remarks (isRemark_of_mem_settle request.target answer)
  rw [run_eq_of_creation accepted h hwork]
  simp [hsettle]

end Run

end Analyzer

/-! ## A run without obstacles

One target, and worlds for it in which the theorems on runs have something to say. -/

/-- A target that only names the simulator's processor. -/
def Target.generic : Target where
  id := "generic"
  label := "Generic"
  family := "Any"
  arch := .x86
  simulatorCpu := some "generic"

/-- An analyzer that offers this target only. -/
def Analyzer.generic : Analyzer where
  catalog := ⟨[.generic], by decide⟩
  config := {}
  host := ⟨.x86, "x86_64"⟩

/-- The same analyzer with another configuration. -/
def Analyzer.configured (config : Config) : Analyzer :=
  { Analyzer.generic with config := config }

/-- A source of one call. -/
def Request.generic : Request where
  source := .ofString "f();"
  target := .generic

/-- A world that refuses nothing: every tool exits with zero and leaves an empty assembly behind. -/
def World.obliging : World where
  location stem := stem ++ "0"
  creation := .ok .fresh
  run _ ws := (.exited 0 [] [], ws.map (·.insert assemblyName (.file [])))
  removalFault := none

/-- A world that refuses nothing, in which every tool leaves an assembly of one instruction behind and says that it takes
five cycles. -/
def World.talkative : World :=
  { World.obliging with
    run := fun _ ws =>
      (.exited 0 (Text.encode "Total Cycles: 5\n".toList) [],
        ws.map (·.insert assemblyName (.file (Text.encode "\tnop\n".toList)))) }

/-- A world that refuses nothing, and in which every process ends in the same way. -/
def World.uniform (ending : Ending) : World :=
  { World.obliging with run := fun _ ws => (ending, ws) }

/-- The source of the sample request is accepted. -/
theorem acceptSource_generic : acceptSource Request.generic.source = .ok "f();" := rfl

end SnippetCost
