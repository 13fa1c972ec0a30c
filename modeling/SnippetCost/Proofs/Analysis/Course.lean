import SnippetCost.Proofs.Analysis.Stages

/-!
# The course of an analysis

How far an analysis gets is said here by the answers of the world alone: the workspace is set up
(`Prepared`), the compiler does its work in it (`Compiled`), the simulator does its (`Simulated`).  Each of
the three includes the one before it, so the first that does not hold is the stage that fails
(`FirstFailure`), unless what comes next is a call that is none (`BreaksOff`).

Main statements:

- **`progress_work`**: which processes the work in a workspace starts, and which stage gives its answer;
- **`course_run`**: every run of an accepted request takes one of seven courses, and each fixes the
  processes that are started, in which workspace, and the outcome;
- **`contract_run`**: what users may rely on, for every configuration, target and world: the command lines,
  in order and no others; no simulation without an assembly; a result exactly if no stage fails, nothing told if
  the run breaks off, and the first failing stage otherwise;
- **`broken_run_configured`**: there are configurations with which a run breaks off in a world that refuses nothing.
-/

namespace SnippetCost

open Event

namespace Analyzer

/-! ## How far the world lets an analysis get -/

section Reach

variable (a : Analyzer) (w : World) (t : Target) (code : String)

/-- The workspace is set up: the directory is created, and with the compilation unit written in it `ws` is
what it holds. -/
def Prepared (ws : Workspace) : Prop :=
  ∃ fresh, (w.creation = .ok fresh ∧ '\x00' ∉ a.config.workspaceStem.toList) ∧
    w.writeFile fresh (a.place w) sourceName (Text.encode (t.compose a.host.family code).toList) = .ok ws

/-- In the prepared workspace the compiler exits with zero; after that `ws` is what the workspace holds, and
the file of the assembly can be read. -/
def Compiled (ws : Workspace) (assembly : List UInt8) : Prop :=
  ∃ before out err, a.Prepared w t code before ∧
    w.Exits (a.compileCommand t) a.limit before 0 out err ws ∧
    w.readFile ws (a.place w) assemblyName = .ok assembly

/-- In the workspace that the compiler left, the simulator exits with zero and has written the report. -/
def Simulated (assembly report : List UInt8) : Prop :=
  ∃ before err after, a.Compiled w t code before assembly ∧
    w.Exits (a.simulateCommand t) a.limit before 0 report err after

/-- The run meets a call that is none: it is to make a workspace with a NUL character in its name, to run the compiler
in the prepared workspace, or to run the simulator on the assembly. -/
inductive BreaksOff : CallFault → Prop where
  | nameless (willing : ∃ fresh, w.creation = .ok fresh) (nul : '\x00' ∈ a.config.workspaceStem.toList) :
      BreaksOff .nulInside
  | compiler {ws : Workspace} {fault : CallFault} (prepared : a.Prepared w t code ws)
      (refuses : w.Refuses (a.compileCommand t) a.limit ws fault) : BreaksOff fault
  | simulator {ws : Workspace} {assembly : List UInt8} {fault : CallFault}
      (compiled : a.Compiled w t code ws assembly)
      (refuses : w.Refuses (a.simulateCommand t) a.limit ws fault) : BreaksOff fault

/-- The first stage that fails: the ones before it do not. -/
inductive FirstFailure : Stage → Prop where
  | workspaceSetup (unprepared : ¬∃ ws, a.Prepared w t code ws) : FirstFailure .workspaceSetup
  | compile (prepared : ∃ ws, a.Prepared w t code ws)
      (uncompiled : ¬∃ ws assembly, a.Compiled w t code ws assembly) : FirstFailure .compile
  | simulate (compiled : ∃ ws assembly, a.Compiled w t code ws assembly)
      (unsimulated : ¬∃ assembly report, a.Simulated w t code assembly report) :
      FirstFailure .simulate

end Reach

section Unique

variable {a : Analyzer} {w : World} {t : Target} {code : String}

/-- What is prepared is a workspace that was created. -/
theorem prepared_iff_create {ws : Workspace} : a.Prepared w t code ws ↔
    ∃ fresh, w.create a.config.workspaceStem = .ok fresh ∧ w.writeFile fresh (a.place w) sourceName
      (Text.encode (t.compose a.host.family code).toList) = .ok ws := by
  unfold Prepared
  simp only [World.create_eq_ok_iff]

theorem Prepared.unique {ws ws' : Workspace} (h : a.Prepared w t code ws)
    (h' : a.Prepared w t code ws') : ws = ws' := by
  obtain ⟨fresh, ⟨hcreation, -⟩, hwrite⟩ := h
  obtain ⟨fresh', ⟨hcreation', -⟩, hwrite'⟩ := h'
  rw [hcreation] at hcreation'
  cases hcreation'
  rw [hwrite] at hwrite'
  cases hwrite'
  rfl

theorem Compiled.unique {ws ws' : Workspace} {assembly assembly' : List UInt8}
    (h : a.Compiled w t code ws assembly) (h' : a.Compiled w t code ws' assembly') :
    ws = ws' ∧ assembly = assembly' := by
  obtain ⟨before, out, err, hprepared, ⟨-, hrun⟩, hread⟩ := h
  obtain ⟨before', out', err', hprepared', ⟨-, hrun'⟩, hread'⟩ := h'
  cases hprepared.unique hprepared'
  rw [hrun] at hrun'
  cases hrun'
  rw [hread] at hread'
  cases hread'
  exact ⟨rfl, rfl⟩

theorem Simulated.unique {assembly assembly' report report' : List UInt8}
    (h : a.Simulated w t code assembly report) (h' : a.Simulated w t code assembly' report') :
    assembly = assembly' ∧ report = report' := by
  obtain ⟨before, err, after, hcompiled, -, hrun⟩ := h
  obtain ⟨before', err', after', hcompiled', -, hrun'⟩ := h'
  obtain ⟨rfl, rfl⟩ := hcompiled.unique hcompiled'
  rw [hrun] at hrun'
  cases hrun'
  exact ⟨rfl, rfl⟩

/-- An analysis whose workspace is not set up gets no assembly. -/
theorem Compiled.prepared {ws : Workspace} {assembly : List UInt8}
    (h : a.Compiled w t code ws assembly) : ∃ ws, a.Prepared w t code ws := by
  obtain ⟨before, -, -, hprepared, -, -⟩ := h
  exact ⟨before, hprepared⟩

/-- An analysis without an assembly gets no report. -/
theorem Simulated.compiled {assembly report : List UInt8}
    (h : a.Simulated w t code assembly report) : ∃ ws assembly, a.Compiled w t code ws assembly := by
  obtain ⟨before, -, -, hcompiled, -⟩ := h
  exact ⟨before, assembly, hcompiled⟩

end Unique

/-! ## The courses -/

section Course

variable (a : Analyzer) (w : World) (t : Target) (code : String)

/-- The start of the compiler in a workspace. -/
def compileCall (ws : Workspace) : Call :=
  ⟨a.compileCommand t, a.limit, ws⟩

/-- The start of the simulator in a workspace. -/
def simulateCall (ws : Workspace) : Call :=
  ⟨a.simulateCommand t, a.limit, ws⟩

/-- The result for an assembly and a report. -/
def resultOf (assembly report : List UInt8) : AnalysisResult :=
  { targetId := t.id
    targetLabel := t.displayName
    summary := (readReport (capturedText report)).value.summary
    instructions := (readReport (capturedText report)).value.instructions
    assembly := capturedText assembly
    report := capturedText report }

theorem value_settle_ok (assembly report : List UInt8) :
    (settle t (.ok (capturedText assembly, capturedText report))).value =
      .ok (resultOf t assembly report) := rfl

/-- How far the work in a workspace gets: the processes it starts and its answer, with what the stage that it ends in
says. -/
inductive Progress (fresh : Workspace) : List Call → Except Halt (String × String) → Prop where
  | unwritten {halt : Halt} {ws : Workspace}
      (halted : (writeUnit w (a.place w) (t.compose a.host.family code) fresh).value = (.error halt, ws)) :
      Progress fresh [] (.error halt)
  | uncompiled {halt : Halt} {ws ws' : Workspace} (prepared : a.Prepared w t code ws)
      (halted : (a.compile w (a.place w) t ws).value = (.error halt, ws')) :
      Progress fresh [a.compileCall t ws] (.error halt)
  | unsimulated {halt : Halt} {ws₁ ws₂ ws₃ : Workspace} {assembly : List UInt8}
      (prepared : a.Prepared w t code ws₁) (compiled : a.Compiled w t code ws₂ assembly)
      (halted : (a.simulate w t ws₂).value = (.error halt, ws₃)) :
      Progress fresh [a.compileCall t ws₁, a.simulateCall t ws₂] (.error halt)
  | finished {ws₁ ws₂ ws₃ : Workspace} {assembly : List UInt8} {report : String}
      (prepared : a.Prepared w t code ws₁) (compiled : a.Compiled w t code ws₂ assembly)
      (simulated : (a.simulate w t ws₂).value = (.ok report, ws₃)) :
      Progress fresh [a.compileCall t ws₁, a.simulateCall t ws₂] (.ok (capturedText assembly, report))

/-- The processes an analysis starts, each with the workspace it is started in, and its outcome: one course for each
stage that can fail, one for each call that can be none, and one for success. -/
inductive Course : List Call → Outcome → Prop where
  | nameless (willing : ∃ fresh, w.creation = .ok fresh) (nul : '\x00' ∈ a.config.workspaceStem.toList) :
      Course [] (.broken .nulInside)
  | unprepared {fault : Fault} (unbroken : ∀ f, ¬a.BreaksOff w t code f)
      (failure : a.FirstFailure w t code .workspaceSetup) (stage : fault.failure.stage = .workspaceSetup) :
      Course [] (.error (.failed fault))
  | withoutCompiler {fault : CallFault} {ws : Workspace} (prepared : a.Prepared w t code ws)
      (refuses : w.Refuses (a.compileCommand t) a.limit ws fault) :
      Course [a.compileCall t ws] (.broken fault)
  | uncompiled {fault : Fault} {ws : Workspace} (prepared : a.Prepared w t code ws)
      (unbroken : ∀ f, ¬a.BreaksOff w t code f) (failure : a.FirstFailure w t code .compile)
      (stage : fault.failure.stage = .compile) : Course [a.compileCall t ws] (.error (.failed fault))
  | withoutSimulator {fault : CallFault} {ws₁ ws₂ : Workspace} {assembly : List UInt8}
      (prepared : a.Prepared w t code ws₁) (compiled : a.Compiled w t code ws₂ assembly)
      (refuses : w.Refuses (a.simulateCommand t) a.limit ws₂ fault) :
      Course [a.compileCall t ws₁, a.simulateCall t ws₂] (.broken fault)
  | unsimulated {fault : Fault} {ws₁ ws₂ : Workspace} {assembly : List UInt8}
      (prepared : a.Prepared w t code ws₁) (compiled : a.Compiled w t code ws₂ assembly)
      (unbroken : ∀ f, ¬a.BreaksOff w t code f) (failure : a.FirstFailure w t code .simulate)
      (stage : fault.failure.stage = .simulate) :
      Course [a.compileCall t ws₁, a.simulateCall t ws₂] (.error (.failed fault))
  | finished {ws₁ ws₂ : Workspace} {assembly report : List UInt8}
      (prepared : a.Prepared w t code ws₁) (compiled : a.Compiled w t code ws₂ assembly)
      (simulated : a.Simulated w t code assembly report) :
      Course [a.compileCall t ws₁, a.simulateCall t ws₂] (.ok (resultOf t assembly report))

end Course

section Run

variable {a : Analyzer} {w : World} {t : Target} {code : String}

theorem prepared_iff {fresh ws : Workspace} (hcreate : w.create a.config.workspaceStem = .ok fresh) :
    a.Prepared w t code ws ↔
      (writeUnit w (a.place w) (t.compose a.host.family code) fresh).value = (.ok (), ws) := by
  rw [writeUnit_eq_ok_iff, prepared_iff_create]
  constructor
  · rintro ⟨fresh', hcreate', hwrite⟩
    rw [hcreate] at hcreate'
    cases hcreate'
    exact hwrite
  · intro hwrite
    exact ⟨fresh, hcreate, hwrite⟩

/-- In a prepared workspace the compiler's work is that of the stage. -/
theorem compiled_iff {before ws : Workspace} (hprepared : a.Prepared w t code before)
    {assembly : String} :
    (a.compile w (a.place w) t before).value = (.ok assembly, ws) ↔
      ∃ bytes, a.Compiled w t code ws bytes ∧ assembly = capturedText bytes := by
  rw [compile_eq_ok_iff]
  constructor
  · rintro ⟨out, err, bytes, hexits, hread, hassembly⟩
    exact ⟨bytes, ⟨before, out, err, hprepared, hexits, hread⟩, hassembly⟩
  · rintro ⟨bytes, ⟨before', out, err, hprepared', hexits, hread⟩, hassembly⟩
    cases hprepared.unique hprepared'
    exact ⟨out, err, bytes, hexits, hread, hassembly⟩

/-- In the workspace that the compiler left the simulator's work is that of the stage. -/
theorem simulated_iff {before : Workspace} {assembly : List UInt8}
    (hcompiled : a.Compiled w t code before assembly) {report : String} :
    (∃ after, (a.simulate w t before).value = (.ok report, after)) ↔
      ∃ bytes, a.Simulated w t code assembly bytes ∧ report = capturedText bytes := by
  simp only [simulate_eq_ok_iff]
  constructor
  · rintro ⟨after, out, err, hexits, hreport⟩
    exact ⟨out, ⟨before, err, after, hcompiled, hexits⟩, hreport⟩
  · rintro ⟨bytes, ⟨before', err, after, hcompiled', hexits⟩, hreport⟩
    obtain ⟨rfl, -⟩ := hcompiled.unique hcompiled'
    exact ⟨after, bytes, err, hexits, hreport⟩

variable (a t code) in
/-- The work goes from stage to stage until one comes to a halt. -/
theorem progress_work {fresh : Workspace} (hcreate : w.create a.config.workspaceStem = .ok fresh) :
    a.Progress w t code fresh (calls (a.work w t code fresh).events) (a.work w t code fresh).value.1 := by
  unfold work
  rcases hwrite : (writeUnit w (a.place w) (t.compose a.host.family code) fresh).value with
    ⟨halt | ⟨⟩, ws₁⟩
  · obtain ⟨hanswer, hcalls⟩ := stages_of_unwritten (a := a) (t := t) hwrite
    rw [hanswer, hcalls]
    exact .unwritten hwrite
  · have hprepared : a.Prepared w t code ws₁ := (prepared_iff hcreate).mpr hwrite
    rcases hcompile : (a.compile w (a.place w) t ws₁).value with ⟨halt | assembly, ws₂⟩
    · obtain ⟨hanswer, hcalls⟩ := stages_of_uncompiled hwrite hcompile
      rw [hanswer, hcalls]
      exact .uncompiled hprepared hcompile
    · obtain ⟨bytes, hcompiled, rfl⟩ := (compiled_iff hprepared).mp hcompile
      obtain ⟨hanswer, hcalls⟩ := stages_of_compiled hwrite hcompile
      rw [hanswer, hcalls]
      rcases hsimulate : (a.simulate w t ws₂).value with ⟨halt | report, ws₃⟩
      · exact .unsimulated hprepared hcompiled hsimulate
      · exact .finished hprepared hcompiled hsimulate

/-- Where the compiler has done its work, only the call of the simulator can be none. -/
theorem Compiled.refuses_of_breaksOff {ws : Workspace} {assembly : List UInt8}
    (h : a.Compiled w t code ws assembly) {fault : CallFault} (breach : a.BreaksOff w t code fault) :
    w.Refuses (a.simulateCommand t) a.limit ws fault := by
  obtain ⟨before, out, err, hprepared, hexits, -⟩ := id h
  cases breach with
  | nameless willing nul =>
      obtain ⟨fresh, ⟨-, named⟩, -⟩ := hprepared
      exact absurd nul named
  | compiler prepared refuses =>
      cases hprepared.unique prepared
      exact absurd refuses hexits.not_refuses
  | simulator compiled refuses =>
      obtain ⟨rfl, -⟩ := h.unique compiled
      exact refuses

/-- A run that meets a call that is none has that for an answer. -/
theorem Progress.broken_of_breaksOff {fresh : Workspace} (hcreate : w.create a.config.workspaceStem = .ok fresh)
    {started : List Call} {answer : Except Halt (String × String)}
    (h : a.Progress w t code fresh started answer) {fault : CallFault} (breach : a.BreaksOff w t code fault) :
    answer = .error (.broken fault) := by
  have named : '\x00' ∉ a.config.workspaceStem.toList := (World.create_eq_ok_iff.mp hcreate).2
  cases h with
  | unwritten halted =>
      have unprepared : ∀ ws, ¬a.Prepared w t code ws := by
        intro ws hprepared
        rw [prepared_iff hcreate, halted] at hprepared
        cases hprepared
      cases breach with
      | nameless willing nul => exact absurd nul named
      | compiler prepared refuses => exact absurd prepared (unprepared _)
      | simulator compiled refuses =>
          obtain ⟨ws, prepared⟩ := compiled.prepared
          exact absurd prepared (unprepared ws)
  | uncompiled prepared halted =>
      cases breach with
      | nameless willing nul => exact absurd nul named
      | compiler prepared' refuses =>
          cases prepared.unique prepared'
          obtain ⟨after, hbroken⟩ := compile_eq_broken_iff.mpr refuses
          rw [halted] at hbroken
          cases hbroken
          rfl
      | simulator compiled refuses =>
          have hvalue := (compiled_iff prepared).mpr ⟨_, compiled, rfl⟩
          rw [halted] at hvalue
          cases hvalue
  | unsimulated prepared compiled halted =>
      obtain ⟨after, hbroken⟩ := simulate_eq_broken_iff.mpr (compiled.refuses_of_breaksOff breach)
      rw [halted] at hbroken
      cases hbroken
      rfl
  | finished prepared compiled simulated =>
      obtain ⟨after, hbroken⟩ := simulate_eq_broken_iff.mpr (compiled.refuses_of_breaksOff breach)
      rw [simulated] at hbroken
      cases hbroken

/-- The work in the workspace takes one of the courses. -/
theorem Progress.course {fresh : Workspace} (hcreate : w.create a.config.workspaceStem = .ok fresh)
    {started : List Call} {answer : Except Halt (String × String)}
    (h : a.Progress w t code fresh started answer) : a.Course w t code started (settle t answer).value := by
  -- Work that failed did not break off, since that would be its answer.
  have unbroken : ∀ {fault}, answer = .error (.failed fault) → ∀ f, ¬a.BreaksOff w t code f := by
    rintro fault rfl f breach
    cases h.broken_of_breaksOff hcreate breach
  cases h with
  | @unwritten halt ws halted =>
      cases halt with
      | broken fault => exact absurd halted writeUnit_ne_broken
      | failed fault =>
          refine .unprepared (unbroken rfl) (.workspaceSetup ?_) (stage_of_writeUnit_eq_failed halted)
          rintro ⟨ws, hprepared⟩
          rw [prepared_iff hcreate, halted] at hprepared
          cases hprepared
  | @uncompiled halt ws ws' prepared halted =>
      cases halt with
      | broken fault => exact .withoutCompiler prepared (compile_eq_broken_iff.mp ⟨_, halted⟩)
      | failed fault =>
          refine .uncompiled prepared (unbroken rfl) (.compile ⟨_, prepared⟩ ?_)
            (stage_of_compile_eq_failed halted)
          rintro ⟨ws, bytes, hcompiled⟩
          have hvalue := (compiled_iff prepared).mpr ⟨bytes, hcompiled, rfl⟩
          rw [halted] at hvalue
          cases hvalue
  | @unsimulated halt ws₁ ws₂ ws₃ assembly prepared compiled halted =>
      cases halt with
      | broken fault => exact .withoutSimulator prepared compiled (simulate_eq_broken_iff.mp ⟨_, halted⟩)
      | failed fault =>
          refine .unsimulated prepared compiled (unbroken rfl) (.simulate ⟨_, _, compiled⟩ ?_)
            (stage_of_simulate_eq_failed halted)
          rintro ⟨assembly, report, before, err, after, hcompiled, hexits⟩
          obtain ⟨rfl, rfl⟩ := compiled.unique hcompiled
          have hvalue := simulate_eq_ok_iff.mpr ⟨report, err, hexits, rfl⟩
          rw [halted] at hvalue
          cases hvalue
  | finished prepared compiled simulated =>
      obtain ⟨out, hsimulated, rfl⟩ := (simulated_iff compiled).mp ⟨_, simulated⟩
      rw [value_settle_ok]
      exact .finished prepared compiled hsimulated

/-- Without a workspace there is none of the courses but the first two. -/
theorem course_of_uncreated {halt : Halt} (h : w.create a.config.workspaceStem = .error halt) :
    a.Course w t code [] halt.outcome := by
  have unprepared : ¬∃ ws, a.Prepared w t code ws := by
    rintro ⟨ws, hprepared⟩
    obtain ⟨fresh, hcreate, -⟩ := prepared_iff_create.mp hprepared
    rw [h] at hcreate
    cases hcreate
  rcases World.create_eq_error_iff.mp h with ⟨e, hcreation, rfl⟩ | ⟨willing, nul, rfl⟩
  · refine .unprepared ?_ (.workspaceSetup unprepared) rfl
    intro f breach
    cases breach with
    | nameless willing nul =>
        obtain ⟨fresh, hfresh⟩ := willing
        rw [hcreation] at hfresh
        cases hfresh
    | compiler prepared refuses => exact unprepared ⟨_, prepared⟩
    | simulator compiled refuses => exact unprepared compiled.prepared
  · exact .nameless willing nul

/-- **Every run takes one of the courses.** -/
theorem course_run {request : Request} (accepted : acceptSource request.source = .ok code) :
    a.Course w request.target code (calls (a.run w request).events)
      (a.run w request).value.outcome := by
  cases hcreate : w.create a.config.workspaceStem with
  | error halt =>
      rw [run_eq_of_refusal accepted hcreate]
      exact course_of_uncreated hcreate
  | ok fresh =>
      have hcourse := (progress_work a request.target code hcreate).course hcreate
      rcases hwork : (a.work w request.target code fresh).value with ⟨answer, left⟩
      rw [hwork] at hcourse
      rw [calls_run_of_creation accepted hcreate, run_eq_of_creation accepted hcreate hwork]
      exact hcourse

end Run

/-! ## What users may rely on -/

section Contract

variable (a : Analyzer) (w : World) (t : Target) (code : String)

/-- What holds of the command lines an analysis starts and of its outcome. -/
structure Contract (commands : List (List String)) (outcome : Outcome) : Prop where
  /-- Nothing is started, or the compiler, or the compiler and then the simulator. -/
  commands_eq :
    commands = [] ∨
      commands = [a.config.compileCommand "input.cpp" "output.s" (t.compileFlags a.host.family)] ∨
      commands = [a.config.compileCommand "input.cpp" "output.s" (t.compileFlags a.host.family),
        a.config.simulateCommand "output.s" t.simulatedCpu]
  /-- The simulator is started only behind a compiler that exited with zero and whose assembly could be
  read. -/
  compiled_of_simulate : a.config.simulateCommand "output.s" t.simulatedCpu ∈ commands →
    ∃ ws assembly, a.Compiled w t code ws assembly
  /-- No other outcome is possible. -/
  ends : (∃ result, outcome = .ok result) ∨ (∃ fault, outcome = .error (.failed fault)) ∨
    ∃ fault, outcome = .broken fault
  /-- There is a result exactly if every stage succeeds, and it is made from what they left behind. -/
  result_iff : ∀ result, outcome = .ok result ↔
    ∃ assembly report, a.Simulated w t code assembly report ∧ result = resultOf t assembly report
  /-- The run breaks off exactly if it meets a call that is none, and over that. -/
  broken_iff : ∀ fault, outcome = .broken fault ↔ a.BreaksOff w t code fault
  /-- A failure names the first stage that fails. -/
  firstFailure : ∀ fault, outcome = .error (.failed fault) →
    a.FirstFailure w t code fault.failure.stage

variable {a w t code}

/-- No command line is both the compiler's and the simulator's. -/
theorem simulateCommand_ne_compileCommand : a.simulateCommand t ≠ a.compileCommand t := by
  intro h
  have hoption : "-mcpu=" ++ cpuText t.simulatedCpu = "-S" := by
    have htail := (List.cons.inj h).2
    exact (List.cons.inj htail).1
  have hchars := congrArg String.toList hoption
  rw [String.toList_append] at hchars
  have hsecond : 'm' = 'S' := by
    have htail := (List.cons.inj hchars).2
    exact (List.cons.inj htail).1
  exact absurd hsecond (by decide)

/-- After a first failure there is no report. -/
theorem FirstFailure.not_simulated {stage : Stage} (h : a.FirstFailure w t code stage)
    {assembly report : List UInt8} : ¬a.Simulated w t code assembly report := by
  intro hsimulated
  obtain ⟨ws, bytes, hcompiled⟩ := hsimulated.compiled
  cases h with
  | workspaceSetup unprepared => exact unprepared hcompiled.prepared
  | compile prepared uncompiled => exact uncompiled ⟨ws, bytes, hcompiled⟩
  | simulate compiled unsimulated => exact unsimulated ⟨assembly, report, hsimulated⟩

/-- A simulator that exited was called. -/
theorem Simulated.not_breaksOff {assembly report : List UInt8} (h : a.Simulated w t code assembly report)
    {fault : CallFault} : ¬a.BreaksOff w t code fault := by
  obtain ⟨before, err, after, compiled, hexits⟩ := h
  intro breach
  exact hexits.not_refuses (compiled.refuses_of_breaksOff breach)

/-- A prepared workspace has a name. -/
theorem Prepared.named {ws : Workspace} (h : a.Prepared w t code ws) :
    '\x00' ∉ a.config.workspaceStem.toList := by
  obtain ⟨fresh, ⟨-, named⟩, -⟩ := h
  exact named

/-- No run breaks off over two calls. -/
theorem BreaksOff.unique {fault fault' : CallFault} (h : a.BreaksOff w t code fault)
    (h' : a.BreaksOff w t code fault') : fault = fault' := by
  cases h with
  | simulator compiled refuses => exact refuses.unique (compiled.refuses_of_breaksOff h')
  | nameless willing nul =>
      cases h' with
      | nameless => rfl
      | compiler prepared => exact absurd nul prepared.named
      | simulator compiled =>
          obtain ⟨ws, prepared⟩ := compiled.prepared
          exact absurd nul prepared.named
  | compiler prepared refuses =>
      cases id h' with
      | nameless _ nul => exact absurd nul prepared.named
      | compiler prepared' refuses' =>
          cases prepared.unique prepared'
          exact refuses.unique refuses'
      | simulator compiled refuses' =>
          exact (compiled.refuses_of_breaksOff (.compiler prepared refuses)).unique refuses'

section Kept

variable {started : List Call} {outcome : Outcome} (h : a.Course w t code started outcome)

include h

theorem Course.commands_eq : started.map Call.argv = [] ∨ started.map Call.argv = [a.compileCommand t] ∨
    started.map Call.argv = [a.compileCommand t, a.simulateCommand t] := by
  cases h with
  | nameless | unprepared => exact .inl rfl
  | withoutCompiler | uncompiled => exact .inr (.inl rfl)
  | withoutSimulator | unsimulated | finished => exact .inr (.inr rfl)

theorem Course.compiled_of_simulate (hmem : a.simulateCommand t ∈ started.map Call.argv) :
    ∃ ws assembly, a.Compiled w t code ws assembly := by
  cases h with
  | nameless | unprepared => cases hmem
  | withoutCompiler | uncompiled => exact absurd (List.mem_singleton.mp hmem) simulateCommand_ne_compileCommand
  | withoutSimulator _ compiled | unsimulated _ compiled | finished _ compiled => exact ⟨_, _, compiled⟩

theorem Course.ends : (∃ result, outcome = .ok result) ∨ (∃ fault, outcome = .error (.failed fault)) ∨
    ∃ fault, outcome = .broken fault := by
  cases h with
  | finished => exact .inl ⟨_, rfl⟩
  | unprepared | uncompiled | unsimulated => exact .inr (.inl ⟨_, rfl⟩)
  | nameless | withoutCompiler | withoutSimulator => exact .inr (.inr ⟨_, rfl⟩)

/-- A course that breaks off met a call that is none. -/
theorem Course.breaksOff {fault : CallFault} (broken : outcome = .broken fault) : a.BreaksOff w t code fault := by
  cases h with
  | nameless willing nul =>
      cases broken
      exact .nameless willing nul
  | withoutCompiler prepared refuses =>
      cases broken
      exact .compiler prepared refuses
  | withoutSimulator _ compiled refuses =>
      cases broken
      exact .simulator compiled refuses
  | unprepared | uncompiled | unsimulated | finished => cases broken

theorem Course.broken_iff (fault : CallFault) : outcome = .broken fault ↔ a.BreaksOff w t code fault := by
  refine ⟨h.breaksOff, fun breach => ?_⟩
  rcases h.ends with ⟨result, rfl⟩ | ⟨failure, rfl⟩ | ⟨fault', rfl⟩
  · cases h with
    | finished _ _ simulated => exact absurd breach simulated.not_breaksOff
  · cases h with
    | unprepared unbroken | uncompiled _ unbroken | unsimulated _ _ unbroken => exact absurd breach (unbroken fault)
  · rw [breach.unique (h.breaksOff rfl)]

theorem Course.firstFailure (fault : Fault) (failed : outcome = .error (.failed fault)) :
    a.FirstFailure w t code fault.failure.stage := by
  cases h with
  | unprepared _ failure stage | uncompiled _ _ failure stage | unsimulated _ _ _ failure stage =>
      cases failed
      rw [stage]
      exact failure
  | nameless | withoutCompiler | withoutSimulator | finished => cases failed

theorem Course.result_iff (result : AnalysisResult) : outcome = .ok result ↔
    ∃ assembly report, a.Simulated w t code assembly report ∧ result = resultOf t assembly report := by
  constructor
  · rintro rfl
    cases h with
    | finished _ _ simulated => exact ⟨_, _, simulated, rfl⟩
  · rintro ⟨assembly, report, hsimulated, rfl⟩
    rcases id h.ends with ⟨result, rfl⟩ | ⟨failure, rfl⟩ | ⟨fault, rfl⟩
    · cases h with
      | finished _ _ simulated =>
          obtain ⟨rfl, rfl⟩ := simulated.unique hsimulated
          rfl
    · exact absurd hsimulated (h.firstFailure failure rfl).not_simulated
    · exact absurd (h.breaksOff rfl) hsimulated.not_breaksOff

/-- Every course keeps the contract. -/
theorem Course.contract : Contract a w t code (started.map Call.argv) outcome where
  commands_eq := h.commands_eq
  compiled_of_simulate := h.compiled_of_simulate
  ends := h.ends
  result_iff := h.result_iff
  broken_iff := h.broken_iff
  firstFailure := h.firstFailure

end Kept

end Contract

end Analyzer

end SnippetCost
