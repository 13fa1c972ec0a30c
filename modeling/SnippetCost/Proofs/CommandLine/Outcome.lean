import SnippetCost.Proofs.CommandLine.Documents
import SnippetCost.Proofs.CommandLine.Gate

/-!
# What a run of the command comes to

A run that is let through and ends with a code is told by the analyses of its targets alone (`Session.Report`):

- the **code** is zero if each of them gave a result, and otherwise that of the stage at which the first target in
  the order of the ids failed, whatever became of those behind it (`CodeOf`);
- the **document** has an entry for each id, in their order, and the entry is the result of the target or what is
  told of its failure (`EntryOf`).  With one target the document is the entry itself, and there is none if there is
  no result (`not_delivered_of_exited`).

Main statement: **`report_of_exited`**.  The two ways of the command, with one target and with several, are put
together from the same statement about a list of outcomes (`codeOf_exitCodeOf`).  Each analysis meets a world of its own, so
a target that is asked for twice can fail once.
-/

namespace SnippetCost

open Traced Event

/-! ## Entries and documents -/

/-- The entry for an outcome: the result, or the target and what is told of its failure. -/
inductive EntryOf : MatrixOutcome → Json → Prop where
  | result {id : String} {r : AnalysisResult} : EntryOf ⟨id, .ok r⟩ r.json
  | failure {id : String} {fault : Fault} : EntryOf ⟨id, .error (.failed fault)⟩
      (.record
        [("target", .text id),
         ("error", .text fault.failure.message),
         ("stage", .text fault.failure.stage.name),
         ("diagnostic", .text fault.failure.diagnostic)])

theorem MatrixOutcome.Settled.entryOf {o : MatrixOutcome} (h : o.Settled) : EntryOf o o.json := by
  obtain ⟨id, outcome⟩ := o
  rcases h with ⟨r, hr⟩ | ⟨fault, hfault, -⟩
  · obtain rfl : outcome = .ok r := hr
    exact .result
  · obtain rfl : outcome = .error (.failed fault) := hfault
    exact .failure

/-- The document of some outcomes: a list with an entry for each, or the entry alone if there is one target and
it has a result. -/
def document? : List MatrixOutcome → Option String
  | [o] => if o.succeeded then some (o.json.render jsonIndent) else none
  | outcomes => some ((Json.list (outcomes.map MatrixOutcome.json)).render jsonIndent)

/-- Where there is not one target the document is a list. -/
theorem document?_of_several {outcomes : List MatrixOutcome} (several : outcomes.length ≠ 1) :
    document? outcomes = some (outcomesText outcomes) := by
  unfold document?
  split
  · exact absurd rfl several
  · rfl

/-- What a run tells of its outcomes: by its code, and by the documents it leaves. -/
structure Session.Report (settings : AnalyzeSettings) (outcomes : List MatrixOutcome) (code : Nat)
    (events : List Event) : Prop where
  code_of : CodeOf outcomes code
  zero_iff : code = 0 ↔ ∀ o ∈ outcomes, ∃ r, o.outcome = .ok r
  entries : ∀ o ∈ outcomes, EntryOf o o.json
  documents_eq : documents events = ((document? outcomes).map settings.delivery).getD []

namespace Session

variable {s : Session} {a : Analyzer} {source : SourceText} {settings : AnalyzeSettings} {code : Nat}

/-- Several outcomes are reported, whatever worlds they come from. -/
theorem report_deliverAll {label? : String → Option String} {run : MatrixRun}
    (several : run.outcomes.length ≠ 1) (settled : ∀ o ∈ run.outcomes, o.Settled)
    (exited : (s.deliverAll settings label? run).value.ending = .exited code) :
    Report settings run.outcomes code (s.deliverAll settings label? run).events := by
  obtain ⟨hdocuments, rfl⟩ := documents_deliverAll exited
  have hdocument := document?_of_several several
  have hcode := codeOf_exitCodeOf settled
  refine ⟨hcode, hcode.eq_zero_iff, fun o ho => (settled o ho).entryOf, ?_⟩
  rw [hdocuments, hdocument]
  rfl

/-- What is said before leaves the report as it is. -/
theorem Report.bind {α β : Type} {x : Traced α} {f : α → Traced β} {outcomes : List MatrixOutcome}
    (hx : x.Only IsSilent) (h : Report settings outcomes code (f x.value).events) :
    Report settings outcomes code (x >>= f).events :=
  ⟨h.code_of, h.zero_iff, h.entries, (documents_bind_of_silent hx).trans h.documents_eq⟩

/-- What is reported of a delivery is reported of what comes to it. -/
theorem Report.of_leadsTo {α : Type} {x y : Traced α} {outcomes : List MatrixOutcome} (leads : x.LeadsTo y)
    (h : Report settings outcomes code y.events) : Report settings outcomes code x.events :=
  ⟨h.code_of, h.zero_iff, h.entries, leads.documents_eq.trans h.documents_eq⟩

theorem report_analyzeSeveral {ids : List String} (several : ids.length ≠ 1) {requests : List Request}
    (h : a.requests source ids = .ok requests)
    (exited : (s.analyzeSeveral a source ids settings).value.ending = .exited code) :
    ∃ outcomes, outcomes.map MatrixOutcome.entry = a.singles s.worlds source ids ∧
      Report settings outcomes code (s.analyzeSeveral a source ids settings).events := by
  obtain ⟨label?, run, entries, leads⟩ := leadsTo_analyzeSeveral h exited
  have settled : ∀ o ∈ run.outcomes, o.Settled := fun o ho =>
    Analyzer.settled_of_mem_singles h (entries ▸ List.mem_map_of_mem ho)
  rw [leads.value_eq] at exited
  refine ⟨run.outcomes, entries, .of_leadsTo leads (report_deliverAll ?_ settled exited)⟩
  have hlength := congrArg List.length entries
  rw [List.length_map, Analyzer.length_singles] at hlength
  rw [hlength]
  exact several

theorem report_analyzeOne {id : String} {request : Request} (h : a.request source id = .ok request)
    (exited : (s.analyzeOne a source id settings).value.ending = .exited code) :
    ∃ outcomes, outcomes.map MatrixOutcome.entry = a.singles s.worlds source [id] ∧
      Report settings outcomes code (s.analyzeOne a source id settings).events := by
  have hsingles : a.singles s.worlds source [id] = [(id, (a.analyze (s.worlds 0) source id).value.outcome)] := rfl
  have settled : ∀ outcome, (a.analyze (s.worlds 0) source id).value.outcome = .of outcome →
      ∀ o ∈ [(⟨id, outcome⟩ : MatrixOutcome)], o.Settled := by
    intro outcome houtcome
    rw [List.forall_mem_singleton]
    exact Analyzer.settled_of_request h houtcome
  cases houtcome : (a.analyze (s.worlds 0) source id).value.outcome with
  | broken fault => exact absurd exited (not_exited_of_broken houtcome)
  | error e =>
      obtain ⟨left, leads⟩ := leadsTo_analyzeOne_error houtcome
      have hcode := codeOf_exitCodeOf (settled (.error e) houtcome)
      rw [leads.value_eq] at exited
      rw [houtcome] at hsingles
      cases exited
      refine ⟨[⟨id, .error e⟩], hsingles.symm, .of_leadsTo leads ⟨hcode, hcode.eq_zero_iff, ?_, ?_⟩⟩
      · exact fun o ho => (settled (.error e) houtcome o ho).entryOf
      · exact documents_of_isSilent ((s.only_tell e).silent.bind (only_pure _)).of_mem
  | ok r =>
      obtain ⟨left, leads⟩ := leadsTo_analyzeOne houtcome
      have hcode := codeOf_exitCodeOf (settled (.ok r) houtcome)
      rw [leads.value_eq] at exited
      rw [houtcome] at hsingles
      obtain ⟨hdocuments, rfl⟩ := documents_deliver exited
      refine ⟨[⟨id, .ok r⟩], hsingles.symm, .of_leadsTo leads ⟨hcode, hcode.eq_zero_iff, ?_, hdocuments⟩⟩
      exact fun o ho => (settled (.ok r) houtcome o ho).entryOf

/-- A command whose request is let through is reported if it ends with a code. -/
theorem report_analyzeWith {ids : List String} {requests : List Request}
    (h : a.requests source ids = .ok requests)
    (exited : (s.analyzeWith a source ids settings).value.ending = .exited code) :
    ∃ outcomes, outcomes.map MatrixOutcome.entry = a.singles s.worlds source ids ∧
      Report settings outcomes code (s.analyzeWith a source ids settings).events := by
  unfold analyzeWith at exited ⊢
  split at exited
  · rename_i id
    cases Analyzer.forall₂_of_requests h with
    | cons hrequest _ => exact report_analyzeOne hrequest exited
  · rename_i several
    refine report_analyzeSeveral ?_ h exited
    intro hlength
    obtain ⟨id, rfl⟩ := List.length_eq_one_iff.mp hlength
    exact several id rfl

/-- **What a run comes to** that is let through and ends with a code: the outcomes are those of the analyses of
the targets, one for each id and in their order, each in the world that it meets, and the code and the documents are those
for these outcomes. -/
theorem report_of_exited (s : Session) (input : String) (settings : AnalyzeSettings) (code : Nat)
    (letThrough : ¬s.Refused input settings)
    (exited : (s.analyze input settings).value.ending = .exited code) :
    ∃ source config ids, s.Passed input settings source config ids ∧ ∃ outcomes,
      outcomes.map MatrixOutcome.entry = (ids.mapIdx fun i id =>
        (id, ((⟨.curated, config, s.host⟩ : Analyzer).analyze (s.worlds i) source id).value.outcome)) ∧
      Report settings outcomes code (s.analyze input settings).events := by
  cases s.passage_analyze input settings with
  | stopped refused => exact absurd refused letThrough
  | stranded stranded => exact absurd exited stranded.not_exited
  | @passed source config ids passed =>
      obtain ⟨requests, hrequests⟩ := passed.exists_requests
      rw [passed.value_analyze] at exited
      obtain ⟨outcomes, entries, report⟩ := report_analyzeWith hrequests exited
      refine ⟨source, config, ids, passed, outcomes, entries, ?_⟩
      rw [passed.analyze_eq]
      exact Report.bind (s.only_checkTargets settings).silent (Report.bind (Console.only_info ..).silent report)

/-- A run that ends with any other code than that of a rejection is not refused. -/
theorem not_refused_of_exited {input : String} (exited : (s.analyze input settings).value.ending = .exited code)
    (hcode : code ≠ rejectedCode) : ¬s.Refused input settings := by
  cases s.passage_analyze input settings with
  | stopped refused stopped =>
      rw [stopped.value_eq] at exited
      cases exited
      exact absurd rfl hcode
  | stranded stranded => exact absurd exited stranded.not_exited
  | passed passed => exact passed.not_refused

/-- A session whose tools do not know two processors, and in which there is no room for the third workspace; of two
analyses at the same time the second gets done first. -/
def withUnknownProcessors : Session :=
  { onX86 with
    worlds := fun i =>
      if i = 2 then { World.obliging with creation := .error (.plain "full") }
      else
        { World.obliging with
          run := fun argv ws =>
            if "-mcpu=haswell" ∈ argv ∨ "-march=skylake" ∈ argv then (.exited 1 [] [], ws)
            else World.obliging.run argv ws }
    schedule := [1] }

/-- The second target in the order of the ids is the first that fails.  The third fails at an earlier stage, although it is
the same as the first one, which does not fail. -/
theorem report_of_exited_unknownProcessors :
    let settings : AnalyzeSettings :=
      { targetIds := [some "native", some "x86-haswell", some "native"]
        asJson := true
        output := some "out.json"
        workers := some 2 }
    ¬withUnknownProcessors.Refused "k.c" settings ∧
      (withUnknownProcessors.analyze "k.c" settings).value.ending = .exited 4 ∧
      ∃ outcomes, outcomes.map (fun o => (o.targetId, o.succeeded)) =
          [("native", true), ("x86-haswell", false), ("native", false)] ∧
        Report settings outcomes 4 (withUnknownProcessors.analyze "k.c" settings).events := by
  intro settings
  have exited : (withUnknownProcessors.analyze "k.c" settings).value.ending = .exited 4 := by
    decide +kernel
  have letThrough : ¬withUnknownProcessors.Refused "k.c" settings := not_refused_of_exited exited (by decide)
  obtain ⟨source, config, ids, passed, outcomes, entries, report⟩ :=
    report_of_exited withUnknownProcessors "k.c" settings 4 letThrough exited
  refine ⟨letThrough, exited, outcomes, ?_, report⟩
  have hids : (["native", "x86-haswell", "native"].map some : List (Option String)) = ids.map some :=
    passed.ids_eq
  have hread : withUnknownProcessors.readSource "k.c" = .ok (.ofString "f();") := rfl
  have hconfig : Config.ofEnvironment (fun _ => none) (fun _ => none) = .ok {} := rfl
  obtain rfl := (List.map_inj_right fun _ _ => Option.some.inj).mp hids
  obtain rfl := Except.ok.inj (hread.symm.trans passed.read)
  obtain rfl := Except.ok.inj (hconfig.symm.trans passed.config_eq)
  have told := congrArg (List.map fun entry => (entry.1, entry.2.told.toOption.any Except.toBool)) entries
  rw [List.map_map] at told
  refine .trans (List.map_congr_left fun o _ => ?_) (told.trans (by decide +kernel))
  obtain ⟨id, result | e⟩ := o <;> rfl

/-- A run that ends with a code need not leave the document it is asked for: a single target that fails is told of
on the console alone. -/
theorem not_delivered_of_exited : ¬∀ (s : Session) (input : String) (settings : AnalyzeSettings) (code : Nat),
    ¬s.Refused input settings → (s.analyze input settings).value.ending = .exited code →
      ∃ document, documents (s.analyze input settings).events = settings.delivery document := by
  intro h
  let settings : AnalyzeSettings := { targetIds := [some "x86-skylake"], output := some "out.json" }
  have exited : (withUnknownProcessors.analyze "k.c" settings).value.ending = .exited 3 := by
    decide +kernel
  have letThrough : ¬withUnknownProcessors.Refused "k.c" settings := not_refused_of_exited exited (by decide)
  have hnone : documents (withUnknownProcessors.analyze "k.c" settings).events = [] := by
    decide +kernel
  obtain ⟨document, hdocument⟩ := h withUnknownProcessors "k.c" settings 3 letThrough exited
  rw [hnone] at hdocument
  cases hdocument

end Session

end SnippetCost
