import SnippetCost.Analysis.Snippet
import SnippetCost.Proofs.Analysis.Served
import SnippetCost.Proofs.World.Only

/-!
# Where an id is looked up

A snippet is analysed for the target that a catalog has for an id: the given catalog if it has any targets, and the
curated one otherwise (`InUse`).

* **`analyzeSnippet_resolved`**: in that catalog, and nowhere else, the id is looked up.
* **`analyzeSnippet_bare`**: so a given catalog without targets is not the one in use.

What a run for the target does is said elsewhere (`Analyzer.Contract`).
-/

namespace SnippetCost

open Event

variable {s : Surroundings} {given : Option Catalog} {c c' : Catalog} {config : Config} {source : SourceText}
  {id : String}

/-! ## The catalog -/

/-- The catalog that an id is looked up in, by the one that is given. -/
inductive InUse : Option Catalog → Catalog → Prop where
  | given {c : Catalog} (stocked : c.targets ≠ []) : InUse (some c) c
  | bare {c : Catalog} (bare : c.targets = []) : InUse (some c) .curated
  | missing : InUse none .curated

/-- A catalog with targets is used if it is given. -/
theorem chosenCatalog_of_stocked (stocked : c.targets ≠ []) : chosenCatalog (some c) = c := by
  have sized : (c.size != 0) = true := by
    rw [bne_iff_ne]
    exact mt List.length_eq_zero_iff.mp stocked
  unfold chosenCatalog
  rw [Option.filter_some, if_pos sized, Option.getD_some]

/-- One without targets is passed over. -/
theorem chosenCatalog_of_bare (bare : c.targets = []) : chosenCatalog (some c) = .curated := by
  have unsized : (c.size != 0) = false := by
    rw [bne_eq_false_iff_eq]
    exact List.length_eq_zero_iff.mpr bare
  unfold chosenCatalog
  rw [Option.filter_some, unsized]
  rfl

/-- The catalog in use is the one that is chosen. -/
theorem inUse_iff : InUse given c ↔ chosenCatalog given = c := by
  constructor
  · rintro (stocked | bare | -)
    · exact chosenCatalog_of_stocked stocked
    · exact chosenCatalog_of_bare bare
    · rfl
  · rintro rfl
    cases given with
    | none => exact .missing
    | some c =>
        by_cases bare : c.targets = []
        · rw [chosenCatalog_of_bare bare]
          exact .bare bare
        · rw [chosenCatalog_of_stocked bare]
          exact .given bare

/-! ## The analysis -/

/-- Who analyses a snippet. -/
def Surroundings.analyzer (s : Surroundings) (c : Catalog) (config : Config) : Analyzer :=
  ⟨c, config, (Host.detect s.machine).value⟩

/-- Of the catalog an analysis sees what it has for the id. -/
theorem analyze_congr (hget : c.get? id = c'.get? id) (s : Surroundings) (config : Config) (source : SourceText) :
    (s.analyzer c config).analyze s.world source id = (s.analyzer c' config).analyze s.world source id := by
  have hrequest : (s.analyzer c config).request source id = (s.analyzer c' config).request source id := by
    unfold Analyzer.request Catalog.lookup Surroundings.analyzer
    rw [hget]
  unfold Analyzer.analyze
  rw [hrequest]
  rfl

/-- The answer of a call is a rejection exactly if the outcome of the analysis is. -/
theorem Outcome.answer_eq_rejected_iff {outcome : Outcome} {r : Rejection} :
    outcome.answer = .error (.analysis (.rejected r)) ↔ outcome = .error (.rejected r) := by
  cases outcome <;> simp [Outcome.answer]

section Read

variable (read : Config.ofEnvironment s.environment s.lookUp = .ok config) (inUse : InUse given c)
include read inUse

/-- The host is asked what it is, and then the analysis is run with the catalog in use. -/
theorem analyzeSnippet_eq (source : SourceText) (id : String) :
    analyzeSnippet s given source id =
      ⟨((s.analyzer c config).analyze s.world source id).value.outcome.answer,
        (Host.detect s.machine).events ++ ((s.analyzer c config).analyze s.world source id).events⟩ := by
  unfold analyzeSnippet
  rw [read, inUse_iff.mp inUse]
  change (⟨_, _ ++ (_ ++ [])⟩ : Traced _) = _
  rw [List.append_nil]
  rfl

/-- The call is rejected exactly as the catalog in use has it. -/
theorem value_analyzeSnippet_eq_rejected_iff (r : Rejection) :
    (analyzeSnippet s given source id).value = .error (.analysis (.rejected r)) ↔ Rejected c source [id] r := by
  rw [analyzeSnippet_eq read inUse, Outcome.answer_eq_rejected_iff, Analyzer.outcome_analyze_eq_rejected_iff,
    Analyzer.request_eq_error_iff]
  rfl

/-- The host is asked without anything being started. -/
theorem calls_analyzeSnippet : calls (analyzeSnippet s given source id).events =
    calls ((s.analyzer c config).analyze s.world source id).events := by
  have asked : calls (Host.detect s.machine).events = [] :=
    calls_of_remarks (Host.only_detect (fun _ _ => rfl) s.machine).of_mem
  rw [analyzeSnippet_eq read inUse, calls_append, asked, List.nil_append]

end Read

/-- A source is analysed for what a catalog has for an id, and for nothing else. -/
structure Resolved (s : Surroundings) (c : Catalog) (config : Config) (source : SourceText) (id : String)
    (answer : Traced (Except SnippetError AnalysisResult)) : Prop where
  rejected_iff : ∀ r, answer.value = .error (.analysis (.rejected r)) ↔ Rejected c source [id] r
  /-- Nothing is started then, and no workspace is made. -/
  remarks_of_rejected : ∀ r, Rejected c source [id] r → answer.Only fun e => e.isRemark = true
  unknown : ∀ code, acceptSource source = .ok code → (∀ t ∈ c.targets, t.id ≠ id) →
    answer.value = .error (.analysis (.rejected (.unknownTarget id)))
  known : ∀ code, acceptSource source = .ok code → ∀ t ∈ c.targets, t.id = id →
    answer = ⟨((s.analyzer c config).run s.world ⟨source, t⟩).value.outcome.answer,
      (Host.detect s.machine).events ++ ((s.analyzer c config).run s.world ⟨source, t⟩).events⟩
  started_for : ∀ call ∈ calls answer.events,
    ∃ t ∈ c.targets, t.id = id ∧ (s.analyzer c config).WorksFor call t

/-- A call that gets as far as its analysis goes by the catalog in use. -/
theorem resolved_analyzeSnippet (read : Config.ofEnvironment s.environment s.lookUp = .ok config)
    (inUse : InUse given c) : Resolved s c config source id (analyzeSnippet s given source id) where
  rejected_iff := value_analyzeSnippet_eq_rejected_iff read inUse
  remarks_of_rejected := by
    intro r rejected
    have hrequest : (s.analyzer c config).request source id = .error r := Analyzer.request_eq_error_iff.mpr rejected
    rw [analyzeSnippet_eq read inUse, Analyzer.analyze_of_request_error s.world hrequest, List.append_nil]
    exact ⟨(Host.only_detect (fun _ _ => rfl) s.machine).of_mem⟩
  unknown := by
    intro code accepted stranger
    have hid : id ∉ (s.analyzer c config).catalog.ids := Catalog.not_mem_ids_iff.mpr stranger
    rw [value_analyzeSnippet_eq_rejected_iff read inUse]
    exact Analyzer.request_eq_error_iff.mp (Analyzer.request_of_unknown accepted hid)
  known := by
    intro code accepted t ht hid
    have hget : (s.analyzer c config).catalog.get? id = some t := hid ▸ Catalog.get?_of_mem ht
    have hrequest : (s.analyzer c config).request source id = .ok ⟨source, t⟩ := by
      rw [Analyzer.request_of_acceptSource_ok accepted, hget]
    rw [analyzeSnippet_eq read inUse, Analyzer.analyze_eq_run hrequest]
  started_for := by
    intro call hcall
    rw [calls_analyzeSnippet read inUse] at hcall
    obtain ⟨t, hget, works⟩ := Analyzer.exists_worksFor_of_mem_calls_analyze s.world id call hcall
    obtain ⟨ht, hid⟩ := Catalog.mem_of_get?_eq_some hget
    exact ⟨t, ht, hid, works⟩

/-- **An id is looked up in one catalog.**  Unless the configuration cannot be read, which is told before anything else,
there is one catalog that decides: what it does not have is rejected and starts nothing, and what it has is analysed.
Another given catalog comes to the same if what is used in its place has the same for the id. -/
theorem analyzeSnippet_resolved (s : Surroundings) (given : Option Catalog) (source : SourceText) (id : String) :
    ∃ c, InUse given c ∧
      ((∃ e, Config.ofEnvironment s.environment s.lookUp = .error e ∧
          analyzeSnippet s given source id = ⟨.error (.badTimeLimit e), []⟩) ∨
        ∃ config, Config.ofEnvironment s.environment s.lookUp = .ok config ∧
          Resolved s c config source id (analyzeSnippet s given source id)) ∧
      ∀ given' c', InUse given' c' → c'.get? id = c.get? id →
        analyzeSnippet s given' source id = analyzeSnippet s given source id := by
  have inUse : InUse given (chosenCatalog given) := inUse_iff.mpr rfl
  cases read : Config.ofEnvironment s.environment s.lookUp with
  | error e =>
      have unread : ∀ given, analyzeSnippet s given source id = ⟨.error (.badTimeLimit e), []⟩ := by
        intro given
        unfold analyzeSnippet
        rw [read]
        rfl
      exact ⟨_, inUse, .inl ⟨e, rfl, unread given⟩, fun given' _ _ _ => (unread given').trans (unread given).symm⟩
  | ok config =>
      refine ⟨_, inUse, .inr ⟨config, rfl, resolved_analyzeSnippet read inUse⟩, ?_⟩
      intro given' c' inUse' hget
      rw [analyzeSnippet_eq read inUse', analyzeSnippet_eq read inUse, analyze_congr hget]

/-- A catalog of no targets. -/
def Catalog.bare : Catalog where
  targets := []
  admitted := rfl

/-- A host of the x86 family whose environment sets nothing. -/
def Surroundings.plain : Surroundings where
  world := .obliging
  machine := .ok "x86_64"
  environment := fun _ => none
  lookUp := fun _ => none

/-- **A catalog without targets has the curated one used in its place**: an id that it does not have is not rejected, and
the compiler is started. -/
theorem analyzeSnippet_bare :
    let answer := analyzeSnippet .plain (some .bare) (.ofString "f();") "native"
    "native" ∉ Catalog.bare.ids ∧ (∀ r, answer.value ≠ .error (.analysis (.rejected r))) ∧
      (calls answer.events).map Call.argv =
        [["clang", "-S", "-O2", "-march=native", "-o", "output.s", "input.cpp"],
          ["llvm-mca", "-mcpu=native", "output.s"]] := by
  intro answer
  have answered : answer.value.toBool = true := by decide +kernel
  refine ⟨List.not_mem_nil, ?_, by decide +kernel⟩
  intro r h
  rw [h] at answered
  cases answered

end SnippetCost
