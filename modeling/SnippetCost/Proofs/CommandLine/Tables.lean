import SnippetCost.Proofs.CommandLine.Gate
import SnippetCost.Proofs.CommandLine.Tools
import SnippetCost.Proofs.Text.Markup

/-!
# Texts from outside in tables

Where the tables put the names of machines and targets, the places of tools and what these say of themselves, and the
instructions of a report.  Labels of targets beside results, and instructions, are escaped.  In the list of targets, the
list of tools and the title that names a machine the texts stand as they are, and a console obeys the tags in them.

* **`texts_in_tables`**: this, for every table and every text.

What a console does with a tag that it obeys is not said here.  A table with a tag that it cannot obey is not shown, and
the command breaks down (`Session.Lists`).
-/

namespace SnippetCost

open Text

/-- The cells under a header. -/
def Table.under (table : Table) (header : String) : List String :=
  ((table.columns.find? (·.header == header)).map (·.cells)).getD []

/-! ## Escaped and bare -/

/-- The text stands there escaped behind a fixed one, and a console obeys nothing in it. -/
structure StandsEscaped (frame text shown : String) : Prop where
  shown_eq : shown = frame ++ escapeMarkup text
  not_obeys : ¬Obeys shown.toList

/-- The text stands there as it is behind a fixed one, and a console obeys what there is to be obeyed in it. -/
structure StandsBare (frame text shown : String) : Prop where
  shown_eq : shown = frame ++ text
  escaped_iff : shown = frame ++ escapeMarkup text ↔ Inert text.toList
  obeys_iff : Obeys shown.toList ↔ Obeys text.toList

section Frame

variable {frame : String} (hbracket : '[' ∉ frame.toList) (hbackslash : '\\' ∉ frame.toList) (text : String)

include hbracket hbackslash

/-- An escaped text in a frame is shown as it is. -/
theorem standsEscaped : StandsEscaped frame text (frame ++ escapeMarkup text) where
  shown_eq := rfl
  not_obeys := not_obeys_append_escapeMarkup hbracket hbackslash text

/-- A text in a frame that is not escaped is taken for markup. -/
theorem standsBare : StandsBare frame text (frame ++ text) where
  shown_eq := rfl
  escaped_iff := by
    rw [← escapeMarkup_eq_self_iff, eq_comm, String.append_right_inj]
  obeys_iff := by
    rw [String.toList_append, obeys_append_iff hbracket hbackslash]

end Frame

/-- Cells that are the escaped texts. -/
theorem forall₂_standsEscaped (texts : List String) :
    List.Forall₂ (StandsEscaped "") texts (texts.map escapeMarkup) := by
  rw [List.forall₂_map_right_iff, List.forall₂_same]
  intro text _
  have h : StandsEscaped "" text ("" ++ escapeMarkup text) := standsEscaped List.not_mem_nil List.not_mem_nil text
  rwa [String.empty_append] at h

/-- The empty frame is none. -/
theorem standsBare_self (text : String) : StandsBare "" text text := by
  have h : StandsBare "" text ("" ++ text) := standsBare List.not_mem_nil List.not_mem_nil text
  rwa [String.empty_append] at h

/-- Cells that are the texts. -/
theorem forall₂_standsBare (texts : List String) : List.Forall₂ (StandsBare "") texts texts :=
  List.forall₂_same.mpr fun text _ => standsBare_self text

/-! ## The tables -/

/-- The cells of the table of targets are their fields as they are. -/
theorem under_targetsTable (title : String) (targets : List Target) :
    (targetsTable title targets).under "Id" = targets.map (·.id) ∧
      (targetsTable title targets).under "Label" = targets.map (·.label) ∧
      (targetsTable title targets).under "Family" = targets.map (·.family) ∧
      (targetsTable title targets).under "Cross target" = targets.map (·.crossTriple.getD "") := by
  refine ⟨?_, ?_, ?_, ?_⟩ <;>
    simp [Table.under, targetsTable, Table.ofRows, Column.headed]

/-- So are the paths and versions in that of the tools. -/
theorem under_toolsTable (path? version? : Tool → Option String) :
    (toolsTable path? version?).under "Path" =
        Tool.all.map (fun t => (given? (path? t)).getD "[red]not found[/red]") ∧
      (toolsTable path? version?).under "Version" = Tool.all.map fun t => (version? t).getD "" := by
  refine ⟨?_, ?_⟩ <;>
    simp [Table.under, toolsTable, Table.ofRows, Column.headed]

/-- The labels in the table of several outcomes are escaped. -/
theorem under_matrixTable (label? : String → Option String) (outcomes : List MatrixOutcome) :
    (matrixTable label? outcomes).under "Target" =
      (outcomes.map fun o => (label? o.targetId).getD o.targetId).map escapeMarkup := by
  have hrow : ∀ label outcome, (outcomeRow label outcome)[0]?.getD "" = escapeMarkup label := by
    intro label outcome
    cases outcome with
    | ok r => rfl
    | error e => rfl
  simp [Table.under, matrixTable, Table.ofRows, Column.headed, hrow]

/-- A computation that succeeds has succeeded in its first part. -/
theorem exists_of_bind_eq_ok {ε α β : Type} {x : Except ε α} {f : α → Except ε β} {y : β} (h : x >>= f = .ok y) :
    ∃ a, x = .ok a ∧ f a = .ok y := by
  cases x with
  | error e => cases h
  | ok a => exact ⟨a, rfl, h⟩

/-- The instructions are in the last cells of the rows. -/
theorem map_getD_instructionRows {peakLatency peakThroughput : Number.Binary64} {records : List InstructionRecord}
    {rows : List (List String)} (h : instructionRows peakLatency peakThroughput records = .ok rows) :
    rows.map (·.getD 4 "") = (records.map (·.instruction)).map escapeMarkup := by
  induction records generalizing rows with
  | nil =>
      cases h
      rfl
  | cons r records ih =>
      obtain ⟨latency, -, h⟩ := exists_of_bind_eq_ok h
      obtain ⟨throughput, -, h⟩ := exists_of_bind_eq_ok h
      obtain ⟨rest, hrest, h⟩ := exists_of_bind_eq_ok h
      cases h
      rw [List.map_cons, ih hrest]
      rfl

/-- So are the instructions in the table of a result. -/
theorem under_instructionsTable {records : List InstructionRecord} {table : Table}
    (h : instructionsTable records = .ok table) :
    table.under "Instruction" = (records.map (·.instruction)).map escapeMarkup := by
  obtain ⟨latencies, -, h⟩ := exists_of_bind_eq_ok h
  obtain ⟨throughputs, -, h⟩ := exists_of_bind_eq_ok h
  obtain ⟨rows, hrows, h⟩ := exists_of_bind_eq_ok h
  cases h
  rw [← map_getD_instructionRows hrows]
  simp [Table.under, Table.ofRows, Column.headed]

/-- The title names the machine, unless everything is listed. -/
theorem Session.lists_listTargets (s : Session) (settings : TargetsSettings) (h : settings.everything = false) :
    ∃ front listing, s.listTargets settings = ⟨listing.value, front ++ listing.events⟩ ∧
      s.Lists (targetsTable ("CPU targets for host " ++ (settings.host s.surroundings).value.machineText)
        (sortForDisplay ((settings.host s.surroundings).value.compatible Catalog.curated.targets))) 0 listing := by
  refine ⟨(settings.host s.surroundings).events, _, ?_, s.lists_list _ _⟩
  unfold listTargets
  rw [h]
  rfl

/-- **Texts from outside in tables**, for every table and every text. -/
theorem texts_in_tables (r : AnalysisResult) (records : List InstructionRecord) (label? : String → Option String)
    (outcomes : List MatrixOutcome) (title : String) (targets : List Target) (path? version? : Tool → Option String)
    (s : Session) (settings : TargetsSettings) :
    -- Escaped are the label of a target in a title and beside an outcome, and instructions.
    StandsEscaped "CPU Target: " r.targetLabel (summaryTable r).title ∧
    (∀ table, instructionsTable records = .ok table →
      List.Forall₂ (StandsEscaped "") (records.map (·.instruction)) (table.under "Instruction")) ∧
    List.Forall₂ (StandsEscaped "") (outcomes.map fun o => (label? o.targetId).getD o.targetId)
      ((matrixTable label? outcomes).under "Target") ∧
    -- Bare are the texts of targets, the places and versions of tools, and the name of a machine.
    List.Forall₂ (StandsBare "") (targets.map (·.id)) ((targetsTable title targets).under "Id") ∧
    List.Forall₂ (StandsBare "") (targets.map (·.label)) ((targetsTable title targets).under "Label") ∧
    List.Forall₂ (StandsBare "") (targets.map (·.family)) ((targetsTable title targets).under "Family") ∧
    List.Forall₂ (StandsBare "") (targets.map (·.crossTriple.getD ""))
      ((targetsTable title targets).under "Cross target") ∧
    List.Forall₂ (fun t cell => ∀ path, given? (path? t) = some path → StandsBare "" path cell) Tool.all
      ((toolsTable path? version?).under "Path") ∧
    List.Forall₂ (StandsBare "") (Tool.all.map fun t => (version? t).getD "")
      ((toolsTable path? version?).under "Version") ∧
    (settings.everything = true ∨ ∃ table front listing,
      s.listTargets settings = ⟨listing.value, front ++ listing.events⟩ ∧ s.Lists table 0 listing ∧
      StandsBare "CPU targets for host " (settings.host s.surroundings).value.machineText table.title) := by
  obtain ⟨hid, hlabel, hfamily, hcross⟩ := under_targetsTable title targets
  obtain ⟨hpath, hversion⟩ := under_toolsTable path? version?
  refine ⟨standsEscaped (by decide) (by decide) _, fun table h => ?_, ?_, ?_, ?_, ?_, ?_, ?_, ?_, ?_⟩
  · rw [under_instructionsTable h]
    exact forall₂_standsEscaped _
  · rw [under_matrixTable]
    exact forall₂_standsEscaped _
  · rw [hid]
    exact forall₂_standsBare _
  · rw [hlabel]
    exact forall₂_standsBare _
  · rw [hfamily]
    exact forall₂_standsBare _
  · rw [hcross]
    exact forall₂_standsBare _
  · rw [hpath, List.forall₂_map_right_iff, List.forall₂_same]
    intro t _ path hgiven
    rw [hgiven]
    exact standsBare_self path
  · rw [hversion]
    exact forall₂_standsBare _
  · cases heverything : settings.everything with
    | true => exact .inl rfl
    | false =>
        obtain ⟨front, listing, hlisting, lists⟩ := s.lists_listTargets settings heverything
        exact .inr ⟨_, front, listing, hlisting, lists, standsBare (by decide) (by decide) _⟩

/-- **A machine's name is obeyed in the title**: it stands there bare, and there is a tag in it. -/
theorem obeys_title_of_bracketed_machine :
    let table := targetsTable "CPU targets for host [bold]box" [nativeTarget]
    .shown .out (.table table) ∈ (Session.onX86.listTargets { machine := some "[bold]box" }).events ∧
      Obeys table.title.toList ∧ table.title ≠ "CPU targets for host " ++ escapeMarkup "[bold]box" := by
  refine ⟨?_, ⟨"CPU targets for host ".toList, "bold]box".toList, rfl, rfl, rfl⟩, ?_⟩
  · decide +kernel
  · decide +kernel

end SnippetCost
